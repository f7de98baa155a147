import Mathlib.Data.List.Induction
import StaticBlog.Proofs.Html.Elements
import StaticBlog.Proofs.Text.Digits
import StaticBlog.Toc.Nested

/-!
# The nested table of contents

- `TocNode.outline` : the headings of nested ones in pre-order, each with its depth
- `TocNode.attach_cases` : the two places where a heading can be put
- `TocNode.outline_attach`, `TocNode.WellNested` : it comes last, and no heading is deeper than below a
  root of the second level
- `TocNode.depth_eq_zero_iff` : which headings of the third level are roots
- `TocNode.allPieces`, `TocNode.reads_renderNodes` : the markup of nested headings
- `TocNode.nested_contents_show_headings` : nesting keeps the headings, and the page of nested headings
  shows a link to each
-/

namespace StaticBlog
namespace TocNode

variable {e : TocEntry} {roots : List TocNode} {entries : List TocEntry}

/-! ## Pre-order -/

mutual

/-- A heading and those below it in pre-order, each with its depth. -/
def outlineNode (depth : Nat) : TocNode → List (Nat × TocEntry)
  | node e cs => (depth, e) :: outline (depth + 1) cs

/-- Nested headings in pre-order, each with its depth. -/
def outline (depth : Nat) : List TocNode → List (Nat × TocEntry)
  | [] => []
  | n :: ns => outlineNode depth n ++ outline depth ns

end

theorem outline_append (depth : Nat) (ms ns : List TocNode) :
    outline depth (ms ++ ns) = outline depth ms ++ outline depth ns := by
  induction ms with
  | nil => rfl
  | cons m ms ih => rw [List.cons_append, outline, outline, ih, List.append_assoc]

theorem outline_singleton (depth : Nat) (e : TocEntry) (cs : List TocNode) :
    outline depth [node e cs] = (depth, e) :: outline (depth + 1) cs := by
  rw [outline, outline, outlineNode, List.append_nil]

/-! ## Putting a heading into its place -/

/-- A heading goes below the last root if that takes it, and is a root behind the others if not. -/
theorem attach_cases (e : TocEntry) (roots : List TocNode) :
    (∃ front n, roots = front ++ [n] ∧ n.takes e.level = true ∧
      attach e roots = front ++ [node n.entry (n.children ++ [node e []])]) ∨
      ((∀ n, roots.getLast? = some n → n.takes e.level = false) ∧
        attach e roots = roots ++ [node e []]) := by
  fun_induction attach e roots with
  | case1 => exact Or.inr ⟨by simp, rfl⟩
  | case2 n htakes => exact Or.inl ⟨[], n, rfl, htakes, rfl⟩
  | case3 n htakes => exact Or.inr ⟨by simpa using htakes, rfl⟩
  | case4 n m rest ih =>
    -- The roots in front of the last one stay as they are.
    obtain ⟨front, k, hroots, htakes, heq⟩ | ⟨hlast, heq⟩ := ih
    · exact Or.inl ⟨n :: front, k, by rw [hroots, List.cons_append], htakes, by
        rw [heq, List.cons_append]⟩
    · refine Or.inr ⟨fun k hk => hlast k ?_, by rw [heq]; rfl⟩
      rwa [List.getLast?_cons_cons] at hk

theorem nest_concat (entries : List TocEntry) (e : TocEntry) :
    nest (entries ++ [e]) = attach e (nest entries) := by
  rw [nest, List.foldl_append]
  rfl

/-- It comes last in pre-order, below a root exactly if the last root takes it. -/
theorem outline_attach (e : TocEntry) (roots : List TocNode) :
    ∃ depth, outline 0 (attach e roots) = outline 0 roots ++ [(depth, e)] ∧
      (depth = 0 ↔ ∀ n, roots.getLast? = some n → n.takes e.level = false) := by
  obtain ⟨front, ⟨entry, children⟩, rfl, htakes, hattach⟩ | ⟨hlast, hattach⟩ := attach_cases e roots
  · refine ⟨1, ?_, ?_⟩
    · rw [hattach, outline_append, outline_append, outline_singleton, outline_singleton,
        TocNode.children, outline_append, outline_singleton, List.append_assoc]
      rfl
    · simpa using htakes
  · refine ⟨0, ?_, ?_⟩
    · rw [hattach, outline_append, outline_singleton]
      rfl
    · simpa using hlast

/-- Reading nested headings in pre-order gives back the headings. -/
theorem map_snd_outline_nest (entries : List TocEntry) :
    (outline 0 (nest entries)).map Prod.snd = entries := by
  induction entries using List.reverseRecOn with
  | nil => rfl
  | append_singleton entries e ih =>
    obtain ⟨depth, houtline, -⟩ := outline_attach e (nest entries)
    rw [nest_concat, houtline, List.map_append, ih]
    rfl

/-- What has been nested keeps its place when more headings follow. -/
theorem outline_nest_prefix (entries more : List TocEntry) :
    outline 0 (nest entries) <+: outline 0 (nest (entries ++ more)) := by
  induction more using List.reverseRecOn with
  | nil => simp
  | append_singleton more e ih =>
    obtain ⟨depth, houtline, -⟩ := outline_attach e (nest (entries ++ more))
    rw [← List.append_assoc, nest_concat, houtline]
    exact ih.trans (List.prefix_append _ _)

/-- No heading is deeper than below a root, only roots of the second level have others below them, and
these are of deeper levels. -/
def WellNested (roots : List TocNode) : Prop :=
  ∀ n ∈ roots, (n.children ≠ [] → n.entry.level = 2) ∧
    ∀ c ∈ n.children, c.children = [] ∧ 2 < c.entry.level

theorem wellNested_attach (h : WellNested roots) : WellNested (attach e roots) := by
  intro n hn
  obtain ⟨front, k, rfl, htakes, hattach⟩ | ⟨-, hattach⟩ := attach_cases e roots
  · rw [hattach] at hn
    obtain hn | hn := List.mem_append.1 hn
    · exact h n (List.mem_append_left _ hn)
    · have htakes : 2 < e.level ∧ k.entry.level = 2 := by simpa [takes] using htakes
      obtain rfl := List.mem_singleton.1 hn
      refine ⟨fun _ => htakes.2, fun c hc => ?_⟩
      -- Below the last root there are those that were there, and the new one.
      obtain hc | hc := List.mem_append.1 hc
      · exact (h k (by simp)).2 c hc
      · obtain rfl := List.mem_singleton.1 hc
        exact ⟨rfl, htakes.1⟩
  · rw [hattach] at hn
    obtain hn | hn := List.mem_append.1 hn
    · exact h n hn
    · obtain rfl := List.mem_singleton.1 hn
      exact ⟨fun hne => absurd rfl hne, fun c hc => absurd hc List.not_mem_nil⟩

theorem wellNested_nest (entries : List TocEntry) : WellNested (nest entries) := by
  induction entries using List.reverseRecOn with
  | nil => exact fun n hn => absurd hn List.not_mem_nil
  | append_singleton entries e ih =>
    rw [nest_concat]
    exact wellNested_attach ih

/-! ## Tables of two levels -/

/-- In a table of the second and the third level, the last root is of the second level as soon as one
heading is. -/
theorem level_of_last_iff (hlevels : ∀ x ∈ entries, x.level = 2 ∨ x.level = 3) :
    (∃ n, (nest entries).getLast? = some n ∧ n.entry.level = 2) ↔ ∃ x ∈ entries, x.level = 2 := by
  induction entries using List.reverseRecOn with
  | nil => simp [nest]
  | append_singleton entries e ih =>
    have ih := ih fun x hx => hlevels x (List.mem_append_left _ hx)
    rw [nest_concat]
    obtain ⟨front, k, hroots, htakes, hattach⟩ | ⟨hlast, hattach⟩ := attach_cases e (nest entries)
    · -- The last root is the one before, which is of the second level.
      have hsecond : k.entry.level = 2 := by simpa [takes] using (Bool.and_eq_true_iff.1 htakes).2
      have hthere : (nest entries).getLast? = some k := by rw [hroots, List.getLast?_concat]
      obtain ⟨x, hx, hlevel⟩ := ih.1 ⟨k, hthere, hsecond⟩
      have hlast : (attach e (nest entries)).getLast? =
          some (node k.entry (k.children ++ [node e []])) := by rw [hattach, List.getLast?_concat]
      exact iff_of_true ⟨_, hlast, hsecond⟩ ⟨x, List.mem_append_left _ hx, hlevel⟩
    · -- The heading is the last root itself.
      have hself : (∃ n, (attach e (nest entries)).getLast? = some n ∧ n.entry.level = 2) ↔
          e.level = 2 := by simp [hattach, TocNode.entry]
      rw [hself]
      constructor
      · exact fun hsecond => ⟨e, by simp, hsecond⟩
      · rintro ⟨x, hx, hlevel⟩
        obtain hx | hx := List.mem_append.1 hx
        · obtain ⟨n, hn, hsecond⟩ := ih.2 ⟨x, hx, hlevel⟩
          -- A heading of the third level would have gone below the last root.
          have hnot := hlast n hn
          obtain he | he := hlevels e (by simp)
          · exact he
          · simp [takes, he, hsecond] at hnot
        · rwa [← List.mem_singleton.1 hx]

/-- A heading of the third level is a root exactly if none of the second level precedes it. -/
theorem depth_eq_zero_iff {before after : List TocEntry}
    (hlevels : ∀ x ∈ before, x.level = 2 ∨ x.level = 3) (he : e.level = 3) :
    (outline 0 (nest (before ++ e :: after)))[before.length]? = some (0, e) ↔
      ∀ x ∈ before, x.level ≠ 2 := by
  obtain ⟨depth, houtline, hdepth⟩ := outline_attach e (nest before)
  obtain ⟨rest, hrest⟩ := outline_nest_prefix (before ++ [e]) after
  have hlength : (outline 0 (nest before)).length = before.length := by
    conv_rhs => rw [← map_snd_outline_nest before]
    rw [List.length_map]
  -- The heading comes right behind those in front of it.
  have hplace : (outline 0 (nest (before ++ e :: after)))[before.length]? = some (depth, e) := by
    rw [← List.singleton_append, ← List.append_assoc, ← hrest, nest_concat, houtline,
      List.append_assoc, ← hlength, List.getElem?_append_right (Nat.le_refl _), Nat.sub_self]
    rfl
  rw [hplace, Option.some.injEq, Prod.mk.injEq, and_iff_left rfl, hdepth]
  have hlast := level_of_last_iff hlevels
  constructor
  · intro hnone x hx hlevel
    obtain ⟨n, hn, hsecond⟩ := hlast.2 ⟨x, hx, hlevel⟩
    have hnot := hnone n hn
    simp [takes, he, hsecond] at hnot
  · intro hnone n hn
    have hsecond : n.entry.level ≠ 2 := by
      intro hsecond
      obtain ⟨x, hx, hlevel⟩ := hlast.1 ⟨n, hn, hsecond⟩
      exact hnone x hx hlevel
    simp [takes, hsecond]

/-! ## Markup -/

open Html

/-- The tag of the item for a heading. -/
def itemTag (e : TocEntry) : List Char :=
  "li class=\"toc-item toc-level-".toList ++ Text.digits e.level ++ ['"']

/-- The tag of the link to a heading. -/
def linkTag (e : TocEntry) : List Char :=
  "a class=\"toc-link\" href=\"#".toList ++ escapeChars e.id.toList ++ ['"']

/-- The link to a heading. -/
def linkPieces (e : TocEntry) : List Piece :=
  .tag (linkTag e) :: (Piece.ofText (escapeChars e.text.toList) ++ [.tag "/a".toList])

/-- A list of items in its element, if there are any. -/
def sublistPieces (items : List Piece) : List Piece :=
  if items = [] then [] else .tag "ol class=\"toc-child\"".toList :: (items ++ [.tag "/ol".toList])

mutual

/-- The item for a heading, with a list of those below it. -/
def nodePieces : TocNode → List Piece
  | node e cs =>
    .tag (itemTag e) :: (linkPieces e ++ sublistPieces (allPieces cs) ++ [.tag "/li".toList])

/-- The items for headings. -/
def allPieces : List TocNode → List Piece
  | [] => []
  | n :: ns => nodePieces n ++ allPieces ns

end

theorem allPieces_ne_nil (n : TocNode) (ns : List TocNode) : allPieces (n :: ns) ≠ [] := by
  cases n
  simp [allPieces, nodePieces]

/-- A link is read on its own, and so is the tag in front of it. -/
theorem reads_link (e : TocEntry) : Reads (link e) (.tag (itemTag e) :: linkPieces e) := by
  have hdigits : '>' ∉ Text.digits e.level := fun h =>
    absurd (Text.isDigit_of_mem_digits h) (by decide)
  have hid : '>' ∉ escapeChars e.id.toList := fun h =>
    notMem_markupChars_of_mem_escapeChars h (by decide)
  have htext : '<' ∉ escapeChars e.text.toList := fun h =>
    notMem_markupChars_of_mem_escapeChars h (by decide)
  have hitem : Reads ("<li class=\"toc-item toc-level-".toList ++ Text.digits e.level ++ "\">".toList)
      [.tag (itemTag e)] := .value [] [] hdigits (fun _ => rfl) (fun _ _ => rfl)
  have hlink : Reads ("<a class=\"toc-link\" href=\"#".toList ++ escapeChars e.id.toList ++
      "\">".toList) [.tag (linkTag e)] := .value [] [] hid (fun _ => rfl) (fun _ _ => rfl)
  have hclose : Reads "</a>".toList [.tag "/a".toList] := fun _ => rfl
  have hall := (hitem.append hlink).append (hclose.text htext rfl)
  have hchars : link e =
      "<li class=\"toc-item toc-level-".toList ++ Text.digits e.level ++ "\">".toList ++
        ("<a class=\"toc-link\" href=\"#".toList ++ escapeChars e.id.toList ++ "\">".toList) ++
        (escapeChars e.text.toList ++ "</a>".toList) := by
    have hsplit : "\"><a class=\"toc-link\" href=\"#".toList =
        "\">".toList ++ "<a class=\"toc-link\" href=\"#".toList := by simp
    unfold link
    rw [hsplit]
    simp only [List.append_assoc]
  rw [hchars]
  exact hall

mutual

/-- The items for headings are read on their own. -/
theorem reads_renderNode : ∀ n : TocNode, Reads (renderNode n) (nodePieces n)
  | node e [] => by
    have hclose : Reads "</li>".toList [.tag "/li".toList] := fun _ => rfl
    have hitem := (reads_link e).append hclose
    rw [renderNode, nodePieces, allPieces, sublistPieces, if_pos rfl, List.append_nil]
    exact hitem
  | node e (c :: cs) => by
    have hopen : Reads "<ol class=\"toc-child\">".toList [.tag "ol class=\"toc-child\"".toList] :=
      fun _ => rfl
    have hclose : Reads "</ol>".toList [.tag "/ol".toList] := fun _ => rfl
    have hend : Reads "</li>".toList [.tag "/li".toList] := fun _ => rfl
    have hbelow := (reads_renderNode c).append (reads_renderNodes cs)
    have hitem := ((reads_link e).append ((hopen.append hbelow).append hclose)).append hend
    rw [nodePieces, sublistPieces, if_neg (allPieces_ne_nil c cs), allPieces]
    have hchars : renderNode (node e (c :: cs)) = link e ++
        ("<ol class=\"toc-child\">".toList ++ (renderNode c ++ renderNodes cs) ++ "</ol>".toList) ++
          "</li>".toList := by
      rw [renderNode]
      simp only [List.append_assoc]
    rw [hchars]
    exact hitem

theorem reads_renderNodes : ∀ ns : List TocNode, Reads (renderNodes ns) (allPieces ns)
  | [] => fun _ => rfl
  | n :: ns => by
    rw [renderNodes, allPieces]
    exact (reads_renderNode n).append (reads_renderNodes ns)

end

theorem balanced_linkPieces (e : TocEntry) : Balanced (linkPieces e) :=
  .enclose rfl rfl (.ofText _)

mutual

/-- Each item is closed behind the link in it and the list of those below. -/
theorem balanced_nodePieces : ∀ n : TocNode, Balanced (nodePieces n)
  | node e cs => by
    have hsublist : Balanced (sublistPieces (allPieces cs)) := by
      unfold sublistPieces
      split
      · exact .nil
      · exact .enclose rfl rfl (balanced_allPieces cs)
    rw [nodePieces]
    exact .enclose rfl rfl ((balanced_linkPieces e).append hsublist)

theorem balanced_allPieces : ∀ ns : List TocNode, Balanced (allPieces ns)
  | [] => .nil
  | n :: ns => by
    rw [allPieces]
    exact (balanced_nodePieces n).append (balanced_allPieces ns)

end

/-- The link to a heading: what it refers to, and its text. -/
def linkOf (e : TocEntry) : List Char × List Char :=
  ('#' :: escapeChars e.id.toList, escapeChars e.text.toList)

/-- A link refers to the anchor of its heading, as no quote is in it. -/
theorem reference?_linkTag (e : TocEntry) :
    reference? (linkTag e) = some ('#' :: escapeChars e.id.toList) := by
  have hquote : ∀ c ∈ '#' :: escapeChars e.id.toList, c ≠ '"' := by
    intro c hc heq
    subst heq
    obtain hc | hc := List.mem_cons.1 hc
    · cases hc
    · exact notMem_markupChars_of_mem_escapeChars hc (by decide)
  have hvalue : (('#' :: escapeChars e.id.toList) ++ ['"']).takeWhile (· ≠ '"') =
      '#' :: escapeChars e.id.toList := by
    rw [List.takeWhile_append_of_pos (by simpa using hquote)]
    exact List.append_nil _
  have hname : tagName (linkTag e) = ['a'] := rfl
  have hbreak : Text.breakOn? " href=\"".toList (linkTag e) = some ("a class=\"toc-link\"".toList,
      ('#' :: escapeChars e.id.toList) ++ ['"']) := rfl
  rw [reference?, if_pos hname, hbreak, Option.map_some]
  exact congrArg some hvalue

theorem holdsLinks_linkPieces (e : TocEntry) : HoldsLinks (linkPieces e) [linkOf e] :=
  .link (reference?_linkTag e) _

theorem holdsLinks_sublistPieces {items : List Piece} {found : List (List Char × List Char)}
    (h : HoldsLinks items found) : HoldsLinks (sublistPieces items) found := by
  unfold sublistPieces
  split
  · next hnil =>
    subst hnil
    exact h
  · have hopen : HoldsLinks [.tag "ol class=\"toc-child\"".toList] [] := .tag rfl
    have hclose : HoldsLinks [.tag "/ol".toList] [] := .tag rfl
    have hlist := hopen.append (h.append hclose)
    rwa [List.append_nil] at hlist

mutual

/-- The links in the items for headings are those to the headings in pre-order. -/
theorem holdsLinks_nodePieces (depth : Nat) : ∀ n : TocNode,
    HoldsLinks (nodePieces n) ((outlineNode depth n).map fun x => linkOf x.2)
  | node e cs => by
    have hopen : HoldsLinks [.tag (itemTag e)] [] := .tag rfl
    have hclose : HoldsLinks [.tag "/li".toList] [] := .tag rfl
    have hbelow := holdsLinks_sublistPieces (holdsLinks_allPieces (depth + 1) cs)
    have hitem := hopen.append (((holdsLinks_linkPieces e).append hbelow).append hclose)
    rw [List.append_nil] at hitem
    rw [nodePieces, outlineNode, List.map_cons]
    exact hitem

theorem holdsLinks_allPieces (depth : Nat) : ∀ ns : List TocNode,
    HoldsLinks (allPieces ns) ((outline depth ns).map fun x => linkOf x.2)
  | [] => .nil
  | n :: ns => by
    rw [allPieces, outline, List.map_append]
    exact (holdsLinks_nodePieces depth n).append (holdsLinks_allPieces depth ns)

end

/-- The pieces of the page for nested headings. -/
theorem pieces_renderAll (hne : roots ≠ []) : pieces (renderAll roots).toList =
    .tag "ol class=\"toc\"".toList :: (allPieces roots ++ [.tag "/ol".toList]) := by
  have hopen : Reads "<ol class=\"toc\">".toList [.tag "ol class=\"toc\"".toList] := fun _ => rfl
  have hclose : Reads "</ol>".toList [.tag "/ol".toList] := fun _ => rfl
  have hlist := ((hopen.append (reads_renderNodes roots)).append hclose).pieces_eq
  rw [renderAll, if_neg (by simpa using hne), String.toList_ofList]
  exact hlist

/-- The markup of nested headings is that of the headings: its elements are closed, and its links are
those to the headings in pre-order. -/
theorem balanced_and_links_renderAll (roots : List TocNode) :
    Balanced (pieces (renderAll roots).toList) ∧
      links (pieces (renderAll roots).toList) = (outline 0 roots).map fun x => linkOf x.2 := by
  by_cases hroots : roots = []
  · subst hroots
    exact ⟨.nil, rfl⟩
  · rw [pieces_renderAll hroots]
    refine ⟨.enclose rfl rfl (balanced_allPieces roots), ?_⟩
    have hopen : HoldsLinks [.tag "ol class=\"toc\"".toList] [] := .tag rfl
    have hclose : HoldsLinks [.tag "/ol".toList] [] := .tag rfl
    have hlist := hopen.append ((holdsLinks_allPieces 0 roots).append hclose)
    rw [List.append_nil] at hlist
    exact hlist.links_eq

/-- Undoing the escapes in a link gives back the anchor and the text of its heading. -/
theorem unescape_linkOf (e : TocEntry) :
    (unescapeChars (linkOf e).1, unescapeChars (linkOf e).2) = ('#' :: e.id.toList, e.text.toList) := by
  rw [linkOf, unescapeChars_cons_of_ne (by decide), unescapeChars_escapeChars,
    unescapeChars_escapeChars]

/-- Nesting keeps the headings of a page: in pre-order they are what they were. No heading is deeper than
below a root, and only roots of the second level have others below them, of deeper levels. In a table of
the second and the third level, a heading of the third is a root exactly if none of the second precedes
it. The page of the nested headings, empty if there are none, closes its elements, and its links are one
to the anchor of each heading in order, with the text of the heading. -/
theorem nested_contents_show_headings (entries : List TocEntry) :
    (outline 0 (nest entries)).map Prod.snd = entries ∧
      WellNested (nest entries) ∧
      (∀ before e after, entries = before ++ e :: after →
        (∀ x ∈ entries, x.level = 2 ∨ x.level = 3) → e.level = 3 →
          ((outline 0 (nest entries))[before.length]? = some (0, e) ↔ ∀ x ∈ before, x.level ≠ 2)) ∧
      (renderAll (nest entries) = "" ↔ entries = []) ∧
      Balanced (pieces (renderAll (nest entries)).toList) ∧
      (links (pieces (renderAll (nest entries)).toList)).map
          (fun l => (unescapeChars l.1, unescapeChars l.2)) =
        entries.map fun e => ('#' :: e.id.toList, e.text.toList) := by
  obtain ⟨hbalanced, hlinks⟩ := balanced_and_links_renderAll (nest entries)
  have hentries := map_snd_outline_nest entries
  refine ⟨hentries, wellNested_nest entries, ?_, ?_, hbalanced, ?_⟩
  · rintro before e after rfl hlevels he
    exact depth_eq_zero_iff (fun x hx => hlevels x (List.mem_append_left _ hx)) he
  · constructor
    · intro hempty
      -- A page with a heading on it begins with a tag.
      by_contra hne
      have hroots : nest entries ≠ [] := by
        intro hnil
        rw [hnil] at hentries
        exact hne hentries.symm
      have hpieces := pieces_renderAll hroots
      rw [hempty] at hpieces
      cases hpieces
    · rintro rfl
      rfl
  · calc (links (pieces (renderAll (nest entries)).toList)).map
          (fun l => (unescapeChars l.1, unescapeChars l.2))
        = (outline 0 (nest entries)).map fun x => ('#' :: x.2.id.toList, x.2.text.toList) := by
          rw [hlinks, List.map_map]
          exact List.map_congr_left fun x _ => unescape_linkOf x.2
      _ = ((outline 0 (nest entries)).map Prod.snd).map
            fun e => ('#' :: e.id.toList, e.text.toList) := by rw [List.map_map]; rfl
      _ = entries.map fun e => ('#' :: e.id.toList, e.text.toList) := by rw [hentries]

/-- A heading of the third level in front of all of the second is a root, another one is not. -/
theorem orphan_is_root_and_part_is_not :
    let entries : List TocEntry := [⟨3, "Orphan", "orphan"⟩, ⟨2, "Tom & Jerry", "tom-jerry"⟩,
      ⟨3, "Part 1", "part-1"⟩]
    (∀ x ∈ entries, x.level = 2 ∨ x.level = 3) ∧
      (outline 0 (nest entries))[0]? = some (0, ⟨3, "Orphan", "orphan"⟩) ∧
      (outline 0 (nest entries))[2]? ≠ some (0, ⟨3, "Part 1", "part-1"⟩) ∧
      (links (pieces (renderAll (nest entries)).toList)).map
          (fun l => (unescapeChars l.1, unescapeChars l.2)) =
        [("#orphan".toList, "Orphan".toList), ("#tom-jerry".toList, "Tom & Jerry".toList),
          ("#part-1".toList, "Part 1".toList)] := by
  intro entries
  obtain ⟨-, -, hplace, -, -, hlinks⟩ := nested_contents_show_headings entries
  have hlevels : ∀ x ∈ entries, x.level = 2 ∨ x.level = 3 := by decide
  refine ⟨hlevels, ?_, ?_, hlinks⟩
  · exact (hplace [] _ _ rfl hlevels rfl).2 fun x hx => absurd hx List.not_mem_nil
  · intro hroot
    have hnone := (hplace [_, ⟨2, "Tom & Jerry", "tom-jerry"⟩] _ [] rfl hlevels rfl).1 hroot
    exact hnone ⟨2, "Tom & Jerry", "tom-jerry"⟩ (by simp) rfl

end TocNode
end StaticBlog
