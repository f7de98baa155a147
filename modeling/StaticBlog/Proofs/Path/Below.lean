import StaticBlog.Path
import StaticBlog.Proofs.Text.Pieces

/-!
# Paths below a path

- `Path.IsName` : what can be the name of a file or directory
- `Path.down` : the path that names lead to from a path
- `Path.components_join`, `Path.components_down` : the components of such a path
- `Path.parent?_join`, `Path.parent?_down` : the path above a name
- `Path.components_parent?_prefix` : the path above any other one
-/

namespace StaticBlog
namespace Path

/-- What can be the name of a file or directory. -/
structure IsName (n : String) : Prop where
  nonempty : n ≠ ""
  ne_here : n ≠ "."
  ne_up : n ≠ ".."
  no_slash : '/' ∉ n.toList

instance (n : String) : Decidable (IsName n) :=
  decidable_of_iff (n ≠ "" ∧ n ≠ "." ∧ n ≠ ".." ∧ '/' ∉ n.toList)
    ⟨fun h => ⟨h.1, h.2.1, h.2.2.1, h.2.2.2⟩,
      fun h => ⟨h.nonempty, h.ne_here, h.ne_up, h.no_slash⟩⟩

theorem isName_ofList {w : List Char} (hslash : '/' ∉ w) (hne : w ≠ []) (hhere : w ≠ ['.'])
    (hup : w ≠ ['.', '.']) : IsName (String.ofList w) := by
  refine ⟨?_, ?_, ?_, by simpa using hslash⟩
  · exact fun h => hne (by simpa using congrArg String.toList h)
  · exact fun h => hhere (by simpa using congrArg String.toList h)
  · exact fun h => hup (by simpa using congrArg String.toList h)

/-- The path that names lead to from a path. -/
def down (p : Path) (names : List String) : Path := names.foldl join p

/-! ## Components -/

theorem pieceSteps_of_isName {n : String} (h : IsName n) : pieceSteps n.toList = [.name n] := by
  have hne : n.toList ≠ [] := by simpa using h.nonempty
  have hhere : n.toList ≠ ['.'] := fun heq => h.ne_here (String.toList_injective heq)
  have hup : n.toList ≠ ['.', '.'] := fun heq => h.ne_up (String.toList_injective heq)
  simp [pieceSteps, hne, hhere, hup]

theorem isSlash_eq_false {w : List Char} (hw : '/' ∉ w) : ∀ c ∈ w, isSlash c = false := by
  intro c hc
  have hne : c ≠ '/' := fun heq => hw (heq ▸ hc)
  simp [isSlash, hne]

theorem splitWhere_isSlash_eq_nil_iff {s : List Char} :
    Text.splitWhere isSlash s = [[]] ↔ s = [] := by
  constructor
  · intro h
    cases s with
    | nil => rfl
    | cons c s =>
      rw [Text.splitWhere] at h
      cases hc : isSlash c with
      | true =>
        rw [if_pos hc] at h
        have hrest : Text.splitWhere isSlash s = [] := by simpa using h
        exact absurd hrest (Text.splitWhere_ne_nil isSlash s)
      | false =>
        rw [if_neg (by simp [hc])] at h
        split at h <;> simp at h
  · rintro rfl
    rfl

/-- A piece behind a slash adds its steps. -/
theorem componentsOf_append_slash {s w : List Char} (hs : s ≠ []) (hw : '/' ∉ w) :
    componentsOf (s ++ '/' :: w) = componentsOf s ++ pieceSteps w := by
  have hpieces : Text.splitWhere isSlash (s ++ '/' :: w) = Text.splitWhere isSlash s ++ [w] := by
    rw [Text.splitWhere_append s w rfl, Text.splitWhere_eq_singleton (isSlash_eq_false hw)]
  have hne : Text.splitWhere isSlash s ≠ [[]] := mt splitWhere_isSlash_eq_nil_iff.1 hs
  unfold componentsOf
  rw [hpieces]
  -- Only the first piece may mean more than its own step: the root, or the directory itself.
  cases hsplit : Text.splitWhere isSlash s with
  | nil => exact absurd hsplit (Text.splitWhere_ne_nil isSlash s)
  | cons v vs =>
    rw [hsplit] at hne
    cases vs with
    | nil =>
      have hv : v ≠ [] := fun h => hne (by rw [h])
      by_cases hdot : v = ['.']
      · subst hdot
        simp
      · cases v with
        | nil => exact absurd rfl hv
        | cons c cs => simp [hdot]
    | cons u us =>
      cases v with
      | nil => simp
      | cons c cs =>
        by_cases hdot : c :: cs = ['.']
        · rw [hdot]
          simp
        · simp [hdot]

/-- A slash at the front stands for the root. -/
theorem componentsOf_slash {w : List Char} (hw : '/' ∉ w) :
    componentsOf ('/' :: w) = .root :: pieceSteps w := by
  have hpieces : Text.splitWhere isSlash ('/' :: w) = [[], w] := by
    have happend := Text.splitWhere_append (p := isSlash) [] (b := '/') w rfl
    rw [List.nil_append] at happend
    rw [happend, Text.splitWhere_eq_singleton (isSlash_eq_false hw)]
    rfl
  simp [componentsOf, hpieces, pieceSteps]

/-- A slash at the end of a text stands for nothing. -/
theorem componentsOf_slash_end {s : List Char} (hs : s ≠ []) :
    componentsOf (s ++ ['/']) = componentsOf s := by
  rw [componentsOf_append_slash hs (by simp)]
  simp [pieceSteps]

/-! ## Names behind a path -/

/-- What stands before a name that is joined to a text. -/
def frontOf (s : List Char) : List Char :=
  if s.isEmpty || s.getLast? = some '/' then s else s ++ ['/']

theorem frontOf_cases (s : List Char) : frontOf s = [] ∨ ∃ t, frontOf s = t ++ ['/'] := by
  by_cases hs : s = []
  · exact Or.inl (by simp [frontOf, hs])
  · right
    by_cases hlast : s.getLast? = some '/'
    · rcases List.getLast?_eq_some_iff.1 hlast with ⟨t, rfl⟩
      exact ⟨t, by simp [frontOf]⟩
    · exact ⟨s, by simp [frontOf, hs, hlast]⟩

theorem componentsOf_frontOf (s : List Char) : componentsOf (frontOf s) = componentsOf s := by
  by_cases hfront : (s.isEmpty || s.getLast? = some '/') = true
  · simp [frontOf, hfront]
  · have hs : s ≠ [] := by
      rintro rfl
      simp at hfront
    rw [frontOf, if_neg hfront, componentsOf_slash_end hs]

theorem toList_join (p : Path) {n : String} (hn : IsName n) :
    (p.join n).text.toList = frontOf p.text.toList ++ n.toList := by
  have hhead : ∀ t, n.toList ≠ '/' :: t := by
    intro t heq
    exact hn.no_slash (by simp [heq])
  have hjoin : joinChars p.text.toList n.toList = frontOf p.text.toList ++ n.toList := by
    unfold joinChars
    split
    · next t heq => exact absurd heq (hhead t)
    · by_cases hfront : (p.text.toList.isEmpty || p.text.toList.getLast? = some '/') = true
      · simp only [frontOf, hfront, if_true]
      · simp only [frontOf, if_neg hfront]
        simp
  simp [join, ofChars, hjoin]

/-- A name adds itself to the components of a path. -/
theorem components_join (p : Path) {n : String} (hn : IsName n) :
    (p.join n).components = p.components ++ [.name n] := by
  have hsteps := pieceSteps_of_isName hn
  rw [components, components, toList_join p hn, ← componentsOf_frontOf p.text.toList, ← hsteps]
  rcases frontOf_cases p.text.toList with hfront | ⟨t, hfront⟩
  -- Without a path in front the name is the whole text.
  · have hne : n.toList ≠ [] := by simpa using hn.nonempty
    have hpieces := Text.splitWhere_eq_singleton (isSlash_eq_false hn.no_slash)
    have hdot : n.toList ≠ ['.'] := fun heq => hn.ne_here (String.toList_injective heq)
    rw [hfront, List.nil_append, componentsOf, hpieces]
    simp [componentsOf, Text.splitWhere, pieceSteps, hne, hdot]
  · rw [hfront, List.append_assoc, List.singleton_append]
    -- In front of the name stands a slash, which may be the root.
    by_cases ht : t = []
    · subst ht
      rw [List.nil_append, List.nil_append, componentsOf_slash hn.no_slash,
        componentsOf_slash (by simp)]
      simp [pieceSteps]
    · rw [componentsOf_append_slash ht hn.no_slash, componentsOf_slash_end ht]

theorem components_down (p : Path) {names : List String} (hnames : ∀ n ∈ names, IsName n) :
    (p.down names).components = p.components ++ names.map .name := by
  induction names generalizing p with
  | nil => simp [down]
  | cons n names ih =>
    have hrest := ih (p.join n) fun m hm => hnames m (List.mem_cons_of_mem n hm)
    rw [down, List.foldl_cons]
    rw [down] at hrest
    rw [hrest, components_join p (hnames n List.mem_cons_self)]
    simp

/-- Names lead from a path to different places. -/
theorem down_injective {p : Path} {ms ns : List String} (hms : ∀ n ∈ ms, IsName n)
    (hns : ∀ n ∈ ns, IsName n) (h : p.down ms = p.down ns) : ms = ns := by
  have hcomponents := congrArg components h
  rw [components_down p hms, components_down p hns] at hcomponents
  exact (List.map_inj_right fun _ _ => Component.name.inj).1 (List.append_cancel_left hcomponents)

theorem down_cons (p : Path) (n : String) (ns : List String) :
    p.down (n :: ns) = (p.join n).down ns := List.foldl_cons ..

theorem down_append (p : Path) (ms ns : List String) : p.down (ms ++ ns) = (p.down ms).down ns :=
  List.foldl_append

theorem down_concat (p : Path) (ns : List String) (n : String) :
    p.down (ns ++ [n]) = (p.down ns).join n := down_append p ns [n]

/-- A name in a path is a piece of it between two slashes. -/
theorem exists_piece_of_mem_components {p : Path} {n : String} : .name n ∈ p.components →
    n.toList ∈ Text.splitWhere isSlash p.text.toList ∧ .name n ∈ pieceSteps n.toList := by
  have hpiece : ∀ w, .name n ∈ pieceSteps w → n.toList = w := by
    intro w hmem
    unfold pieceSteps at hmem
    split at hmem
    · simp at hmem
    · split at hmem
      · simp at hmem
      · have hn : n = String.ofList w := by simpa using hmem
        rw [hn, String.toList_ofList]
  -- Neither the root nor a dot at the front is a name, so the name comes from one of the pieces.
  have hmem_pieces : ∀ pieces : List (List Char), Component.name n ∈ pieces.flatMap pieceSteps →
      n.toList ∈ pieces ∧ .name n ∈ pieceSteps n.toList := by
    intro pieces hmem
    rcases List.mem_flatMap.1 hmem with ⟨w, hw, hn⟩
    rw [hpiece w hn]
    exact ⟨hw, hn⟩
  intro hmem
  unfold components componentsOf at hmem
  simp only at hmem
  split at hmem
  · exact hmem_pieces _ (by simpa using hmem)
  · next rest hsplit =>
    rw [hsplit]
    have hrest := hmem_pieces rest (by simpa using hmem)
    exact ⟨List.mem_cons_of_mem _ hrest.1, hrest.2⟩
  · exact hmem_pieces _ hmem

/-- A path with names behind it holds all of its text. -/
theorem mem_text_down {p : Path} {names : List String} (hnames : ∀ n ∈ names, IsName n) :
    ∀ c ∈ p.text.toList, c ∈ (p.down names).text.toList := by
  intro c hc
  induction names generalizing p with
  | nil => exact hc
  | cons n names ih =>
    refine ih (p := p.join n) (fun m hm => hnames m (List.mem_cons_of_mem n hm)) ?_
    rw [toList_join p (hnames n List.mem_cons_self), frontOf]
    split <;> simp [hc]

/-- The names in a path can be names of files. -/
theorem isName_of_mem_components {p : Path} {n : String} : .name n ∈ p.components → IsName n := by
  intro hmem
  rcases exists_piece_of_mem_components hmem with ⟨hw, hstep⟩
  have hslash : '/' ∉ n.toList := Text.not_mem_of_mem_splitWhere rfl hw
  refine ⟨?_, ?_, ?_, hslash⟩ <;> rintro rfl
  · simp [pieceSteps] at hstep
  · simp [pieceSteps] at hstep
  · simp [pieceSteps] at hstep

/-- The names in a path hold nothing else than its text. -/
theorem mem_text_of_mem_components {p : Path} {n : String} (hn : .name n ∈ p.components) :
    ∀ c ∈ n.toList, c ∈ p.text.toList := by
  intro c hc
  exact (Text.mem_and_eq_false_of_mem_splitWhere (exists_piece_of_mem_components hn).1 hc).1

/-! ## Endings -/

theorem frontOf_reverse_cases (s : List Char) :
    (frontOf s).reverse = [] ∨ ∃ t, (frontOf s).reverse = '/' :: t := by
  rcases frontOf_cases s with hfront | ⟨t, hfront⟩
  · exact Or.inl (by simp [hfront])
  · exact Or.inr ⟨t.reverse, by simp [hfront]⟩

theorem lastPiece_join (p : Path) {n : String} (hn : IsName n) :
    (p.join n).lastPiece = n.toList := by
  have hslash : ∀ c ∈ n.toList.reverse, isSlash c = false := fun c hc =>
    isSlash_eq_false hn.no_slash c (List.mem_reverse.1 hc)
  have hne : n.toList.reverse ≠ [] := by simpa using hn.nonempty
  rw [lastPiece, toList_join p hn, List.reverse_append]
  -- From the end the name is read up to the slash in front of it.
  have hdrop : (n.toList.reverse ++ (frontOf p.text.toList).reverse).dropWhile isSlash =
      n.toList.reverse ++ (frontOf p.text.toList).reverse := by
    cases hrev : n.toList.reverse with
    | nil => exact absurd hrev hne
    | cons c cs =>
      have hc : isSlash c = false := hslash c (by simp [hrev])
      simp [hc]
  have htake : (n.toList.reverse ++ (frontOf p.text.toList).reverse).takeWhile (!isSlash ·) =
      n.toList.reverse := by
    rw [List.takeWhile_append_of_pos fun c hc => by simp [hslash c hc]]
    rcases frontOf_reverse_cases p.text.toList with hfront | ⟨t, hfront⟩
    · simp [hfront]
    · simp [hfront, isSlash]
  rw [hdrop, htake, List.reverse_reverse]

theorem endsInDot_join (p : Path) {n : String} (hn : IsName n) : (p.join n).endsInDot = false := by
  have hne : n.toList ≠ ['.'] := fun heq => hn.ne_here (String.toList_injective heq)
  simp [endsInDot, lastPiece_join p hn, hne]

theorem endsInSlash_join (p : Path) {n : String} (hn : IsName n) :
    (p.join n).endsInSlash = false := by
  rw [endsInSlash, toList_join p hn]
  refine decide_eq_false fun h => ?_
  rcases List.getLast?_eq_some_iff.1 h with ⟨t, ht⟩
  have hmem : '/' ∈ n.toList := by
    have hne : n.toList ≠ [] := by simpa using hn.nonempty
    have hlast := congrArg List.getLast? ht
    rw [List.getLast?_append, List.getLast?_eq_some_getLast hne] at hlast
    have heq : n.toList.getLast hne = '/' := by simpa using hlast
    exact heq ▸ List.getLast_mem hne
  exact hn.no_slash hmem

theorem endsInSlash_down (p : Path) {names : List String} (hnames : ∀ n ∈ names, IsName n)
    (hne : names ≠ []) : (p.down names).endsInSlash = false := by
  rcases List.eq_nil_or_concat names with heq | ⟨front, n, heq⟩
  · exact absurd heq hne
  · rw [List.concat_eq_append] at heq
    rw [heq, down_concat]
    exact endsInSlash_join _ (hnames n (by simp [heq]))

/-! ## The path above a name -/

/-- A text without slashes and dots at its end stays as it is. -/
theorem dropTrailing_join (p : Path) {n : String} (hn : IsName n) :
    dropTrailing (p.join n).text.toList = (p.join n).text.toList := by
  rw [dropTrailing, toList_join p hn, List.reverse_append]
  -- The text is read from its end, where the name stands, which is no dot.
  have hgo : ∀ front, (front = [] ∨ ∃ t, front = '/' :: t) →
      dropTrailing.go (n.toList.reverse ++ front) = (n.toList.reverse ++ front).reverse := by
    intro front hfront
    cases hrev : n.toList.reverse with
    | nil => exact absurd (by simpa using hrev) hn.nonempty
    | cons c cs =>
      have hnslash : ∀ c' ∈ c :: cs, c' ≠ '/' := by
        intro c' hc' heq
        refine hn.no_slash ?_
        rw [← List.mem_reverse, hrev, ← heq]
        exact hc'
      have hc : c ≠ '/' := hnslash c List.mem_cons_self
      rw [List.cons_append]
      cases cs with
      | nil =>
        have hdot : c ≠ '.' := by
          intro heq
          have hn' : n.toList = ['.'] := by
            rw [← List.reverse_reverse n.toList, hrev, heq]
            rfl
          exact hn.ne_here (String.toList_injective hn')
        unfold dropTrailing.go
        split <;> simp_all
      | cons c' cs =>
        have hc' : c' ≠ '/' := hnslash c' (by simp)
        unfold dropTrailing.go
        split <;> simp_all
  have hfront := hgo _ (frontOf_reverse_cases p.text.toList)
  rw [hfront]
  simp

/-- On the reversed text, slashes and dots are dropped one after the other. -/
theorem componentsOf_go (r : List Char) :
    componentsOf (dropTrailing.go r) = componentsOf r.reverse := by
  induction r using dropTrailing.go.induct with
  | case1 => simp [dropTrailing.go]
  | case2 r hr ih =>
    have hne : r.reverse ≠ [] := by simpa using hr
    have hstep : dropTrailing.go ('/' :: r) = dropTrailing.go r := dropTrailing.go.eq_2 r hr
    rw [hstep, ih, List.reverse_cons, componentsOf_slash_end hne]
  | case3 r ih =>
    have hstep : dropTrailing.go ('.' :: '/' :: r) = dropTrailing.go ('/' :: r) :=
      dropTrailing.go.eq_3 r
    rw [hstep, ih]
    -- A dot between slashes is no component.
    by_cases hr : r.reverse = []
    · simp only [List.reverse_cons, hr, List.nil_append]
      rfl
    · have hdot : ('.' :: '/' :: r).reverse = r.reverse ++ '/' :: ['.'] := by simp
      rw [hdot, componentsOf_append_slash hr (by decide), List.reverse_cons,
        componentsOf_slash_end hr]
      simp [pieceSteps]
  | case4 r h1 h2 h3 =>
    have hstep : dropTrailing.go r = r.reverse := by
      unfold dropTrailing.go
      split <;> simp_all
    rw [hstep]

/-- Slashes and dots at the end of a text stand for nothing. -/
theorem componentsOf_dropTrailing (s : List Char) :
    componentsOf (dropTrailing s) = componentsOf s := by
  rw [dropTrailing, componentsOf_go, List.reverse_reverse]

theorem toList_join_ne (p : Path) {n : String} (hn : IsName n) :
    (p.join n).text.toList ≠ [] ∧ (p.join n).text.toList.getLast? ≠ some '/' := by
  constructor
  · have hne : n.toList ≠ [] := by simpa using hn.nonempty
    rw [toList_join p hn]
    simp [hne]
  · have hslash := endsInSlash_join p hn
    simpa [endsInSlash] using hslash

/-- Above a name stands the path that it was joined to, perhaps in another spelling. -/
theorem parent?_join (p : Path) {n : String} (hn : IsName n) :
    ∃ q, (p.join n).parent? = some q ∧ q.components = p.components ∧
      ∀ (p₀ : Path) (m : String), IsName m → p = p₀.join m → q = p := by
  have hne := toList_join_ne p hn
  -- Up to the last slash the text is what stood before the name.
  have hfront : ((p.join n).text.toList.reverse.dropWhile (!isSlash ·)).reverse =
      frontOf p.text.toList := by
    have hslash : ∀ c ∈ n.toList.reverse, (!isSlash c) = true := fun c hc => by
      simp [isSlash_eq_false hn.no_slash c (List.mem_reverse.1 hc)]
    rw [toList_join p hn, List.reverse_append, List.dropWhile_append_of_pos hslash]
    rcases frontOf_reverse_cases p.text.toList with hrev | ⟨t, hrev⟩
    · rw [hrev]
      simpa using hrev
    · rw [hrev, List.dropWhile_cons_of_neg (by simp [isSlash]), ← hrev, List.reverse_reverse]
  refine ⟨ofChars (dropTrailing (frontOf p.text.toList)), ?_, ?_, ?_⟩
  · have hroot : (p.join n).text.toList ≠ ['/'] := fun h => hne.2 (by simp [h])
    rw [parent?, dropTrailing_join p hn, hfront]
    simp [hne.1, hroot]
  · have hcomponents := componentsOf_dropTrailing (frontOf p.text.toList)
    rw [componentsOf_frontOf] at hcomponents
    simpa [components, ofChars] using hcomponents
  · rintro p₀ m hm rfl
    -- A path that ends in a name has one slash behind it, which is dropped again.
    have hne₀ := toList_join_ne p₀ hm
    have hfront₀ : frontOf (p₀.join m).text.toList = (p₀.join m).text.toList ++ ['/'] := by
      simp [frontOf, hne₀.1, hne₀.2]
    have hdrop : dropTrailing ((p₀.join m).text.toList ++ ['/']) = (p₀.join m).text.toList := by
      have hstep := dropTrailing_join p₀ hm
      rw [dropTrailing] at hstep ⊢
      rw [List.reverse_append, List.reverse_singleton, List.singleton_append,
        dropTrailing.go.eq_2 _ (by simpa using hne₀.1)]
      exact hstep
    rw [hfront₀, hdrop]
    simp [ofChars]

/-- The path above another one has some of its components. -/
theorem components_parent?_prefix {p q : Path} :
    p.parent? = some q → q.components <+: p.components := by
  intro h
  rw [parent?] at h
  split at h
  · cases h
  · cases h
    -- Up to the last slash stands the path above, and behind it a piece without slashes.
    generalize hs : dropTrailing p.text.toList = s
    have hp : p.components = componentsOf s := by
      rw [components, ← hs, componentsOf_dropTrailing]
    have hq : ∀ front, (ofChars (dropTrailing front)).components = componentsOf front := by
      intro front
      rw [components, ofChars, String.toList_ofList, componentsOf_dropTrailing]
    have htext : s = (s.reverse.dropWhile (!isSlash ·)).reverse ++
        (s.reverse.takeWhile (!isSlash ·)).reverse := by
      rw [← List.reverse_append, List.takeWhile_append_dropWhile, List.reverse_reverse]
    have hpiece : '/' ∉ (s.reverse.takeWhile (!isSlash ·)).reverse := by
      intro hslash
      have hnot := List.all_eq_true.1 List.all_takeWhile _ (List.mem_reverse.1 hslash)
      simp [isSlash] at hnot
    rw [hp, hq]
    rcases hdrop : s.reverse.dropWhile (!isSlash ·) with _ | ⟨c, t⟩
    · exact List.nil_prefix
    · have hc : c = '/' := by
        have hnot := List.head?_dropWhile_not (!isSlash ·) s.reverse
        rw [hdrop] at hnot
        simpa [isSlash] using hnot
      rw [hdrop, List.reverse_cons, hc] at htext
      rw [List.reverse_cons, hc]
      by_cases ht : t.reverse = []
      · rw [ht, List.nil_append, List.singleton_append] at htext
        rw [ht, List.nil_append, htext, componentsOf_slash hpiece, componentsOf_slash (by simp)]
        simp [pieceSteps]
      · rw [List.append_assoc, List.singleton_append] at htext
        rw [htext, componentsOf_append_slash ht hpiece, componentsOf_slash_end ht]
        exact List.prefix_append _ _

/-- Above the last of some names stands the path that the others lead to. -/
theorem parent?_down (p : Path) {ns : List String} {n : String} (hns : ∀ m ∈ ns, IsName m)
    (hn : IsName n) :
    ∃ q, (p.down (ns ++ [n])).parent? = some q ∧ q.components = p.components ++ ns.map .name ∧
      (ns ≠ [] → q = p.down ns) := by
  rcases parent?_join (p.down ns) hn with ⟨q, hparent, hcomponents, hsame⟩
  refine ⟨q, by rw [down_concat, hparent], by rw [hcomponents, components_down p hns], ?_⟩
  intro hne
  rcases List.eq_nil_or_concat ns with heq | ⟨front, m, heq⟩
  · exact absurd heq hne
  · rw [List.concat_eq_append] at heq
    refine hsame (p.down front) m (hns m (by simp [heq])) ?_
    rw [heq, down_concat]

end Path
end StaticBlog
