import Mathlib.Data.List.Nodup
import Mathlib.Data.List.Perm.Subperm
import StaticBlog.Proofs.Text.Digits
import StaticBlog.Proofs.Text.Pieces
import StaticBlog.Toc.Anchor

/-!
# The anchors of a page

- `IsAnchorSafe` : the characters that an anchor is made of
- `headingAnchor_trim` : blanks around a text do not change the anchor that it suggests
- `TocBuilder.Finds` : the search for a free name, with no bound on its tries
- `TocBuilder.finds_firstFree` : the search ends, and its bound is never met
- `TocBuilder.Assigns` : which anchor a heading gets
- `TocBuilder.anchors_are_distinct_and_safe` : what holds of the anchors of all headings of a page
-/

namespace StaticBlog

variable {c : Char} {s : List Char}

/-! ## Anchors from text -/

/-- Small letters and digits of ASCII, the low line, the dash, and the ideographs of the basic
block. -/
def IsAnchorSafe (c : Char) : Prop :=
  ('a' ≤ c ∧ c ≤ 'z') ∨ ('0' ≤ c ∧ c ≤ '9') ∨ c = '_' ∨ c = '-' ∨
    (0x4E00 ≤ c.toNat ∧ c.toNat ≤ 0x9FFF)

theorem isAnchorSafe_of_isAnchorChar (h : isAnchorChar c = true) : IsAnchorSafe c := by
  simp only [isAnchorChar, isIdeograph, Bool.or_eq_true, Bool.and_eq_true, decide_eq_true_eq] at h
  rcases h with ((hletter | hdigit) | hline) | hideograph
  · exact Or.inl hletter
  · exact Or.inr (Or.inl hdigit)
  · exact Or.inr (Or.inr (Or.inl hline))
  · exact Or.inr (Or.inr (Or.inr (Or.inr hideograph)))

theorem isAnchorSafe_dash : IsAnchorSafe '-' := Or.inr (Or.inr (Or.inr (Or.inl rfl)))

theorem isAnchorSafe_of_isDigit (h : c.isDigit = true) : IsAnchorSafe c := by
  have hrange : 48 ≤ c.val ∧ c.val ≤ 57 := by simpa [Char.isDigit] using h
  exact Or.inr (Or.inl hrange)

/-- What is written for a run of separators is a dash, and all else was there before. -/
theorem mem_dashRuns {inRun : Bool} (h : c ∈ dashRuns inRun s) :
    c = '-' ∨ (c ∈ s ∧ isAnchorBreak c = false) := by
  induction s generalizing inRun with
  | nil => cases h
  | cons d s ih =>
    have hrest : ∀ {inRun}, c ∈ dashRuns inRun s →
        c = '-' ∨ (c ∈ d :: s ∧ isAnchorBreak c = false) :=
      fun hmem => (ih hmem).imp_right (And.imp_left (List.mem_cons_of_mem d))
    rw [dashRuns] at h
    split at h
    · split at h
      · exact hrest h
      · exact (List.mem_cons.1 h).elim Or.inl hrest
    · next hbreak =>
      rcases List.mem_cons.1 h with rfl | h
      · exact Or.inr ⟨List.mem_cons_self, Bool.eq_false_iff.2 hbreak⟩
      · exact hrest h

theorem isAnchorSafe_of_mem_headingAnchorChars (h : c ∈ headingAnchorChars s) : IsAnchorSafe c := by
  rcases mem_dashRuns (Text.mem_of_mem_dropBoth h) with rfl | ⟨hmem, hbreak⟩
  · exact isAnchorSafe_dash
  · have hkept := (List.mem_filter.1 (Text.mem_of_mem_dropBoth hmem)).2
    rw [hbreak, Bool.or_false] at hkept
    exact isAnchorSafe_of_isAnchorChar hkept

/-- A blank has no other case, and separates the parts of an anchor. -/
theorem lowerChar_of_isBlank (h : Text.isBlank c = true) : Text.lowerChar c = [c] := by
  -- The blank characters are few enough to look at each of them.
  have hall : ∀ n ∈ Text.blankCodes, Text.lowerChar (Char.ofNat n) = [Char.ofNat n] := by
    decide +kernel
  have hc := hall c.toNat (Text.toNat_mem_blankCodes h)
  rwa [Char.ofNat_toNat] at hc

theorem lower_of_forall_isBlank (h : ∀ c ∈ s, Text.isBlank c = true) : Text.lower s = s := by
  induction s with
  | nil => rfl
  | cons c s ih =>
    have hc := lowerChar_of_isBlank (h c List.mem_cons_self)
    have hs := ih fun d hd => h d (List.mem_cons_of_mem c hd)
    rw [Text.lower] at hs
    rw [Text.lower, List.flatMap_cons, hc, hs]
    rfl

/-- Blanks around a text do not change the anchor that it suggests. -/
theorem headingAnchorChars_trim (s : List Char) :
    headingAnchorChars (Text.trim s) = headingAnchorChars s := by
  obtain ⟨before, after, hs, hbefore, hafter⟩ := Text.exists_dropBoth_append Text.isBlank s
  have hkept : ∀ {bs : List Char}, (∀ c ∈ bs, Text.isBlank c = true) →
      ((Text.lower bs).filter fun c => isAnchorChar c || isAnchorBreak c) = bs := by
    intro bs hbs
    rw [lower_of_forall_isBlank hbs, List.filter_eq_self]
    intro c hc
    simp [isAnchorBreak, hbs c hc]
  have hlower : Text.lower s =
      Text.lower before ++ (Text.lower (Text.trim s) ++ Text.lower after) := by
    conv => lhs; rw [hs]
    simp only [Text.lower, Text.trim, List.flatMap_append]
  unfold headingAnchorChars
  simp only [hlower, List.filter_append, hkept hbefore, hkept hafter]
  exact congrArg (fun t => Text.dropBoth _ (dashRuns false t))
    (Text.dropBoth_append_of_forall hbefore hafter _).symm

theorem headingAnchor_trim (s : List Char) :
    headingAnchor (String.ofList (Text.trim s)) = headingAnchor (String.ofList s) := by
  simp only [headingAnchor, String.toList_ofList, headingAnchorChars_trim]

namespace TocBuilder

variable {used : List String} {base id : String} {n : Nat}

/-! ## Names with numbers -/

theorem numbered_injective {m n : Nat} (h : numbered base m = numbered base n) : m = n := by
  have hdigits := List.append_cancel_left (String.ofList_injective h)
  exact Text.digits_injective (List.cons.inj hdigits).2

/-- The search for a free one of the names `base-n`, `base-(n+1)`, …, with no bound on its tries: it
ends at a name that is not used. -/
inductive Finds (used : List String) (base : String) : (n : Nat) → (id : String) → Prop
  | free {n : Nat} : numbered base n ∉ used → Finds used base n (numbered base n)
  | taken {n : Nat} {id : String} :
      numbered base n ∈ used → Finds used base (n + 1) id → Finds used base n id

theorem Finds.not_mem (h : Finds used base n id) : id ∉ used := by
  induction h with
  | free hfree => exact hfree
  | taken _ _ ih => exact ih

theorem Finds.exists_eq (h : Finds used base n id) : ∃ m, id = numbered base m := by
  induction h with
  | free _ => exact ⟨_, rfl⟩
  | taken _ _ ih => exact ih

/-- As many names as there are used ones, and one more, are not all used. -/
theorem exists_not_mem (used : List String) (base : String) (n : Nat) :
    ∃ m, n ≤ m ∧ m ≤ n + used.length ∧ numbered base m ∉ used := by
  by_contra hall
  have hsubset : (List.range' n (used.length + 1)).map (numbered base) ⊆ used := by
    intro name hname
    obtain ⟨m, hm, rfl⟩ := List.mem_map.1 hname
    rw [List.mem_range'_1] at hm
    by_contra hfree
    exact hall ⟨m, hm.1, by omega, hfree⟩
  have hnodup : ((List.range' n (used.length + 1)).map (numbered base)).Nodup :=
    List.Nodup.map (fun _ _ => numbered_injective) List.nodup_range'
  have hlength := (List.subperm_of_subset hnodup hsubset).length_le
  rw [List.length_map, List.length_range'] at hlength
  omega

/-- With tries enough to get to a free name the search finds the first one. -/
theorem finds_firstFree_of_le {tries m : Nat} (hn : n ≤ m) (hm : m ≤ n + tries)
    (hfree : numbered base m ∉ used) : Finds used base n (firstFree used base tries n) := by
  induction tries generalizing n with
  | zero =>
    obtain rfl : n = m := Nat.le_antisymm hn hm
    exact .free hfree
  | succ tries ih =>
    rw [firstFree]
    split
    · next htaken =>
      have hne : n ≠ m := fun heq => hfree (heq ▸ htaken)
      exact .taken htaken (ih (by omega) (by omega))
    · next hfirst => exact .free hfirst

/-- The search ends, and its bound is never met. -/
theorem finds_firstFree (used : List String) (base : String) :
    Finds used base 1 (firstFree used base used.length 1) := by
  obtain ⟨m, hle, hlt, hfree⟩ := exists_not_mem used base 1
  exact finds_firstFree_of_le hle hlt hfree

theorem isAnchorSafe_of_mem_numbered (hbase : ∀ c ∈ base.toList, IsAnchorSafe c)
    (h : c ∈ (numbered base n).toList) : IsAnchorSafe c := by
  rw [numbered, String.toList_ofList] at h
  rcases List.mem_append.1 h with h | h
  · exact hbase c h
  · rcases List.mem_cons.1 h with rfl | h
    · exact isAnchorSafe_dash
    · exact isAnchorSafe_of_isDigit (Text.isDigit_of_mem_digits h)

theorem numbered_ne_empty : numbered base n ≠ "" := by
  intro h
  have hlist := congrArg String.toList h
  simp [numbered] at hlist

/-! ## The anchor of a heading -/

/-- The anchor that the heading with this number on its page gets, when some are used: the one that
its text suggests, or else its number, or else its number with the first free number behind. -/
inductive Assigns (used : List String) (ordinal : Nat) (text : List Char) : (id : String) → Prop
  | suggested (hsome : headingAnchor (String.ofList text) ≠ "")
      (hfree : headingAnchor (String.ofList text) ∉ used) :
      Assigns used ordinal text (headingAnchor (String.ofList text))
  | ordinal
      (hnone : headingAnchor (String.ofList text) = "" ∨ headingAnchor (String.ofList text) ∈ used)
      (hfree : numbered "heading" ordinal ∉ used) :
      Assigns used ordinal text (numbered "heading" ordinal)
  | numbered {id : String}
      (hnone : headingAnchor (String.ofList text) = "" ∨ headingAnchor (String.ofList text) ∈ used)
      (htaken : numbered "heading" ordinal ∈ used)
      (hfound : Finds used (numbered "heading" ordinal) 1 id) :
      Assigns used ordinal text id

section

variable {ordinal : Nat} {text : List Char}

theorem Assigns.not_mem (h : Assigns used ordinal text id) : id ∉ used := by
  cases h with
  | suggested _ hfree => exact hfree
  | ordinal _ hfree => exact hfree
  | numbered _ _ hfound => exact hfound.not_mem

theorem Assigns.ne_empty (h : Assigns used ordinal text id) : id ≠ "" := by
  cases h with
  | suggested hsome _ => exact hsome
  | ordinal _ _ => exact numbered_ne_empty
  | numbered _ _ hfound =>
    obtain ⟨m, rfl⟩ := hfound.exists_eq
    exact numbered_ne_empty

theorem isAnchorSafe_of_mem_ordinal (h : c ∈ (numbered "heading" ordinal).toList) :
    IsAnchorSafe c := by
  refine isAnchorSafe_of_mem_numbered (fun d hd => ?_) h
  have hletters : ("heading".toList.all fun d => decide ('a' ≤ d ∧ d ≤ 'z')) = true := by decide
  exact Or.inl (of_decide_eq_true (List.all_eq_true.1 hletters d hd))

theorem Assigns.isAnchorSafe (h : Assigns used ordinal text id) (hc : c ∈ id.toList) :
    IsAnchorSafe c := by
  cases h with
  | suggested _ _ =>
    rw [headingAnchor, String.toList_ofList] at hc
    exact isAnchorSafe_of_mem_headingAnchorChars hc
  | ordinal _ _ => exact isAnchorSafe_of_mem_ordinal hc
  | numbered _ _ hfound =>
    obtain ⟨m, rfl⟩ := hfound.exists_eq
    exact isAnchorSafe_of_mem_numbered (fun d => isAnchorSafe_of_mem_ordinal) hc

theorem Assigns.eq_headingAnchor (h : Assigns used ordinal text id)
    (hsome : headingAnchor (String.ofList text) ≠ "")
    (hfree : headingAnchor (String.ofList text) ∉ used) :
    id = headingAnchor (String.ofList text) := by
  have hnot : ¬(headingAnchor (String.ofList text) = "" ∨ headingAnchor (String.ofList text) ∈ used) :=
    not_or.2 ⟨hsome, hfree⟩
  cases h with
  | suggested _ _ => rfl
  | ordinal hnone _ => exact absurd hnone hnot
  | numbered hnone _ _ => exact absurd hnone hnot

end

/-- The anchor of the next heading is chosen among those that are free. -/
theorem assigns_nextId (b : TocBuilder) (text : List Char) :
    Assigns b.ids (b.entries.length + 1) text (b.nextId (String.ofList (Text.trim text))) := by
  unfold nextId
  simp only [headingAnchor_trim]
  split
  · next h => exact .suggested h.1 h.2
  · next h =>
    have hnone : headingAnchor (String.ofList text) = "" ∨
        headingAnchor (String.ofList text) ∈ b.ids := by
      by_contra hnot
      exact h (not_or.1 hnot)
    split
    · next htaken => exact .numbered hnone htaken (finds_firstFree b.ids _)
    · next hfree => exact .ordinal hnone hfree

/-! ## The headings of a page -/

/-- A table with more headings behind those it has. -/
def pushAll (b : TocBuilder) (hs : List (Nat × List Char)) : TocBuilder :=
  hs.foldl (fun b h => b.push h.1 (String.ofList h.2)) b

theorem pushAll_cons (b : TocBuilder) (level : Nat) (text : List Char)
    (hs : List (Nat × List Char)) :
    b.pushAll ((level, text) :: hs) = (b.push level (String.ofList text)).pushAll hs :=
  rfl

/-- The entries of a table keep their order, and the anchor of a heading is that of its entry. -/
theorem entries_push (b : TocBuilder) (level : Nat) (text : List Char) :
    (b.push level (String.ofList text)).entries =
      b.entries ++
        [⟨level, String.ofList (Text.trim text), (b.push level (String.ofList text)).lastId⟩] := by
  simp [push, lastId]

theorem entries_pushAll (b : TocBuilder) (hs : List (Nat × List Char)) :
    (b.pushAll hs).entries.map (fun e => (e.level, e.text)) =
      b.entries.map (fun e => (e.level, e.text)) ++
        hs.map fun h => (h.1, String.ofList (Text.trim h.2)) := by
  induction hs generalizing b with
  | nil => simp [pushAll]
  | cons h hs ih =>
    have hrest := ih (b.push h.1 (String.ofList h.2))
    rw [entries_push] at hrest
    simpa [pushAll] using hrest

/-- The anchors that headings get when they are pushed one after the other. -/
def answers (b : TocBuilder) : List (Nat × List Char) → List String
  | [] => []
  | h :: hs =>
    let next := b.push h.1 (String.ofList h.2)
    next.lastId :: next.answers hs

theorem assigns_lastId (b : TocBuilder) (level : Nat) (text : List Char) :
    Assigns b.ids (b.entries.length + 1) text (b.push level (String.ofList text)).lastId := by
  have hlast : (b.push level (String.ofList text)).lastId =
      b.nextId (String.ofList (Text.trim text)) := by
    simp [push, lastId]
  rw [hlast]
  exact assigns_nextId b text

theorem ids_push (b : TocBuilder) (level : Nat) (text : List Char) :
    (b.push level (String.ofList text)).ids =
      b.ids ++ [(b.push level (String.ofList text)).lastId] := by
  rw [ids, entries_push, List.map_append]
  rfl

/-- What has been answered is what is used. -/
theorem ids_pushAll (b : TocBuilder) (hs : List (Nat × List Char)) :
    (b.pushAll hs).ids = b.ids ++ b.answers hs := by
  induction hs generalizing b with
  | nil => exact (List.append_nil b.ids).symm
  | cons h hs ih =>
    have hrest := ih (b.push h.1 (String.ofList h.2))
    rw [ids_push, List.append_assoc] at hrest
    exact hrest

theorem length_entries_pushAll (b : TocBuilder) (hs : List (Nat × List Char)) :
    (b.pushAll hs).entries.length = b.entries.length + hs.length := by
  have hlength := congrArg List.length (entries_pushAll b hs)
  simpa using hlength

theorem answers_append (b : TocBuilder) (hs gs : List (Nat × List Char)) :
    b.answers (hs ++ gs) = b.answers hs ++ (b.pushAll hs).answers gs := by
  induction hs generalizing b with
  | nil => rfl
  | cons h hs ih => exact congrArg (_ :: ·) (ih _)

/-- Names that are used stay apart from those that are given. -/
theorem nodup_ids_pushAll {b : TocBuilder} (h : b.ids.Nodup) (hs : List (Nat × List Char)) :
    (b.pushAll hs).ids.Nodup := by
  induction hs generalizing b with
  | nil => exact h
  | cons heading hs ih =>
    refine ih ?_
    rw [ids_push]
    rw [← List.concat_eq_append]
    exact List.Nodup.concat (assigns_lastId b heading.1 heading.2).not_mem h

/-- What holds of every anchor that a heading may get holds of all that are given. -/
theorem forall_mem_answers {P : String → Prop}
    (hP : ∀ {used ordinal text id}, Assigns used ordinal text id → P id) (b : TocBuilder)
    (hs : List (Nat × List Char)) : ∀ id ∈ b.answers hs, P id := by
  induction hs generalizing b with
  | nil => exact fun _ h => absurd h List.not_mem_nil
  | cons h hs ih =>
    intro id hid
    rcases List.mem_cons.1 hid with rfl | hid
    · exact hP (assigns_lastId b h.1 h.2)
    · exact ih _ id hid

/-- An entry for each heading, with its level, its trimmed text and its anchor. -/
theorem entries_pushAll_answers (b : TocBuilder) (hs : List (Nat × List Char)) :
    (b.pushAll hs).entries = b.entries ++
      List.zipWith (fun h id => ⟨h.1, String.ofList (Text.trim h.2), id⟩) hs (b.answers hs) := by
  induction hs generalizing b with
  | nil => exact (List.append_nil b.entries).symm
  | cons h hs ih =>
    have hrest := ih (b.push h.1 (String.ofList h.2))
    rw [entries_push, List.append_assoc] at hrest
    exact hrest

/-- The headings of a page get anchors that are all different, none empty, and made of safe characters
only. The next heading gets an anchor as well, by a search that ends, and it is the one that its text
suggests whenever there is such a one and it is free. The table of contents has an entry for each
heading, in order; there is none for a page without headings. -/
theorem anchors_are_distinct_and_safe (hs : List (Nat × List Char)) :
    (answers {} hs).Nodup ∧
      (∀ id ∈ answers {} hs, id ≠ "" ∧ ∀ c ∈ id.toList, IsAnchorSafe c) ∧
      (∀ level text, ∃ id, Assigns (answers {} hs) (hs.length + 1) text id ∧
        answers {} (hs ++ [(level, text)]) = answers {} hs ++ [id] ∧
        (headingAnchor (String.ofList text) ≠ "" →
          headingAnchor (String.ofList text) ∉ answers {} hs →
            id = headingAnchor (String.ofList text))) ∧
      (pushAll {} hs).finish =
        if hs = [] then none
        else some (List.zipWith (fun h id => ⟨h.1, String.ofList (Text.trim h.2), id⟩) hs
          (answers {} hs)) := by
  have hids : (pushAll {} hs).ids = answers {} hs := ids_pushAll {} hs
  have hlength := length_entries_pushAll {} hs
  rw [List.length_nil, Nat.zero_add] at hlength
  refine ⟨?_, fun id hid => ?_, fun level text => ?_, ?_⟩
  · rw [← hids]
    exact nodup_ids_pushAll (b := {}) List.nodup_nil hs
  · exact forall_mem_answers (P := fun id => id ≠ "" ∧ ∀ c ∈ id.toList, IsAnchorSafe c)
      (fun h => ⟨h.ne_empty, fun _ hc => h.isAnchorSafe hc⟩) {} hs id hid
  · have hassigns := assigns_lastId (pushAll {} hs) level text
    rw [hids, hlength] at hassigns
    exact ⟨_, hassigns, answers_append {} hs [(level, text)], hassigns.eq_headingAnchor⟩
  · have hentries := entries_pushAll_answers {} hs
    rw [List.nil_append] at hentries
    have hempty : (pushAll {} hs).entries = [] ↔ hs = [] := by
      rw [← List.length_eq_zero_iff, hlength, List.length_eq_zero_iff]
    simp only [finish, List.isEmpty_iff, hempty]
    rw [hentries]

/-- Behind a heading that is itself called a number comes one without letters: it gets that number as
well, with a number behind, and the next one keeps what its text suggests. -/
theorem anchor_behind_numbered_heading :
    let hs := [(2, "heading-2".toList), (2, "***".toList)]
    let next := "Intro".toList
    headingAnchor (String.ofList next) ≠ "" ∧
      headingAnchor (String.ofList next) ∉ answers {} hs ∧
      answers {} (hs ++ [(3, next)]) = ["heading-2", "heading-2-1", "intro"] ∧
      (answers {} (hs ++ [(3, next)])).Nodup := by
  intro hs next
  have hsome : headingAnchor (String.ofList next) ≠ "" := by decide
  have hfree : headingAnchor (String.ofList next) ∉ answers {} hs := by decide
  obtain ⟨id, -, hanswers, hid⟩ := (anchors_are_distinct_and_safe hs).2.2.1 3 next
  refine ⟨hsome, hfree, ?_, (anchors_are_distinct_and_safe (hs ++ [(3, next)])).1⟩
  rw [hanswers, hid hsome hfree]
  decide

end TocBuilder
end StaticBlog
