import StaticBlog.Proofs.Markdown.Mended

/-!
# Fenced code under repair

Repair tells by rules of its own which lines stand between fences. The fenced code of a flat text
stays as it is exactly if repair changes no line in it that it takes for one outside of fences.

- `exposed` : the lines of fenced code that repair takes for others
- `fencedBlocks_repairChars_iff` : when repair keeps the fenced code of a text
-/

namespace StaticBlog
namespace Markdown

open Repair (Fence LineKind classify fenceOf? repairLine repairLines repairChars mend Mended)

/-- The lines of fenced code that repair takes for lines outside of fences, given the fences that
are open before them for the reader and for repair. -/
def exposed : Option FenceLine → Option Fence → List (List Char) → List (List Char)
  | _, _, [] => []
  | none, fence, r :: rs => exposed (fenceLine? (lineOf r)) (classify fence r).2 rs
  | some f, fence, r :: rs =>
    let rest := exposed (if f.closes r then none else some f) (classify fence r).2 rs
    if !f.closes r && (classify fence r).1 = .ordinary then r :: rest else rest

/-! ## One line -/

/-- A line after repair, given the fence that is open before it for repair. -/
def repaired (fence : Option Fence) (r : List Char) : List Char :=
  if (classify fence r).1 = .ordinary then repairLine r else r

theorem repairLines_cons (fence : Option Fence) (r : List Char) (rs : List (List Char)) :
    repairLines fence (r :: rs) = repaired fence r :: repairLines (classify fence r).2 rs := by
  rcases hclass : classify fence r with ⟨kind, next⟩
  rw [repairLines, repaired, hclass]
  cases kind <;> rfl

theorem fenceOf?_of_ordinary {fence : Option Fence} {r : List Char}
    (h : (classify fence r).1 = .ordinary) : fenceOf? r = none := by
  unfold classify at h
  split at h
  · split at h <;> cases h
  · split at h
    · cases h
    · next hnone => exact hnone

section

variable {body ending more : List Char}

/-- A line stays as it is under repair, or it is one outside of fences and mended. -/
theorem repaired_cases (fence : Option Fence) (ends : IsEnding ending more) (body : List Char) :
    repaired fence (body ++ ending) = body ++ ending ∨
      ((classify fence (body ++ ending)).1 = .ordinary ∧
        repaired fence (body ++ ending) = mend body ++ ending ∧ Mended body (mend body)) := by
  unfold repaired
  split
  · next hordinary =>
    rw [Repair.repairLine_append_ending ends]
    rcases Repair.mended_of_mend body with heq | hmended
    · rw [heq]
      exact Or.inl rfl
    · exact Or.inr ⟨hordinary, rfl, hmended⟩
  · exact Or.inl rfl

/-- A line that means the same to the fences of a text, and is plain if the other line is. -/
structure SameRole (r r' : List Char) : Prop where
  fence : fenceLine? (lineOf r') = fenceLine? (lineOf r)
  closes : ∀ f : FenceLine, f.Valid → f.closes r' = f.closes r
  plain : isPlain (lineOf r) = true → isPlain (lineOf r') = true

/-- A line without fence and not blank throughout neither begins nor ends fenced code. -/
theorem not_fence_of_fenceOf?_eq_none (unbroken : ∀ c ∈ body, isBreak c = false)
    (ends : IsEnding ending more) (hnone : fenceOf? (body ++ ending) = none)
    (htext : ∃ c ∈ body, c ≠ ' ' ∧ c ≠ '\t') :
    fenceLine? (lineOf (body ++ ending)) = none ∧
      ∀ f : FenceLine, f.Valid → f.closes (body ++ ending) = false := by
  constructor
  · rw [lineOf_append unbroken ends]
    cases hfence : fenceLine? body with
    | none => rfl
    | some f => exact absurd hnone (fenceOf?_of_fenceLine? hfence)
  · intro f hf
    refine Bool.eq_false_iff.2 fun hcloses => ?_
    rcases fenceOf?_of_closes hf unbroken ends hcloses with hsome | ⟨-, hblank⟩
    · exact hsome hnone
    · rcases htext with ⟨c, hc, hspace, htab⟩
      exact (hblank c hc).elim hspace htab

theorem IsEnding.head?_ne (ends : IsEnding ending more) : ending.head? ≠ some '*' := by
  cases ends <;> simp

theorem marks_of_isRule {s : List Char} (h : isRule s = true) :
    ∃ mark, (mark = '*' ∨ mark = '-' ∨ mark = '_') ∧ ∀ c ∈ s, c = mark ∨ c = ' ' ∨ c = '\t' := by
  cases s with
  | nil => cases h
  | cons mark s =>
    simp only [isRule, Bool.and_eq_true, Bool.or_eq_true, decide_eq_true_eq, List.all_eq_true,
      or_assoc] at h
    exact ⟨mark, h.1.1, h.1.2⟩

/-- Rules stay as they are, so that a mended line is none. -/
theorem isRule_eq_false_of_mended (h : Mended body (mend body)) :
    isRule ((atStart body).skip 4).2.place.rest = false := by
  refine Bool.eq_false_iff.2 fun hrule => h.ne ?_
  rcases Cursor.skip_rest (atStart body) 4 with ⟨front, hfront, -, hblank⟩
  rcases marks_of_isRule hrule with ⟨mark, hmark, hmarks⟩
  have hbody : body = front ++ ((atStart body).skip 4).2.place.rest := hfront
  refine Repair.mend_of_rule hmark fun c hc => ?_
  rw [hbody] at hc
  exact (List.mem_append.1 hc).elim (fun hc => Or.inr (hblank c hc)) (hmarks c)

theorem sameRole_repaired (fence : Option Fence) (unbroken : ∀ c ∈ body, isBreak c = false)
    (ends : IsEnding ending more) :
    SameRole (body ++ ending) (repaired fence (body ++ ending)) := by
  rcases repaired_cases fence ends body with heq | ⟨hordinary, heq, hmended⟩
  · rw [heq]
    exact ⟨rfl, fun _ _ => rfl, id⟩
  · have hnone := fenceOf?_of_ordinary hordinary
    have hnone' := (hmended.append ends.head?_ne).fenceOf? hnone
    have unbroken' := Repair.mend_unbroken unbroken
    rcases hmended.exists_mem with ⟨⟨c, hc, hmark⟩, d, hd, hmark'⟩
    have hold := not_fence_of_fenceOf?_eq_none unbroken ends hnone
      ⟨c, hc, by rcases hmark with rfl | rfl <;> decide⟩
    have hnew := not_fence_of_fenceOf?_eq_none unbroken' ends hnone'
      ⟨d, hd, by rcases hmark' with rfl | rfl <;> decide⟩
    rw [heq]
    refine ⟨hnew.1.trans hold.1.symm, fun f hf => (hnew.2 f hf).trans (hold.2 f hf).symm, ?_⟩
    rw [lineOf_append unbroken ends, lineOf_append unbroken' ends]
    exact isPlain_of_mended hmended (isRule_eq_false_of_mended hmended)

end

/-! ## All lines -/

section

variable {rs : List (List Char)}

theorem areRecords_repairLines (h : AreRecords rs) (fence : Option Fence) :
    AreRecords (repairLines fence rs) := by
  induction h generalizing fence with
  | nil => exact .nil
  | @cons body ending rs unbroken ends text rest ih =>
    rw [repairLines_cons]
    -- A line keeps its ending whatever becomes of the lines behind it.
    have hmore : ∀ fence, IsEnding ending (repairLines fence rs).flatten := by
      intro fence
      generalize hflat : rs.flatten = more at ends
      cases ends with
      | feed => exact .feed _
      | returnFeed => exact .returnFeed _
      | last =>
        cases rest.eq_nil hflat
        exact .last
    rcases repaired_cases fence ends body with heq | ⟨-, heq, hmended⟩
    · rw [heq]
      exact .cons unbroken (hmore _) text (ih _)
    · rw [heq]
      rcases hmended.exists_mem with ⟨-, c, hc, -⟩
      have htext : mend body ++ ending ≠ [] := fun hempty => by
        rw [(List.append_eq_nil_iff.1 hempty).1] at hc
        cases hc
      exact .cons (Repair.mend_unbroken unbroken) (hmore _) htext (ih _)

/-- The fence that is open is one of the text. -/
theorem valid_of_mem {body : List Char} : ∀ f ∈ fenceLine? body, f.Valid :=
  fun _ hf => (valid_of_fenceLine? (Option.mem_def.1 hf)).1

theorem lineOf_eq_of_isFlat {st : Option FenceLine} (h : isFlat st rs = true) :
    ∀ r ∈ rs, lineOf r = Text.withoutEnding r := by
  induction rs generalizing st with
  | nil => exact fun r hr => absurd hr List.not_mem_nil
  | cons r rs ih =>
    cases st with
    | none =>
      rw [isFlat, Bool.and_eq_true, Bool.and_eq_true] at h
      exact List.forall_mem_cons.2 ⟨of_decide_eq_true h.1.1, ih h.2⟩
    | some f =>
      rw [isFlat, Bool.and_eq_true] at h
      exact List.forall_mem_cons.2 ⟨of_decide_eq_true h.1, ih h.2⟩

theorem isFlat_repairLines (h : AreRecords rs) {st : Option FenceLine} (hst : ∀ f ∈ st, f.Valid)
    (fence : Option Fence) (hflat : isFlat st rs = true) :
    isFlat st (repairLines fence rs) = true := by
  induction h generalizing st fence with
  | nil => cases st <;> rfl
  | @cons body ending rs unbroken ends text rest ih =>
    rw [repairLines_cons]
    -- Fences are what they were, and a plain line is still one.
    have hrole := sameRole_repaired fence unbroken ends
    have hline : lineOf (repaired fence (body ++ ending)) =
        Text.withoutEnding (repaired fence (body ++ ending)) := by
      rcases repaired_cases fence ends body with heq | ⟨-, heq, -⟩
      · rw [heq, lineOf_append unbroken ends, withoutEnding_append unbroken ends]
      · have unbroken' := Repair.mend_unbroken unbroken
        rw [heq, lineOf_append unbroken' ends, withoutEnding_append unbroken' ends]
    cases st with
    | none =>
      rw [isFlat, Bool.and_eq_true, Bool.and_eq_true, Bool.or_eq_true] at hflat ⊢
      rw [hrole.fence]
      exact ⟨⟨decide_eq_true hline, hflat.1.2.imp_right hrole.plain⟩, ih valid_of_mem _ hflat.2⟩
    | some f =>
      rw [isFlat, Bool.and_eq_true] at hflat ⊢
      rw [hrole.closes f (hst f rfl)]
      refine ⟨decide_eq_true hline, ih (fun g hg => ?_) _ hflat.2⟩
      split at hg
      · cases hg
      · exact hst g hg

end

/-! ## Code -/

section

variable {f : FenceLine} {rs : List (List Char)}

/-- The code behind an open fence goes on with the lines that follow. -/
theorem fencedCode_open (f : FenceLine) (code : List Char) (rs : List (List Char)) :
    ∃ more later,
      fencedCode (some (f, code)) rs = (f.language, String.ofList (code ++ more)) :: later ∧
        (rs = [] → more = []) := by
  induction rs generalizing code with
  | nil => exact ⟨[], [], by rw [List.append_nil]; rfl, fun _ => rfl⟩
  | cons r rs ih =>
    rw [fencedCode]
    split
    · exact ⟨[], _, by rw [List.append_nil], fun _ => rfl⟩
    · rcases ih (code ++ f.codeLine r) with ⟨more, later, heq, -⟩
      refine ⟨f.codeLine r ++ more, later, ?_, fun hnil => by cases hnil⟩
      rw [heq, List.append_assoc]

/-- A mended line makes other code, whatever follows. -/
theorem fencedCode_ne {body ending : List Char} (unbroken : ∀ c ∈ body, isBreak c = false)
    (ends : IsEnding ending rs.flatten) (hrs : AreRecords rs) (h : Mended body (mend body))
    (code : List Char) (rs' : List (List Char)) :
    fencedCode (some (f, code ++ f.codeLine (mend body ++ ending))) rs' ≠
      fencedCode (some (f, code ++ f.codeLine (body ++ ending))) rs := by
  rcases fencedCode_open f (code ++ f.codeLine (body ++ ending)) rs with ⟨more, later, heq, hlast⟩
  rcases fencedCode_open f (code ++ f.codeLine (mend body ++ ending)) rs'
    with ⟨more', later', heq', -⟩
  rcases h.skip f.indent with ⟨-, howed, hrest⟩
  have hmended := (hrest.prepend (List.replicate (f.start body).owed ' ')).prepend code
  -- Behind the line stand its line feed and more code, or the text ends with the line.
  have hbehind : (ending.filter (· ≠ '\r') ++ more).head? ≠ some '*' := by
    generalize hflat : rs.flatten = tail at ends
    cases ends with
    | feed | returnFeed => simp
    | last =>
      rw [hlast (hrs.eq_nil hflat)]
      simp
  rw [heq, heq', f.codeLine_append unbroken ends,
    f.codeLine_append (Repair.mend_unbroken unbroken) ends]
  intro hsame
  have hcode := String.ofList_injective (Prod.mk.inj (List.cons.inj hsame).1).2
  refine hmended.append_ne hbehind (ending.filter (· ≠ '\r') ++ more') ?_
  unfold FenceLine.start at hcode ⊢
  rw [howed] at hcode
  simpa only [List.append_assoc] using hcode

theorem valid_of_mem_none : ∀ s ∈ (none : Option (FenceLine × List Char)), s.1.Valid :=
  fun _ hs => by cases hs

/-- Repair keeps the fenced code in lines exactly if it changes no line of it. -/
theorem fencedCode_repairLines_iff (h : AreRecords rs) {st : Option (FenceLine × List Char)}
    (hst : ∀ s ∈ st, s.1.Valid) (fence : Option Fence) :
    fencedCode st (repairLines fence rs) = fencedCode st rs ↔
      ∀ r ∈ exposed (st.map Prod.fst) fence rs, repairLine r = r := by
  induction h generalizing st fence with
  | nil =>
    rw [repairLines, exposed]
    simp
  | @cons body ending rs unbroken ends text rest ih =>
    rw [repairLines_cons]
    -- Blocks of code begin and end with the same lines, so only a line within one can differ.
    have hrole := sameRole_repaired fence unbroken ends
    generalize hnext : (classify fence (body ++ ending)).2 = next
    cases st with
    | none =>
      have hvalid : ∀ s ∈ (fenceLine? (lineOf (body ++ ending))).map fun f => (f, ([] : List Char)),
          s.1.Valid := by
        intro s hs
        rcases Option.map_eq_some_iff.1 (Option.mem_def.1 hs) with ⟨f, hf, rfl⟩
        exact (valid_of_fenceLine? hf).1
      have hopen := ih hvalid next
      rw [Option.map_map] at hopen
      rw [fencedCode, fencedCode, hrole.fence, Option.map_none, exposed, hnext]
      simpa [Function.comp_def] using hopen
    | some s =>
      rcases s with ⟨f, code⟩
      have hf : f.Valid := hst _ rfl
      rw [fencedCode, fencedCode, hrole.closes f hf, Option.map_some, exposed, hnext]
      cases hcloses : f.closes (body ++ ending) with
      | true =>
        have hclosed := ih valid_of_mem_none next
        simpa using hclosed
      | false =>
        rcases repaired_cases fence ends body with heq | ⟨hordinary, heq, hmended⟩
        · have hvalid : ∀ s ∈ some (f, code ++ f.codeLine (body ++ ending)), s.1.Valid := by
            intro s hs
            cases hs
            exact hf
          have hopen := ih hvalid next
          simp only [heq, Bool.false_eq_true, if_false, Bool.not_false, Bool.true_and]
          rw [hopen]
          split
          · next hordinary =>
            have hsame : repairLine (body ++ ending) = body ++ ending := by
              rw [repaired, if_pos (of_decide_eq_true hordinary)] at heq
              exact heq
            rw [List.forall_mem_cons]
            exact (and_iff_right hsame).symm
          · rfl
        · -- One changed line tells the code apart, whatever follows.
          have hne := fencedCode_ne (f := f) unbroken ends rest hmended code (repairLines next rs)
          have hchanged : repairLine (body ++ ending) ≠ body ++ ending := by
            rw [Repair.repairLine_append_ending ends]
            exact fun hsame => hmended.ne (List.append_cancel_right hsame)
          simp only [heq, Bool.false_eq_true, if_false, Bool.not_false, Bool.true_and, hordinary,
            decide_true, if_true, List.forall_mem_cons]
          exact iff_of_false hne fun hall => hchanged hall.1

end

/-- The fenced code of a flat text after repair is that of its mended lines. -/
theorem fencedBlocks_repairChars {markdown : List Char}
    (hflat : isFlat none (Text.linesKept markdown) = true) :
    fencedBlocks (events markdown) = fencedCode none (Text.linesKept markdown) ∧
      fencedBlocks (events (repairChars markdown)) =
        fencedCode none (repairLines none (Text.linesKept markdown)) ∧
          AreRecords (Text.linesKept markdown) := by
  have hrecords := (areKept_linesKept markdown).areRecords (lineOf_eq_of_isFlat hflat)
  have hbefore := fencedBlocks_events hrecords hflat
  have hflat' := isFlat_repairLines hrecords (fun f hf => by cases hf) none hflat
  have hafter := fencedBlocks_events (areRecords_repairLines hrecords none) hflat'
  rw [Text.flatten_linesKept] at hbefore
  exact ⟨hbefore, hafter, hrecords⟩

/-- Repair keeps the fenced code of a flat text exactly if it changes no line between fences that it
takes for one outside of them. -/
theorem fencedBlocks_repairChars_iff (markdown : List Char)
    (hflat : isFlat none (Text.linesKept markdown) = true) :
    fencedBlocks (events (repairChars markdown)) = fencedBlocks (events markdown) ↔
      ∀ r ∈ exposed none none (Text.linesKept markdown), repairLine r = r := by
  rcases fencedBlocks_repairChars hflat with ⟨hbefore, hafter, hrecords⟩
  rw [hafter, hbefore]
  exact fencedCode_repairLines_iff hrecords valid_of_mem_none none

/-- Three backticks amid four are code for the reader, and end the code for repair. -/
theorem escaped_star_changed_in_code :
    isFlat none (Text.linesKept "````\n```\n\\*\n````\n".toList) = true ∧
      fencedBlocks (events (repairChars "````\n```\n\\*\n````\n".toList)) ≠
        fencedBlocks (events "````\n```\n\\*\n````\n".toList) := by
  refine ⟨by decide +kernel, fun hsame => ?_⟩
  have hkept := (fencedBlocks_repairChars_iff _ (by decide +kernel)).1 hsame
  exact absurd (hkept "\\*\n".toList (by decide +kernel)) (by decide +kernel)

-- The text has to be flat: repair completes the emphasis behind a tag, which then no longer begins a
-- block of HTML with the fences as its lines.
example : exposed none none (Text.linesKept "<b c=**d>\n```\nx\n```\n".toList) = [] ∧
    fencedBlocks (events (repairChars "<b c=**d>\n```\nx\n```\n".toList)) ≠
      fencedBlocks (events "<b c=**d>\n```\nx\n```\n".toList) := by
  decide +kernel

/-! ## Agreement on fences -/

/-- Whether repair takes just the fences of a text for fences. -/
def agreeOnFences : Option FenceLine → List (List Char) → Bool
  | _, [] => true
  | none, r :: rs =>
    (fenceOf? r).isSome = (fenceLine? (lineOf r)).isSome && agreeOnFences (fenceLine? (lineOf r)) rs
  | some f, r :: rs =>
    (List.replicate 3 f.mark).isPrefixOf (Text.trimStart r) = f.closes r &&
      agreeOnFences (if f.closes r then none else some f) rs

/-- The fence that is open for repair is that of the text. -/
inductive InStep : Option FenceLine → Option Fence → Prop
  | outside : InStep none none
  | inside {f : FenceLine} {fence : Fence} (h : fence.mark = List.replicate 3 f.mark) :
      InStep (some f) (some fence)

theorem mark_eq_of_fenceLine? {r : List Char} {f : FenceLine} {fence : Fence}
    (hline : fenceLine? (lineOf r) = some f) (hfence : fenceOf? r = some fence) :
    fence.mark = List.replicate 3 f.mark := by
  rcases valid_of_fenceLine? hline with ⟨hvalid, front, hbody, hblank, hrun⟩
  have hr : r = lineOf r ++ r.drop (lineOf r).length :=
    (List.prefix_iff_eq_append.1 (List.takeWhile_prefix _)).symm
  rcases trimStart_of_run hvalid.mark hblank hrun (r.drop (lineOf r).length) with ⟨rest, htrim⟩
  rw [← hbody, ← hr] at htrim
  have hprefix : fence.mark.isPrefixOf (Text.trimStart r) = true :=
    List.find?_some (p := fun f : Fence => f.mark.isPrefixOf (Text.trimStart r)) hfence
  rw [htrim] at hprefix
  cases fence with
  | backticks =>
    simp only [Fence.mark, List.isPrefixOf, Bool.and_eq_true, beq_iff_eq] at hprefix
    rw [← hprefix.1]
    rfl
  | tildes =>
    simp only [Fence.mark, List.isPrefixOf, Bool.and_eq_true, beq_iff_eq] at hprefix
    rw [← hprefix.1]
    rfl

/-- Repair that is in step with the reader takes no line between fences for another one. -/
theorem exposed_eq_nil {rs : List (List Char)} {st : Option FenceLine} {fence : Option Fence}
    (hstep : InStep st fence) (h : agreeOnFences st rs = true) : exposed st fence rs = [] := by
  -- Each line leaves the repair in step with the reader.
  induction rs generalizing st fence with
  | nil => cases st <;> rfl
  | cons r rs ih =>
    cases hstep with
    | outside =>
      rw [agreeOnFences, Bool.and_eq_true, decide_eq_true_eq] at h
      rw [exposed]
      refine ih ?_ h.2
      unfold classify
      cases hline : fenceLine? (lineOf r) with
      | none =>
        rw [hline, Option.isSome_none, Option.isSome_eq_false_iff, Option.isNone_iff_eq_none] at h
        rw [h.1]
        exact .outside
      | some f =>
        rw [hline, Option.isSome_some] at h
        rcases Option.isSome_iff_exists.1 h.1 with ⟨fence, hfence⟩
        rw [hfence]
        exact .inside (mark_eq_of_fenceLine? hline hfence)
    | @inside f fence hmark =>
      rw [agreeOnFences, Bool.and_eq_true, decide_eq_true_eq] at h
      rw [exposed]
      unfold classify
      simp only [hmark, h.1]
      cases hcloses : f.closes r with
      | true =>
        rw [hcloses] at h
        exact ih .outside h.2
      | false =>
        rw [hcloses] at h
        exact ih (.inside hmark) h.2

/-- Where repair and the reader agree on the fences, fenced code is left as it is. -/
theorem fencedBlocks_repairChars_of_agree (markdown : List Char)
    (hflat : isFlat none (Text.linesKept markdown) = true)
    (hagree : agreeOnFences none (Text.linesKept markdown) = true) :
    fencedBlocks (events (repairChars markdown)) = fencedBlocks (events markdown) := by
  rcases fencedBlocks_repairChars hflat with ⟨hbefore, hafter, hrecords⟩
  rw [hafter, hbefore]
  refine (fencedCode_repairLines_iff hrecords valid_of_mem_none none).2 ?_
  rw [Option.map_none, exposed_eq_nil .outside hagree]
  exact fun r hr => absurd hr List.not_mem_nil

example : (fun lines => isFlat none lines && agreeOnFences none lines)
    (Text.linesKept "```\n**raw \\* text\n```\n\\*star\\*\n".toList) = true := by
  decide +kernel

end Markdown
end StaticBlog
