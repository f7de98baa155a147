import StaticBlog.Disk.Walk
import StaticBlog.Proofs.Disk.Growth
import StaticBlog.Proofs.Disk.Removal

/-!
# What a walk meets

- `Disk.mem_names_iff` : the names in a directory
- `Disk.entry_join` : a name behind the path of a directory leads to the entry of that name
- `Disk.exists_down_of_mem_walk` : the files of a walk are below the path that it starts from
- `Disk.mem_walk_iff` : a walk without failures meets the files below a directory, and no others
- `Disk.walk_eraseIf` : a walk meets the same files when something else has been removed
-/

namespace StaticBlog
namespace Disk

variable {d e : Disk} {l m : Place} {n : String} {ns : List String} {p path : Path}

/-! ## The names in a directory -/

/-- The name of an entry in a directory. -/
theorem nameIn_eq_some_iff {k : Place} :
    (match k.getLast? with
      | some n => if k.dropLast = l then some n else none
      | none => none) = some n ↔ k = l ++ [n] := by
  rcases List.eq_nil_or_concat k with rfl | ⟨front, a, heq⟩
  · simp
  · rw [List.concat_eq_append] at heq
    subst heq
    by_cases hl : front = l
    · subst hl
      simp
    · simp [hl]

theorem mem_names_iff : n ∈ d.names l ↔ d.get? (l ++ [n]) ≠ none := by
  have hne : l ++ [n] ≠ [] := by simp
  rw [names, List.mem_mergeSort, List.mem_filterMap, get?, if_neg hne, find?_ne_none_iff]
  constructor
  · rintro ⟨⟨k, x⟩, hmem, hk⟩
    rw [← nameIn_eq_some_iff.1 hk]
    exact ⟨x, hmem⟩
  · rintro ⟨x, hmem⟩
    exact ⟨(l ++ [n], x), hmem, nameIn_eq_some_iff.2 rfl⟩

/-- Removing other entries keeps the names in a directory. -/
theorem names_eraseIf {lost : Place → Bool}
    (hkept : ∀ n, d.get? (l ++ [n]) ≠ none → lost (l ++ [n]) = false) :
    (d.eraseIf lost).names l = d.names l := by
  rw [names, names, eraseIf, List.filterMap_filter]
  refine congrArg (List.mergeSort · _) (List.filterMap_congr ?_)
  rintro ⟨k, x⟩ hmem
  cases hlost : lost k with
  | false => simp [hlost]
  | true =>
    -- A lost entry is in another directory, so it has no name here.
    cases hn : (match k.getLast? with
        | some n => if k.dropLast = l then some n else none
        | none => none) with
    | none =>
      simp only [hlost, Bool.not_true, if_neg Bool.false_ne_true]
      exact hn.symm
    | some n =>
      have hk := nameIn_eq_some_iff.1 hn
      subst hk
      have hget : d.get? (l ++ [n]) ≠ none := by
        rw [get?, if_neg (by simp), find?_ne_none_iff]
        exact ⟨x, hmem⟩
      rw [hkept n hget] at hlost
      cases hlost

/-! ## Names behind a path -/

theorem isUsable_join (h : IsUsable p) (hn : IsEntryName n) : IsUsable (p.join n) := by
  have htext := Path.toList_join p hn.isName
  refine ⟨fun hempty => ?_, fun hnul => ?_⟩
  · have hne := (Path.toList_join_ne p hn.isName).1
    simp [hempty] at hne
  · rw [htext] at hnul
    rcases List.mem_append.1 hnul with hfront | hname
    · refine h.plain ?_
      unfold Path.frontOf at hfront
      split at hfront
      · exact hfront
      · simpa using hfront
    · exact hn.plain hname

/-- A name behind the path of a directory leads to the entry of that name. -/
theorem entry_join (hl : d.entry p = .ok (l, .directory)) (hn : IsEntryName n) {x : Entry}
    (hx : ∀ t, x ≠ .link t) (hget : d.get? (l ++ [n]) = some x) :
    d.entry (p.join n) = .ok (l ++ [n], x) := by
  rcases entry_eq_ok_iff.1 hl with ⟨husable, -, hleads⟩
  have hslash := Path.endsInSlash_join p hn.isName
  have hdot := Path.endsInDot_join p hn.isName
  refine entry_eq_ok_iff.2 ⟨isUsable_join husable hn, fun _ => ⟨hslash, hdot⟩, ?_⟩
  rcases hleads.append_iff rfl with ⟨left, hleft⟩
  rw [Path.components_join p hn.isName, hleft true _ _ (by simp)]
  exact .last hx hn.short hget

/-- What stands in a directory is there if a name behind the path of the directory leads anywhere. -/
theorem get?_of_entry_join (hl : d.entry p = .ok (l, .directory)) (hn : Path.IsName n) {x : Entry} :
    d.entry (p.join n) = .ok (m, x) → d.get? (l ++ [n]) ≠ none := by
  intro h
  have hleads := (entry_eq_ok_iff.1 h).2.2
  rcases (entry_eq_ok_iff.1 hl).2.2.append_iff rfl with ⟨left, hleft⟩
  rw [Path.components_join p hn, hleft true _ _ (by simp)] at hleads
  cases hleads with
  | file _ hget | directory _ hget _ | unfollowed _ _ hget | link _ _ hget _ => simp [hget]

/-- A path that names behind it lead on from leads to a directory. -/
theorem entry_of_entry_down (hp : p.text ≠ "") (hns : ∀ n ∈ ns, Path.IsName n) (hne : ns ≠ [])
    {x : Entry} :
    d.entry (p.down ns) = .ok (m, x) → ∃ k, d.entry p = .ok (k, .directory) := by
  intro h
  rcases entry_eq_ok_iff.1 h with ⟨husable, -, hleads⟩
  rw [Path.components_down p hns] at hleads
  rcases Leads.exists_of_append (by simpa using hne) hleads with ⟨k, hk⟩
  have hplain : '\x00' ∉ p.text.toList := fun hnul =>
    husable.plain (Path.mem_text_down hns _ hnul)
  exact ⟨k, entry_eq_ok_iff.2 ⟨⟨hp, hplain⟩, by simp [Entry.isFile], hk⟩⟩

/-- The paths of the files below a path. -/
def IsFileBelow (d : Disk) (path q : Path) : Prop :=
  ∃ ns, ns ≠ [] ∧ (∀ n ∈ ns, Path.IsName n) ∧ q = path.down ns ∧ d.isFile q = true

/-- Below a file there is nothing. -/
theorem not_isFileBelow_of_file (hp : p.text ≠ "") {content : Content} {modified : Int}
    (hentry : d.entry p = .ok (m, .file content modified)) (q : Path) : ¬ IsFileBelow d p q := by
  rintro ⟨ns, hne, hns, rfl, hfile⟩
  rcases isFile_iff.1 hfile with ⟨m', content', modified', hentry'⟩
  rcases entry_of_entry_down hp hns hne hentry' with ⟨k, hdir⟩
  rw [hentry] at hdir
  cases hdir

/-- The files below a directory are those of its names and those below them. -/
theorem isFileBelow_iff (hd : Proper d) (hl : d.entry path = .ok (l, .directory)) (q : Path) :
    IsFileBelow d path q ↔ ∃ n ∈ d.names l,
      (q = path.join n ∧ d.isFile q = true) ∨ IsFileBelow d (path.join n) q := by
  constructor
  · rintro ⟨ns, hne, hns, heq, hfile⟩
    cases ns with
    | nil => exact absurd rfl hne
    | cons n ns =>
      rcases List.forall_mem_cons.1 hns with ⟨hname, hrest⟩
      have htext : (path.join n).text ≠ "" := by
        have hne := (Path.toList_join_ne path hname).1
        simpa using hne
      -- The first name stands in the directory, as the path that goes on from it leads somewhere.
      rcases isFile_iff.1 (heq ▸ hfile) with ⟨m, content, modified, hentry⟩
      have hthere : d.get? (l ++ [n]) ≠ none := by
        cases ns with
        | nil => exact get?_of_entry_join hl hname hentry
        | cons k ks =>
          rcases entry_of_entry_down htext hrest (by simp) hentry with ⟨m', hdir⟩
          exact get?_of_entry_join hl hname hdir
      refine ⟨n, mem_names_iff.2 hthere, ?_⟩
      cases ns with
      | nil => exact Or.inl ⟨heq, hfile⟩
      | cons k ks => exact Or.inr ⟨k :: ks, by simp, hrest, heq, hfile⟩
  · rintro ⟨n, hn, ⟨rfl, hfile⟩ | ⟨ns, -, hns, rfl, hfile⟩⟩
    · have hname := (hd l n (mem_names_iff.1 hn)).isName
      exact ⟨[n], by simp, by simpa using hname, rfl, hfile⟩
    · have hname := (hd l n (mem_names_iff.1 hn)).isName
      exact ⟨n :: ns, by simp, List.forall_mem_cons.2 ⟨hname, hns⟩, rfl, hfile⟩

/-! ## The steps of a walk -/

/-- Whether a link is at a place. -/
def holdsLink (d : Disk) (k : Place) : Bool :=
  match d.get? k with
  | some (.link _) => true
  | _ => false

/-- The steps of a walk at a path. A link to one of the directories above is a failure. -/
def stepsAt (d : Disk) (fuel : Nat) (above : List Place) (p : Path) (isLink : Bool) : List Step :=
  match d.entry p with
  | .ok (m, .directory) =>
    if isLink && above.contains m then [.failure p .loop] else d.walkFrom fuel (m :: above) p m
  | .ok _ => [.file p]
  | .error error => [.failure p error]

theorem walk_eq_stepsAt (d : Disk) (p : Path) :
    d.walk p = d.stepsAt d.depthLimit [] p false := by
  rw [walk, stepsAt]
  rfl

/-- A walk through a directory goes on at each of its names, as the path of the name tells. -/
theorem walkFrom_succ (hd : Proper d) (hl : d.entry path = .ok (l, .directory)) (fuel : Nat)
    (above : List Place) :
    d.walkFrom (fuel + 1) above path l = (d.names l).flatMap fun n =>
      d.stepsAt fuel above (path.join n) (d.holdsLink (l ++ [n])) := by
  rw [walkFrom]
  refine List.flatMap_congr fun n hn => ?_
  have hget := mem_names_iff.1 hn
  have hname : IsEntryName n := hd l n hget
  cases hx : d.get? (l ++ [n]) with
  | none => exact absurd hx hget
  | some x =>
    cases x with
    | file content modified => simp [stepsAt, entry_join hl hname (by simp) hx]
    | directory => simp [stepsAt, holdsLink, hx, entry_join hl hname (by simp) hx]
    | link target =>
      simp only [stepsAt, holdsLink, hx]
      rfl

/-- The files of a walk are below the path that it starts from. -/
theorem exists_down_of_mem_walkFrom {fuel : Nat} {above : List Place} {q : Path} (hd : Proper d) :
    .file q ∈ d.walkFrom fuel above path l →
      ∃ ns, ns ≠ [] ∧ (∀ n ∈ ns, Path.IsName n) ∧ q = path.down ns := by
  intro hq
  induction fuel generalizing above path l with
  | zero => simp [walkFrom] at hq
  | succ fuel ih =>
    rw [walkFrom, List.mem_flatMap] at hq
    rcases hq with ⟨n, hn, hq⟩
    have hname : Path.IsName n := (hd l n (mem_names_iff.1 hn)).isName
    have hself : q = path.join n → ∃ ns, ns ≠ [] ∧ (∀ n ∈ ns, Path.IsName n) ∧ q = path.down ns :=
      fun heq => ⟨[n], by simp, by simpa using hname, heq⟩
    have hdeeper : ∀ {above l}, .file q ∈ d.walkFrom fuel above (path.join n) l →
        ∃ ns, ns ≠ [] ∧ (∀ n ∈ ns, Path.IsName n) ∧ q = path.down ns := by
      intro above l hq
      rcases ih hq with ⟨ns, -, hns, heq⟩
      exact ⟨n :: ns, by simp, List.forall_mem_cons.2 ⟨hname, hns⟩, heq⟩
    -- The file is met at the name, or in the directory that is there, or that a link leads to.
    dsimp only at hq
    split at hq
    · exact hself (by simpa using hq)
    · exact hdeeper hq
    · split at hq
      · split at hq
        · simp at hq
        · exact hdeeper hq
      · exact hself (by simpa using hq)
      · simp at hq
    · simp at hq

theorem exists_down_of_mem_walk {q : Path} (hd : Proper d) :
    .file q ∈ d.walk p → ∃ ns, (∀ n ∈ ns, Path.IsName n) ∧ q = p.down ns := by
  intro hq
  rw [walk] at hq
  split at hq
  · rcases exists_down_of_mem_walkFrom hd hq with ⟨ns, -, hns, heq⟩
    exact ⟨ns, hns, heq⟩
  · have heq : q = p := by simpa using hq
    exact ⟨[], by simp, heq⟩
  · simp at hq

/-- Steps without a failure. -/
def AllFiles (steps : List Step) : Prop := ∀ p error, Step.failure p error ∉ steps

theorem AllFiles.of_mem {names : List String} {steps : String → List Step}
    (h : AllFiles (names.flatMap steps)) (hn : n ∈ names) : AllFiles (steps n) :=
  fun q error hmem => h q error (List.mem_flatMap.2 ⟨n, hn, hmem⟩)

theorem not_allFiles_failure {error : DiskError} : ¬ AllFiles [.failure p error] :=
  fun h => h p error List.mem_cons_self

section

variable {fuel : Nat} {above : List Place} {isLink : Bool}

theorem stepsAt_directory (hp : d.entry p = .ok (m, .directory))
    (hloop : (isLink && above.contains m) = false) :
    d.stepsAt fuel above p isLink = d.walkFrom fuel (m :: above) p m := by
  simp only [stepsAt, hp, hloop]
  exact if_neg Bool.false_ne_true

/-- Steps without a failure do not meet a loop. -/
theorem AllFiles.not_loop (h : AllFiles (d.stepsAt fuel above p isLink))
    (hp : d.entry p = .ok (m, .directory)) : (isLink && above.contains m) = false := by
  simp only [stepsAt, hp] at h
  cases hloop : isLink && above.contains m with
  | true =>
    rw [hloop] at h
    exact absurd h not_allFiles_failure
  | false => rfl

end

/-- A walk without failures meets the files below a directory, and no others. -/
theorem mem_walkFrom_iff {fuel : Nat} {above : List Place} (hd : Proper d)
    (hl : d.entry path = .ok (l, .directory)) (hok : AllFiles (d.walkFrom fuel above path l))
    (q : Path) : .file q ∈ d.walkFrom fuel above path l ↔ IsFileBelow d path q := by
  induction fuel generalizing above path l with
  | zero => exact absurd hok not_allFiles_failure
  | succ fuel ih =>
    rw [walkFrom_succ hd hl] at hok ⊢
    rw [List.mem_flatMap, isFileBelow_iff hd hl]
    refine exists_congr fun n => and_congr_right fun hn => ?_
    have hsteps := hok.of_mem hn
    have htext : (path.join n).text ≠ "" := by
      have hne := (Path.toList_join_ne path (hd l n (mem_names_iff.1 hn)).isName).1
      simpa using hne
    cases hentry : d.entry (path.join n) with
    | error error =>
      rw [stepsAt, hentry] at hsteps
      exact absurd hsteps not_allFiles_failure
    | ok found =>
      rcases found with ⟨m, x⟩
      cases x with
      | link t => exact absurd rfl ((entry_eq_ok_iff.1 hentry).2.2.ne_link m t)
      | file content modified =>
        -- The file itself is met, and there is nothing below it.
        have hfile : d.isFile (path.join n) = true := isFile_iff.2 ⟨m, content, modified, hentry⟩
        have hnone := not_isFileBelow_of_file htext hentry q
        rw [stepsAt, hentry, or_iff_left hnone]
        constructor
        · intro hq
          have heq : q = path.join n := by simpa using hq
          exact ⟨heq, heq ▸ hfile⟩
        · rintro ⟨rfl, -⟩
          exact List.mem_cons_self
      | directory =>
        -- The walk goes on, and the directory itself is no file.
        have hnot : ¬ (q = path.join n ∧ d.isFile q = true) := by
          rintro ⟨rfl, hisFile⟩
          rcases isFile_iff.1 hisFile with ⟨m', content, modified, hentry'⟩
          rw [hentry] at hentry'
          cases hentry'
        have hloop := hsteps.not_loop hentry
        rw [stepsAt_directory hentry hloop] at hsteps ⊢
        rw [ih hentry hsteps, or_iff_right hnot]

theorem mem_walk_iff (hd : Proper d) (hp : d.isDirectory p = true) (hok : AllFiles (d.walk p))
    (q : Path) : .file q ∈ d.walk p ↔ IsFileBelow d p q := by
  rcases isDirectory_iff.1 hp with ⟨l, hentry⟩
  rw [walk, hentry] at hok ⊢
  exact mem_walkFrom_iff hd hentry hok q

/-! ## Walks through disks that look the same -/

/-- Disks that hold the same wherever something at a path or below it is looked up. -/
structure SameBelow (d e : Disk) (p : Path) : Prop where
  cwd : e.cwd = d.cwd
  get? : ∀ ns, (∀ n ∈ ns, Path.IsName n) → ∀ k ∈ d.trail (p.down ns), e.get? k = d.get? k

namespace SameBelow

theorem join (h : SameBelow d e p) (hn : Path.IsName n) : SameBelow d e (p.join n) :=
  ⟨h.cwd, fun ns hns => h.get? (n :: ns) (List.forall_mem_cons.2 ⟨hn, hns⟩)⟩

theorem entry (h : SameBelow d e p) (hns : ∀ n ∈ ns, Path.IsName n) :
    e.entry (p.down ns) = d.entry (p.down ns) := entry_congr h.cwd (h.get? ns hns)

theorem entry_self (h : SameBelow d e p) : e.entry p = d.entry p :=
  entry_congr h.cwd (h.get? [] fun _ hn => absurd hn List.not_mem_nil)

/-- A name in a directory is looked up, so it is the same. -/
theorem get?_name (h : SameBelow d e path) (hl : d.entry path = .ok (l, .directory))
    (hn : IsEntryName n) : e.get? (l ++ [n]) = d.get? (l ++ [n]) := by
  refine h.get? [n] (by simpa using hn.isName) _ ?_
  rcases (entry_eq_ok_iff.1 hl).2.2.trailFrom_append rfl with ⟨left, hleft⟩
  have hpath : path.down [n] = path.join n := rfl
  rw [trail, hpath, Path.components_join path hn.isName, hleft true _ (by simp)]
  exact List.mem_append_right _ (mem_trailFrom_name hn.short)

end SameBelow

/-- The names in a directory stay when what is not looked up is removed. -/
theorem SameBelow.names_eraseIf {lost : Place → Bool} (h : SameBelow d (d.eraseIf lost) path)
    (hd : Proper d) (hl : d.entry path = .ok (l, .directory)) :
    (d.eraseIf lost).names l = d.names l := by
  refine Disk.names_eraseIf fun n hn => ?_
  have hkept := h.get?_name hl (hd l n hn)
  rw [get?_eraseIf d lost (by simp)] at hkept
  cases hlost : lost (l ++ [n]) with
  | false => rfl
  | true =>
    rw [hlost, if_pos rfl] at hkept
    exact absurd hkept.symm hn

/-- Removing what is not looked up keeps a walk as it is. With more fuel it is the same. -/
theorem walkFrom_eraseIf {fuel fuel' : Nat} {above : List Place} {lost : Place → Bool}
    (hd : Proper d) (hl : d.entry path = .ok (l, .directory))
    (hsame : SameBelow d (d.eraseIf lost) path) (hfuel : fuel ≤ fuel')
    (hok : AllFiles ((d.eraseIf lost).walkFrom fuel above path l)) :
    d.walkFrom fuel' above path l = (d.eraseIf lost).walkFrom fuel above path l := by
  induction fuel generalizing fuel' above path l with
  | zero => exact absurd hok not_allFiles_failure
  | succ fuel ih =>
    cases fuel' with
    | zero => exact absurd hfuel (Nat.not_succ_le_zero fuel)
    | succ fuel' =>
      -- Both walks go through the same names.
      have hd' : Proper (d.eraseIf lost) := (shrinks_eraseIf d lost).proper hd
      have hl' : (d.eraseIf lost).entry path = .ok (l, .directory) := by rw [hsame.entry_self, hl]
      rw [walkFrom_succ hd' hl', hsame.names_eraseIf hd hl] at hok ⊢
      rw [walkFrom_succ hd hl]
      refine List.flatMap_congr fun n hn => ?_
      have hname : IsEntryName n := hd l n (mem_names_iff.1 hn)
      have hjoin := hsame.join hname.isName
      have hlink : (d.eraseIf lost).holdsLink (l ++ [n]) = d.holdsLink (l ++ [n]) := by
        rw [holdsLink, holdsLink, hsame.get?_name hl hname]
      have hsteps := hok.of_mem hn
      cases hentry : d.entry (path.join n) with
      | error error => rw [stepsAt, stepsAt, hjoin.entry_self, hentry]
      | ok found =>
        rcases found with ⟨m, x⟩
        cases x with
        | file content modified => rw [stepsAt, stepsAt, hjoin.entry_self, hentry]
        | link t => rw [stepsAt, stepsAt, hjoin.entry_self, hentry]
        | directory =>
          -- Neither walk meets a loop here, so both go on below the name.
          have hentry' : (d.eraseIf lost).entry (path.join n) = .ok (m, .directory) := by
            rw [hjoin.entry_self, hentry]
          have hloop := hsteps.not_loop hentry'
          rw [stepsAt_directory hentry' hloop] at hsteps ⊢
          rw [stepsAt_directory hentry (hlink ▸ hloop)]
          exact ih hentry hjoin (Nat.le_of_succ_le_succ hfuel) hsteps

/-- A walk without failures is the same when something else has been removed. -/
theorem walk_eraseIf {lost : Place → Bool} (hd : Proper d) (hsame : SameBelow d (d.eraseIf lost) p)
    (hok : AllFiles ((d.eraseIf lost).walk p)) : d.walk p = (d.eraseIf lost).walk p := by
  rw [walk, hsame.entry_self] at hok
  rw [walk, walk, hsame.entry_self]
  cases hentry : d.entry p with
  | error error => rfl
  | ok found =>
    rcases found with ⟨l, x⟩
    cases x with
    | file content modified => rfl
    | link target => rfl
    | directory =>
      rw [hentry] at hok
      refine walkFrom_eraseIf hd hentry hsame ?_ hok
      have hlength : (d.eraseIf lost).entries.length ≤ d.entries.length := List.length_filter_le _ _
      exact Nat.mul_le_mul_left _ (Nat.succ_le_succ hlength)

end Disk
end StaticBlog
