import StaticBlog.Proofs.Disk.Depth
import StaticBlog.Proofs.Text.ByteOrder

/-!
# Tours of a directory

What a walk meets, told without the way in which it goes on: a directory is toured name by name in the
order of their bytes, each one with all that is below it, and links are followed.

- `Disk.Lists` : whether names are all that there are in a directory, in their order
- `Disk.Tours` : the steps of a tour of what a path leads to
- `Disk.Tours.unique`, `Disk.tours_walk` : there is one tour of a path, and it is the walk
- `Disk.Tours.nodup_paths` : no path is met twice
-/

namespace StaticBlog
namespace Disk

variable {d : Disk} {l : Place} {p : Path} {names names' : List String} {above : List Place}
  {isLink : Bool} {steps steps' : List Step} {fuel : Nat}

/-- The path of a step. -/
def Step.path : Step → Path
  | .file p => p
  | .failure p _ => p

/-- Whether names are all that there are in a directory, in the order of their bytes. -/
structure Lists (d : Disk) (l : Place) (names : List String) : Prop where
  complete : ∀ n, n ∈ names ↔ d.get? (l ++ [n]) ≠ none
  sorted : names.Pairwise fun a b => Text.BytesBefore a.toList b.toList

/-- The steps of a tour of what a path leads to. `above` holds the directories that are being toured, and
`isLink` tells whether a link stands at the end of the path. -/
inductive Tours (d : Disk) : (above : List Place) → Path → (isLink : Bool) → List Step → Prop
  /-- A file is met. -/
  | file {above : List Place} {p : Path} {isLink : Bool} {l : Place} {content : Content} {modified : Int}
      (leads : d.entry p = .ok (l, .file content modified)) : Tours d above p isLink [.file p]
  /-- A path that leads nowhere is a failure. -/
  | nowhere {above : List Place} {p : Path} {isLink : Bool} {error : DiskError}
      (leads : d.entry p = .error error) : Tours d above p isLink [.failure p error]
  /-- A link to a directory that is being toured is a failure. -/
  | loop {above : List Place} {p : Path} {isLink : Bool} {l : Place}
      (leads : d.entry p = .ok (l, .directory)) (again : isLink = true ∧ l ∈ above) :
      Tours d above p isLink [.failure p .loop]
  /-- A directory is toured name by name, each one with all that is below it. -/
  | directory {above : List Place} {p : Path} {isLink : Bool} {l : Place} {names : List String}
      {steps : String → List Step} (leads : d.entry p = .ok (l, .directory))
      (new : ¬ (isLink = true ∧ l ∈ above)) (lists : d.Lists l names)
      (each : ∀ n ∈ names, Tours d (l :: above) (p.join n) (d.holdsLink (l ++ [n])) (steps n)) :
      Tours d above p isLink (names.flatMap steps)

/-! ## Names -/

namespace Lists

theorem nodup (h : d.Lists l names) : names.Nodup := by
  refine h.sorted.imp fun {a b} hbefore heq => ?_
  subst heq
  exact List.lt_irrefl _ hbefore

/-- A directory lists its names in one way. -/
theorem unique (h : d.Lists l names) (h' : d.Lists l names') : names = names' := by
  have hperm : names.Perm names' := by
    rw [List.perm_ext_iff_of_nodup h.nodup h'.nodup]
    exact fun n => (h.complete n).trans (h'.complete n).symm
  apply hperm.eq_of_pairwise _ h.sorted h'.sorted
  intro a b _ _ hab hba
  exact absurd hba (List.lt_asymm hab)

end Lists

/-- The names of a sound disk are in the order of their bytes. -/
theorem lists_names (hd : Sound d) (l : Place) : d.Lists l (d.names l) := by
  refine ⟨fun n => mem_names_iff, ?_⟩
  refine ((pairwise_names d l).and (nodup_names hd l)).imp fun {a b} h => ?_
  obtain ⟨hupTo, hne⟩ := h
  apply Text.bytesBefore_of_lt
  -- Of different names one comes first, and it is not the second one.
  by_contra hnot
  have hback : IsListedUpTo b a := by
    simp only [IsListedUpTo, Bool.not_eq_true', ← Bool.not_eq_true, List.lex_eq_true_iff_lt]
    exact hnot
  exact hne (hupTo.antisymm hback)

/-! ## The walk -/

/-- Where a walk does not go on, its step is a tour. -/
theorem tours_of_ends (hends : ∀ l, d.entry p ≠ .ok (l, .directory)) :
    d.Tours above p isLink (d.stepsAt fuel above p isLink) := by
  cases hentry : d.entry p with
  | error error =>
    rw [stepsAt, hentry]
    exact .nowhere hentry
  | ok found =>
    obtain ⟨l, x⟩ := found
    cases x with
    | file content modified =>
      rw [stepsAt, hentry]
      exact .file hentry
    | link t => exact absurd rfl ((entry_eq_ok_iff.1 hentry).2.2.ne_link l t)
    | directory => exact absurd hentry (hends l)

/-- The steps of a walk at a path are a tour, if there is fuel enough. -/
theorem tours_stepsAt (hd : Sound d)
    (hroom : ∀ l, d.entry p = .ok (l, .directory) → Room d fuel p l) :
    d.Tours above p isLink (d.stepsAt fuel above p isLink) := by
  -- Each directory on the way down takes one of the fuel.
  induction fuel generalizing above p isLink with
  | zero => exact tours_of_ends fun l hl => not_room_zero (hroom l hl)
  | succ fuel ih =>
    by_cases hends : ∀ l, d.entry p ≠ .ok (l, .directory)
    · exact tours_of_ends hends
    obtain ⟨l, hl⟩ := not_forall_not.1 hends
    cases hloop : isLink && above.contains l with
    | true =>
      simp only [stepsAt, hl, hloop, if_true]
      exact .loop hl (by simpa using hloop)
    | false =>
      rw [stepsAt_directory hl hloop, walkFrom_succ hd.proper hl]
      refine .directory hl (by simpa using hloop) (lists_names hd l) fun n hn => ?_
      have hname : Path.IsName n := (hd.proper l n (mem_names_iff.1 hn)).isName
      exact ih fun k hk => (hroom l hl).join hname hk

/-- The walk through what a path leads to is a tour. -/
theorem tours_walk (hd : Sound d) (p : Path) : d.Tours [] p false (d.walk p) := by
  rw [walk_eq_stepsAt]
  exact tours_stepsAt hd fun l hl => room_depthLimit hl

namespace Tours

/-- There is one tour of a path. -/
theorem unique (h : d.Tours above p isLink steps) (h' : d.Tours above p isLink steps') :
    steps = steps' := by
  -- What the path leads to tells which kind of tour it has.
  induction h generalizing steps' with
  | file hleads =>
    cases h' with
    | file _ => rfl
    | nowhere hleads' | loop hleads' _ | directory hleads' _ _ _ =>
      rw [hleads] at hleads'
      cases hleads'
  | nowhere hleads =>
    cases h' with
    | nowhere hleads' =>
      rw [hleads] at hleads'
      cases hleads'
      rfl
    | file hleads' | loop hleads' _ | directory hleads' _ _ _ =>
      rw [hleads] at hleads'
      cases hleads'
  | loop hleads hagain =>
    cases h' with
    | loop _ _ => rfl
    | directory hleads' hnew _ _ =>
      rw [hleads] at hleads'
      cases hleads'
      exact absurd hagain hnew
    | file hleads' | nowhere hleads' =>
      rw [hleads] at hleads'
      cases hleads'
  | directory hleads hnew hlists _ ih =>
    cases h' with
    | directory hleads' _ hlists' heach' =>
      rw [hleads] at hleads'
      cases hleads'
      have hnames := hlists.unique hlists'
      subst hnames
      exact List.flatMap_congr fun n hn => ih n hn (heach' n hn)
    | loop hleads' hagain =>
      rw [hleads] at hleads'
      cases hleads'
      exact absurd hagain hnew
    | file hleads' | nowhere hleads' =>
      rw [hleads] at hleads'
      cases hleads'

/-- All steps of a tour are at the path or below it. -/
theorem exists_down (hd : Proper d) (h : d.Tours above p isLink steps) :
    ∀ step ∈ steps, ∃ ns, (∀ n ∈ ns, Path.IsName n) ∧ step.path = p.down ns := by
  induction h with
  | file _ | nowhere _ | loop _ _ =>
    intro step hstep
    rw [List.mem_singleton.1 hstep]
    exact ⟨[], by simp, rfl⟩
  | @directory above p isLink l names steps _ _ hlists _ ih =>
    intro step hstep
    obtain ⟨n, hn, hbelow⟩ := List.mem_flatMap.1 hstep
    obtain ⟨ns, hns, hpath⟩ := ih n hn step hbelow
    have hname : Path.IsName n := (hd l n ((hlists.complete n).1 hn)).isName
    exact ⟨n :: ns, List.forall_mem_cons.2 ⟨hname, hns⟩, hpath⟩

/-- No path is met twice on a tour. -/
theorem nodup_paths (hd : Proper d) (h : d.Tours above p isLink steps) :
    (steps.map Step.path).Nodup := by
  induction h with
  | file _ | nowhere _ | loop _ _ => exact List.nodup_singleton _
  | @directory above p isLink l names steps _ _ hlists heach ih =>
    rw [List.map_flatMap, List.nodup_flatMap]
    refine ⟨ih, hlists.nodup.imp_of_mem fun {a b} ha hb hne => ?_⟩
    -- A path below two names would begin with both of them.
    intro q hqa hqb
    obtain ⟨step, hstep, rfl⟩ := List.mem_map.1 hqa
    obtain ⟨step', hstep', hsame⟩ := List.mem_map.1 hqb
    obtain ⟨ns, hns, hpath⟩ := (heach a ha).exists_down hd step hstep
    obtain ⟨ns', hns', hpath'⟩ := (heach b hb).exists_down hd step' hstep'
    have hname : ∀ n ∈ names, Path.IsName n := fun n hn =>
      (hd l n ((hlists.complete n).1 hn)).isName
    have hdown : p.down (a :: ns) = p.down (b :: ns') := by
      calc p.down (a :: ns) = step.path := hpath.symm
        _ = step'.path := hsame.symm
        _ = p.down (b :: ns') := hpath'
    have hnames := Path.down_injective (List.forall_mem_cons.2 ⟨hname a ha, hns⟩)
      (List.forall_mem_cons.2 ⟨hname b hb, hns'⟩) hdown
    exact hne (List.cons.inj hnames).1

end Tours

/-- The walk is the only tour. -/
theorem tours_iff (hd : Sound d) : d.Tours [] p false steps ↔ steps = d.walk p := by
  constructor
  · exact fun h => h.unique (tours_walk hd p)
  · rintro rfl
    exact tours_walk hd p

end Disk
end StaticBlog
