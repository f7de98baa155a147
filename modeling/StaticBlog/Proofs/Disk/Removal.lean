import StaticBlog.Proofs.Disk.Trail

/-!
# What a removal takes away

- `Disk.get?_eraseIf` : erasing takes away the entries at the places that it is told, and no others
- `Disk.Removes` : the places whose entries are lost when a path is removed
- `Disk.get?_of_removal` : clearing and removing a path loses these entries, and no others
-/

namespace StaticBlog
namespace Disk

variable {d e : Disk}

/-! ## Erasing -/

theorem find?_filter (entries : List (Place × Entry)) (p : Place → Bool) (l : Place) :
    find? (entries.filter fun (k, _) => !p k) l = if p l then none else find? entries l := by
  induction entries with
  | nil => simp [find?]
  | cons x entries ih =>
    rcases x with ⟨k, y⟩
    by_cases hkl : k = l
    · subst hkl
      -- The entry of this place is either kept or erased, and no other one has the place.
      cases hp : p k <;> simp_all [find?]
    · cases hp : p k <;> simp [find?, hkl, hp, ih]

theorem get?_eraseIf (d : Disk) (p : Place → Bool) {l : Place} (hl : l ≠ []) :
    (d.eraseIf p).get? l = if p l then none else d.get? l := by
  simp [get?, eraseIf, hl, find?_filter]

theorem eraseIf_false (d : Disk) : d.eraseIf (fun _ => false) = d := by
  have hkept : d.entries.filter (fun (_, _) => !false) = d.entries :=
    List.filter_eq_self.2 fun _ _ => rfl
  rw [eraseIf, hkept]

theorem eraseIf_eraseIf (d : Disk) (lost lost' : Place → Bool) :
    (d.eraseIf lost).eraseIf lost' = d.eraseIf fun k => lost k || lost' k := by
  simp only [eraseIf, List.filter_filter, Bool.not_or]
  refine congrArg (fun entries => { d with entries := entries }) (List.filter_congr ?_)
  rintro ⟨k, x⟩ -
  exact Bool.and_comm _ _

theorem shrinks_eraseIf (d : Disk) (p : Place → Bool) : Shrinks d (d.eraseIf p) := by
  refine ⟨rfl, fun k => ?_⟩
  by_cases hk : k = []
  · exact Or.inl (by simp [get?, hk])
  · rw [get?_eraseIf d p hk]
    by_cases hp : p k = true <;> simp [hp]

theorem get?_eraseBelow (d : Disk) {l k : Place} (hk : k ≠ []) :
    (d.eraseBelow l).get? k = if l <+: k ∧ k ≠ l then none else d.get? k := by
  rw [eraseBelow, get?_eraseIf d _ hk]
  simp

theorem get?_erase (d : Disk) {l k : Place} (hk : k ≠ []) :
    (d.erase l).get? k = if k = l then none else d.get? k := by
  rw [erase, get?_eraseIf d _ hk]
  simp

/-! ## The steps of a removal -/

theorem clear_eq_ok_iff {p : Path} :
    d.clear p = .ok e ↔
      (∃ l, d.locate false p = .ok (.entry l .directory) ∧ e = d.eraseBelow l) ∨
        ∃ l t, d.locate false p = .ok (.entry l (.link t)) ∧ e = d.erase l := by
  rw [clear]
  cases d.locate false p with
  | error error => simp
  | ok found =>
    cases found with
    | missing l => simp
    | entry l x => cases x <;> simp [eq_comm]

theorem shrinks_of_clear {p : Path} : d.clear p = .ok e → Shrinks d e := by
  intro h
  rcases clear_eq_ok_iff.1 h with ⟨l, -, rfl⟩ | ⟨l, t, -, rfl⟩
  · exact shrinks_eraseIf d _
  · exact shrinks_eraseIf d _

/-- A cleared directory is removed, or the path no longer leads to anything. -/
theorem cases_of_removeCleared {p : Path} :
    d.removeCleared p = .ok e →
      (∃ l, d.reach false p = .ok (.entry l .directory) ∧ p.endsInDot = false ∧ e = d.erase l) ∨
        (∀ l x, d.reach false p ≠ .ok (.entry l x)) ∧ e = d := by
  intro h
  rw [removeCleared] at h
  split at h
  · next l hreach =>
    split at h
    · cases h
    · next hdot =>
      split at h
      · cases h
      · cases h
        exact Or.inl ⟨l, hreach, by simpa using hdot, rfl⟩
  · cases h
  · next l hreach =>
    cases h
    exact Or.inr ⟨by simp [hreach], rfl⟩
  · next hreach =>
    cases h
    exact Or.inr ⟨by simp [hreach], rfl⟩
  · cases h

/-! ## What is lost -/

/-- The places whose entries are lost when a path is removed: below a directory all of them, and the
directory itself unless the way to it leads through what is below it; of a link only itself. -/
inductive Removes (d : Disk) (p : Path) : Place → Prop
  | below {l k : Place} : d.locate false p = .ok (.entry l .directory) → l <+: k → k ≠ l →
      Removes d p k
  | self {l : Place} : d.locate false p = .ok (.entry l .directory) →
      (∀ k ∈ d.trailFrom p.endsInDot linkLimit d.cwd p.components, ¬ (l <+: k ∧ k ≠ l)) →
      Removes d p l
  | link {l : Place} {t : String} : d.locate false p = .ok (.entry l (.link t)) → Removes d p l

theorem removes_iff_of_directory {p : Path} {l k : Place}
    (hlocate : d.locate false p = .ok (.entry l .directory)) :
    Removes d p k ↔ l <+: k ∧ k ≠ l ∨ k = l ∧
      ∀ k' ∈ d.trailFrom p.endsInDot linkLimit d.cwd p.components, ¬ (l <+: k' ∧ k' ≠ l) := by
  constructor
  · intro h
    cases h with
    | below hlocate' hlies hne =>
      rw [hlocate] at hlocate'
      cases hlocate'
      exact Or.inl ⟨hlies, hne⟩
    | self hlocate' htrail =>
      rw [hlocate] at hlocate'
      cases hlocate'
      exact Or.inr ⟨rfl, htrail⟩
    | link hlocate' =>
      rw [hlocate] at hlocate'
      cases hlocate'
  · rintro (⟨hlies, hne⟩ | ⟨rfl, htrail⟩)
    · exact .below hlocate hlies hne
    · exact .self hlocate htrail

theorem removes_iff_of_link {p : Path} {l k : Place} {t : String}
    (hlocate : d.locate false p = .ok (.entry l (.link t))) : Removes d p k ↔ k = l := by
  constructor
  · intro h
    cases h with
    | below hlocate' _ _ =>
      rw [hlocate] at hlocate'
      cases hlocate'
    | self hlocate' _ =>
      rw [hlocate] at hlocate'
      cases hlocate'
    | link hlocate' =>
      rw [hlocate] at hlocate'
      cases hlocate'
      rfl
  · rintro rfl
    exact .link hlocate

/-- The path of a directory still leads somewhere once the directory is cleared exactly if nothing on
the way to it is below it. -/
theorem exists_reach_eraseBelow_iff {p : Path} {l : Place}
    (hlocate : d.locate false p = .ok (.entry l .directory)) :
    (∃ m x, (d.eraseBelow l).reach false p = .ok (.entry m x)) ↔
      ∀ k ∈ d.trailFrom p.endsInDot linkLimit d.cwd p.components, ¬ (l <+: k ∧ k ≠ l) := by
  have hshrinks : Shrinks d (d.eraseBelow l) := shrinks_eraseIf d _
  have hget : ∀ k ∈ d.trailFrom p.endsInDot linkLimit d.cwd p.components,
      (d.eraseBelow l).get? k = if l <+: k ∧ k ≠ l then none else d.get? k :=
    fun k hk => get?_eraseBelow d (ne_nil_of_mem_trailFrom hk)
  constructor
  · rintro ⟨m, x, hreach⟩ k hk hbelow
    rcases reach_eq_entry_iff.1 hreach with ⟨-, -, hleads⟩
    rw [hshrinks.cwd, hshrinks.leads_iff, Bool.false_or] at hleads
    refine hleads.2 k hk ?_
    rw [hget k hk, if_pos hbelow]
  · intro htrail
    rcases reach_eq_entry_iff.1 (locate_eq_entry_iff.1 hlocate).2 with ⟨husable, -, hleads⟩
    -- Without a slash at the end the way ends at a link, if there is one.
    have hfound : ∃ m x, Leads d p.endsInDot linkLimit d.cwd p.components (.entry m x) ∧
        x.isFile = false := by
      cases hdot : p.endsInDot with
      | true => exact ⟨l, .directory, hleads.followed rfl, rfl⟩
      | false => exact hleads.exists_unfollowed rfl
    rcases hfound with ⟨m, x, hx, hfile⟩
    refine ⟨m, x, reach_eq_entry_iff.2 ⟨husable, by simp [hfile], ?_⟩⟩
    rw [Bool.false_or, hshrinks.cwd, hshrinks.leads_iff]
    refine ⟨hx, fun k hk => ?_⟩
    rw [hget k hk, if_neg (htrail k hk)]
    exact hx.get?_ne_none rfl k hk

/-- What is left of a directory that has been cleared. -/
theorem get?_of_removal_directory {p : Path} {l : Place}
    (hlocate : d.locate false p = .ok (.entry l .directory))
    (hremove : (d.eraseBelow l).removeCleared p = .ok e) :
    e.cwd = d.cwd ∧ ∀ k, k ≠ [] → (Removes d p k → e.get? k = none) ∧
      (¬ Removes d p k → e.get? k = d.get? k) := by
  have hreach := exists_reach_eraseBelow_iff hlocate
  rcases cases_of_removeCleared hremove with ⟨m, hm, hdot, rfl⟩ | ⟨hlost, rfl⟩
  · -- The directory is still found, so it is removed itself.
    have htrail := hreach.1 ⟨m, .directory, hm⟩
    have hml : m = l := by
      have hshrinks : Shrinks d (d.eraseBelow l) := shrinks_eraseIf d _
      rcases reach_eq_entry_iff.1 (locate_eq_entry_iff.1 hlocate).2 with ⟨-, -, hleads⟩
      rcases reach_eq_entry_iff.1 hm with ⟨-, -, hleads'⟩
      rw [hshrinks.cwd, hshrinks.leads_iff] at hleads'
      cases (hleads'.1.followed rfl).unique (hleads.followed rfl)
      rfl
    subst hml
    refine ⟨rfl, fun k hk => ?_⟩
    rw [removes_iff_of_directory hlocate, get?_erase _ hk, get?_eraseBelow d hk]
    by_cases hkm : k = m
    · rw [if_pos hkm]
      exact ⟨fun _ => rfl, fun hnot => absurd (Or.inr ⟨hkm, htrail⟩) hnot⟩
    · by_cases hbelow : m <+: k <;> simp [hkm, hbelow]
  · -- The way to the directory led through what was below it, so the directory itself stays.
    have hnot := mt hreach.2 fun ⟨m, x, hm⟩ => hlost m x hm
    refine ⟨rfl, fun k hk => ?_⟩
    have hremoves : Removes d p k ↔ l <+: k ∧ k ≠ l := by
      rw [removes_iff_of_directory hlocate]
      exact ⟨fun h => h.resolve_right fun hself => hnot hself.2, Or.inl⟩
    rw [hremoves, get?_eraseBelow d hk]
    by_cases hbelow : l <+: k ∧ k ≠ l
    · simp [hbelow]
    · rw [if_neg hbelow]
      exact ⟨fun h => absurd h hbelow, fun _ => rfl⟩

/-- A link is removed itself. -/
theorem get?_of_removal_link {p : Path} {l : Place} {t : String}
    (hlocate : d.locate false p = .ok (.entry l (.link t)))
    (hremove : (d.erase l).removeCleared p = .ok e) :
    e.cwd = d.cwd ∧ ∀ k, k ≠ [] → (Removes d p k → e.get? k = none) ∧
      (¬ Removes d p k → e.get? k = d.get? k) := by
  have hshrinks : Shrinks d (d.erase l) := shrinks_eraseIf d _
  rcases reach_eq_entry_iff.1 (locate_eq_entry_iff.1 hlocate).2 with ⟨-, -, hleads⟩
  rcases cases_of_removeCleared hremove with ⟨m, hm, -, -⟩ | ⟨-, rfl⟩
  · -- A path that leads to a link does not lead to a directory as well.
    rcases reach_eq_entry_iff.1 hm with ⟨-, -, hleads'⟩
    rw [hshrinks.cwd, hshrinks.leads_iff] at hleads'
    cases hahead : (false || p.endsInSlash || p.endsInDot) with
    | true =>
      rw [hahead] at hleads
      exact absurd rfl (hleads.ne_link l t)
    | false =>
      have hdot : p.endsInDot = false := (Bool.or_eq_false_iff.1 hahead).2
      rw [hahead] at hleads
      rw [hdot, Bool.or_false] at hleads'
      cases hleads'.1.unique hleads
  · refine ⟨hshrinks.cwd, fun k hk => ?_⟩
    rw [removes_iff_of_link hlocate, get?_erase d hk]
    by_cases hkl : k = l <;> simp [hkl]

/-- Clearing and removing a path loses the entries at these places, and no others. -/
theorem get?_of_removal {p : Path} {cleared : Disk} (hclear : d.clear p = .ok cleared)
    (hremove : cleared.removeCleared p = .ok e) :
    e.cwd = d.cwd ∧ ∀ k, k ≠ [] → (Removes d p k → e.get? k = none) ∧
      (¬ Removes d p k → e.get? k = d.get? k) := by
  rcases clear_eq_ok_iff.1 hclear with ⟨l, hlocate, rfl⟩ | ⟨l, t, hlocate, rfl⟩
  · exact get?_of_removal_directory hlocate hremove
  · exact get?_of_removal_link hlocate hremove

end Disk
end StaticBlog
