import StaticBlog.Site.Work

/-!
# Runs of work

- `Work.Runs` : whether work has a result, and what session it leaves
- `Work.runs_bind_iff`, `Work.runs_changing_iff`, … : what each way of making work does
- `Work.outcome` : what work comes to, also if it fails
-/

namespace StaticBlog

/-- A result that is some value is that value. -/
theorem eq_ok_of_toOption {ε α : Type} {r : Except ε α} {a : α} (h : r.toOption = some a) :
    r = .ok a := by
  cases r with
  | error e => cases h
  | ok b =>
    cases h
    rfl

namespace Work

variable {α β : Type}

/-- Work that is done in a session has a result and leaves another session. -/
def Runs (w : Work α) (s : Session) (a : α) (s' : Session) : Prop :=
  (ExceptT.run w).run s = (.ok a, s')

theorem runOn_eq_ok_iff {w : Work α} {d : Disk} {a : α} {s' : Session} :
    w.runOn d = (.ok a, s') ↔ Runs w ⟨d, []⟩ a s' := Iff.rfl

theorem runs_pure_iff {a b : α} {s s' : Session} : Runs (pure a) s b s' ↔ b = a ∧ s' = s := by
  change ((Except.ok a, s) : Except SiteError α × Session) = (.ok b, s') ↔ _
  simp [eq_comm]

theorem not_runs_throw {e : SiteError} {a : α} {s s' : Session} : ¬ Runs (throw e) s a s' := by
  change ¬ ((Except.error e, s) : Except SiteError α × Session) = (.ok a, s')
  simp

/-- Work after other work goes on with its result and its session. -/
theorem runs_bind_iff {w : Work α} {f : α → Work β} {s s'' : Session} {b : β} :
    Runs (w >>= f) s b s'' ↔ ∃ a s', Runs w s a s' ∧ Runs (f a) s' b s'' := by
  unfold Runs
  rw [ExceptT.run_bind, StateT.run_bind]
  rcases (ExceptT.run w).run s with ⟨x, s'⟩
  cases x with
  | error e =>
    -- A failure ends the work, so nothing comes after it.
    change ((Except.error e, s') : Except SiteError β × Session) = (.ok b, s'') ↔ _
    constructor
    · intro h
      cases h
    · rintro ⟨a, s₁, heq, -⟩
      cases heq
  | ok a =>
    change (ExceptT.run (f a)).run s' = (.ok b, s'') ↔ _
    constructor
    · intro h
      exact ⟨a, s', rfl, h⟩
    · rintro ⟨a', s₁, heq, h⟩
      cases heq
      exact h

/-! ## Notices -/

theorem runs_report_iff {n : Notice} {s s' : Session} :
    Runs (report n) s () s' ↔ s' = { s with notices := n :: s.notices } := by
  change ((Except.ok (), { s with notices := n :: s.notices }) : Except SiteError Unit × Session) =
    (.ok (), s') ↔ _
  simp [eq_comm]

theorem disk_of_runs_report {n : Notice} {s s' : Session} : Runs (report n) s () s' →
    s'.disk = s.disk := by
  intro h
  rw [runs_report_iff.1 h]

theorem disk_of_runs_reportIf {reason : Bool} {n : Notice} {s s' : Session} :
    Runs (reportIf reason n) s () s' → s'.disk = s.disk := by
  intro h
  cases reason with
  | true => exact disk_of_runs_report h
  | false => rw [(runs_pure_iff.1 h).2]

theorem disk_of_runs_reportAll {ns : List Notice} {s s' : Session} :
    Runs (reportAll ns) s () s' → s'.disk = s.disk := by
  intro h
  have heq : ((Except.ok (), { s with notices := ns.reverse ++ s.notices }) :
      Except SiteError Unit × Session) = (.ok (), s') := h
  cases heq
  rfl

theorem exists_runs_reportIf (reason : Bool) (n : Notice) (s : Session) :
    ∃ s', Runs (reportIf reason n) s () s' ∧ s'.disk = s.disk := by
  cases reason with
  | true => exact ⟨_, runs_report_iff.2 rfl, rfl⟩
  | false => exact ⟨s, runs_pure_iff.2 ⟨rfl, rfl⟩, rfl⟩

theorem exists_runs_reportAll (ns : List Notice) (s : Session) :
    ∃ s', Runs (reportAll ns) s () s' ∧ s'.disk = s.disk := ⟨_, rfl, rfl⟩

/-! ## The disk -/

theorem runs_asking_iff {f : Disk → α} {s s' : Session} {a : α} :
    Runs (asking f) s a s' ↔ a = f s.disk ∧ s' = s := by
  change ((Except.ok (f s.disk), s) : Except SiteError α × Session) = (.ok a, s') ↔ _
  simp [eq_comm]

theorem runs_get_iff {s s' t : Session} : Runs get s t s' ↔ t = s ∧ s' = s := by
  change ((Except.ok s, s) : Except SiteError Session × Session) = (.ok t, s') ↔ _
  simp [eq_comm]

theorem runs_reading_iff {f : Disk → Except SiteError α} {s s' : Session} {a : α} :
    Runs (reading f) s a s' ↔ f s.disk = .ok a ∧ s' = s := by
  rw [reading, runs_bind_iff]
  simp only [runs_get_iff]
  constructor
  · rintro ⟨t, s₁, ⟨ht, hs⟩, h⟩
    rw [ht, hs] at h
    cases hf : f s.disk with
    | error e =>
      rw [hf] at h
      exact absurd h not_runs_throw
    | ok b =>
      rw [hf] at h
      rcases runs_pure_iff.1 h with ⟨rfl, rfl⟩
      exact ⟨rfl, rfl⟩
  · rintro ⟨hf, rfl⟩
    refine ⟨_, _, ⟨rfl, rfl⟩, ?_⟩
    rw [hf]
    exact runs_pure_iff.2 ⟨rfl, rfl⟩

theorem runs_changing_iff {f : Disk → Except DiskError Disk} {cause : DiskError → SiteError}
    {s s' : Session} :
    Runs (changing f cause) s () s' ↔ ∃ d, f s.disk = .ok d ∧ s' = { s with disk := d } := by
  have hmodify : ∀ d, Runs (modify fun s => { s with disk := d }) s () s' ↔
      s' = { s with disk := d } := by
    intro d
    change ((Except.ok (), { s with disk := d }) : Except SiteError Unit × Session) = (.ok (), s') ↔ _
    simp [eq_comm]
  rw [changing, runs_bind_iff]
  simp only [runs_get_iff]
  constructor
  · rintro ⟨t, s₁, ⟨ht, hs⟩, h⟩
    rw [ht, hs] at h
    cases hf : f s.disk with
    | error e =>
      rw [hf] at h
      exact absurd h not_runs_throw
    | ok d =>
      rw [hf] at h
      exact ⟨d, rfl, (hmodify d).1 h⟩
  · rintro ⟨d, hf, rfl⟩
    refine ⟨_, _, ⟨rfl, rfl⟩, ?_⟩
    rw [hf]
    exact (hmodify d).2 rfl

/-! ## Failures -/

/-- Telling more about a failure changes nothing where there is none. -/
theorem runs_tryCatch_throw_iff {w : Work α} {f : SiteError → SiteError} {s s' : Session} {a : α} :
    Runs (tryCatch w fun e => throw (f e)) s a s' ↔ Runs w s a s' := by
  unfold Runs
  rw [ExceptT.run_tryCatch, StateT.run_bind]
  rcases (ExceptT.run w).run s with ⟨x, s₁⟩
  cases x with
  | ok b => rfl
  | error e =>
    change ((Except.error (f e), s₁) : Except SiteError α × Session) = (.ok a, s') ↔
      ((Except.error e, s₁) : Except SiteError α × Session) = (.ok a, s')
    simp

/-! ## Results and failures -/

section Outcome

variable {s : Session}

/-- What work comes to: its result, and the session that it leaves. -/
def outcome (w : Work α) (s : Session) : Except SiteError α × Session := (ExceptT.run w).run s

theorem outcome_bind (w : Work α) (f : α → Work β) (s : Session) :
    outcome (w >>= f) s = match outcome w s with
      | (.ok a, s') => outcome (f a) s'
      | (.error e, s') => (.error e, s') := by
  unfold outcome
  rw [ExceptT.run_bind, StateT.run_bind]
  rcases (ExceptT.run w).run s with ⟨x, s'⟩
  cases x <;> rfl

theorem outcome_pure (a : α) : outcome (pure a) s = (.ok a, s) := rfl

theorem outcome_throw (e : SiteError) : outcome (throw e : Work α) s = (.error e, s) := rfl

theorem outcome_report (n : Notice) :
    outcome (report n) s = (.ok (), { s with notices := n :: s.notices }) := rfl

theorem outcome_asking (f : Disk → α) : outcome (asking f) s = (.ok (f s.disk), s) := rfl

theorem outcome_changing (f : Disk → Except DiskError Disk) (cause : DiskError → SiteError) :
    outcome (changing f cause) s = match f s.disk with
      | .ok d => (.ok (), { s with disk := d })
      | .error e => (.error (cause e), s) := by
  have hget : outcome get s = (.ok s, s) := rfl
  rw [changing, outcome_bind, hget]
  dsimp only
  cases f s.disk <;> rfl

end Outcome

end Work
end StaticBlog
