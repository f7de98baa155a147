import StaticBlog.Proofs.Disk.Likeness
import StaticBlog.Proofs.Site.Runs

/-!
# What holds of all work that is made of some steps

- `Work.Keeps` : how the disk after work is related to the disk before it, also if the work fails
- `Work.Repeats` : work that has the same result on a disk that is like the first one
- `Work.Keeps.bind`, `Work.Repeats.bind`, … : what holds of steps holds of work that is made of them
-/

namespace StaticBlog
namespace Work

open Disk (Extends Sound)

variable {α β : Type} {R : Disk → Disk → Prop} {final : Disk} {w : Work α} {f : α → Work β}

/-! ## The disk after work -/

/-- The session after work, whether it fails or not. -/
def after (w : Work α) (s : Session) : Session := ((ExceptT.run w).run s).2

theorem runOn_eq (w : Work α) (d : Disk) : (w.runOn d).2 = after w ⟨d, []⟩ := rfl

theorem Runs.after_eq {s s' : Session} {a : α} (h : Runs w s a s') : after w s = s' := by
  rw [after, h]

theorem Runs.unique {s s₁ s₂ : Session} {a b : α} (h : Runs w s a s₁) (h' : Runs w s b s₂) :
    a = b ∧ s₁ = s₂ := by
  rw [Runs, h] at h'
  exact ⟨Except.ok.inj (Prod.mk.inj h').1, (Prod.mk.inj h').2⟩

/-- Work goes on with other work, or it fails before that. -/
theorem after_bind (w : Work α) (f : α → Work β) (s : Session) :
    (∃ a s', Runs w s a s' ∧ after (w >>= f) s = after (f a) s') ∨
      after (w >>= f) s = after w s := by
  unfold Runs after
  rw [ExceptT.run_bind, StateT.run_bind]
  rcases hw : (ExceptT.run w).run s with ⟨x, s'⟩
  cases x with
  | error e => exact Or.inr rfl
  | ok a => exact Or.inl ⟨a, s', rfl, rfl⟩

theorem Runs.after_bind {s s' : Session} {a : α} (h : Runs w s a s') (f : α → Work β) :
    after (w >>= f) s = after (f a) s' := by
  unfold after
  rw [ExceptT.run_bind, StateT.run_bind, h]
  rfl

theorem after_asking_bind (g : Disk → α) (f : α → Work β) (s : Session) :
    after (asking g >>= f) s = after (f (g s.disk)) s := rfl

/-- A relation of a disk to those that come from it. -/
structure Progress (R : Disk → Disk → Prop) : Prop where
  refl : ∀ d, R d d
  trans : ∀ {d₁ d₂ d₃}, R d₁ d₂ → R d₂ d₃ → R d₁ d₃

theorem progress_eq : Progress (· = ·) := ⟨fun _ => rfl, Eq.trans⟩

/-- What a sound disk becomes when nothing is removed from it. -/
def Grown (d e : Disk) : Prop := Sound d → Sound e ∧ Extends d e

theorem progress_grown : Progress Grown := by
  refine ⟨fun d hd => ⟨hd, .refl d⟩, fun h h' hd => ?_⟩
  exact ⟨(h' (h hd).1).1, (h hd).2.trans (h' (h hd).1).2⟩

/-- Work that relates each disk to the disk after it, whether it fails or not. -/
def Keeps (R : Disk → Disk → Prop) (w : Work α) : Prop := ∀ s, R s.disk (after w s).disk

theorem Keeps.mono {R' : Disk → Disk → Prop} (h : Keeps R w) (hR : ∀ d e, R d e → R' d e) :
    Keeps R' w := fun s => hR _ _ (h s)

theorem Keeps.of_runs {s s' : Session} {a : α} (h : Keeps R w) (hw : Runs w s a s') :
    R s.disk s'.disk := hw.after_eq ▸ h s

section

variable (hR : Progress R)
include hR

theorem keeps_pure (a : α) : Keeps R (pure a) := fun s => hR.refl s.disk

theorem keeps_throw (e : SiteError) : Keeps R (throw e : Work α) := fun s => hR.refl s.disk

theorem keeps_report (n : Notice) : Keeps R (report n) := fun s => hR.refl s.disk

theorem keeps_reportAll (ns : List Notice) : Keeps R (reportAll ns) := fun s => hR.refl s.disk

theorem keeps_reportIf (reason : Bool) (n : Notice) : Keeps R (reportIf reason n) := by
  cases reason with
  | true => exact keeps_report hR n
  | false => exact keeps_pure hR ()

theorem keeps_asking (g : Disk → α) : Keeps R (asking g) := fun s => hR.refl s.disk

theorem keeps_reading (g : Disk → Except SiteError α) : Keeps R (reading g) := by
  intro s
  have hget : Runs get s s s := runs_get_iff.2 ⟨rfl, rfl⟩
  rw [reading, hget.after_bind]
  cases g s.disk with
  | ok a => exact hR.refl s.disk
  | error e => exact hR.refl s.disk

theorem keeps_changing {g : Disk → Except DiskError Disk} {cause : DiskError → SiteError}
    (hg : ∀ d e, g d = .ok e → R d e) : Keeps R (changing g cause) := by
  intro s
  have hget : Runs get s s s := runs_get_iff.2 ⟨rfl, rfl⟩
  rw [changing, hget.after_bind]
  cases hd : g s.disk with
  | ok d => exact hg _ _ hd
  | error e => exact hR.refl s.disk

theorem Keeps.bind (hw : Keeps R w) (hf : ∀ a, Keeps R (f a)) : Keeps R (w >>= f) := by
  intro s
  rcases after_bind w f s with ⟨a, s', hrun, heq⟩ | heq
  · rw [heq]
    exact hR.trans (hw.of_runs hrun) (hf a s')
  · rw [heq]
    exact hw s

theorem keeps_mapM {g : α → Work β} (hg : ∀ a, Keeps R (g a)) (as : List α) :
    Keeps R (as.mapM g) := by
  induction as with
  | nil => exact keeps_pure hR []
  | cons a as ih =>
    rw [List.mapM_cons]
    exact (hg a).bind hR fun b => ih.bind hR fun bs => keeps_pure hR (b :: bs)

theorem keeps_forM {g : α → Work Unit} (hg : ∀ a, Keeps R (g a)) (as : List α) :
    Keeps R (as.forM g) := by
  induction as with
  | nil => exact keeps_pure hR ()
  | cons a as ih => exact (hg a).bind hR fun _ => ih

end

theorem Keeps.tryCatch_throw {g : SiteError → SiteError} (hw : Keeps R w) :
    Keeps R (tryCatch w fun e => throw (g e)) := by
  intro s
  have heq : after (tryCatch w fun e => throw (g e)) s = after w s := by
    unfold after
    rw [ExceptT.run_tryCatch, StateT.run_bind]
    rcases (ExceptT.run w).run s with ⟨x, s'⟩
    cases x <;> rfl
  rw [heq]
  exact hw s

/-! ## The same work on another disk -/

/-- Work that has the same result on two disks that are like each other, and leaves them so. It is
known which disk there is in the end, of the first one, as nothing is removed from it. -/
structure Repeats (R : Disk → Disk → Prop) (final : Disk) (w : Work α) : Prop where
  grows : Keeps Grown w
  again : ∀ s t a s', R s.disk t.disk → Runs w s a s' → Extends s'.disk final →
    ∃ t', Runs w t a t' ∧ R s'.disk t'.disk

theorem repeats_pure (a : α) : Repeats R final (pure a) := by
  refine ⟨keeps_pure progress_grown a, fun s t b s' hlike hrun _ => ?_⟩
  rcases runs_pure_iff.1 hrun with ⟨rfl, rfl⟩
  exact ⟨t, runs_pure_iff.2 ⟨rfl, rfl⟩, hlike⟩

theorem repeats_throw (e : SiteError) : Repeats R final (throw e : Work α) :=
  ⟨keeps_throw progress_grown e, fun _ _ _ _ _ hrun _ => absurd hrun not_runs_throw⟩

theorem repeats_report (n : Notice) : Repeats R final (report n) := by
  refine ⟨keeps_report progress_grown n, fun s t _ s' hlike hrun _ => ?_⟩
  rw [runs_report_iff.1 hrun]
  exact ⟨_, runs_report_iff.2 rfl, hlike⟩

theorem repeats_reportIf (reason : Bool) (n : Notice) : Repeats R final (reportIf reason n) := by
  cases reason with
  | true => exact repeats_report n
  | false => exact repeats_pure ()

theorem repeats_asking {g : Disk → α} (hg : ∀ d e, R d e → Extends d final → g e = g d) :
    Repeats R final (asking g) := by
  refine ⟨keeps_asking progress_grown g, fun s t a s' hlike hrun hfinal => ?_⟩
  rcases runs_asking_iff.1 hrun with ⟨rfl, rfl⟩
  exact ⟨t, runs_asking_iff.2 ⟨(hg _ _ hlike hfinal).symm, rfl⟩, hlike⟩

theorem repeats_reading {g : Disk → Except SiteError α}
    (hg : ∀ d e, R d e → Extends d final → g e = g d) : Repeats R final (reading g) := by
  refine ⟨keeps_reading progress_grown g, fun s t a s' hlike hrun hfinal => ?_⟩
  rcases runs_reading_iff.1 hrun with ⟨hread, rfl⟩
  exact ⟨t, runs_reading_iff.2 ⟨(hg _ _ hlike hfinal).trans hread, rfl⟩, hlike⟩

theorem repeats_changing {g : Disk → Except DiskError Disk} {cause : DiskError → SiteError}
    (hgrows : ∀ d e, g d = .ok e → Grown d e)
    (hg : ∀ d e d', R d e → g d = .ok d' → Extends d' final → ∃ e', g e = .ok e' ∧ R d' e') :
    Repeats R final (changing g cause) := by
  refine ⟨keeps_changing progress_grown hgrows, fun s t _ s' hlike hrun hfinal => ?_⟩
  rcases runs_changing_iff.1 hrun with ⟨d', hd', rfl⟩
  rcases hg _ _ _ hlike hd' hfinal with ⟨e', he', hlike'⟩
  exact ⟨_, runs_changing_iff.2 ⟨e', he', rfl⟩, hlike'⟩

section

variable (hR : ∀ d e, R d e → Sound d)
include hR

/-- Work after other work does the same again, if it is known for the results that there can be. -/
theorem Repeats.bind_of_runs (hw : Repeats R final w) (hgrows : Keeps Grown (w >>= f))
    (hf : ∀ (s t : Session) a s', R s.disk t.disk → Runs w s a s' → Repeats R final (f a)) :
    Repeats R final (w >>= f) := by
  refine ⟨hgrows, fun s t b s'' hlike hrun hfinal => ?_⟩
  rcases runs_bind_iff.1 hrun with ⟨a, s', hfirst, hrest⟩
  -- The rest only adds to the disk, so the end is one for the first part as well.
  have hsound : Sound s'.disk := (hw.grows.of_runs hfirst (hR _ _ hlike)).1
  have hrepeats := hf s t a s' hlike hfirst
  have hfinal' : Extends s'.disk final := (hrepeats.grows.of_runs hrest hsound).2.trans hfinal
  rcases hw.again s t a s' hlike hfirst hfinal' with ⟨t', hfirst', hlike'⟩
  rcases hrepeats.again s' t' b s'' hlike' hrest hfinal with ⟨t'', hrest', hlike''⟩
  exact ⟨t'', runs_bind_iff.2 ⟨a, t', hfirst', hrest'⟩, hlike''⟩

theorem Repeats.bind (hw : Repeats R final w) (hf : ∀ a, Repeats R final (f a)) :
    Repeats R final (w >>= f) :=
  hw.bind_of_runs hR (hw.grows.bind progress_grown fun a => (hf a).grows) fun _ _ a _ _ _ => hf a

theorem repeats_mapM {g : α → Work β} (hg : ∀ a, Repeats R final (g a)) (as : List α) :
    Repeats R final (as.mapM g) := by
  induction as with
  | nil => exact repeats_pure []
  | cons a as ih =>
    rw [List.mapM_cons]
    exact (hg a).bind hR fun b => ih.bind hR fun bs => repeats_pure (b :: bs)

theorem repeats_forM {g : α → Work Unit} (hg : ∀ a, Repeats R final (g a)) (as : List α) :
    Repeats R final (as.forM g) := by
  induction as with
  | nil => exact repeats_pure ()
  | cons a as ih => exact (hg a).bind hR fun _ => ih

end

theorem Repeats.tryCatch_throw {g : SiteError → SiteError} (hw : Repeats R final w) :
    Repeats R final (tryCatch w fun e => throw (g e)) := by
  refine ⟨hw.grows.tryCatch_throw, fun s t a s' hlike hrun hfinal => ?_⟩
  rcases hw.again s t a s' hlike (runs_tryCatch_throw_iff.1 hrun) hfinal with ⟨t', hrun', hlike'⟩
  exact ⟨t', runs_tryCatch_throw_iff.2 hrun', hlike'⟩

end Work
end StaticBlog
