import StaticBlog.Proofs.Disk.Filling
import StaticBlog.Proofs.Disk.Soundness

/-!
# Disks that hold the same at some places

- `Disk.SameOn` : disks that hold the same at some places
- `Disk.SameOn.exists_createDirectories` : directories are made on both if nothing else is looked up
- `Disk.SameOn.createDirectories` : directories that are made on disks that agree outside a place
- `Disk.Twin` : disks that hold the same at some places, on which the same changes can be made
- `Disk.Twin.createDirectories`, `Disk.Twin.writeAt`, `Disk.Twin.copy`, `Disk.Twin.clear` : a change
  that looks up nothing else is made on both alike
-/

namespace StaticBlog
namespace Disk

variable {shared : Place → Prop} {d d' e e' final : Disk} {ahead : Bool} {links : Nat} {l m o : Place}
  {found : Found} {path : List Path.Component} {p : Path}

/-- Without links on a disk there are none below a place. -/
theorem unlinked_of_target? (h : ∀ x ∈ d.entries, x.2.target? = none) : Unlinked o d := by
  refine unlinked_of_forall fun x hx t ht => ?_
  have hnone := h x hx
  rw [ht] at hnone
  cases hnone

/-- Disks that hold the same at some places. -/
structure SameOn (shared : Place → Prop) (d e : Disk) : Prop where
  cwd : e.cwd = d.cwd
  get? : ∀ k, shared k → e.get? k = d.get? k

/-- A disk that has lost entries had them. -/
theorem Shrinks.extended (h : Shrinks d e) : Extends e d := by
  refine ⟨h.cwd.symm, fun k x hx => ⟨x, ?_, .refl x⟩⟩
  rcases h.get? k with hkept | hlost
  · rw [← hkept, hx]
  · rw [hlost] at hx
    cases hx

namespace SameOn

theorem put (h : SameOn shared d e) (m : Place) (x : Entry) :
    SameOn shared (d.put m x) (e.put m x) := by
  refine ⟨h.cwd, fun k hk => ?_⟩
  by_cases hroot : k = []
  · simp [Disk.get?, hroot]
  by_cases hkm : m = k
  · subst hkm
    rw [get?_put_self d x hroot, get?_put_self e x hroot]
  · rw [get?_put_of_ne d x hkm, get?_put_of_ne e x hkm]
    exact h.get? k hk

theorem eraseIf (h : SameOn shared d e) (lost : Place → Bool) :
    SameOn shared (d.eraseIf lost) (e.eraseIf lost) := by
  refine ⟨h.cwd, fun k hk => ?_⟩
  by_cases hroot : k = []
  · simp [Disk.get?, hroot]
  · rw [get?_eraseIf d lost hroot, get?_eraseIf e lost hroot, h.get? k hk]

/-- What is looked up below a path tells whether the disks look the same there. -/
theorem sameBelow (h : SameOn shared d e)
    (hp : ∀ ns, (∀ n ∈ ns, Path.IsName n) → ∀ k ∈ d.trail (p.down ns), shared k) :
    SameBelow d e p := ⟨h.cwd, fun ns hns k hk => h.get? k (hp ns hns k hk)⟩

section

variable (h : SameOn shared d e) (hp : ∀ k ∈ d.trail p, shared k)
include h hp

theorem entry_eq : e.entry p = d.entry p := entry_congr h.cwd fun k hk => h.get? k (hp k hk)

theorem trail_eq : e.trail p = d.trail p := trail_congr h.cwd fun k hk => h.get? k (hp k hk)

theorem isDirectory_eq : e.isDirectory p = d.isDirectory p := isDirectory_congr (h.entry_eq hp)

theorem readFile_eq : e.readFile p = d.readFile p := readFile_congr (h.entry_eq hp)

theorem reach_eq : e.reach ahead p = d.reach ahead p := by
  have hfollow : ∀ ahead, e.follow ahead linkLimit e.cwd p.components =
      d.follow ahead linkLimit d.cwd p.components := by
    intro ahead
    rw [h.cwd]
    exact (follow_congr fun k hk => h.get? k (hp k (trailFrom_subset_followed hk))).1
  simp only [reach, hfollow]

theorem locate_eq : e.locate ahead p = d.locate ahead p := by
  simp only [locate, h.reach_eq hp]

end

end SameOn

/-! ## Directories that are made on both disks -/

section

variable (h : SameOn shared d e)
include h

namespace SameOn

theorem exists_createDirectory (hp : ∀ k ∈ d.trail p, shared k) :
    d.createDirectory p = .ok d' → ∃ e', e.createDirectory p = .ok e' ∧ SameOn shared d' e' := by
  intro hd'
  rw [Disk.createDirectory] at hd' ⊢
  rw [h.reach_eq hp]
  split at hd'
  · cases hd'
  · next m _ =>
    cases hd'
    exact ⟨_, rfl, h.put m .directory⟩
  · cases hd'

/-- A directory that cannot be made on one disk cannot be made on the other for the same reason. -/
theorem createDirectory_error (hp : ∀ k ∈ d.trail p, shared k) {error : DiskError} :
    d.createDirectory p = .error error → e.createDirectory p = .error error := by
  intro hd'
  rw [Disk.createDirectory] at hd' ⊢
  rw [h.reach_eq hp]
  split at hd'
  · exact hd'
  · cases hd'
  · exact hd'

theorem exists_ensureDirectory (hp : ∀ k ∈ d.trail p, shared k) :
    d.ensureDirectory p = .ok d' → ∃ e', e.ensureDirectory p = .ok e' ∧ SameOn shared d' e' := by
  intro hd'
  rcases ensureDirectory_eq_ok_iff.1 hd' with hcreate | ⟨⟨error, hcreate⟩, hthere, rfl⟩
  · rcases h.exists_createDirectory hp hcreate with ⟨e', he', hsame⟩
    exact ⟨e', ensureDirectory_eq_ok_iff.2 (Or.inl he'), hsame⟩
  · refine ⟨e, ensureDirectory_eq_ok_iff.2 (Or.inr ⟨⟨error, ?_⟩, ?_, rfl⟩), h⟩
    · exact h.createDirectory_error hp hcreate
    · rw [h.isDirectory_eq hp, hthere]

/-- Directories are made on both disks, if nothing else is looked up on the way that the path has in
the end. -/
theorem exists_createDirectoriesFrom {fuel : Nat} (hfinal : Extends d' final)
    (hp : ∀ k ∈ final.trail p, shared k) :
    d.createDirectoriesFrom fuel p = .ok d' →
      ∃ e', e.createDirectoriesFrom fuel p = .ok e' ∧ SameOn shared d' e' := by
  intro hd'
  induction fuel generalizing d' p with
  | zero => cases hd'
  | succ fuel ih =>
    have hgrows : Extends d final := (makes_of_createDirectoriesFrom hd').1.extends.trans hfinal
    have hway : ∀ k ∈ d.trail p, shared k := fun k hk => hp k (hgrows.trail_subset p hk)
    rcases createDirectoriesFrom_succ_eq_ok_iff.1 hd' with ⟨htext, rfl⟩ | ⟨htext, hcreate |
      ⟨hmissing, q, above, hparent, habove, hensure⟩ | ⟨error, hother, hcreate, hthere, rfl⟩⟩
    · exact ⟨e, createDirectoriesFrom_succ_eq_ok_iff.2 (Or.inl ⟨htext, rfl⟩), h⟩
    · rcases h.exists_createDirectory hway hcreate with ⟨e', he', hsame⟩
      exact ⟨e', createDirectoriesFrom_succ_eq_ok_iff.2 (Or.inr ⟨htext, Or.inl he'⟩), hsame⟩
    · -- The directory above is made on both disks, and then this one.
      have hlast := (makes_of_ensureDirectory hensure).1.extends.trans hfinal
      rcases ih hlast (fun k hk => hp k (trail_parent_subset hparent hk)) habove with
        ⟨e₁, he₁, hsame⟩
      rcases hsame.exists_ensureDirectory (fun k hk => hp k (hlast.trail_subset p hk)) hensure with
        ⟨e', he', hsame'⟩
      refine ⟨e', createDirectoriesFrom_succ_eq_ok_iff.2 (Or.inr ⟨htext, Or.inr (Or.inl ?_)⟩), hsame'⟩
      exact ⟨h.createDirectory_error hway hmissing, q, e₁, hparent, he₁, he'⟩
    · refine ⟨e, createDirectoriesFrom_succ_eq_ok_iff.2 (Or.inr ⟨htext, Or.inr (Or.inr ?_)⟩), h⟩
      exact ⟨error, hother, h.createDirectory_error hway hcreate,
        (h.isDirectory_eq hway).trans hthere, rfl⟩

theorem exists_createDirectories (hfinal : Extends d' final) (hp : ∀ k ∈ final.trail p, shared k) :
    d.createDirectories p = .ok d' → ∃ e', e.createDirectories p = .ok e' ∧ SameOn shared d' e' :=
  h.exists_createDirectoriesFrom hfinal hp

end SameOn

end

/-! ## Directories on a way that is the same -/

/-- With the same links on both disks a path to a directory leads there on the same way. -/
theorem Leads.trailFrom_eq (hlinks : ∀ k t, d.get? k = some (.link t) ↔ e.get? k = some (.link t))
    {found' : Found} {m' : Place} (hd : Leads d true links l path found)
    (hm : found = .entry m .directory) (he : Leads e true links l path found')
    (hm' : found' = .entry m' .directory) :
    e.trailFrom true links l path = d.trailFrom true links l path := by
  -- Only a link could part the two walks, as both end in a directory.
  induction hd with
  | done links l => simp
  | root _ ih =>
    cases he with
    | root he => simpa using ih hm he
  | here _ ih =>
    cases he with
    | here he => simpa using ih hm he
  | up _ ih =>
    cases he with
    | up he => simpa using ih hm he
  | missing _ _ => cases hm
  | file _ _ => cases hm
  | directory hshort hget _ ih =>
    cases he with
    | missing _ _ => cases hm'
    | file _ _ => cases hm'
    | directory _ hget' he =>
      rw [trailFrom_name_directory hshort hget, trailFrom_name_directory hshort hget', ih hm he]
    | unfollowed hahead _ _ => cases hahead
    | link _ _ hget' _ =>
      rw [(hlinks _ _).2 hget'] at hget
      cases hget
  | unfollowed hahead _ _ => cases hahead
  | link hon hshort hget _ ih =>
    have hsame := (hlinks _ _).1 hget
    cases he with
    | missing _ hget' | file _ hget' | directory _ hget' _ =>
      rw [hsame] at hget'
      cases hget'
    | unfollowed hahead _ _ => cases hahead
    | link _ _ hget' he =>
      rw [hsame] at hget'
      cases hget'
      rw [trailFrom_name_link hshort hget hon, trailFrom_name_link hshort hsame hon, ih hm he]

theorem Open.trail_eq (hcwd : e.cwd = d.cwd)
    (hlinks : ∀ k t, d.get? k = some (.link t) ↔ e.get? k = some (.link t)) (hd : Open p o d)
    (he : Open p o e) : e.trail p = d.trail p := by
  have hleads := (entry_eq_ok_iff.1 hd.leads).2.2
  have hleads' := (entry_eq_ok_iff.1 he.leads).2.2
  rw [hcwd] at hleads'
  rw [trail, trail, hcwd]
  exact hleads.trailFrom_eq hlinks rfl hleads' rfl

/-- Directories do not change the links, so disks that agree outside a place without links have the
same ones. -/
theorem SameOn.link_iff {within within' : Place → Prop} (h : SameOn (¬ o <+: ·) d e)
    (hd : Makes within d d') (he : Makes within' e e') (hu : Unlinked o d') (hu' : Unlinked o e')
    (k : Place) (t : String) : d'.get? k = some (.link t) ↔ e'.get? k = some (.link t) := by
  by_cases hk : o <+: k
  · exact iff_of_false (hu k t hk) (hu' k t hk)
  · rw [hd.get?_link_iff, he.get?_link_iff, h.get? k hk]

/-- A directory that is new on one disk is on the way of the path, so another disk on which the path
has that way has an entry there too, and a new one if there was none. -/
theorem Makes.get?_of_made (hd : Makes (· ∈ d'.trail p) d d') (he : Makes (· ∈ e'.trail p) e e')
    (hopen : Open p o e') (hway : e'.trail p = d'.trail p) {k : Place} (hnone : d.get? k = none)
    (hnone' : e.get? k = none) (hmade : d'.get? k = some .directory) :
    e'.get? k = some .directory := by
  rcases hd.get? k with heq | ⟨hk, -⟩
  · rw [heq, hnone] at hmade
    cases hmade
  · have hk' : k ∈ e'.trail p := by rwa [hway]
    have hthere := (entry_eq_ok_iff.1 hopen.leads).2.2.get?_ne_none rfl k hk'
    rcases he.get? k with heq | ⟨-, -, hmade', -⟩
    · exact absurd (heq.trans hnone') hthere
    · exact hmade'

/-- Directories that are made outside a place are made on both of two disks that agree there, if the
path then leads to that place on both, and no links are in it. -/
theorem SameOn.createDirectories (h : SameOn (¬ o <+: ·) d e)
    (hd : d.createDirectories p = .ok d') (he : e.createDirectories p = .ok e')
    (hopen : Open p o d') (hopen' : Open p o e') : SameOn (¬ o <+: ·) d' e' := by
  have hmakes := (makes_of_createDirectories hd).1
  have hmakes' := (makes_of_createDirectories he).1
  have hcwd : e'.cwd = d'.cwd := by rw [hmakes.cwd, hmakes'.cwd, h.cwd]
  have hlinks := h.link_iff hmakes hmakes' hopen.unlinked hopen'.unlinked
  have htrail := hopen.trail_eq hcwd hlinks hopen'
  refine ⟨hcwd, fun k hk => ?_⟩
  have hsame := h.get? k hk
  -- Each disk has kept what was there, or it has a new directory, which the other one then has too.
  rcases hmakes.get? k with heq | ⟨-, hnone, hdir, -⟩
  · rcases hmakes'.get? k with heq' | ⟨-, hnone', hdir', -⟩
    · rw [heq, heq', hsame]
    · have hnone := hsame.symm.trans hnone'
      rw [hdir', hmakes'.get?_of_made hmakes hopen htrail.symm hnone' hnone hdir']
  · have hnone' := hsame.trans hnone
    rw [hdir, hmakes.get?_of_made hmakes' hopen' htrail hnone hnone' hdir]

/-! ## Changes on both disks -/

/-- Sound disks that hold the same at some places, and whose files are written at the same time. -/
structure Twin (shared : Place → Prop) (d e : Disk) : Prop extends SameOn shared d e where
  clock : e.clock = d.clock
  sound : Sound d
  sound' : Sound e

namespace Twin

theorem createDirectories (h : Twin shared d e) (hfinal : Extends d' final)
    (hp : ∀ k ∈ final.trail p, shared k) (hd' : d.createDirectories p = .ok d') :
    ∃ e', e.createDirectories p = .ok e' ∧ Twin shared d' e' := by
  rcases h.toSameOn.exists_createDirectories hfinal hp hd' with ⟨e', he', hsame⟩
  refine ⟨e', he', hsame, ?_, h.sound.createDirectories hd', h.sound'.createDirectories he'⟩
  rw [(makes_of_createDirectories he').1.clock, (makes_of_createDirectories hd').1.clock, h.clock]

theorem writeAt (h : Twin shared d e) (hp : ∀ k ∈ d.trail p, shared k) {content : Content}
    {modified : Int} :
    d.writeAt p content modified = .ok d' →
      ∃ e', e.writeAt p content modified = .ok e' ∧ Twin shared d' e' := by
  intro hd'
  have hput : ∃ m, d' = d.put m (.file content modified) ∧
      e.writeAt p content modified = .ok (e.put m (.file content modified)) := by
    rw [Disk.writeAt] at hd' ⊢
    rw [h.locate_eq hp]
    split at hd' <;> cases hd'
    · exact ⟨_, rfl, by simp_all⟩
    · exact ⟨_, rfl, rfl⟩
  rcases hput with ⟨m, heq, he'⟩
  refine ⟨_, he', ?_⟩
  subst heq
  exact ⟨h.put m _, h.clock, h.sound.writeAt hd', h.sound'.writeAt he'⟩

theorem write (h : Twin shared d e) (hp : ∀ k ∈ d.trail p, shared k) {text : String} :
    d.write p text = .ok d' → ∃ e', e.write p text = .ok e' ∧ Twin shared d' e' := by
  rw [Disk.write, Disk.write, h.clock]
  exact h.writeAt hp

theorem copy (h : Twin shared d e) {source : Path} (hsource : ∀ k ∈ d.trail source, shared k)
    (hp : ∀ k ∈ d.trail p, shared k) :
    d.copy source p = .ok d' → ∃ e', e.copy source p = .ok e' ∧ Twin shared d' e' := by
  intro hd'
  have hsame : e.sameEntry source p = d.sameEntry source p := by
    rw [sameEntry, sameEntry, h.entry_eq hsource, h.entry_eq hp]
  rw [Disk.copy] at hd' ⊢
  rw [h.readFile_eq hsource, hsame, h.clock]
  cases hread : d.readFile source with
  | error error =>
    rw [hread] at hd'
    split at hd'
    · next heq => cases heq
    · cases hd'
    · cases hd'
  | ok found =>
    rw [hread] at hd'
    exact h.writeAt hp hd'

theorem eraseIf (h : Twin shared d e) (lost : Place → Bool) :
    Twin shared (d.eraseIf lost) (e.eraseIf lost) :=
  ⟨h.toSameOn.eraseIf lost, h.clock, h.sound.eraseIf lost, h.sound'.eraseIf lost⟩

theorem clear (h : Twin shared d e) (hp : ∀ k ∈ d.trail p, shared k) :
    d.clear p = .ok d' → ∃ e', e.clear p = .ok e' ∧ Twin shared d' e' := by
  intro hd'
  have hlocate : e.locate false p = d.locate false p := h.locate_eq hp
  rcases clear_eq_ok_iff.1 hd' with ⟨l, hl, rfl⟩ | ⟨l, t, hl, rfl⟩
  · exact ⟨_, clear_eq_ok_iff.2 (Or.inl ⟨l, hlocate.trans hl, rfl⟩), h.eraseIf _⟩
  · exact ⟨_, clear_eq_ok_iff.2 (Or.inr ⟨l, t, hlocate.trans hl, rfl⟩), h.eraseIf _⟩

theorem removeCleared (h : Twin shared d e) (hp : ∀ k ∈ d.trail p, shared k) :
    d.removeCleared p = .ok d' → ∃ e', e.removeCleared p = .ok e' ∧ Twin shared d' e' := by
  intro hd'
  rw [Disk.removeCleared] at hd' ⊢
  rw [h.reach_eq hp]
  split at hd'
  · next l hreach =>
    split at hd'
    · cases hd'
    · next hdot =>
      split at hd'
      · cases hd'
      · next hup =>
        cases hd'
        exact ⟨e.erase l, by rw [if_neg hdot, if_neg hup], h.eraseIf _⟩
  · cases hd'
  · cases hd'
    exact ⟨e, rfl, h⟩
  · cases hd'
    exact ⟨e, rfl, h⟩
  · cases hd'

end Twin
end Disk
end StaticBlog
