import Mathlib.Data.Set.Card
import StaticBlog.Proofs.Disk.Tour
import StaticBlog.Proofs.Site.Containment

/-!
# Assets over assets

The assets of a site are laid over those of its theme: each path holds what the last one that has it
holds, and nothing else comes into the directory of the copies.

- `IsAsset` : whether names lead to an asset in a directory
- `isAsset_iff_mem_walk` : the assets are the files that a walk shows
- `WasEmpty`, `Receives` : a directory that was empty, and gets new files
- `Midway` : a disk while assets are copied
- `Lays` : what copying files of some names does, with `Lays.trans` for one after the other
- `lays_of_copyFile`, `lays_of_copySteps`, `exists_lays_of_copyTree` : one file, a walk, a directory
- `KeepsAssets` : no file has become an asset
- `Theme.site_assets_overlay_theme_assets` : what is in the directory of the copies, and their number
-/

namespace StaticBlog

open Disk (AllFiles Extends FileAt Makes Open Sound Step)

variable {d e x y : Disk} {source target output p : Path} {ns ms : List String} {k : Place}

/-! ## What files hold -/

namespace Disk

/-- What the file at a place holds. -/
def heldAt? (d : Disk) (k : Place) : Option Content :=
  match d.get? k with
  | some (.file content _) => some content
  | _ => none

/-- What the file that a path leads to holds. -/
def held? (d : Disk) (p : Path) : Option Content := (d.readFile p).toOption.map (·.1)

theorem held?_of_entry {content : Content} {modified : Int}
    (h : d.entry p = .ok (k, .file content modified)) : d.held? p = some content := by
  rw [held?, readFile, h]
  rfl

/-- A path that leads to a file leads to what is held at its place. -/
theorem FileAt.heldAt? (h : FileAt d p k) : d.heldAt? k = d.held? p ∧ d.heldAt? k ≠ none := by
  obtain ⟨content, modified, hentry⟩ := h
  have hget := ((entry_eq_ok_iff.1 hentry).2.2.get?_of_file rfl).1
  rw [held?_of_entry hentry, Disk.heldAt?, hget]
  exact ⟨rfl, Option.some_ne_none content⟩

theorem isFile_iff_fileAt : d.isFile p = true ↔ ∃ k, FileAt d p k := isFile_iff

/-- New directories hold no text. -/
theorem Makes.heldAt? {within : Place → Prop} (h : Makes within d e) (k : Place) :
    e.heldAt? k = d.heldAt? k := by
  obtain heq | ⟨-, hnone, hdir, -⟩ := h.get? k
  · rw [Disk.heldAt?, Disk.heldAt?, heq]
  · rw [Disk.heldAt?, Disk.heldAt?, hnone, hdir]

end Disk

/-! ## Assets -/

/-- Whether names lead to an asset in a directory: a file with nothing hidden on the way. -/
structure IsAsset (d : Disk) (source : Path) (ns : List String) : Prop where
  directory : d.isDirectory source = true
  below : ns ≠ []
  names : ∀ n ∈ ns, Path.IsName n
  shown : ∀ n ∈ ns, ¬ IsHiddenName n
  file : d.isFile (source.down ns) = true

theorem isDirectory_mono (h : Extends d e) : d.isDirectory p = true → e.isDirectory p = true := by
  intro hp
  obtain ⟨k, hentry⟩ := Disk.isDirectory_iff.1 hp
  obtain ⟨y, hy, hkind⟩ := h.entry hentry
  cases hkind
  exact Disk.isDirectory_iff.2 ⟨k, hy⟩

/-- An asset stays one when nothing is removed. -/
theorem IsAsset.mono (h : IsAsset d source ns) (hext : Extends d e) : IsAsset e source ns := by
  obtain ⟨k, hat⟩ := Disk.isFile_iff_fileAt.1 h.file
  exact ⟨isDirectory_mono hext h.directory, h.below, h.names, h.shown,
    Disk.isFile_iff_fileAt.2 ⟨k, hat.mono hext⟩⟩

/-- The names that lead from an asset directory to a file that a walk meets, unless it is hidden. -/
def shownNames? (source : Path) : Step → Option (List String)
  | .file q => if isHiddenBelow source q then none else some ((q.below source).map Path.Component.text)
  | .failure _ _ => none

/-- The names of all the files of a walk that are not hidden. -/
def shownNames (source : Path) (steps : List Step) : List (List String) :=
  steps.filterMap (shownNames? source)

theorem shownNames?_down (hns : ∀ n ∈ ns, Path.IsName n) :
    shownNames? source (.file (source.down ns)) =
      if isHiddenBelow source (source.down ns) then none else some ns := by
  rw [shownNames?, text_below_down hns]

theorem mem_shownNames_iff {steps : List Step}
    (hsteps : ∀ q, .file q ∈ steps → ∃ ns, (∀ n ∈ ns, Path.IsName n) ∧ q = source.down ns) :
    ns ∈ shownNames source steps ↔ (∀ n ∈ ns, Path.IsName n) ∧ (∀ n ∈ ns, ¬ IsHiddenName n) ∧
      .file (source.down ns) ∈ steps := by
  rw [shownNames, List.mem_filterMap]
  constructor
  · rintro ⟨step, hstep, hshown⟩
    cases step with
    | failure q error => cases hshown
    | file q =>
      obtain ⟨ms, hms, rfl⟩ := hsteps q hstep
      rw [shownNames?_down hms] at hshown
      split at hshown
      · cases hshown
      · next hvisible =>
        cases hshown
        exact ⟨hms, fun n hn hhidden => hvisible ((isHiddenBelow_down_iff hms).2 ⟨n, hn, hhidden⟩), hstep⟩
  · rintro ⟨hns, hvisible, hstep⟩
    have hnot : ¬ isHiddenBelow source (source.down ns) = true := by
      rw [isHiddenBelow_down_iff hns]
      rintro ⟨n, hn, hhidden⟩
      exact hvisible n hn hhidden
    exact ⟨_, hstep, by rw [shownNames?_down hns, if_neg hnot]⟩

/-- The assets in a directory that can be walked to its end are the files that the walk shows. -/
theorem isAsset_iff_mem_walk (hd : d.Proper) (hdir : d.isDirectory source = true)
    (hok : AllFiles (d.walk source)) :
    IsAsset d source ns ↔ ns ∈ shownNames source (d.walk source) := by
  have hmem := Disk.mem_walk_iff hd hdir hok
  rw [mem_shownNames_iff fun q hq => Disk.exists_down_of_mem_walk hd hq, hmem]
  constructor
  · intro h
    exact ⟨h.names, h.shown, ns, h.below, h.names, rfl, h.file⟩
  · rintro ⟨hns, hshown, ms, hne, hms, heq, hfile⟩
    have hsame : ns = ms := Path.down_injective hns hms heq
    exact ⟨hdir, hsame ▸ hne, hns, hshown, hfile⟩

theorem allFiles_file (q : Path) : AllFiles [.file q] := by
  intro p error hmem
  cases List.mem_singleton.1 hmem

/-- A walk shows no names twice. -/
theorem nodup_shownNames (hd : Sound d) (source : Path) : (shownNames source (d.walk source)).Nodup := by
  have hpaths := (Disk.tours_walk hd source).nodup_paths hd.proper
  rw [List.Nodup, List.pairwise_map] at hpaths
  rw [shownNames, List.Nodup, List.pairwise_filterMap]
  refine hpaths.imp_of_mem fun {a b} ha hb hne ns hns ms hms heq => ?_
  cases a with
  | failure q error => cases hns
  | file q =>
    cases b with
    | failure q' error => cases hms
    | file q' =>
      -- Files below the directory with the same names have the same path.
      obtain ⟨as, has, rfl⟩ := Disk.exists_down_of_mem_walk hd.proper ha
      obtain ⟨bs, hbs, rfl⟩ := Disk.exists_down_of_mem_walk hd.proper hb
      rw [shownNames?_down has] at hns
      rw [shownNames?_down hbs] at hms
      split at hns <;> cases hns
      split at hms <;> cases hms
      exact hne (congrArg (fun names => (source.down names)) heq)

/-! ## The directory of the copies -/

/-- Whether a directory that a path leads to in the end was empty before, or was not there. -/
def WasEmpty (d e : Disk) (p : Path) : Prop :=
  ∀ o, e.entry p = .ok (o, .directory) → ∀ k x, o <+: k → d.get? k = some x → k = o ∧ x = .directory

/-- A disk that gets new files below a path: each one is at a place of its own, where nothing was. -/
structure Receives (d e : Disk) (target : Path) : Prop where
  fresh : ∀ ns k, ns ≠ [] → (∀ n ∈ ns, Path.IsName n) → FileAt e (target.down ns) k → d.get? k = none
  apart : ∀ ns ms k, ns ≠ [] → (∀ n ∈ ns, Path.IsName n) → (∀ n ∈ ms, Path.IsName n) →
    FileAt e (target.down ns) k → FileAt e (target.down ms) k → ns = ms

/-- Steps that write below a directory make no links. -/
theorem WritesBelow.link (h : WritesBelow output d e) {t : String} :
    e.get? k = some (.link t) → d.get? k = some (.link t) := by
  intro hget
  obtain heq | ⟨-, hdir⟩ | ⟨ns, -, -, hfile⟩ := h.get? k
  · rw [← heq, hget]
  · rw [hget] at hdir
    cases hdir
  · obtain ⟨content, modified, hget'⟩ := hfile.hasFile
    rw [hget] at hget'
    cases hget'

theorem WasEmpty.open (h : WasEmpty d e target) (hwrites : WritesBelow output d e) {o : Place}
    (ho : e.entry target = .ok (o, .directory)) : Open target o e := by
  refine ⟨ho, fun k t hk hget => ?_⟩
  cases (h o ho k _ hk (hwrites.link hget)).2

theorem WasEmpty.receives (h : WasEmpty d e target) (hwrites : WritesBelow output d e)
    (htext : target.text ≠ "") : Receives d e target := by
  -- A file below the path tells that the path leads to a directory.
  have hplace : ∀ ns k, ns ≠ [] → (∀ n ∈ ns, Path.IsName n) → FileAt e (target.down ns) k →
      ∃ o, e.entry target = .ok (o, .directory) ∧ Open target o e ∧ k = o ++ ns := by
    rintro ns k hne hns ⟨content, modified, hentry⟩
    obtain ⟨o, ho⟩ := Disk.entry_of_entry_down htext hns hne hentry
    have hopen := h.open hwrites ho
    exact ⟨o, ho, hopen, Disk.place_of_entry_down hopen hns hentry⟩
  constructor
  · intro ns k hne hns hat
    obtain ⟨o, ho, -, rfl⟩ := hplace ns k hne hns hat
    cases hget : d.get? (o ++ ns) with
    | none => rfl
    | some x =>
      have hroot := (h o ho _ x (List.prefix_append o ns) hget).1
      exact absurd (List.append_right_eq_self.1 hroot) hne
  · rintro ns ms k hne hns hms hat ⟨content, modified, hentry⟩
    obtain ⟨o, -, hopen, rfl⟩ := hplace ns k hne hns hat
    exact List.append_cancel_left (Disk.place_of_entry_down hopen hms hentry)

/-! ## Copying -/

/-- A disk while assets are copied: all that was there is still there as it was, and what is there now
stays. -/
structure Midway (d e x : Disk) : Prop where
  sound : Sound x
  cwd : x.cwd = d.cwd
  kept : ∀ k y, d.get? k = some y → x.get? k = some y
  later : Extends x e

namespace Midway

theorem earlier (h : Midway d e x) : Extends d x :=
  ⟨h.cwd, fun k y hy => ⟨y, h.kept k y hy, .refl y⟩⟩

/-- A file that was there holds what it held. -/
theorem entry (h : Midway d e x) {content : Content} {modified : Int}
    (hentry : d.entry p = .ok (k, .file content modified)) :
    x.entry p = .ok (k, .file content modified) := by
  obtain ⟨y, hy, hkind⟩ := h.earlier.entry hentry
  cases hkind with
  | file _ content' _ modified' =>
    have hget := ((Disk.entry_eq_ok_iff.1 hentry).2.2.get?_of_file rfl).1
    have hget' := ((Disk.entry_eq_ok_iff.1 hy).2.2.get?_of_file rfl).1
    rw [h.kept k _ hget] at hget'
    cases hget'
    exact hy

/-- New directories keep what was there. -/
theorem makes {within : Place → Prop} (h : Midway d e x) (hmakes : Makes within x y) (hsound : Sound y)
    (hlater : Extends y e) : Midway d e y := by
  refine ⟨hsound, hmakes.cwd.trans h.cwd, fun k z hz => ?_, hlater⟩
  have hthere := h.kept k z hz
  obtain heq | ⟨-, hnone, -⟩ := hmakes.get? k
  · rw [heq, hthere]
  · rw [hnone] at hthere
    cases hthere

/-- So does what is put where nothing was. -/
theorem put {z : Entry} (h : Midway d e x) (hfresh : d.get? k = none) (hsound : Sound (x.put k z))
    (hlater : Extends (x.put k z) e) : Midway d e (x.put k z) := by
  refine ⟨hsound, h.cwd, fun l w hw => ?_, hlater⟩
  have hne : k ≠ l := by
    rintro rfl
    rw [hfresh] at hw
    cases hw
  rw [Disk.get?_put_of_ne x z hne]
  exact h.kept l w hw

/-- A file that was there is not one that comes where nothing was. -/
theorem sameEntry_eq_false (h : Midway d e x) {content : Content} {modified : Int} {q : Path} {m : Place}
    (hentry : d.entry p = .ok (k, .file content modified)) (hat : FileAt e q m)
    (hfresh : d.get? m = none) : x.sameEntry p q = false := by
  rw [Disk.sameEntry, h.entry hentry]
  cases hq : x.entry q with
  | error error => rfl
  | ok found =>
    obtain ⟨l, z⟩ := found
    obtain ⟨z', hz', -⟩ := h.later.entry hq
    obtain ⟨content', modified', hend⟩ := hat
    rw [hend] at hz'
    cases hz'
    refine decide_eq_false ?_
    rintro rfl
    rw [((Disk.entry_eq_ok_iff.1 hentry).2.2.get?_of_file rfl).1] at hfresh
    cases hfresh

end Midway

/-- What copying the files of some names does to a disk: each copy holds what the file held, and what
is held anywhere else stays. -/
structure Lays (d e : Disk) (source target : Path) (new : List (List String)) (x y : Disk) : Prop where
  midway : Midway d e y
  below : ∀ ns ∈ new, ns ≠ [] ∧ ∀ n ∈ ns, Path.IsName n
  there : ∀ ns ∈ new, ∃ k, FileAt e (target.down ns) k ∧ y.heldAt? k = d.held? (source.down ns)
  elsewhere : ∀ k, (∀ ns ∈ new, ¬ FileAt e (target.down ns) k) → y.heldAt? k = x.heldAt? k

namespace Lays

theorem refl (h : Midway d e x) : Lays d e source target [] x x :=
  ⟨h, fun _ hns => absurd hns List.not_mem_nil, fun _ hns => absurd hns List.not_mem_nil, fun _ _ => rfl⟩

/-- Where other names lead to is elsewhere. -/
theorem heldAt?_of_not_mem {new : List (List String)} (hreceives : Receives d e target)
    (h : Lays d e source target new x y) (hne : ns ≠ []) (hns : ∀ n ∈ ns, Path.IsName n)
    (hnot : ns ∉ new) (hat : FileAt e (target.down ns) k) : y.heldAt? k = x.heldAt? k := by
  refine h.elsewhere k fun ms hms hat' => hnot ?_
  rwa [hreceives.apart ns ms k hne hns (h.below ms hms).2 hat hat']

/-- What is copied first stays, or is copied again. -/
theorem trans {z : Disk} {new new' : List (List String)} (hreceives : Receives d e target)
    (h : Lays d e source target new x y) (h' : Lays d e source target new' y z) :
    Lays d e source target (new ++ new') x z where
  midway := h'.midway
  below ns hns := (List.mem_append.1 hns).elim (h.below ns) (h'.below ns)
  there ns hns := by
    by_cases hagain : ns ∈ new'
    · exact h'.there ns hagain
    · obtain hfirst | hsecond := List.mem_append.1 hns
      · obtain ⟨hne, hnames⟩ := h.below ns hfirst
        obtain ⟨k, hat, hheld⟩ := h.there ns hfirst
        exact ⟨k, hat, (h'.heldAt?_of_not_mem hreceives hne hnames hagain hat).trans hheld⟩
      · exact absurd hsecond hagain
  elsewhere k hk := by
    calc z.heldAt? k = y.heldAt? k := h'.elsewhere k fun ns hns => hk ns (List.mem_append_right _ hns)
      _ = x.heldAt? k := h.elsewhere k fun ns hns => hk ns (List.mem_append_left _ hns)

end Lays

/-- Copying a file below a path makes directories and copies it then. -/
theorem exists_of_runs_copyFile {q : Path} {before after : Session} (hns : ∀ n ∈ ns, Path.IsName n)
    (hne : ns ≠ []) : Work.Runs (copyFile q (target.down ns)) before () after →
      ∃ dir made, before.disk.createDirectories dir = .ok made ∧
        made.copy q (target.down ns) = .ok after.disk := by
  intro h
  obtain hnil | ⟨front, n, heq⟩ := List.eq_nil_or_concat ns
  · exact absurd hnil hne
  rw [List.concat_eq_append] at heq
  subst heq
  have hfront : ∀ m ∈ front, Path.IsName m := fun m hm => hns m (by simp [hm])
  obtain ⟨dir, hparent, -⟩ := Path.parent?_down target hfront (hns n (by simp))
  rw [copyFile, hparent] at h
  obtain ⟨_, s₁, hmake, hcopy⟩ := Work.runs_bind_iff.1 h
  obtain ⟨made, hmade, rfl⟩ := Work.runs_changing_iff.1 hmake
  obtain ⟨copied, hcopied, rfl⟩ := Work.runs_changing_iff.1 hcopy
  exact ⟨dir, made, hmade, hcopied⟩

/-- Copying an asset lays it where its names lead. -/
theorem lays_of_copyFile {before after : Session} (hreceives : Receives d e target)
    (hmidway : Midway d e before.disk) (hasset : IsAsset d source ns)
    (hlater : Extends after.disk e) :
    Work.Runs (copyFile (source.down ns) (target.down ns)) before () after →
      Lays d e source target [ns] before.disk after.disk := by
  intro h
  have hnames := hasset.names
  obtain ⟨m, content, modified, hentry⟩ := Disk.isFile_iff.1 hasset.file
  obtain ⟨dir, made, hmade, hcopied⟩ := exists_of_runs_copyFile hnames hasset.below h
  have hmakes := (Disk.makes_of_createDirectories hmade).1
  have hmidway' : Midway d e made := hmidway.makes hmakes (hmidway.sound.createDirectories hmade)
    ((Disk.extends_of_copy hcopied).trans hlater)
  have hsound := hmidway'.sound.copy hcopied
  rw [Disk.copy, Disk.readFile, hmidway'.entry hentry] at hcopied
  obtain ⟨l, hl, heq, -, hat⟩ := Disk.put_of_writeAt hcopied
  have hfile : FileAt e (target.down ns) l :=
    FileAt.mono ⟨_, _, hat (Path.endsInSlash_down target hnames hasset.below)⟩ hlater
  -- Nothing was where the copy is now, so an asset is not copied to itself.
  have hfresh : d.get? l = none := hreceives.fresh ns l hasset.below hnames hfile
  rw [hmidway'.sameEntry_eq_false hentry hfile hfresh, if_neg Bool.false_ne_true] at heq
  rw [heq] at hsound hlater ⊢
  refine ⟨hmidway'.put hfresh hsound hlater, fun ms hms => ?_, fun ms hms => ?_, fun k hk => ?_⟩
  · rw [List.mem_singleton.1 hms]
    exact ⟨hasset.below, hnames⟩
  · rw [List.mem_singleton.1 hms]
    refine ⟨l, hfile, ?_⟩
    rw [Disk.held?_of_entry hentry, Disk.heldAt?, Disk.get?_put_self made _ hl]
  · have hne : l ≠ k := by
      rintro rfl
      exact hk ns List.mem_cons_self hfile
    rw [Disk.heldAt?, Disk.get?_put_of_ne made _ hne]
    exact hmakes.heldAt? k

/-- Copying the files of a walk lays those that are not hidden, and counts them. -/
theorem lays_of_copySteps {steps : List Step} {count : Nat} {before after : Session}
    (hreceives : Receives d e (output.join "assets")) (hmidway : Midway d e before.disk)
    (hsteps : ∀ q, .file q ∈ steps → ∃ ns, (∀ n ∈ ns, Path.IsName n) ∧ q = source.down ns)
    (hassets : ∀ ns ∈ shownNames source steps, IsAsset d source ns)
    (hlater : Extends after.disk e) :
    Work.Runs (copySteps source (output.join "assets") steps) before count after →
      Lays d e source (output.join "assets") (shownNames source steps) before.disk after.disk ∧
        count = (shownNames source steps).length := by
  intro h
  induction steps generalizing before count with
  | nil =>
    obtain ⟨hcount, rfl⟩ := Work.runs_pure_iff.1 h
    exact ⟨.refl hmidway, hcount⟩
  | cons step rest ih =>
    have hrest : ∀ q, .file q ∈ rest → ∃ ns, (∀ n ∈ ns, Path.IsName n) ∧ q = source.down ns :=
      fun q hq => hsteps q (List.mem_cons_of_mem _ hq)
    cases step with
    | failure q error => exact absurd h Work.not_runs_throw
    | file q =>
      obtain ⟨ns, hns, rfl⟩ := hsteps q List.mem_cons_self
      have hnames : shownNames? source (.file (source.down ns)) = _ := shownNames?_down hns
      rw [copySteps] at h
      split at h
      · next hhidden =>
        -- A hidden file is passed over.
        rw [if_pos hhidden] at hnames
        have hskip : shownNames source (.file (source.down ns) :: rest) = shownNames source rest :=
          List.filterMap_cons_none hnames
        rw [hskip] at hassets ⊢
        exact ih hmidway hrest hassets h
      · next hshown =>
        rw [if_neg hshown] at hnames
        have htake : shownNames source (.file (source.down ns) :: rest) =
            [ns] ++ shownNames source rest := List.filterMap_cons_some hnames
        rw [htake] at hassets ⊢
        obtain ⟨_, s₁, hcopy, h⟩ := Work.runs_bind_iff.1 h
        obtain ⟨n, s₂, hcopies, h⟩ := Work.runs_bind_iff.1 h
        obtain ⟨hcount, rfl⟩ := Work.runs_pure_iff.1 h
        rw [below_down hns, extend_names] at hcopy
        have hassetNames : ∀ n ∈ "assets" :: ns, Path.IsName n := List.forall_mem_cons.2 ⟨by decide, hns⟩
        have hkeeps : WritesBelow output before.disk s₁.disk :=
          (keeps_copyFile hassetNames (by simp)).of_runs hcopy hmidway.sound
        have hgrows := ((keeps_copySteps hrest).of_runs hcopies hkeeps.sound).extends
        have hfirst := lays_of_copyFile hreceives hmidway (hassets ns (by simp))
          (hgrows.trans hlater) hcopy
        obtain ⟨hlays, hn⟩ := ih hfirst.midway hrest (fun ms hms => hassets ms (by simp [hms])) hcopies
        refine ⟨hfirst.trans hreceives hlays, ?_⟩
        rw [hcount, hn, List.length_append, List.length_singleton, Nat.add_comm]

/-- Whether each asset of a directory was one before. -/
def KeepsAssets (d e : Disk) (source : Path) : Prop := ∀ ns, IsAsset e source ns → IsAsset d source ns

/-- It was if a walk meets the same as before. -/
theorem keepsAssets_of_walk (hd : d.Proper) (he : e.Proper) (hdir : d.isDirectory source = true)
    (hok : AllFiles (d.walk source)) (hwalk : e.walk source = d.walk source) :
    KeepsAssets d e source := by
  intro ns h
  rw [isAsset_iff_mem_walk he h.directory (hwalk ▸ hok), hwalk] at h
  exact (isAsset_iff_mem_walk hd hdir hok).2 h

/-- Copying what is in an asset directory lays its assets, and counts them. -/
theorem exists_lays_of_copyTree {count : Nat} {before after : Session}
    (hreceives : Receives d e (output.join "assets")) (hmidway : Midway d e before.disk)
    (hkeeps : KeepsAssets d e source) (hlater : Extends after.disk e) :
    Work.Runs (copyTree source (output.join "assets")) before count after →
      ∃ new, new.Nodup ∧ (∀ ns, ns ∈ new ↔ IsAsset d source ns) ∧ count = new.length ∧
        Lays d e source (output.join "assets") new before.disk after.disk := by
  intro h
  -- Assets that are there now were there before, as they are there in the end.
  have hsame : ∀ ns, IsAsset before.disk source ns ↔ IsAsset d source ns := fun ns =>
    ⟨fun hns => hkeeps ns (hns.mono hmidway.later), fun hns => hns.mono hmidway.earlier⟩
  obtain ⟨there, s₁, hasking, h⟩ := Work.runs_bind_iff.1 h
  obtain ⟨hthere, hs₁⟩ := Work.runs_asking_iff.1 hasking
  rw [hs₁] at h
  cases hdir : before.disk.isDirectory source with
  | false =>
    rw [hthere, hdir] at h
    obtain ⟨hcount, rfl⟩ := Work.runs_pure_iff.1 h
    refine ⟨[], List.nodup_nil, fun ns => ?_, hcount, .refl hmidway⟩
    rw [← hsame]
    refine iff_of_false List.not_mem_nil fun hns => ?_
    rw [hns.directory] at hdir
    cases hdir
  | true =>
    rw [hthere, hdir] at h
    obtain ⟨steps, s₂, hwalk, h⟩ := Work.runs_bind_iff.1 h
    obtain ⟨rfl, hs₂⟩ := Work.runs_asking_iff.1 hwalk
    rw [hs₂] at h
    have hproper := hmidway.sound.proper
    have hmem : ∀ ns, ns ∈ shownNames source (before.disk.walk source) ↔ IsAsset d source ns := fun ns =>
      (isAsset_iff_mem_walk hproper hdir (allFiles_of_copySteps h)).symm.trans (hsame ns)
    obtain ⟨hlays, hcount⟩ := lays_of_copySteps hreceives hmidway
      (fun q hq => Disk.exists_down_of_mem_walk hproper hq) (fun ns hns => (hmem ns).1 hns) hlater h
    exact ⟨_, nodup_shownNames hmidway.sound source, hmem, hcount, hlays⟩

/-- The number of different elements of a list. -/
theorem encard_of_nodup {new : List (List String)} {names : List String → Prop} (hnodup : new.Nodup)
    (hmem : ∀ ns, ns ∈ new ↔ names ns) : {ns | names ns}.encard = new.length := by
  classical
  have hset : {ns | names ns} = (new.toFinset : Set (List String)) := by
    ext ns
    simp [← hmem]
  rw [hset, Set.encard_coe_eq_coe_finsetCard, List.toFinset_card_of_nodup hnodup]

/-- An output directory that is there and empty has no assets in it yet. -/
theorem wasEmpty_assets (hwrites : WritesBelow output d e) (hdir : d.isDirectory output = true)
    (hempty : WasEmpty d d output) : WasEmpty d e (output.join "assets") := by
  obtain ⟨r, hr⟩ := Disk.isDirectory_iff.1 hdir
  obtain ⟨y, hy, hkind⟩ := hwrites.extends.entry hr
  cases hkind
  have hopen : Open output r e := by
    refine ⟨hy, fun k t hk hget => ?_⟩
    cases (hempty r hr k _ hk (hwrites.link hget)).2
  intro o ho k x hk hget
  have hname : ∀ n ∈ ["assets"], Path.IsName n := by decide
  have hplace : o = r ++ ["assets"] := Disk.place_of_entry_down hopen hname ho
  -- What is at the new directory or below it would have been in the empty one.
  subst hplace
  obtain ⟨rfl, -⟩ := hempty r hr k x ((List.prefix_append r ["assets"]).trans hk) hget
  have hlength := hk.length_le
  simp at hlength

/-- Whether a directory is empty can be seen from the entries of a disk. -/
theorem wasEmpty_of_forall {o : Place} (hp : (d.entry p).toOption = some (o, .directory)) (hne : o ≠ [])
    (h : ∀ z ∈ d.entries, o <+: z.1 → z = (o, .directory)) : WasEmpty d d p := by
  intro o' ho' k z hk hget
  rw [eq_ok_of_toOption hp] at ho'
  cases ho'
  have hroot : k ≠ [] := by
    rintro rfl
    exact hne (List.prefix_nil.1 hk)
  rw [Disk.get?, if_neg hroot] at hget
  have hentry := h _ (Disk.mem_of_find?_eq_some hget) hk
  exact ⟨congrArg Prod.fst hentry, congrArg Prod.snd hentry⟩

namespace Theme

/-- What copying the assets of a theme and then those of a site does: the first are laid, and then
the others. -/
theorem exists_lays_of_copyAssets {t : Theme} {siteAssets : Path} {count : Nat} {before after : Session}
    (hd : Sound before.disk) (hreceives : Receives before.disk after.disk (output.join "assets"))
    (htheme : KeepsAssets before.disk after.disk (t.dir.join "assets"))
    (hsite : KeepsAssets before.disk after.disk siteAssets) :
    Work.Runs (t.copyAssets siteAssets output) before count after →
      ∃ new new' mid, Lays before.disk after.disk (t.dir.join "assets") (output.join "assets") new
          before.disk mid ∧
        Lays before.disk after.disk siteAssets (output.join "assets") new' mid after.disk ∧
        (new.Nodup ∧ ∀ ns, ns ∈ new ↔ IsAsset before.disk (t.dir.join "assets") ns) ∧
        (new'.Nodup ∧ ∀ ns, ns ∈ new' ↔ IsAsset before.disk siteAssets ns) ∧
        count = new.length + new'.length := by
  intro h
  obtain ⟨fromTheme, s₁, hcopyTheme, h⟩ := Work.runs_bind_iff.1 h
  obtain ⟨_, s₂, hnotice, h⟩ := Work.runs_bind_iff.1 h
  obtain ⟨fromSite, s₃, hcopySite, h⟩ := Work.runs_bind_iff.1 h
  obtain ⟨_, s₄, hnotice', h⟩ := Work.runs_bind_iff.1 h
  obtain ⟨rfl, rfl⟩ := Work.runs_pure_iff.1 h
  have hmid := Work.disk_of_runs_reportIf hnotice
  have hend := Work.disk_of_runs_reportIf hnotice'
  -- The disk only grows, first to the one in the middle and then to the last one.
  have hfirst : WritesBelow output before.disk s₁.disk := (keeps_copyTree _).of_runs hcopyTheme hd
  rw [← hmid] at hfirst
  have hsecond : WritesBelow output s₂.disk s₃.disk := (keeps_copyTree _).of_runs hcopySite hfirst.sound
  have hall : Extends before.disk s₃.disk := hfirst.extends.trans hsecond.extends
  rw [hend] at hreceives htheme hsite ⊢
  have hstart : Midway before.disk s₃.disk before.disk := ⟨hd, rfl, fun _ _ => id, hall⟩
  obtain ⟨new, hnodup, hmem, hcount, hlays⟩ := exists_lays_of_copyTree hreceives hstart htheme
    (hmid ▸ hsecond.extends) hcopyTheme
  rw [← hmid] at hlays
  obtain ⟨new', hnodup', hmem', hcount', hlays'⟩ := exists_lays_of_copyTree hreceives hlays.midway hsite
    (.refl s₃.disk) hcopySite
  exact ⟨new, new', s₂.disk, hlays, hlays', ⟨hnodup, hmem⟩, ⟨hnodup', hmem'⟩, by rw [hcount, hcount']⟩

/-- When assets have been copied into an output directory that was empty or missing, and no copy has
become an asset itself, the files below the directory of the copies are those that are assets of the
theme or of the site. Each one holds what the asset of the site does, and if there is none what that
of the theme does. The result is the number of assets of the theme and of those of the site. -/
theorem site_assets_overlay_theme_assets (t : Theme) (siteAssets output : Path) {count : Nat}
    {after : Session} (hd : d.Sound) (hempty : WasEmpty d after.disk (output.join "assets"))
    (htheme : KeepsAssets d after.disk (t.dir.join "assets"))
    (hsite : KeepsAssets d after.disk siteAssets)
    (hrun : (t.copyAssets siteAssets output).runOn d = (.ok count, after)) :
    (∀ ns, ns ≠ [] → (∀ n ∈ ns, Path.IsName n) →
      (after.disk.isFile ((output.join "assets").down ns) = true ↔
        IsAsset d (t.dir.join "assets") ns ∨ IsAsset d siteAssets ns)) ∧
    (∀ ns, IsAsset d siteAssets ns →
      after.disk.held? ((output.join "assets").down ns) = d.held? (siteAssets.down ns)) ∧
    (∀ ns, IsAsset d (t.dir.join "assets") ns → ¬ IsAsset d siteAssets ns →
      after.disk.held? ((output.join "assets").down ns) =
        d.held? ((t.dir.join "assets").down ns)) ∧
    (count : ℕ∞) = {ns | IsAsset d (t.dir.join "assets") ns}.encard +
      {ns | IsAsset d siteAssets ns}.encard := by
  have h : Work.Runs (t.copyAssets siteAssets output) ⟨d, []⟩ count after := Work.runOn_eq_ok_iff.1 hrun
  have hwrites : WritesBelow output d after.disk := (t.keeps_copyAssets siteAssets).of_runs h hd
  have htext : (output.join "assets").text ≠ "" := by
    simpa using (Path.toList_join_ne output (n := "assets") (by decide)).1
  have hreceives := hempty.receives hwrites htext
  have hbefore : Sound (Session.disk ⟨d, []⟩) := hd
  obtain ⟨new, new', mid, hlays, hlays', ⟨hnodup, hmem⟩, ⟨hnodup', hmem'⟩, hcount⟩ :=
    exists_lays_of_copyAssets hbefore hreceives htheme hsite h
  refine ⟨fun ns hne hns => ⟨fun hfile => ?_, ?_⟩, fun ns hns => ?_, fun ns hns hnot => ?_, ?_⟩
  · -- What is laid nowhere is held as before, and nothing was there.
    obtain ⟨k, hk⟩ := Disk.isFile_iff_fileAt.1 hfile
    rw [← hmem, ← hmem']
    by_contra hnone
    obtain ⟨hnew, hnew'⟩ := not_or.1 hnone
    have hheld : after.disk.heldAt? k = none := by
      calc after.disk.heldAt? k = mid.heldAt? k := hlays'.heldAt?_of_not_mem hreceives hne hns hnew' hk
        _ = d.heldAt? k := hlays.heldAt?_of_not_mem hreceives hne hns hnew hk
        _ = none := by rw [Disk.heldAt?, hreceives.fresh ns k hne hns hk]
    exact hk.heldAt?.2 hheld
  · rintro (hns | hns)
    · exact Disk.isFile_iff_fileAt.2 ((hlays.there ns ((hmem ns).2 hns)).imp fun k hk => hk.1)
    · exact Disk.isFile_iff_fileAt.2 ((hlays'.there ns ((hmem' ns).2 hns)).imp fun k hk => hk.1)
  · obtain ⟨k, hk, hheld⟩ := hlays'.there ns ((hmem' ns).2 hns)
    rw [← hk.heldAt?.1, hheld]
  · -- The site has no such asset, so the copy of the theme's is the last one.
    obtain ⟨k, hk, hheld⟩ := hlays.there ns ((hmem ns).2 hns)
    rw [← hmem'] at hnot
    rw [← hk.heldAt?.1, hlays'.heldAt?_of_not_mem hreceives hns.below hns.names hnot hk, hheld]
  · rw [encard_of_nodup hnodup hmem, encard_of_nodup hnodup' hmem', hcount, Nat.cast_add]

/-- A theme and a site that both have a style sheet, and an empty output directory. -/
def overlaidDisk : Disk where
  entries := [(["theme"], .directory), (["theme", "assets"], .directory),
    (["theme", "assets", "css"], .directory),
    (["theme", "assets", "css", "style.css"], .file (.text "theme") 0),
    (["source"], .directory), (["source", "css"], .directory),
    (["source", "css", "style.css"], .file (.text "site") 0), (["dist"], .directory)]

/-- The theme in the directory of that name. -/
def plainTheme : Theme := ⟨⟨"theme"⟩, []⟩

theorem sound_overlaidDisk : overlaidDisk.Sound := Disk.sound_of_forall (by decide) (by decide +kernel)

theorem walks_overlaidDisk :
    overlaidDisk.walk (plainTheme.dir.join "assets") = [.file ⟨"theme/assets/css/style.css"⟩] ∧
      overlaidDisk.walk ⟨"source"⟩ = [.file ⟨"source/css/style.css"⟩] := by
  decide +kernel

/-- Two files are copied, and walks through the assets meet the same as before. -/
theorem copied_overlaidDisk :
    ((plainTheme.copyAssets ⟨"source"⟩ ⟨"dist"⟩).runOn overlaidDisk).1.toOption = some 2 ∧
      ∀ source ∈ [plainTheme.dir.join "assets", ⟨"source"⟩],
        ((plainTheme.copyAssets ⟨"source"⟩ ⟨"dist"⟩).runOn overlaidDisk).2.disk.walk source =
          overlaidDisk.walk source := by
  decide +kernel

/-- The style sheet among the copies is that of the site. -/
theorem style_sheet_is_of_site : ∃ after,
    (plainTheme.copyAssets ⟨"source"⟩ ⟨"dist"⟩).runOn overlaidDisk = (.ok 2, after) ∧
      IsAsset overlaidDisk (plainTheme.dir.join "assets") ["css", "style.css"] ∧
      IsAsset overlaidDisk ⟨"source"⟩ ["css", "style.css"] ∧
      after.disk.held? (((⟨"dist"⟩ : Path).join "assets").down ["css", "style.css"]) =
        some (.text "site") ∧
      after.disk.isFile (((⟨"dist"⟩ : Path).join "assets").down ["style.css"]) = false := by
  obtain ⟨hcount, hwalks⟩ := copied_overlaidDisk
  have hempty : WasEmpty overlaidDisk overlaidDisk ⟨"dist"⟩ :=
    wasEmpty_of_forall (o := ["dist"]) (by decide +kernel) (by decide) (by decide +kernel)
  obtain ⟨hwalk, hwalk'⟩ := walks_overlaidDisk
  cases hrun : (plainTheme.copyAssets ⟨"source"⟩ ⟨"dist"⟩).runOn overlaidDisk with
  | mk result after =>
    rw [hrun] at hcount hwalks
    cases eq_ok_of_toOption hcount
    have hwrites : WritesBelow ⟨"dist"⟩ overlaidDisk after.disk :=
      (plainTheme.keeps_copyAssets ⟨"source"⟩).of_runs (Work.runOn_eq_ok_iff.1 hrun) sound_overlaidDisk
    have hproper := sound_overlaidDisk.proper
    have hkeeps : KeepsAssets overlaidDisk after.disk (plainTheme.dir.join "assets") :=
      keepsAssets_of_walk hproper hwrites.sound.proper (by decide +kernel)
        (hwalk ▸ allFiles_file _) (hwalks _ (by simp))
    have hkeeps' : KeepsAssets overlaidDisk after.disk ⟨"source"⟩ :=
      keepsAssets_of_walk hproper hwrites.sound.proper (by decide +kernel)
        (hwalk' ▸ allFiles_file _) (hwalks _ (by simp))
    obtain ⟨hfiles, hsite, -, -⟩ := site_assets_overlay_theme_assets plainTheme ⟨"source"⟩ ⟨"dist"⟩
      sound_overlaidDisk (wasEmpty_assets hwrites (by decide +kernel) hempty) hkeeps hkeeps' hrun
    have htheme : IsAsset overlaidDisk (plainTheme.dir.join "assets") ["css", "style.css"] :=
      ⟨by decide +kernel, by simp, by decide, by simp [IsHiddenName], by decide +kernel⟩
    have hstyle : IsAsset overlaidDisk ⟨"source"⟩ ["css", "style.css"] :=
      ⟨by decide +kernel, by simp, by decide, by simp [IsHiddenName], by decide +kernel⟩
    refine ⟨after, rfl, htheme, hstyle, (hsite _ hstyle).trans (by decide +kernel), ?_⟩
    rw [Bool.eq_false_iff]
    intro hfile
    obtain hnone | hnone := (hfiles ["style.css"] (by simp) (by decide)).1 hfile
    · exact absurd hnone.file (by decide +kernel)
    · exact absurd hnone.file (by decide +kernel)

/-- A theme with one asset file, and an empty output directory. Where the assets of the site would be
is a link to the directory that the copies will be in. -/
def loopedDisk : Disk where
  entries := [(["theme"], .directory), (["theme", "assets"], .directory),
    (["theme", "assets", "a.js"], .file (.text "theme") 0), (["out"], .directory),
    (["site_assets"], .link "out/assets")]

theorem sound_loopedDisk : loopedDisk.Sound := Disk.sound_of_forall (by decide) (by decide +kernel)

/-- The site has no assets before, yet the copy of the theme's is found there, counted again, and copied
to itself, which empties it. -/
theorem copy_found_as_asset_is_emptied : ∃ after,
    (plainTheme.copyAssets ⟨"site_assets"⟩ ⟨"out"⟩).runOn loopedDisk = (.ok 2, after) ∧
      loopedDisk.Sound ∧ WasEmpty loopedDisk after.disk ((⟨"out"⟩ : Path).join "assets") ∧
      {ns | IsAsset loopedDisk (plainTheme.dir.join "assets") ns}.encard +
        {ns | IsAsset loopedDisk ⟨"site_assets"⟩ ns}.encard = 1 ∧
      IsAsset loopedDisk (plainTheme.dir.join "assets") ["a.js"] ∧
      ¬ IsAsset loopedDisk ⟨"site_assets"⟩ ["a.js"] ∧
      loopedDisk.held? ((plainTheme.dir.join "assets").down ["a.js"]) = some (.text "theme") ∧
      after.disk.held? (((⟨"out"⟩ : Path).join "assets").down ["a.js"]) = some (.text "") := by
  have hresult : ((plainTheme.copyAssets ⟨"site_assets"⟩ ⟨"out"⟩).runOn loopedDisk).1.toOption = some 2 ∧
      ((plainTheme.copyAssets ⟨"site_assets"⟩ ⟨"out"⟩).runOn loopedDisk).2.disk.held?
        (((⟨"out"⟩ : Path).join "assets").down ["a.js"]) = some (.text "") := by decide +kernel
  obtain ⟨hcount, hheld⟩ := hresult
  have hempty : WasEmpty loopedDisk loopedDisk ⟨"out"⟩ :=
    wasEmpty_of_forall (o := ["out"]) (by decide +kernel) (by decide) (by decide +kernel)
  have hwalk : loopedDisk.walk (plainTheme.dir.join "assets") = [.file ⟨"theme/assets/a.js"⟩] := by
    decide +kernel
  have hassets : ∀ ns, ns ∈ [["a.js"]] ↔ IsAsset loopedDisk (plainTheme.dir.join "assets") ns := by
    intro ns
    have hiff : IsAsset loopedDisk (plainTheme.dir.join "assets") ns ↔ _ :=
      isAsset_iff_mem_walk sound_loopedDisk.proper (by decide +kernel) (hwalk ▸ allFiles_file _)
    have hnames : shownNames (plainTheme.dir.join "assets")
        (loopedDisk.walk (plainTheme.dir.join "assets")) = [["a.js"]] := by decide +kernel
    rw [hiff, hnames]
  have hnone : ∀ ns, ns ∈ [] ↔ IsAsset loopedDisk ⟨"site_assets"⟩ ns := fun ns =>
    iff_of_false List.not_mem_nil fun h => absurd h.directory (by decide +kernel)
  cases hrun : (plainTheme.copyAssets ⟨"site_assets"⟩ ⟨"out"⟩).runOn loopedDisk with
  | mk result after =>
    rw [hrun] at hcount hheld
    cases eq_ok_of_toOption hcount
    have hwrites : WritesBelow ⟨"out"⟩ loopedDisk after.disk :=
      (plainTheme.keeps_copyAssets ⟨"site_assets"⟩).of_runs (Work.runOn_eq_ok_iff.1 hrun) sound_loopedDisk
    refine ⟨after, rfl, sound_loopedDisk, wasEmpty_assets hwrites (by decide +kernel) hempty, ?_,
      (hassets _).1 (by simp), fun h => ?_, by decide +kernel, hheld⟩
    · rw [encard_of_nodup (List.nodup_singleton _) hassets, encard_of_nodup List.nodup_nil hnone]
      rfl
    · exact absurd ((hnone _).2 h) List.not_mem_nil

end Theme
end StaticBlog
