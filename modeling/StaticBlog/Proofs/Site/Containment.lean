import StaticBlog.Proofs.Site.Inventory

/-!
# Where a build writes

- `WritesBelow` : what a step of a build does to a disk
- `Site.keeps_generate`, `Site.keeps_build` : each step does that, so a build does, if it fails or not
- `Site.changed_files_below_output` : the files that a build of a clean site changes
-/

namespace StaticBlog

open Disk (Extends FileAt HasFile Makes Sound Unlinked)
open Work (Keeps Progress)

variable {output : Path} {d e : Disk}

/-! ## Steps -/

/-- What a step does to a disk that writes files below a directory: it makes directories, and puts
files where paths below the directory lead. -/
structure WritesBelow (output : Path) (d e : Disk) : Prop where
  sound : Sound e
  «extends» : Extends d e
  get? : ∀ k, e.get? k = d.get? k ∨ (d.get? k = none ∧ e.get? k = some .directory) ∨
    ∃ ns, ns ≠ [] ∧ (∀ n ∈ ns, Path.IsName n) ∧ FileAt e (output.down ns) k

namespace WritesBelow

theorem refl (hd : Sound d) : WritesBelow output d d := ⟨hd, .refl d, fun _ => Or.inl rfl⟩

theorem trans {d₁ d₂ d₃ : Disk} (h : WritesBelow output d₁ d₂) (h' : WritesBelow output d₂ d₃) :
    WritesBelow output d₁ d₃ := by
  refine ⟨h'.sound, h.extends.trans h'.extends, fun k => ?_⟩
  rcases h'.get? k with heq | ⟨hnone, hdir⟩ | hfile
  · rw [heq]
    -- What was written first is found by the same path later.
    rcases h.get? k with heq' | hdir | ⟨ns, hne, hns, hfile⟩
    · exact Or.inl heq'
    · exact Or.inr (Or.inl hdir)
    · exact Or.inr (Or.inr ⟨ns, hne, hns, hfile.mono h'.extends⟩)
  · rcases h.get? k with heq' | ⟨-, hdir'⟩ | ⟨ns, -, -, hfile⟩
    · exact Or.inr (Or.inl ⟨heq'.symm.trans hnone, hdir⟩)
    · rw [hnone] at hdir'
      cases hdir'
    · rcases hfile.hasFile with ⟨content, modified, hget⟩
      rw [hnone] at hget
      cases hget
  · exact Or.inr (Or.inr hfile)

theorem of_makes {within : Place → Prop} (h : Makes within d e) (he : Sound e) :
    WritesBelow output d e := by
  refine ⟨he, h.extends, fun k => ?_⟩
  rcases h.get? k with heq | ⟨-, hnone, hdir, -⟩
  · exact Or.inl heq
  · exact Or.inr (Or.inl ⟨hnone, hdir⟩)

theorem of_writeAt {ns : List String} {content : Content} {modified : Int} (hd : Sound d)
    (hns : ∀ n ∈ ns, Path.IsName n) (hne : ns ≠ []) :
    d.writeAt (output.down ns) content modified = .ok e → WritesBelow output d e := by
  intro h
  have he := hd.writeAt h
  rcases Disk.put_of_writeAt h with ⟨m, hm, rfl, halike, hentry⟩
  refine ⟨he, Disk.extends_put hm halike, fun k => ?_⟩
  by_cases hk : m = k
  · subst hk
    exact Or.inr (Or.inr ⟨ns, hne, hns, content, modified,
      hentry (Path.endsInSlash_down output hns hne)⟩)
  · exact Or.inl (Disk.get?_put_of_ne d _ hk)

theorem of_copy {source : Path} {ns : List String} (hd : Sound d) (hns : ∀ n ∈ ns, Path.IsName n)
    (hne : ns ≠ []) : d.copy source (output.down ns) = .ok e → WritesBelow output d e := by
  intro h
  rw [Disk.copy] at h
  split at h
  · exact of_writeAt hd hns hne h
  · cases h
  · cases h

end WritesBelow

/-- What work does to a sound disk if each of its steps writes below a directory. -/
def Written (output : Path) (d e : Disk) : Prop := Sound d → WritesBelow output d e

theorem progress_written (output : Path) : Progress (Written output) :=
  ⟨fun _ hd => WritesBelow.refl hd, fun h h' hd => (h hd).trans (h' (h hd).sound)⟩

theorem keeps_createDirectories {dir : Path} {cause : DiskError → SiteError} :
    Keeps (Written output) (Work.changing (·.createDirectories dir) cause) := by
  refine Work.keeps_changing (progress_written output) fun d e h hd => ?_
  exact .of_makes (Disk.makes_of_createDirectories h).1 (hd.createDirectories h)

/-! ## Assets -/

theorem keeps_copyFile {source : Path} {ns : List String} (hns : ∀ n ∈ ns, Path.IsName n)
    (hne : ns ≠ []) : Keeps (Written output) (copyFile source (output.down ns)) := by
  have hcopy : Keeps (Written output) (Work.changing (·.copy source (output.down ns))
      (.assetUncopied source (output.down ns))) :=
    Work.keeps_changing (progress_written output) fun d e h hd => .of_copy hd hns hne h
  unfold copyFile
  cases (output.down ns).parent? with
  | none => exact hcopy
  | some dir => exact keeps_createDirectories.bind (progress_written output) fun _ => hcopy

theorem keeps_copySteps {source : Path} {steps : List Disk.Step}
    (hsteps : ∀ q, .file q ∈ steps → ∃ ns, (∀ n ∈ ns, Path.IsName n) ∧ q = source.down ns) :
    Keeps (Written output) (copySteps source (output.join "assets") steps) := by
  have hR := progress_written output
  induction steps with
  | nil => exact Work.keeps_pure hR 0
  | cons step rest ih =>
    have hrest := ih fun q hq => hsteps q (List.mem_cons_of_mem _ hq)
    cases step with
    | failure q error => exact Work.keeps_throw hR _
    | file q =>
      rw [copySteps]
      split
      · exact hrest
      · rcases hsteps q List.mem_cons_self with ⟨ns, hns, rfl⟩
        have hnames : ∀ n ∈ "assets" :: ns, Path.IsName n :=
          List.forall_mem_cons.2 ⟨by decide, hns⟩
        rw [extend_below_down hns]
        exact (keeps_copyFile hnames (by simp)).bind hR fun _ => hrest.bind hR fun n =>
          Work.keeps_pure hR (n + 1)

/-- The copies of the files that a walk through an asset directory meets are below the output
directory. -/
theorem keeps_copyWalk (source : Path) : Keeps (Written output)
    (Work.asking (·.walk source) >>= copySteps source (output.join "assets")) := by
  intro s hs
  rw [Work.after_asking_bind]
  exact keeps_copySteps (fun q hq => Disk.exists_down_of_mem_walk hs.proper hq) s hs

theorem keeps_copyTree (source : Path) :
    Keeps (Written output) (copyTree source (output.join "assets")) := by
  have hR := progress_written output
  unfold copyTree
  refine (Work.keeps_asking hR _).bind hR fun there => ?_
  cases there with
  | false => exact Work.keeps_pure hR 0
  | true => exact keeps_copyWalk source

theorem Theme.keeps_copyAssets (t : Theme) (siteAssets : Path) :
    Keeps (Written output) (t.copyAssets siteAssets output) := by
  have hR := progress_written output
  unfold Theme.copyAssets
  exact (keeps_copyTree _).bind hR fun n => (Work.keeps_reportIf hR _ _).bind hR fun _ =>
    (keeps_copyTree _).bind hR fun m => (Work.keeps_reportIf hR _ _).bind hR fun _ =>
      Work.keeps_pure hR (n + m)

/-! ## Pages -/

namespace Site

variable {s : Site}

theorem keeps_writePage (page : SitePage) : Keeps (Written s.output) (s.writePage page) := by
  have hR := progress_written s.output
  have hwrite : ∀ file, file = s.output.down (Url.pageNames page.path) →
      Keeps (Written s.output) (Work.changing (·.write file page.html) (.fileUnwritten file)) := by
    rintro file rfl
    refine Work.keeps_changing hR fun d e h hd => ?_
    exact .of_writeAt hd (fun n => Url.isName_of_mem_pageNames) (by simp [Url.pageNames]) h
  unfold writePage
  generalize hfile : s.fileOf page = file
  dsimp only
  have hrest := (hwrite file (hfile ▸ s.fileOf_eq_down page)).bind hR fun _ =>
    Work.keeps_report hR (.pageWritten file)
  cases file.parent? with
  | none => exact hrest
  | some dir => exact keeps_createDirectories.bind hR fun _ => hrest

theorem keeps_writePages (pages : List SitePage) : Keeps (Written s.output) (s.writePages pages) := by
  have hR := progress_written s.output
  induction pages with
  | nil => exact Work.keeps_pure hR ()
  | cons page rest ih =>
    rw [writePages]
    exact (keeps_writePage page).tryCatch_throw.bind hR fun _ => ih

theorem keeps_generate (m : PageMaker) (posts : List Post) :
    Keeps (Written s.output) (s.generate m posts) := by
  have hR := progress_written s.output
  unfold generate
  exact keeps_createDirectories.bind hR fun _ => (s.theme.keeps_copyAssets s.assets).bind hR fun _ =>
    (Work.keeps_forM hR (fun p => keeps_reportUnshown hR p.toJson) posts).bind hR fun _ =>
      (keeps_writePages _).bind hR fun _ => Work.keeps_pure hR _

/-! ## Building -/

/-- What a build does once the site is clean. -/
def buildCleaned (s : Site) : Work Nat := do
  let posts ← s.loadPosts
  Work.report (.postsLoaded posts.length)
  let m ← s.pageMaker
  let count ← s.generate m posts
  Work.report (.pagesWritten count)
  return count

/-- The disk after a build, whether it fails or not. -/
def built (s : Site) (d : Disk) : Disk := (s.build.runOn d).2.disk

theorem build_eq (s : Site) : s.build = s.clean >>= fun _ => s.buildCleaned := rfl

theorem keeps_buildCleaned : Keeps (Written s.output) s.buildCleaned := by
  have hR := progress_written s.output
  unfold buildCleaned
  exact (keeps_loadPosts hR).bind hR fun posts => (Work.keeps_report hR _).bind hR fun _ =>
    (keeps_pageMaker hR).bind hR fun m => (keeps_generate m posts).bind hR fun count =>
      (Work.keeps_report hR _).bind hR fun _ => Work.keeps_pure hR count

/-- Cleaning keeps a disk sound, whether it fails or not. -/
theorem keeps_clean : Keeps (fun d e => Sound d → Sound e) s.clean := by
  have hR : Progress fun d e => Sound d → Sound e := ⟨fun _ => id, fun h h' hd => h' (h hd)⟩
  have hremove : Keeps (fun d e => Sound d → Sound e) (do
      if ← Work.asking (·.present s.output) then
        Work.changing (·.clear s.output) (.outputUndeleted s.output)
        Work.changing (·.removeCleared s.output) (.outputUndeleted s.output)
        Work.report (.outputDeleted s.output)) := by
    refine (Work.keeps_asking hR _).bind hR fun there => ?_
    cases there with
    | false => exact Work.keeps_pure hR ()
    | true =>
      exact (Work.keeps_changing hR fun d e h hd => hd.clear h).bind hR fun _ =>
        (Work.keeps_changing hR fun d e h hd => hd.removeCleared h).bind hR fun _ =>
          Work.keeps_report hR _
  unfold clean
  dsimp only
  split
  · exact (Work.keeps_throw hR _).bind hR fun _ => hremove
  · exact hremove

/-- What a build of a site that could be cleaned does after that. -/
theorem writesBelow_of_clean {cleaned : Session} (hd : d.Sound)
    (hclean : s.clean.runOn d = (.ok (), cleaned)) :
    WritesBelow s.output cleaned.disk (s.built d) := by
  have hrun : Work.Runs s.clean ⟨d, []⟩ () cleaned := Work.runOn_eq_ok_iff.1 hclean
  rw [built, Work.runOn_eq, build_eq, hrun.after_bind fun _ => s.buildCleaned]
  exact keeps_buildCleaned cleaned (keeps_clean.of_runs hrun hd)

/-! ## Changed files -/

/-- What cleaning takes away from a file that is lost is in the directory that the output path led to. -/
theorem lost_below {cleaned : Session} {k : Place} (hclean : Work.Runs s.clean ⟨d, []⟩ () cleaned)
    (hfile : d.HasFile k) (hlost : cleaned.disk.get? k ≠ d.get? k) :
    ∃ l, d.entry s.output = .ok (l, .directory) ∧ l <+: k := by
  rcases hfile with ⟨content, modified, hget⟩
  have hk : k ≠ [] := by
    rintro rfl
    simp [Disk.get?] at hget
  have hremoves : s.CleanRemoves d k := by
    by_contra hnot
    exact hlost (((get?_of_clean hclean).2 k hk).2 hnot)
  cases hremoves.2 with
  | below hlocate hlies _ => exact ⟨_, Disk.entry_of_locate_directory hlocate, hlies⟩
  | self hlocate _ => exact ⟨_, Disk.entry_of_locate_directory hlocate, List.prefix_refl _⟩
  | link hlocate =>
    -- A link is no regular file.
    rcases Disk.reach_eq_entry_iff.1 (Disk.locate_eq_entry_iff.1 hlocate).2 with ⟨-, -, hleads⟩
    rw [hleads.get?_of_link rfl] at hget
    cases hget

/-- Steps that write below a directory make no links. -/
theorem unlinked_of_writesBelow {o : Place} (h : WritesBelow output d e) (hd : Unlinked o d) :
    Unlinked o e := by
  intro k t hk hget
  rcases h.get? k with heq | ⟨-, hdir⟩ | ⟨ns, -, -, hfile⟩
  · exact hd k t hk (heq ▸ hget)
  · rw [hget] at hdir
    cases hdir
  · rcases hfile.hasFile with ⟨content, modified, hget'⟩
    rw [hget] at hget'
    cases hget'

/-- The files that a build of a site writes are where plain names lead from the output directory. When
cleaning succeeds, a build changes no other regular files, whether it fails or not: each one that is
lost was in the directory that the output path led to, and to each one that is there and new, or holds
something else, a path of plain names leads from the output path. The file is below the output
directory itself unless cleaning has left a link there. -/
theorem changed_files_below_output (s : Site) (d : Disk) (cleaned : Session) (hd : d.Sound)
    (hclean : s.clean.runOn d = (.ok (), cleaned)) :
    (∀ page, ∃ ns, ns ≠ [] ∧ (∀ n ∈ ns, Path.IsName n) ∧ s.fileOf page = s.output.down ns) ∧
      (∀ (e : Disk) (source q : Path), e.Sound → .file q ∈ e.walk source →
        ∃ ns, ns ≠ [] ∧ (∀ n ∈ ns, Path.IsName n) ∧
          (s.output.join "assets").extend (q.below source) = s.output.down ns) ∧
      ∀ k, d.HasFile k ∨ (s.built d).HasFile k → (s.built d).get? k ≠ d.get? k →
        (¬ (s.built d).HasFile k ∧ ∃ l, d.entry s.output = .ok (l, .directory) ∧ l <+: k) ∨
          ∃ o ns, (s.built d).entry s.output = .ok (o, .directory) ∧ ns ≠ [] ∧
            (∀ n ∈ ns, Path.IsName n) ∧ (s.built d).FileAt (s.output.down ns) k ∧
            (Unlinked o cleaned.disk → k = o ++ ns) := by
  refine ⟨fun page => ?_, fun e source q he hq => ?_, fun k hfile hchanged => ?_⟩
  · exact ⟨_, by simp [Url.pageNames], fun n => Url.isName_of_mem_pageNames, s.fileOf_eq_down page⟩
  · rcases Disk.exists_down_of_mem_walk he.proper hq with ⟨ns, hns, rfl⟩
    exact ⟨"assets" :: ns, by simp, List.forall_mem_cons.2 ⟨by decide, hns⟩, extend_below_down hns⟩
  · have hrun : Work.Runs s.clean ⟨d, []⟩ () cleaned := Work.runOn_eq_ok_iff.1 hclean
    have hwrites := writesBelow_of_clean hd hclean
    generalize s.built d = after at hwrites hfile hchanged ⊢
    have hlost : ¬ after.HasFile k → cleaned.disk.get? k ≠ d.get? k →
        (¬ after.HasFile k ∧ ∃ l, d.entry s.output = .ok (l, .directory) ∧ l <+: k) :=
      fun hnone hcleaned => ⟨hnone, lost_below hrun (hfile.resolve_right hnone) hcleaned⟩
    rcases hwrites.get? k with heq | ⟨hnone, hdir⟩ | ⟨ns, hne, hns, hat⟩
    · -- The build has not written there, so the change is that of cleaning, which only removes.
      have hcleaned : cleaned.disk.get? k ≠ d.get? k := fun h => hchanged (heq.trans h)
      have hgone := ((shrinks_of_clean hrun).get? k).resolve_left hcleaned
      refine Or.inl (hlost ?_ hcleaned)
      rintro ⟨content, modified, hget⟩
      rw [heq, hgone] at hget
      cases hget
    · -- A directory has come there, so it was a file that was lost.
      have hnot : ¬ after.HasFile k := by
        rintro ⟨content, modified, hget⟩
        rw [hdir] at hget
        cases hget
      refine Or.inl (hlost hnot fun h => ?_)
      rcases hfile.resolve_right hnot with ⟨content, modified, hget⟩
      rw [← h, hnone] at hget
      cases hget
    · rcases hat with ⟨content, modified, hentry⟩
      have hempty := output_ne_empty (runs_clean hrun).1
      rcases Disk.entry_of_entry_down hempty hns hne hentry with ⟨o, ho⟩
      refine Or.inr ⟨o, ns, ho, hne, hns, ⟨content, modified, hentry⟩, fun hlinks => ?_⟩
      exact Disk.place_of_entry_down ⟨ho, unlinked_of_writesBelow hwrites hlinks⟩ hns hentry

/-- A site whose output path leads through a directory that is missing. -/
def linkedSite : Site :=
  ⟨⟨"/s"⟩, { paths := { output := "x/../o" }, theme := { name := "t" } }, none⟩

/-- A disk whose output directory holds a link to a file beside it. The home page is a short text. -/
def linkedDisk : Disk where
  entries := [(["s"], .directory), (["s", "n"], .file (.text "keep") 0),
    (["s", "themes"], .directory), (["s", "themes", "t"], .directory),
    (["s", "themes", "t", "index.html"], .file (.text "home") 0),
    (["s", "o"], .directory), (["s", "o", "index.html"], .link "../n")]

theorem sound_linkedDisk : linkedDisk.Sound :=
  Disk.sound_of_forall (by decide) (by decide +kernel)

theorem linkedSite_built :
    (linkedSite.built linkedDisk).get? ["s", "n"] = some (.file (.text "home") 0) ∧
      ((linkedSite.built linkedDisk).entry linkedSite.output).toOption =
        some (["s", "o"], .directory) := by
  decide +kernel

/-- The output path leads to the output directory only once that has been made, so the link is left when
the site is cleaned, and a build writes the home page to the file beside the directory. -/
theorem build_changes_file_beside_output : ∃ cleaned o ns,
    linkedSite.clean.runOn linkedDisk = (.ok (), cleaned) ∧
      linkedDisk.get? ["s", "n"] = some (.file (.text "keep") 0) ∧
        (linkedSite.built linkedDisk).get? ["s", "n"] = some (.file (.text "home") 0) ∧
        (linkedSite.built linkedDisk).entry linkedSite.output = .ok (o, .directory) ∧
          (linkedSite.built linkedDisk).FileAt (linkedSite.output.down ns) ["s", "n"] ∧
            ¬ o <+: ["s", "n"] := by
  have hok : (linkedSite.clean.runOn linkedDisk).1.isOk = true := by decide +kernel
  have hbefore : linkedDisk.get? ["s", "n"] = some (.file (.text "keep") 0) := by decide +kernel
  have habsent : (linkedDisk.entry linkedSite.output).toOption = none := by decide +kernel
  rcases linkedSite_built with ⟨hafter, hplace⟩
  cases hrun : linkedSite.clean.runOn linkedDisk with
  | mk result cleaned =>
    rw [hrun] at hok
    cases result with
    | error e => cases hok
    | ok u =>
      have hall := (changed_files_below_output linkedSite linkedDisk cleaned sound_linkedDisk hrun).2.2
      generalize linkedSite.built linkedDisk = after at hafter hplace hall ⊢
      have hchanged : after.get? ["s", "n"] ≠ linkedDisk.get? ["s", "n"] := by
        rw [hafter, hbefore]
        decide
      rcases hall ["s", "n"] (Or.inl ⟨_, _, hbefore⟩) hchanged with
        ⟨-, l, hl, -⟩ | ⟨o, ns, ho, -, -, hat, -⟩
      · -- Before the build the path led nowhere.
        rw [hl] at habsent
        cases habsent
      · rw [ho] at hplace
        cases hplace
        exact ⟨cleaned, _, ns, rfl, hbefore, hafter, ho, hat, by decide⟩

end Site
end StaticBlog
