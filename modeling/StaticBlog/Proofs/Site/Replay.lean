import StaticBlog.Proofs.Site.Containment

/-!
# The same build on another disk

What a build does is done again on a disk that holds the same wherever the build looks something up.

- `SharedBelow` : whether disks hold the same wherever something at a path or below it is looked up
- `Site.exists_runs_clean_of_twin` : cleaning is done again
- `repeats_copyTree`, `Theme.repeats_copyAssets` : copying assets is
- `Site.IsShared` : whether disks hold the same wherever a build looks something up outside of the posts
- `Site.repeats_writePages`, `Site.repeats_generate` : writing pages is done again
- `Site.repeats_buildFrom` : all that a build does with the posts is
-/

namespace StaticBlog

open Disk (Extends SameBelow Sound Twin)
open Work (Grown Keeps Repeats)

variable {shared : Place → Prop} {final d e : Disk} {output : Path}

/-- Whether the places that are looked up at a path or below it are shared. -/
def SharedBelow (shared : Place → Prop) (d : Disk) (p : Path) : Prop :=
  ∀ ns, (∀ n ∈ ns, Path.IsName n) → ∀ k ∈ d.trail (p.down ns), shared k

theorem SharedBelow.of_extends {p : Path} (h : SharedBelow shared final p) (hext : Extends d final) :
    SharedBelow shared d p := fun ns hns k hk => h ns hns k (hext.trail_subset _ hk)

theorem sound_of_twin (shared : Place → Prop) (d e : Disk) (h : Twin shared d e) : Sound d := h.sound

/-! ## Cleaning -/

/-- A site is cleaned again on a disk that holds the same on the way to the output directory. -/
theorem Site.exists_runs_clean_of_twin {s : Site} {before after other : Session}
    (h : Twin shared before.disk other.disk) (houtput : ∀ k ∈ before.disk.trail s.output, shared k)
    (hclean : Work.Runs s.clean before () after) :
    ∃ after', Work.Runs s.clean other () after' ∧ Twin shared after.disk after'.disk := by
  have hpresent : other.disk.present s.output = before.disk.present s.output :=
    Disk.present_congr (h.entry_eq houtput)
  rcases runs_clean hclean with ⟨hholds, ⟨hnone, hdisk⟩ | ⟨hthere, cleared, hcleared, hremoved⟩⟩
  · rcases exists_runs_clean hholds (Or.inl ⟨hpresent.trans hnone, rfl⟩) with ⟨after', hrun, hdisk'⟩
    refine ⟨after', hrun, ?_⟩
    rw [hdisk, hdisk']
    exact h
  · rcases h.clear houtput hcleared with ⟨cleared', hcleared', htwin⟩
    -- The way to what has been cleared is a part of the way to what was there.
    have hway := (Disk.shrinks_of_clear hcleared).extended.trail_subset s.output
    rcases htwin.removeCleared (fun k hk => houtput k (hway hk)) hremoved with
      ⟨removed', hremoved', htwin'⟩
    rcases exists_runs_clean hholds
        (Or.inr ⟨hpresent.trans hthere, cleared', hcleared', hremoved'⟩) with ⟨after', hrun, hdisk'⟩
    exact ⟨after', hrun, hdisk' ▸ htwin'⟩

/-! ## Assets -/

theorem repeats_createDirectories {dir : Path} {cause : DiskError → SiteError}
    (hdir : ∀ k ∈ final.trail dir, shared k) :
    Repeats (Twin shared) final (Work.changing (·.createDirectories dir) cause) := by
  refine Work.repeats_changing (fun d e h hd => ?_) fun d e d' htwin hd' hfinal =>
    htwin.createDirectories hfinal hdir hd'
  exact ⟨hd.createDirectories h, (Disk.makes_of_createDirectories h).1.extends⟩

theorem repeats_copyFile {source target : Path} (hsource : ∀ k ∈ final.trail source, shared k)
    (htarget : ∀ k ∈ final.trail target, shared k) :
    Repeats (Twin shared) final (copyFile source target) := by
  have hcopy : Repeats (Twin shared) final (Work.changing (·.copy source target)
      (.assetUncopied source target)) := by
    refine Work.repeats_changing (fun d e h hd => ⟨hd.copy h, Disk.extends_of_copy h⟩)
      fun d e d' htwin hd' hfinal => ?_
    have hgrows := (Disk.extends_of_copy hd').trans hfinal
    exact htwin.copy (fun k hk => hsource k (hgrows.trail_subset source hk))
      (fun k hk => htarget k (hgrows.trail_subset target hk)) hd'
  unfold copyFile
  cases hparent : target.parent? with
  | none => exact hcopy
  | some dir =>
    refine (repeats_createDirectories fun k hk => htarget k ?_).bind (sound_of_twin shared) fun _ => hcopy
    exact Disk.trail_parent_subset hparent hk

theorem repeats_copySteps {source : Path} {steps : List Disk.Step}
    (hsource : SharedBelow shared final source) (houtput : SharedBelow shared final output)
    (hsteps : ∀ q, .file q ∈ steps → ∃ ns, (∀ n ∈ ns, Path.IsName n) ∧ q = source.down ns) :
    Repeats (Twin shared) final (copySteps source (output.join "assets") steps) := by
  induction steps with
  | nil => exact Work.repeats_pure 0
  | cons step rest ih =>
    have hrest := ih fun q hq => hsteps q (List.mem_cons_of_mem _ hq)
    cases step with
    | failure p error => exact Work.repeats_throw _
    | file q =>
      rw [copySteps]
      split
      · exact hrest
      · rcases hsteps q List.mem_cons_self with ⟨ns, hns, rfl⟩
        have hassets : ∀ n ∈ "assets" :: ns, Path.IsName n :=
          List.forall_mem_cons.2 ⟨by decide, hns⟩
        rw [extend_below_down hns]
        exact (repeats_copyFile (hsource ns hns) (houtput _ hassets)).bind (sound_of_twin shared) fun _ =>
          hrest.bind (sound_of_twin shared) fun n => Work.repeats_pure (n + 1)

theorem repeats_copyTree {source : Path} (hsource : SharedBelow shared final source)
    (houtput : SharedBelow shared final output) :
    Repeats (Twin shared) final (copyTree source (output.join "assets")) := by
  have hsame : ∀ d e, Twin shared d e → Extends d final → SameBelow d e source :=
    fun d e htwin hfinal => htwin.sameBelow (hsource.of_extends hfinal)
  -- Steps can only be copied if they come from a walk, so what holds of any steps does not help here.
  have hgrows : Keeps Grown (Work.asking (·.walk source) >>= copySteps source (output.join "assets")) :=
    (keeps_copyWalk source).mono fun d e h hd => ⟨(h hd).sound, (h hd).extends⟩
  unfold copyTree
  refine (Work.repeats_asking fun d e htwin hfinal => ?_).bind (sound_of_twin shared) fun there => ?_
  · exact Disk.isDirectory_congr (hsame d e htwin hfinal).entry_self
  cases there with
  | false => exact Work.repeats_pure 0
  | true =>
    refine (Work.repeats_asking fun d e htwin hfinal => ?_).bind_of_runs (sound_of_twin shared) hgrows
      fun s t steps s' htwin hwalk => ?_
    · exact Disk.walk_congr htwin.sound htwin.sound' (hsame d e htwin hfinal)
    · -- The steps are those of a walk, so the files are below the asset directory.
      rw [(Work.runs_asking_iff.1 hwalk).1]
      exact repeats_copySteps hsource houtput fun q hq =>
        Disk.exists_down_of_mem_walk htwin.sound.proper hq

theorem Theme.repeats_copyAssets (t : Theme) {siteAssets : Path}
    (htheme : SharedBelow shared final (t.dir.join "assets"))
    (hsite : SharedBelow shared final siteAssets) (houtput : SharedBelow shared final output) :
    Repeats (Twin shared) final (t.copyAssets siteAssets output) := by
  have hR := sound_of_twin shared
  unfold Theme.copyAssets
  exact (repeats_copyTree htheme houtput).bind hR fun n => (Work.repeats_reportIf _ _).bind hR fun _ =>
    (repeats_copyTree hsite houtput).bind hR fun m => (Work.repeats_reportIf _ _).bind hR fun _ =>
      Work.repeats_pure (n + m)

/-! ## Pages -/

namespace Site

variable {s : Site}

theorem repeats_writePage (houtput : SharedBelow shared final s.output) (page : SitePage) :
    Repeats (Twin shared) final (s.writePage page) := by
  have hR := sound_of_twin shared
  have hfile : ∀ k ∈ final.trail (s.fileOf page), shared k := by
    rw [s.fileOf_eq_down page]
    exact houtput _ fun n => Url.isName_of_mem_pageNames
  have hwrite : ∀ file, (∀ k ∈ final.trail file, shared k) → Repeats (Twin shared) final
      (Work.changing (·.write file page.html) (.fileUnwritten file)) := by
    intro file hfile
    refine Work.repeats_changing (fun d e h hd => ⟨hd.writeAt h, Disk.extends_of_writeAt h⟩)
      fun d e d' htwin hd' hfinal => ?_
    have hgrows := (Disk.extends_of_writeAt hd').trans hfinal
    exact htwin.write (fun k hk => hfile k (hgrows.trail_subset file hk)) hd'
  unfold writePage
  generalize s.fileOf page = file at hfile
  dsimp only
  have hrest := (hwrite file hfile).bind hR fun _ => Work.repeats_report (.pageWritten file)
  cases hparent : file.parent? with
  | none => exact hrest
  | some dir =>
    refine (repeats_createDirectories fun k hk => hfile k ?_).bind hR fun _ => hrest
    exact Disk.trail_parent_subset hparent hk

theorem repeats_writePages (houtput : SharedBelow shared final s.output) (pages : List SitePage) :
    Repeats (Twin shared) final (s.writePages pages) := by
  induction pages with
  | nil => exact Work.repeats_pure ()
  | cons page rest ih =>
    rw [writePages]
    exact (repeats_writePage houtput page).tryCatch_throw.bind (sound_of_twin shared) fun _ => ih

/-- Whether what a build looks up outside of the posts is shared: the output directory, the theme and
the assets. -/
structure IsShared (s : Site) (shared : Place → Prop) (d : Disk) : Prop where
  output : SharedBelow shared d s.output
  theme : SharedBelow shared d s.themeDir
  assets : SharedBelow shared d s.assets

theorem repeats_generate (h : s.IsShared shared final) (m : PageMaker) (posts : List Post) :
    Repeats (Twin shared) final (s.generate m posts) := by
  have hR := sound_of_twin shared
  have houtput : ∀ k ∈ final.trail s.output, shared k := h.output [] (by simp)
  have htheme : SharedBelow shared final (s.themeDir.join "assets") := by
    intro ns hns
    rw [← Path.down_cons]
    exact h.theme ("assets" :: ns) (List.forall_mem_cons.2 ⟨by decide, hns⟩)
  -- Directories, assets and pages are all below the output path, and what is copied is shared.
  unfold generate
  exact (repeats_createDirectories houtput).bind hR fun _ =>
    (s.theme.repeats_copyAssets htheme h.assets h.output).bind hR fun _ =>
      (Work.repeats_forM hR (fun p => repeats_reportUnshown p.toJson) posts).bind hR fun _ =>
        (repeats_writePages h.output _).bind hR fun _ => Work.repeats_pure _

/-- What a build does once the posts are loaded. -/
def buildFrom (s : Site) (posts : List Post) : Work Nat := do
  Work.report (.postsLoaded posts.length)
  let m ← s.pageMaker
  let count ← s.generate m posts
  Work.report (.pagesWritten count)
  return count

theorem build_eq_buildFrom (s : Site) :
    s.build = s.clean >>= fun _ => s.loadPosts >>= s.buildFrom := rfl

theorem repeats_buildFrom (h : s.IsShared shared final) (posts : List Post) :
    Repeats (Twin shared) final (s.buildFrom posts) := by
  have hR := sound_of_twin shared
  have htheme : LooksSame (Twin shared) final s.themeDir := fun d e htwin hfinal ns hns =>
    htwin.entry_eq (h.theme.of_extends hfinal ns hns)
  unfold buildFrom
  exact (Work.repeats_report _).bind hR fun _ => (repeats_pageMaker hR htheme).bind hR fun m =>
    (repeats_generate h m posts).bind hR fun count => (Work.repeats_report _).bind hR fun _ =>
      Work.repeats_pure count

end Site
end StaticBlog
