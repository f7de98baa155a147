import StaticBlog.Proofs.Site.Writing

/-!
# Which files a build leaves

- `Site.cleaned`, `Site.prepared` : the disk once what was built before is removed, and once the output
  directory is made
- `Site.Builds`, `Site.exists_builds` : what a build does that succeeds
- `Site.IsSeparate` : the output directory is apart from what a site is built from
- `Site.adds_of_build` : a build adds the files that the site is built of to the prepared disk
- `Site.built_files_iff` : after a build the output directory holds the files that the site is built
  of, and no others exactly if none is left there once it is prepared
- `Site.built_files_of_same_directory` : none is left if the output path leads where it led before
-/

namespace StaticBlog
namespace Site

open Disk (Open Adds Fills IsBelow Unlinked SameBelow Sound)

variable {s : Site} {d : Disk} {o : Place}

/-! ## The output directory before the first file is written -/

/-- The disk once what was built before is removed. -/
def cleaned (s : Site) (d : Disk) : Disk := (s.clean.runOn d).2.disk

/-- Removes what has been built and makes the output directory. -/
def prepare (s : Site) : Work Unit := do
  s.clean
  Work.changing (·.createDirectories s.output) (.directoryUnmade s.output)

/-- The disk once what was built before is removed and the output directory is made. -/
def prepared (s : Site) (d : Disk) : Disk := (s.prepare.runOn d).2.disk

theorem cleaned_eq {clean : Session} (hclean : Work.Runs s.clean ⟨d, []⟩ () clean) :
    s.cleaned d = clean.disk := by
  have hrunOn : s.clean.runOn d = (.ok (), clean) := hclean
  rw [cleaned, hrunOn]

theorem prepared_eq {made : Disk} {clean : Session} (hclean : Work.Runs s.clean ⟨d, []⟩ () clean)
    (hmade : clean.disk.createDirectories s.output = .ok made) : s.prepared d = made := by
  have hrun : Work.Runs s.prepare ⟨d, []⟩ () { clean with disk := made } :=
    Work.runs_bind_iff.2 ⟨_, _, hclean, Work.runs_changing_iff.2 ⟨made, hmade, rfl⟩⟩
  have hrunOn : s.prepare.runOn d = (.ok (), { clean with disk := made }) := hrun
  rw [prepared, hrunOn]

/-- The output directory of a site that can be cleaned has a path. -/
theorem output_ne_empty (h : s.outputHoldsSources = false) : s.output.text ≠ "" := by
  intro hempty
  have hcomponents : s.output.components = [] := by
    rw [Path.components, hempty]
    rfl
  have hholds : s.outputHoldsSources = true := by
    rw [outputHoldsSources, Path.isUnder, hcomponents]
    simp
  rw [h] at hholds
  cases hholds

/-! ## Sources -/

/-- The places that are looked up when the posts and the assets of a site are read. -/
def IsSourcePlace (s : Site) (d : Disk) (k : Place) : Prop :=
  ∃ p ∈ [s.posts, s.theme.dir.join "assets", s.assets], ∃ ns, (∀ n ∈ ns, Path.IsName n) ∧
    k ∈ d.trail (p.down ns)

/-- The output directory is apart from what a site is built from: no place that is looked up for the
sources is in it, is lost when what was built before is removed, or changes when the directory is
made. No link leads out of the directory. -/
structure IsSeparate (s : Site) (d : Disk) (o : Place) : Prop where
  outside : ∀ k, s.IsSourcePlace d k → ¬ o <+: k
  unremoved : ∀ k, s.IsSourcePlace d k → ¬ s.CleanRemoves d k
  unmade : ∀ k, s.IsSourcePlace d k → (s.prepared d).get? k = d.get? k
  unlinked : Unlinked o (s.prepared d)

theorem IsSeparate.isApart (h : s.IsSeparate d o) (hcwd : (s.prepared d).cwd = d.cwd) {p : Path}
    (hp : p ∈ [s.posts, s.theme.dir.join "assets", s.assets]) : IsApart d (s.prepared d) o p where
  same := ⟨hcwd, fun ns hns k hk => h.unmade k ⟨p, hp, ns, hns, hk⟩⟩
  outside ns hns k hk := h.outside k ⟨p, hp, ns, hns, hk⟩

/-- Cleaning a site whose output directory is apart keeps what is looked up at the posts. -/
theorem IsSeparate.sameBelow {cleaned : Session} (h : s.IsSeparate d o)
    (hclean : Work.Runs s.clean ⟨d, []⟩ () cleaned) : SameBelow d cleaned.disk s.posts :=
  sameBelow_of_clean hclean fun ns hns k hk =>
    h.unremoved k ⟨s.posts, List.mem_cons_self, ns, hns, hk⟩

/-! ## Files -/

/-- The number of pages of a site with these posts. -/
def pageTotal (s : Site) (posts : List Post) : Nat :=
  posts.length + max 1 (pageCount s.config.pagination.postsPerPage posts.length) +
    (distinct Post.categories posts).length + (distinct Post.tags posts).length + 3

/-- The files that a site is built of are below the output directory, those of pages in `index.html`
and copies in the directory of the assets. -/
theorem down_of_isBuilt {posts : List Post} {p : Path} (h : s.IsBuilt posts d p) :
    ∃ ns, ns ≠ [] ∧ (∀ n ∈ ns, Path.IsName n) ∧ p = s.output.down ns ∧
      (ns.getLast? = some "index.html" ∨ ns.head? = some "assets") := by
  have hcopy : ∀ {source}, IsCopy d source s.output p → ∃ ns, ns ≠ [] ∧
      (∀ n ∈ ns, Path.IsName n) ∧ p = s.output.down ns ∧
        (ns.getLast? = some "index.html" ∨ ns.head? = some "assets") := by
    rintro source ⟨-, ns, -, hns, -, -, rfl⟩
    exact ⟨"assets" :: ns, by simp, List.forall_mem_cons.2 ⟨by decide, hns⟩,
      (Path.down_cons s.output "assets" ns).symm, Or.inr (by simp)⟩
  cases h with
  | @page path hpath =>
    exact ⟨Url.pageNames path, by simp [Url.pageNames], fun n => Url.isName_of_mem_pageNames,
      Url.indexFile_eq_down s.output path, Or.inl (by simp [Url.pageNames])⟩
  | themeAsset hcopied => exact hcopy hcopied
  | siteAsset hcopied => exact hcopy hcopied

/-- What a build does that succeeds: it reads the posts and the theme of a clean site, makes the output
directory and fills it with the files that the site is built of. -/
structure Builds (s : Site) (d : Disk) (count : Nat) (after : Disk) (posts : List Post)
    (m : PageMaker) : Prop where
  cleaned : ∃ clean, Work.Runs s.clean ⟨d, []⟩ () clean ∧ s.cleaned d = clean.disk
  publishes : s.Publishes (s.cleaned d) posts
  makes : ∃ noted loaded, noted.disk = s.cleaned d ∧ Work.Runs s.pageMaker noted m loaded
  counts : count = (m.pages posts).length
  prepared : (s.cleaned d).createDirectories s.output = .ok (s.prepared d)
  fills : ∀ {e o}, Open s.output o (s.prepared d) → (s.prepared d).Proper →
    IsApart e (s.prepared d) o (s.theme.dir.join "assets") → IsApart e (s.prepared d) o s.assets →
      ∃ new, Fills s.output o new (s.prepared d) after ∧
        (∀ p, (∃ f ∈ new, p = s.output.down f.names) ↔ s.IsBuilt posts e p) ∧
        (Sound e → Sound (s.prepared d) → new = s.newFiles e (m.pages posts))

theorem exists_builds {count : Nat} {after : Session} (h : s.build.runOn d = (.ok count, after)) :
    ∃ posts m, s.Builds d count after.disk posts m := by
  rcases Work.runs_bind_iff.1 (Work.runOn_eq_ok_iff.1 h) with ⟨_, clean, hclean, hrest⟩
  rcases Work.runs_bind_iff.1 hrest with ⟨posts, s₂, hload, hrest₂⟩
  rcases Work.runs_bind_iff.1 hrest₂ with ⟨_, noted, hnotice, hrest₃⟩
  rcases Work.runs_bind_iff.1 hrest₃ with ⟨m, loaded, hmaker, hrest₄⟩
  rcases Work.runs_bind_iff.1 hrest₄ with ⟨total, s₅, hgenerate, hrest₅⟩
  rcases Work.runs_bind_iff.1 hrest₅ with ⟨_, s₆, hnotice', hpure⟩
  rcases Work.runs_pure_iff.1 hpure with ⟨rfl, rfl⟩
  rcases runs_loadPosts hload with ⟨hdisk, hposts⟩
  rcases runs_pageMaker hmaker with ⟨hloaded, hm, -⟩
  rcases runs_generate hm hgenerate with ⟨hcount, made, hmade, hfills⟩
  -- Only cleaning and generating change the disk.
  have hnoted : noted.disk = clean.disk := (Work.disk_of_runs_report hnotice).trans hdisk
  rw [hloaded, hnoted] at hmade
  have hcleaned := cleaned_eq hclean
  have hprepared := prepared_eq hclean hmade
  refine ⟨posts, m, ⟨clean, hclean, hcleaned⟩, ?_, ⟨noted, loaded, ?_, hmaker⟩, hcount, ?_, ?_⟩
  · rwa [hcleaned]
  · rw [hcleaned, hnoted]
  · rw [hcleaned, hprepared, hmade]
  · rw [hprepared, Work.disk_of_runs_report hnotice']
    exact hfills

namespace Builds

variable {count : Nat} {after : Disk} {posts : List Post} {m : PageMaker}

theorem config_eq (h : s.Builds d count after posts m) : m.config = s.config := by
  rcases h.makes with ⟨noted, loaded, -, hmaker⟩
  exact (runs_pageMaker hmaker).2.1

theorem shrinks (h : s.Builds d count after posts m) : Disk.Shrinks d (s.cleaned d) := by
  rcases h.cleaned with ⟨clean, hclean, heq⟩
  rw [heq]
  exact shrinks_of_clean hclean

/-- The output directory is there before anything is written. -/
theorem exists_entry (h : s.Builds d count after posts m) :
    ∃ o, (s.prepared d).entry s.output = .ok (o, .directory) := by
  rcases h.cleaned with ⟨clean, hclean, -⟩
  have hdir := (Disk.makes_of_createDirectories h.prepared).2
  exact Disk.isDirectory_iff.1 (hdir (output_ne_empty (runs_clean hclean).1))

end Builds

/-- A build of a site whose output directory is apart from its sources loads the posts, makes as many
pages as have been counted and adds the files that the site is built of to the prepared disk. -/
theorem adds_of_build {count : Nat} {after : Session} (hd : d.Proper)
    (hseparate : ∀ o, (s.prepared d).entry s.output = .ok (o, .directory) → s.IsSeparate d o) :
    s.build.runOn d = (.ok count, after) →
      ∃ posts loaded o, s.loadPosts.runOn d = (.ok posts, loaded) ∧ count = s.pageTotal posts ∧
        Open s.output o (s.prepared d) ∧ Adds o (s.IsBuilt posts d) (s.prepared d) after.disk := by
  intro h
  rcases exists_builds h with ⟨posts, m, hbuilds⟩
  -- The output directory is there, and the sources are as they were.
  rcases hbuilds.exists_entry with ⟨o, hplace⟩
  have hmakes := (Disk.makes_of_createDirectories hbuilds.prepared).1
  have hproper := hmakes.proper (hbuilds.shrinks.proper hd)
  have hcwd : (s.prepared d).cwd = d.cwd := hmakes.cwd.trans hbuilds.shrinks.cwd
  have hsep : s.IsSeparate d o := hseparate o hplace
  have hopen : Open s.output o (s.prepared d) := ⟨hplace, hsep.unlinked⟩
  rcases hbuilds.cleaned with ⟨clean, hclean, hcleaned⟩
  have hpublished := publishes_of_clean hclean hd (hsep.sameBelow hclean) (hcleaned ▸ hbuilds.publishes)
  rcases exists_runs_loadPosts ⟨d, []⟩ hpublished with ⟨loaded, hload⟩
  -- So the files of the site are added, and only those.
  have htheme := hsep.isApart hcwd (p := s.theme.dir.join "assets") (by simp)
  have hsite := hsep.isApart hcwd (p := s.assets) (by simp)
  rcases hbuilds.fills hopen hproper htheme hsite with ⟨new, hnew, hbuilt, -⟩
  refine ⟨posts, loaded, o, hload, ?_, hopen, hnew.congr hbuilt⟩
  rw [hbuilds.counts, m.length_pages, hbuilds.config_eq]
  rfl

/-- Once files are added below a place, all files there are among them exactly if those that were there
before are. -/
theorem exact_iff_of_adds {written : Path → Prop} {before after : Disk}
    (h : Adds o written before after) :
    (∀ k, IsBelow o k → after.HasFile k → ∃ p, written p ∧ after.FileAt p k) ↔
      ∀ k, IsBelow o k → before.HasFile k → ∃ p, written p ∧ after.FileAt p k := by
  constructor
  · intro hall k hk hleft
    exact hall k hk ((h.files k).2 (Or.inl hleft))
  · intro hleft k hk hfile
    rcases (h.files k).1 hfile with hold | hnew
    · exact hleft k hk hold
    · exact hnew

/-- The files that a site is built of are below the output directory when they have been added. -/
theorem exists_below_of_adds {posts : List Post} {before after : Disk} {p : Path}
    (hopen : Open s.output o before) (h : Adds o (s.IsBuilt posts d) before after)
    (hp : s.IsBuilt posts d p) : ∃ k, IsBelow o k ∧ after.FileAt p k := by
  rcases h.there p hp with ⟨k, content, modified, hentry⟩
  rcases down_of_isBuilt hp with ⟨ns, hne, hns, rfl, -⟩
  have hk := Disk.place_of_entry_down (h.open hopen) hns hentry
  exact ⟨k, hk ▸ Disk.isBelow_append o hne, content, modified, hentry⟩

/-- After a build of a site whose output directory is apart from its sources, the files that the site
is built of are below the output directory, as many pages as have been counted. There are no others
exactly if every file that is left below the directory when it is prepared is one of them. -/
theorem built_files_iff (s : Site) (d : Disk) (count : Nat) (after : Session) (hd : d.Proper)
    (hseparate : ∀ o, (s.prepared d).entry s.output = .ok (o, .directory) → s.IsSeparate d o) :
    s.build.runOn d = (.ok count, after) →
      ∃ posts loaded o, s.loadPosts.runOn d = (.ok posts, loaded) ∧ count = s.pageTotal posts ∧
        (s.prepared d).entry s.output = .ok (o, .directory) ∧ Open s.output o after.disk ∧
        (∀ p, s.IsBuilt posts d p → ∃ k, IsBelow o k ∧ after.disk.FileAt p k) ∧
        ((∀ k, IsBelow o k → after.disk.HasFile k → ∃ p, s.IsBuilt posts d p ∧ after.disk.FileAt p k) ↔
          ∀ k, IsBelow o k → (s.prepared d).HasFile k →
            ∃ p, s.IsBuilt posts d p ∧ after.disk.FileAt p k) := by
  intro h
  rcases adds_of_build hd hseparate h with ⟨posts, loaded, o, hload, hcount, hopen, hadds⟩
  refine ⟨posts, loaded, o, hload, hcount, hopen.leads, hadds.open hopen, fun p hp => ?_, ?_⟩
  · exact exists_below_of_adds hopen hadds hp
  · exact exact_iff_of_adds hadds

/-- Below the directory that the output path led to, no file is left when it is prepared. -/
theorem not_hasFile_prepared {count : Nat} {after : Disk} {posts : List Post} {m : PageMaker}
    (h : s.Builds d count after posts m)
    (hbefore : d.locate false s.output = .ok (.entry o .directory)) {k : Place} (hk : IsBelow o k) :
    ¬ (s.prepared d).HasFile k := by
  rcases h.cleaned with ⟨clean, hclean, hcleaned⟩
  have hpresent : d.present s.output = true := by
    rw [Disk.present, Disk.entry_of_locate_directory hbefore]
  have hne : k ≠ [] := by
    rintro rfl
    exact hk.2 (List.prefix_nil.1 hk.1).symm
  have hlost : (s.cleaned d).get? k = none := by
    rw [hcleaned]
    exact ((get?_of_clean hclean).2 k hne).1 ⟨hpresent, .below hbefore hk.1 hk.2⟩
  rintro ⟨content, modified, hget⟩
  -- The entry was lost, so a file could only be new, but only directories are.
  rcases (Disk.makes_of_createDirectories h.prepared).1.get? k with hsame | ⟨-, -, hdir, -⟩
  · rw [hsame, hlost] at hget
    cases hget
  · rw [hget] at hdir
    cases hdir

/-- If the output path led to the same directory before, nothing is left, and after a build the
directory holds the files that the site is built of and no others. -/
theorem built_files_of_same_directory {count : Nat} {after : Session} (hd : d.Proper)
    (hseparate : s.IsSeparate d o)
    (hbefore : d.locate false s.output = .ok (.entry o .directory))
    (hprepared : (s.prepared d).entry s.output = .ok (o, .directory))
    (hrun : s.build.runOn d = (.ok count, after)) :
    ∃ posts loaded, s.loadPosts.runOn d = (.ok posts, loaded) ∧ count = s.pageTotal posts ∧
      ∀ k, IsBelow o k →
        (after.disk.HasFile k ↔ ∃ p, s.IsBuilt posts d p ∧ after.disk.FileAt p k) := by
  have hsame : ∀ o', (s.prepared d).entry s.output = .ok (o', .directory) → s.IsSeparate d o' := by
    intro o' ho'
    rw [hprepared] at ho'
    cases ho'
    exact hseparate
  rcases adds_of_build hd hsame hrun with ⟨posts, loaded, o', hload, hcount, hopen, hadds⟩
  have hoo : o' = o := by
    have hleads := hopen.leads
    rw [hprepared] at hleads
    cases hleads
    rfl
  subst hoo
  refine ⟨posts, loaded, hload, hcount, fun k hk => ?_⟩
  -- No file was left there, so all files are added ones.
  rcases exists_builds hrun with ⟨posts', m, hbuilds⟩
  rw [hadds.files k, or_iff_right (not_hasFile_prepared hbuilds hbefore hk)]

/-! ## A file that is left -/

/-- A site whose output path leads through a directory that is missing. -/
def winding : Site :=
  ⟨⟨"site"⟩, { paths := { output := "x/../dist" } }, some ⟨"site/shiori.config.yml"⟩⟩

/-- A disk with a file that an earlier build has left. -/
def staleDisk : Disk where
  entries := [(["site"], .directory),
    (["site", "shiori.config.yml"], .file (.text "paths: \x7boutput: x/../dist\x7d\n") 0),
    (["site", "dist"], .directory),
    (["site", "dist", "stale.txt"], .file (.text "old") 0)]

/-- Where the directories of the posts, the theme and the assets are missing, nothing behind them is
looked up. -/
theorem mem_trail_winding {p : Path} {ns : List String} {k : Place} (hcwd : d.cwd = [])
    (hsite : d.get? ["site"] = some .directory) (hsource : d.get? ["site", "source"] = none)
    (hthemes : d.get? ["site", "themes"] = none)
    (hp : p ∈ [winding.posts, winding.themeDir, winding.themeDir.join "assets", winding.assets])
    (hns : ∀ n ∈ ns, Path.IsName n) (hk : k ∈ d.trail (p.down ns)) :
    k ∈ [["site"], ["site", "source"], ["site", "themes"]] := by
  have htrail : ∀ (dir : String) (rest : List Path.Component),
      p.components = .name "site" :: .name dir :: rest → ¬ Disk.nameLimit < dir.utf8ByteSize →
        d.get? ["site", dir] = none → k = ["site"] ∨ k = ["site", dir] := by
    intro dir rest hcomponents hshort hnone
    rw [Disk.trail, Path.components_down p hns, hcomponents, hcwd, List.cons_append,
      Disk.trailFrom_name_directory (by decide) hsite, List.cons_append,
      Disk.trailFrom_name_none hshort hnone] at hk
    simpa using hk
  have hposts : winding.posts.components =
      [.name "site", .name "source", .name "_posts"] := by decide +kernel
  have htheme : winding.themeDir.components =
      [.name "site", .name "themes", .name "minimalist"] := by decide +kernel
  have hstyles : (winding.themeDir.join "assets").components =
      [.name "site", .name "themes", .name "minimalist", .name "assets"] := by decide +kernel
  have hassets : winding.assets.components =
      [.name "site", .name "source", .name "assets"] := by decide +kernel
  have hinSource : ∀ rest, p.components = .name "site" :: .name "source" :: rest →
      k ∈ [["site"], ["site", "source"], ["site", "themes"]] := by
    intro rest hcomponents
    rcases htrail "source" rest hcomponents (by decide) hsource with heq | heq <;> simp [heq]
  have hinThemes : ∀ rest, p.components = .name "site" :: .name "themes" :: rest →
      k ∈ [["site"], ["site", "source"], ["site", "themes"]] := by
    intro rest hcomponents
    rcases htrail "themes" rest hcomponents (by decide) hthemes with heq | heq <;> simp [heq]
  simp only [List.mem_cons, List.not_mem_nil, or_false] at hp
  rcases hp with rfl | rfl | rfl | rfl
  · exact hinSource _ hposts
  · exact hinThemes _ htheme
  · exact hinThemes _ hstyles
  · exact hinSource _ hassets

theorem place_of_winding {k : Place} (h : winding.IsSourcePlace staleDisk k) :
    k ∈ [["site"], ["site", "source"], ["site", "themes"]] := by
  rcases h with ⟨p, hp, ns, hns, hk⟩
  refine mem_trail_winding rfl (by decide +kernel) (by decide +kernel) (by decide +kernel) ?_ hns hk
  simp only [List.mem_cons, List.not_mem_nil, or_false] at hp ⊢
  rcases hp with rfl | rfl | rfl
  · exact Or.inl rfl
  · exact Or.inr (Or.inr (Or.inl rfl))
  · exact Or.inr (Or.inr (Or.inr rfl))

/-- The output directory of that site is apart from its sources, which are missing. -/
theorem isSeparate_winding {o : Place}
    (ho : (winding.prepared staleDisk).entry winding.output = .ok (o, .directory)) :
    o = ["site", "dist"] ∧ winding.IsSeparate staleDisk o := by
  have hfound : ((winding.prepared staleDisk).entry winding.output).toOption =
      some (["site", "dist"], .directory) := by decide +kernel
  have hentries : (winding.prepared staleDisk).entries =
      staleDisk.entries ++ [(["site", "x"], .directory)] := by decide +kernel
  have habsent : staleDisk.present winding.output = false := by decide +kernel
  rw [ho] at hfound
  cases hfound
  refine ⟨rfl, fun k hk => ?_, fun k hk hremoves => ?_, fun k hk => ?_, ?_⟩
  · have hnot : ∀ k ∈ [["site"], ["site", "source"], ["site", "themes"]],
        ¬ ["site", "dist"] <+: k := by decide
    exact hnot k (place_of_winding hk)
  · rw [CleanRemoves, habsent] at hremoves
    cases hremoves.1
  · have hsame : ∀ k ∈ [["site"], ["site", "source"], ["site", "themes"]],
        (winding.prepared staleDisk).get? k = staleDisk.get? k := by decide +kernel
    exact hsame k (place_of_winding hk)
  · have hlinks : ∀ x ∈ staleDisk.entries ++ [(["site", "x"], .directory)], ∀ t, x.2 ≠ .link t := by
      simp [staleDisk]
    exact Disk.unlinked_of_forall (hentries ▸ hlinks)

theorem proper_staleDisk : staleDisk.Proper := by
  refine Disk.proper_of_forall fun x hx n hn => ?_
  have hname : n ∈ ["site", "shiori.config.yml", "dist", "stale.txt"] := by
    simp only [staleDisk, List.mem_cons, List.not_mem_nil, or_false] at hx
    rcases hx with rfl | rfl | rfl | rfl <;> cases hn <;> simp
  -- Each name on the disk is one of these four.
  have hall : ∀ n ∈ ["site", "shiori.config.yml", "dist", "stale.txt"],
      Path.IsName n ∧ ¬ Disk.nameLimit < n.utf8ByteSize ∧ '\x00' ∉ n.toList := by decide
  exact ⟨(hall n hname).1, (hall n hname).2.1, (hall n hname).2.2⟩

theorem isOk_build_staleDisk : (winding.build.runOn staleDisk).1.isOk = true := by decide +kernel

/-- A build of that site succeeds and leaves the file. -/
theorem build_leaves_file : ∃ after posts loaded,
    winding.build.runOn staleDisk = (.ok 4, after) ∧
      winding.loadPosts.runOn staleDisk = (.ok posts, loaded) ∧
        ¬ ∀ k, IsBelow ["site", "dist"] k → after.disk.HasFile k →
          ∃ p, winding.IsBuilt posts staleDisk p ∧ after.disk.FileAt p k := by
  have hok := isOk_build_staleDisk
  cases hrun : winding.build.runOn staleDisk with
  | mk result after =>
    rw [hrun] at hok
    cases result with
    | error e => cases hok
    | ok count =>
      rcases built_files_iff winding staleDisk count after proper_staleDisk
          (fun o ho => (isSeparate_winding ho).2) hrun with
        ⟨posts, loaded, o, hload, hcount, hplace, hopen, -, hiff⟩
      have ho := (isSeparate_winding hplace).1
      subst ho
      have hnone : (winding.loadPosts.runOn staleDisk).1.toOption.map (·.length) = some 0 := by
        decide +kernel
      rw [hload] at hnone
      have hposts : posts = [] := List.eq_nil_of_length_eq_zero (Option.some.inj hnone)
      have hfour : count = 4 := by rw [hcount, hposts]; rfl
      refine ⟨after, posts, loaded, by rw [hfour], hload, fun hexact => ?_⟩
      have hbelow : IsBelow ["site", "dist"] ["site", "dist", "stale.txt"] := ⟨by decide, by decide⟩
      have hleft : (winding.prepared staleDisk).HasFile ["site", "dist", "stale.txt"] :=
        ⟨.text "old", 0, by decide +kernel⟩
      -- Were the inventory exact, the file that is left would be a page or a copy.
      rcases hiff.1 hexact _ hbelow hleft with ⟨p, hbuilt, content, modified, hentry⟩
      rcases down_of_isBuilt hbuilt with ⟨ns, -, hns, rfl, hends⟩
      have hk := Disk.place_of_entry_down hopen hns hentry
      have hstale : ns = ["stale.txt"] := by simpa using hk.symm
      rw [hstale] at hends
      simp at hends

end Site
end StaticBlog
