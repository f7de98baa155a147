import StaticBlog.Proofs.Site.Containment

/-!
# Building again

What is in the output directory after a build depends on the sources, and on what was left there when
the first file was written.

- `Site.IsDisjoint` : the output directory is apart from what a site is built from
- `Site.treeAt_of_builds` : what is in the output directory after a build
- `Site.same_tree_iff` : when two builds on disks that agree outside of it leave the same there
- `Happening`, `History.run` : builds among changes of the disk
- `History.last_build_eq_fresh_iff` : when the last build left the same as one on a fresh disk
-/

namespace StaticBlog

open Disk (Extends Open SameBelow SameOn Sound Unlinked)
open Disk.Tree (Covers)
open Work (Keeps Progress)

namespace Site

variable {s : Site} {d e : Disk} {o : Place} {count count' : Nat} {after after' : Disk}
  {posts posts' : List Post} {m m' : PageMaker}

/-! ## Sources outside of the output directory -/

/-- The output directory is apart from what a site is built from: the posts, the theme and the assets
are looked up outside of it, and cleaning removes nothing else. No link leads out of the directory. -/
structure IsDisjoint (s : Site) (d : Disk) (o : Place) : Prop where
  leads : (s.prepared d).entry s.output = .ok (o, .directory)
  unlinked : Unlinked o (s.prepared d)
  removed : ∀ k, s.CleanRemoves d k → o <+: k
  outside : ∀ p ∈ [s.posts, s.themeDir, s.assets], ∀ ns, (∀ n ∈ ns, Path.IsName n) →
    ∀ k ∈ (s.prepared d).trail (p.down ns), ¬ o <+: k

theorem IsDisjoint.open (h : s.IsDisjoint d o) : Open s.output o (s.prepared d) :=
  ⟨h.leads, h.unlinked⟩

namespace Builds

theorem «extends» (h : s.Builds d count after posts m) : Extends (s.cleaned d) (s.prepared d) :=
  (Disk.makes_of_createDirectories h.prepared).1.extends

theorem sound (h : s.Builds d count after posts m) (hd : Sound d) :
    Sound (s.cleaned d) ∧ Sound (s.prepared d) := by
  rcases h.cleaned with ⟨clean, hclean, heq⟩
  have hcleaned : Sound (s.cleaned d) := heq ▸ keeps_clean.of_runs hclean hd
  exact ⟨hcleaned, hcleaned.createDirectories h.prepared⟩

end Builds

section

variable (hb : s.Builds d count after posts m) (hb' : s.Builds e count' after' posts' m')
  (h : s.IsDisjoint d o) (h' : s.IsDisjoint e o) (hsame : SameOn (¬ o <+: ·) d e)
include hb hb' h h' hsame

/-- Disks that agree outside of the output directory do so when what was built before is removed. -/
theorem sameOn_cleaned : SameOn (¬ o <+: ·) (s.cleaned d) (s.cleaned e) := by
  rcases hb.cleaned with ⟨clean, hclean, heq⟩
  rcases hb'.cleaned with ⟨clean', hclean', heq'⟩
  rcases get?_of_clean hclean with ⟨hcwd, hget⟩
  rcases get?_of_clean hclean' with ⟨hcwd', hget'⟩
  rw [heq, heq']
  refine ⟨hcwd'.trans (hsame.cwd.trans hcwd.symm), fun k hk => ?_⟩
  by_cases hroot : k = []
  · simp [Disk.get?, hroot]
  · have hkept : clean.disk.get? k = d.get? k := (hget k hroot).2 fun hremoves =>
      hk (h.removed k hremoves)
    have hkept' : clean'.disk.get? k = e.get? k := (hget' k hroot).2 fun hremoves =>
      hk (h'.removed k hremoves)
    rw [hkept, hkept', hsame.get? k hk]

/-- And they do so when the output directory is made. -/
theorem sameOn_prepared : SameOn (¬ o <+: ·) (s.prepared d) (s.prepared e) :=
  (sameOn_cleaned hb hb' h h' hsame).createDirectories hb.prepared hb'.prepared h.open h'.open

/-- Once cleaning leaves the same in the output directory, it holds the same when it is made. -/
theorem treeAt_prepared_eq (hleft : ∀ k, o <+: k → (s.cleaned e).get? k = (s.cleaned d).get? k) :
    (s.prepared e).treeAt o = (s.prepared d).treeAt o := by
  have houtside := sameOn_cleaned hb hb' h h' hsame
  have hall : SameOn (fun _ => True) (s.cleaned d) (s.cleaned e) := by
    refine ⟨houtside.cwd, fun k _ => ?_⟩
    by_cases hk : o <+: k
    · exact hleft k hk
    · exact houtside.get? k hk
  rcases hall.exists_createDirectories (.refl _) (fun _ _ => trivial) hb.prepared with
    ⟨made, hmade, hprepared⟩
  rw [hb'.prepared] at hmade
  cases hmade
  funext ns
  rw [Disk.treeAt, Disk.treeAt, hprepared.get? _ trivial]

/-- So both builds have the same posts. -/
theorem same_posts (hd : Sound d) (he : Sound e) : posts' = posts := by
  have hbelow : SameBelow (s.cleaned d) (s.cleaned e) s.posts := by
    refine (sameOn_cleaned hb hb' h h' hsame).sameBelow fun ns hns k hk => ?_
    exact h.outside s.posts (by simp) ns hns k (hb.extends.trail_subset _ hk)
  have hposts : s.Publishes (s.cleaned d) posts' :=
    (publishes_congr (hb.sound hd).1 (hb'.sound he).1 hbelow).1 hb'.publishes
  exact hposts.unique hb.publishes

/-- And both make their pages with the same. -/
theorem same_maker (hd : Sound d) : m' = m := by
  rcases hb.makes with ⟨noted, loaded, hnoted, hmaker⟩
  rcases hb'.makes with ⟨noted', loaded', hnoted', hmaker'⟩
  have htheme : LooksSame (fun x y => SameOn (¬ o <+: ·) x y ∧ Sound x) (s.prepared d) s.themeDir := by
    intro x y hlike hfinal ns hns
    refine hlike.1.entry_eq fun k hk => ?_
    exact h.outside s.themeDir (by simp) ns hns k (hfinal.trail_subset _ hk)
  have hlike : SameOn (¬ o <+: ·) noted.disk noted'.disk ∧ Sound noted.disk := by
    rw [hnoted, hnoted']
    exact ⟨sameOn_cleaned hb hb' h h' hsame, (hb.sound hd).1⟩
  have hfinal : Extends loaded.disk (s.prepared d) := by
    rw [(runs_pageMaker hmaker).1, hnoted]
    exact hb.extends
  rcases (repeats_pageMaker (fun _ _ hlike => hlike.2) htheme).again noted noted' m loaded hlike hmaker
    hfinal with ⟨_, hagain, -⟩
  exact (hmaker'.unique hagain).1

end

/-! ## What is in the output directory -/

/-- Whether names lead from the output directory to a file that a site with these posts is built of, or
are on the way to one. -/
def Rewrites (s : Site) (posts : List Post) (d : Disk) (ns : List String) : Prop :=
  ∃ ms, (∀ n ∈ ms, Path.IsName n) ∧ ns <+: ms ∧ s.IsBuilt posts d (s.output.down ms)

/-- After a build there is in the output directory what was left there, with the files in it that the
site is built of. -/
theorem treeAt_of_builds (hb : s.Builds d count after posts m) (h : s.IsDisjoint d o) (hd : Sound d)
    (he : Sound e) (hsame : SameOn (¬ o <+: ·) e (s.prepared d))
    (houtside : ∀ p ∈ [s.themeDir, s.assets], ∀ ns, (∀ n ∈ ns, Path.IsName n) →
      ∀ k ∈ e.trail (p.down ns), ¬ o <+: k) :
    after.treeAt o = ((s.prepared d).treeAt o).writeAll (s.newFiles e (m.pages posts)) ∧
      ∀ ns, Covers (s.newFiles e (m.pages posts)) ns ↔ s.Rewrites posts e ns := by
  have hapart : ∀ p, (∀ ns, (∀ n ∈ ns, Path.IsName n) → ∀ k ∈ e.trail (p.down ns), ¬ o <+: k) →
      IsApart e (s.prepared d) o p := fun p hp => ⟨hsame.sameBelow hp, hp⟩
  have htheme : IsApart e (s.prepared d) o (s.themeDir.join "assets") := by
    refine hapart _ fun ns hns => ?_
    rw [← Path.down_cons]
    exact houtside s.themeDir (by simp) ("assets" :: ns) (List.forall_mem_cons.2 ⟨by decide, hns⟩)
  have hsite := hapart s.assets (houtside s.assets (by simp))
  have hsound := (hb.sound hd).2
  rcases hb.fills h.open hsound.proper htheme hsite with ⟨new, hfills, hbuilt, horder⟩
  rw [← horder he hsound]
  refine ⟨hfills.tree, fun ns => ⟨?_, ?_⟩⟩
  · rintro ⟨f, hf, hns⟩
    exact ⟨f.names, hfills.named f hf, hns, (hbuilt _).1 ⟨f, hf, rfl⟩⟩
  · rintro ⟨ms, hms, hns, hfile⟩
    rcases (hbuilt _).2 hfile with ⟨f, hf, heq⟩
    rw [Path.down_injective hms (hfills.named f hf) heq] at hns
    exact ⟨f, hf, hns⟩

/-- Builds on disks that agree outside of the output directory make as many pages, and they leave the
same in the directory exactly if, once it was prepared, it held the same wherever they write nothing.
It does if cleaning leaves the same there. -/
theorem same_tree_iff {after after' : Session} (hd : Sound d) (he : Sound e)
    (h : s.IsDisjoint d o) (h' : s.IsDisjoint e o) (hsame : SameOn (¬ o <+: ·) d e)
    (hrun : s.build.runOn d = (.ok count, after)) (hrun' : s.build.runOn e = (.ok count', after')) :
    count' = count ∧ ∃ posts loaded, s.loadPosts.runOn (s.cleaned d) = (.ok posts, loaded) ∧
      (after'.disk.treeAt o = after.disk.treeAt o ↔
        ∀ ns, ¬ s.Rewrites posts (s.prepared d) ns →
          (s.prepared e).treeAt o ns = (s.prepared d).treeAt o ns) ∧
      ((∀ k, o <+: k → (s.cleaned e).get? k = (s.cleaned d).get? k) →
        after'.disk.treeAt o = after.disk.treeAt o) := by
  rcases exists_builds hrun with ⟨posts, m, hb⟩
  rcases exists_builds hrun' with ⟨posts', m', hb'⟩
  have hposts := same_posts hb hb' h h' hsame hd he
  have hm := same_maker hb hb' h h' hsame hd
  subst hposts hm
  rcases exists_runs_loadPosts ⟨s.cleaned d, []⟩ hb.publishes with ⟨loaded, hload⟩
  -- Both write the same files, those of the prepared first disk.
  have houtside : ∀ p ∈ [s.themeDir, s.assets], ∀ ns, (∀ n ∈ ns, Path.IsName n) →
      ∀ k ∈ (s.prepared d).trail (p.down ns), ¬ o <+: k :=
    fun p hp => h.outside p (List.mem_cons_of_mem _ hp)
  have hsound := (hb.sound hd).2
  rcases treeAt_of_builds hb h hd hsound ⟨rfl, fun _ _ => rfl⟩ houtside with ⟨htree, hcovers⟩
  have hprepared := sameOn_prepared hb hb' h h' hsame
  rcases treeAt_of_builds hb' h' he hsound hprepared houtside with ⟨htree', -⟩
  refine ⟨hb'.counts.trans hb.counts.symm, _, loaded, hload, ?_, fun hleft => ?_⟩
  · rw [htree, htree', Disk.Tree.writeAll_eq_iff]
    simp only [hcovers]
  · rw [htree, htree', treeAt_prepared_eq hb hb' h h' hsame hleft]

theorem keeps_build : Keeps (fun d e => Sound d → Sound e) s.build := by
  have hR : Progress fun d e => Sound d → Sound e := ⟨fun _ => id, fun h h' hd => h' (h hd)⟩
  exact keeps_clean.bind hR fun _ => keeps_buildCleaned.mono fun _ _ h hd => (h hd).sound

end Site

/-! ## Histories -/

/-- What happens to a disk: somebody changes it, or a site is built. -/
inductive Happening
  | edit (change : Disk → Disk) (sound : ∀ d, Sound d → Sound (change d))
  | build (s : Site)

/-- A build that has succeeded, with the disks before and after it. -/
structure FinishedBuild where
  site : Site
  before : Disk
  count : Nat
  after : Disk

/-- A disk, and the last build that has succeeded. -/
structure History where
  disk : Disk
  last : Option FinishedBuild := none

namespace History

/-- A history with the result of one more build. What the build has done stays done if it fails. -/
def record (h : History) (s : Site) : Except SiteError Nat × Session → History
  | (.ok count, after) => ⟨after.disk, some ⟨s, h.disk, count, after.disk⟩⟩
  | (.error _, after) => { h with disk := after.disk }

/-- A history with one more thing that happens. -/
def step (h : History) : Happening → History
  | .edit change _ => { h with disk := change h.disk }
  | .build s => h.record s (s.build.runOn h.disk)

def run (start : Disk) (happenings : List Happening) : History := happenings.foldl step ⟨start, none⟩

/-- Whether the disk is sound and the last build has been what it is said to have been. -/
structure Faithful (h : History) : Prop where
  sound : Sound h.disk
  last : ∀ b, h.last = some b → Sound b.before ∧
    ∃ after, b.site.build.runOn b.before = (.ok b.count, after) ∧ after.disk = b.after

theorem Faithful.step {h : History} (hh : h.Faithful) (happening : Happening) :
    (h.step happening).Faithful := by
  cases happening with
  | edit change sound => exact ⟨sound h.disk hh.sound, hh.last⟩
  | build s =>
    have hsound : Sound (s.build.runOn h.disk).2.disk := by
      rw [Work.runOn_eq]
      exact Site.keeps_build ⟨h.disk, []⟩ hh.sound
    rw [History.step]
    rcases hrun : s.build.runOn h.disk with ⟨result, after⟩
    rw [hrun] at hsound
    cases result with
    | error error => exact ⟨hsound, hh.last⟩
    | ok count =>
      refine ⟨hsound, fun b hb => ?_⟩
      cases hb
      exact ⟨hh.sound, after, hrun, rfl⟩

theorem Faithful.foldl {h : History} (hh : h.Faithful) (happenings : List Happening) :
    (happenings.foldl History.step h).Faithful := by
  induction happenings generalizing h with
  | nil => exact hh
  | cons happening rest ih => exact ih (hh.step happening)

theorem faithful_run {start : Disk} (hstart : Sound start) (happenings : List Happening) :
    (run start happenings).Faithful :=
  Faithful.foldl ⟨hstart, fun b hb => by cases hb⟩ happenings

/-- Whatever has happened to a disk, the last build that has succeeded made as many pages as one on any
other disk with the same sources. It left the same in the output directory exactly if, once it was
prepared, the directory held the same on both disks wherever the builds write nothing. It did if
cleaning had left the same there. -/
theorem last_build_eq_fresh_iff (start : Disk) (happenings : List Happening) (b : FinishedBuild)
    (e : Disk) (o : Place) (count : Nat) (fresh : Session) (hstart : Sound start) (he : Sound e)
    (hlast : (run start happenings).last = some b) (hsame : SameOn (¬ o <+: ·) b.before e)
    (h : b.site.IsDisjoint b.before o) (h' : b.site.IsDisjoint e o)
    (hrun : b.site.build.runOn e = (.ok count, fresh)) :
    count = b.count ∧ ∃ posts loaded,
      b.site.loadPosts.runOn (b.site.cleaned b.before) = (.ok posts, loaded) ∧
        (fresh.disk.treeAt o = b.after.treeAt o ↔
          ∀ ns, ¬ b.site.Rewrites posts (b.site.prepared b.before) ns →
            (b.site.prepared e).treeAt o ns = (b.site.prepared b.before).treeAt o ns) ∧
        ((∀ k, o <+: k → (b.site.cleaned e).get? k = (b.site.cleaned b.before).get? k) →
          fresh.disk.treeAt o = b.after.treeAt o) := by
  rcases (faithful_run hstart happenings).last b hlast with ⟨hbefore, after, hbuild, hafter⟩
  rw [← hafter]
  exact Site.same_tree_iff hbefore he h h' hsame hbuild hrun

/-- The disk with the stale file, without its output directory. -/
def freshDisk : Disk := Site.staleDisk.eraseTree ["site", "dist"]

theorem sound_staleDisk : Sound Site.staleDisk :=
  Disk.sound_of_forall (by decide) (by decide +kernel)

/-- The output directory of that site is apart from what it is built from, which is missing. -/
theorem isDisjoint_winding {d : Disk} (h : d.present Site.winding.output = false ∧
      (Site.winding.prepared d).cwd = [] ∧
      ((Site.winding.prepared d).entry Site.winding.output).toOption =
        some (["site", "dist"], .directory) ∧
      (∀ x ∈ (Site.winding.prepared d).entries, x.2.target? = none) ∧
      (Site.winding.prepared d).get? ["site"] = some .directory ∧
      (Site.winding.prepared d).get? ["site", "source"] = none ∧
      (Site.winding.prepared d).get? ["site", "themes"] = none) :
    Site.winding.IsDisjoint d ["site", "dist"] := by
  rcases h with ⟨habsent, hcwd, hleads, hlinks, hsite, hsource, hthemes⟩
  refine ⟨eq_ok_of_toOption hleads, Disk.unlinked_of_target? hlinks, fun k hremoves => ?_,
    fun p hp ns hns k hk => ?_⟩
  · rw [Site.CleanRemoves, habsent] at hremoves
    cases hremoves.1
  · have hmem : p ∈ [Site.winding.posts, Site.winding.themeDir, Site.winding.themeDir.join "assets",
        Site.winding.assets] := by
      simp only [List.mem_cons, List.not_mem_nil, or_false] at hp ⊢
      rcases hp with rfl | rfl | rfl
      · exact Or.inl rfl
      · exact Or.inr (Or.inl rfl)
      · exact Or.inr (Or.inr (Or.inr rfl))
    have hplace := Site.mem_trail_winding hcwd hsite hsource hthemes hmem hns hk
    have hnot : ∀ k ∈ [["site"], ["site", "source"], ["site", "themes"]],
        ¬ ["site", "dist"] <+: k := by decide
    exact hnot k hplace

theorem isDisjoint_staleDisk : Site.winding.IsDisjoint Site.staleDisk ["site", "dist"] :=
  isDisjoint_winding (by decide +kernel)

theorem isDisjoint_freshDisk : Site.winding.IsDisjoint freshDisk ["site", "dist"] :=
  isDisjoint_winding (by decide +kernel)

/-- Without posts that site has no page and no copy below a directory of that name. -/
theorem not_rewrites_stale {d : Disk} : ¬ Site.winding.Rewrites [] d ["stale.txt"] := by
  rintro ⟨ms, hms, hprefix, hbuilt⟩
  have hhead : ms.head? = some "stale.txt" := by
    rcases hprefix with ⟨rest, rfl⟩
    rfl
  -- Copies stand below the directory of the assets.
  have hcopy : ∀ {source}, ¬ IsCopy d source Site.winding.output (Site.winding.output.down ms) := by
    rintro source ⟨-, ns, -, hns, -, -, heq⟩
    rw [← Path.down_cons] at heq
    rw [Path.down_injective hms (List.forall_mem_cons.2 ⟨by decide, hns⟩) heq] at hhead
    exact absurd hhead (by simp)
  generalize hfile : Site.winding.output.down ms = file at hbuilt hcopy
  cases hbuilt with
  | themeAsset hcopied => exact hcopy hcopied
  | siteAsset hcopied => exact hcopy hcopied
  | @page path hpath =>
    rw [Url.indexFile_eq_down] at hfile
    rw [Path.down_injective hms (fun n => Url.isName_of_mem_pageNames) hfile] at hhead
    -- Without posts there are only the pages that every site has.
    have hother : path = "" ∨ path = Site.winding.config.paths.archives ∨
        path = Site.winding.config.paths.categories ∨ path = Site.winding.config.paths.tags := by
      cases hpath with
      | post hp => cases hp
      | home => exact Or.inl rfl
      | listing hlow hhigh =>
        have hzero : pageCount Site.winding.config.pagination.postsPerPage 0 = 0 := by decide
        rw [List.length_nil, hzero] at hhigh
        omega
      | category hp => cases hp
      | tag hp => cases hp
      | archives => exact Or.inr (Or.inl rfl)
      | categories => exact Or.inr (Or.inr (Or.inl rfl))
      | tags => exact Or.inr (Or.inr (Or.inr rfl))
    have hnames : ∀ path ∈ ["", Site.winding.config.paths.archives,
        Site.winding.config.paths.categories, Site.winding.config.paths.tags],
        (Url.pageNames path).head? ≠ some "stale.txt" := by decide +kernel
    exact hnames path (by simpa using hother) hhead

theorem isOk_build_freshDisk : (Site.winding.build.runOn freshDisk).1.isOk = true := by
  decide +kernel

/-- What is left when both disks have been prepared, and there are no posts. -/
theorem prepared_differs :
    (Site.winding.prepared freshDisk).treeAt ["site", "dist"] ["stale.txt"] ≠
      (Site.winding.prepared Site.staleDisk).treeAt ["site", "dist"] ["stale.txt"] ∧
    (Site.winding.loadPosts.runOn (Site.winding.cleaned Site.staleDisk)).1.toOption.map (·.length) =
      some 0 := by
  decide +kernel

theorem sameOn_freshDisk : SameOn (¬ ["site", "dist"] <+: ·) Site.staleDisk freshDisk := by
  refine ⟨rfl, fun k hk => ?_⟩
  by_cases hroot : k = []
  · simp [Disk.get?, hroot]
  · rw [freshDisk, Disk.eraseTree, Disk.get?_eraseIf _ _ hroot, if_neg]
    rwa [List.isPrefixOf_iff_prefix]

/-- The last build of that site leaves the stale file, and a build on the fresh disk does not have it. -/
theorem last_build_differs : ∃ b count fresh,
    (run Site.staleDisk [.build Site.winding]).last = some b ∧
      Site.winding.build.runOn freshDisk = (.ok count, fresh) ∧ count = b.count ∧
        fresh.disk.treeAt ["site", "dist"] ≠ b.after.treeAt ["site", "dist"] := by
  have hok := Site.isOk_build_staleDisk
  have hok' := isOk_build_freshDisk
  rcases hrun : Site.winding.build.runOn Site.staleDisk with ⟨result, after⟩
  rcases hrun' : Site.winding.build.runOn freshDisk with ⟨result', fresh⟩
  rw [hrun] at hok
  rw [hrun'] at hok'
  cases result with
  | error error => cases hok
  | ok count =>
    cases result' with
    | error error => cases hok'
    | ok count' =>
      have hlast : (run Site.staleDisk [.build Site.winding]).last =
          some ⟨Site.winding, Site.staleDisk, count, after.disk⟩ := by
        rw [run, List.foldl_cons, step, hrun]
        rfl
      rcases last_build_eq_fresh_iff Site.staleDisk [.build Site.winding] _ freshDisk ["site", "dist"]
          count' fresh sound_staleDisk (sound_staleDisk.eraseIf _) hlast sameOn_freshDisk
          isDisjoint_staleDisk isDisjoint_freshDisk hrun' with
        ⟨hcount, posts, loaded, hload, hiff, -⟩
      rcases prepared_differs with ⟨hdiffers, hnone⟩
      rw [hload] at hnone
      have hposts : posts = [] := List.eq_nil_of_length_eq_zero (Option.some.inj hnone)
      refine ⟨_, count', fresh, hlast, rfl, hcount, fun heq => hdiffers ?_⟩
      -- Were the trees the same, they would have been so where no build writes.
      exact hiff.1 heq ["stale.txt"] (hposts ▸ not_rewrites_stale)

end History
end StaticBlog
