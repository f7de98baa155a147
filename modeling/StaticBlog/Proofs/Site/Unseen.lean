import StaticBlog.Proofs.Site.Drafts
import StaticBlog.Proofs.Site.Replay

/-!
# Builds do not show drafts

- `Site.IsApartFromPosts` : the output directory, the theme and the assets are apart from the posts
- `Site.Publishes.congr` : disks that differ in drafts have the same posts
- `Site.drafts_leave_no_trace` : builds on them make the same pages and leave the same output directory
-/

namespace StaticBlog

open Disk (Extends Open SameBelow Sound Twin Unlinked)

namespace Site

variable {s : Site} {d e : Disk} {posts : List Post}

/-- The output directory, the theme and the assets are apart from the posts, in which two disks may
differ: whatever is looked up there before a build and in the end, both disks hold the same, and
cleaning removes nothing that is looked up at the posts. -/
structure IsApartFromPosts (s : Site) (d e final : Disk) : Prop where
  output : ∀ k ∈ d.trail s.output, e.get? k = d.get? k
  shared : s.IsShared (fun k => e.get? k = d.get? k) final
  unremoved : ∀ ns, (∀ n ∈ ns, Path.IsName n) → ∀ k ∈ d.trail (s.posts.down ns), ¬ s.CleanRemoves d k
  unremoved' : ∀ ns, (∀ n ∈ ns, Path.IsName n) → ∀ k ∈ e.trail (s.posts.down ns), ¬ s.CleanRemoves e k

/-- Disks that differ in drafts have the same posts. -/
theorem Publishes.congr (h : s.Publishes d posts) (hd : Sound d) (he : Sound e)
    (hdrafts : DiffersInDrafts s.postMaker d e s.posts) : s.Publishes e posts := by
  rcases publishes_iff.1 h with ⟨seen, hseen, hposts⟩
  exact publishes_iff.2 ⟨seen, (hdrafts.shownPosts_eq hd he).trans hseen, hposts⟩

/-- Drafts leave no trace: if a build succeeds on a disk, it succeeds on every disk that differs from it
in drafts, with the same number of pages, and each path below the output path leads to the same. -/
theorem drafts_leave_no_trace (s : Site) (d e : Disk) (count : Nat) (after : Session) (hd : Sound d)
    (he : Sound e) (hcwd : e.cwd = d.cwd) (hclock : e.clock = d.clock)
    (hdrafts : DiffersInDrafts s.postMaker d e s.posts)
    (h : s.IsApartFromPosts d e after.disk) :
    s.build.runOn d = (.ok count, after) →
      ∃ after', s.build.runOn e = (.ok count, after') ∧ ∀ ns, (∀ n ∈ ns, Path.IsName n) →
        after'.disk.entry (s.output.down ns) = after.disk.entry (s.output.down ns) := by
  intro hrun
  have htwin : Twin (fun k => e.get? k = d.get? k) d e := ⟨⟨hcwd, fun _ hk => hk⟩, hclock, hd, he⟩
  rw [Work.runOn_eq_ok_iff, build_eq_buildFrom] at hrun
  rcases Work.runs_bind_iff.1 hrun with ⟨_, cleaned, hclean, hrun⟩
  rcases Work.runs_bind_iff.1 hrun with ⟨posts, loaded, hload, hrest⟩
  -- Both sites are cleaned alike.
  have hagain : ∃ cleaned', Work.Runs s.clean ⟨e, []⟩ () cleaned' ∧
      Twin (fun k => e.get? k = d.get? k) cleaned.disk cleaned'.disk :=
    exists_runs_clean_of_twin htwin h.output hclean
  rcases hagain with ⟨cleaned', hclean', htwin₁⟩
  -- They have the same posts, as they had before.
  rcases runs_loadPosts hload with ⟨hloaded, hposts⟩
  have hkept := sameBelow_of_clean hclean h.unremoved
  have hkept' := sameBelow_of_clean hclean' h.unremoved'
  have hposts' : s.Publishes cleaned'.disk posts := by
    rw [publishes_congr he htwin₁.sound' hkept']
    exact ((publishes_congr hd htwin₁.sound hkept).1 hposts).congr hd he hdrafts
  rcases exists_runs_loadPosts cleaned' hposts' with ⟨loaded', hload'⟩
  have htwin₂ : Twin (fun k => e.get? k = d.get? k) loaded.disk loaded'.disk := by
    rw [hloaded, (runs_loadPosts hload').1]
    exact htwin₁
  -- With them all the rest is done alike.
  rcases (repeats_buildFrom h.shared posts).again loaded loaded' count after htwin₂ hrest
    (Extends.refl _) with ⟨after', hrest', htwin₃⟩
  refine ⟨after', ?_, fun ns hns => htwin₃.entry_eq (h.shared.output ns hns)⟩
  rw [Work.runOn_eq_ok_iff, build_eq_buildFrom]
  exact Work.runs_bind_iff.2 ⟨_, _, hclean', Work.runs_bind_iff.2 ⟨_, _, hload', hrest'⟩⟩

/-- A site with short paths. -/
def shortSite : Site where
  base := ⟨"s"⟩
  config :=
    { paths := { source := "c", posts := "p", assets := "a", output := "o" }
      theme := { name := "t" } }

/-- A disk with one published post. -/
def publishedDisk : Disk where
  entries := [(["s"], .directory), (["s", "c"], .directory), (["s", "c", "p"], .directory),
    (["s", "c", "p", "a.md"], .file (.text "---\ntitle: A\n---\nx") 0),
    (["s", "themes"], .directory), (["s", "themes", "t"], .directory),
    (["s", "themes", "t", "post.html"], .file (.text "post") 0),
    (["s", "themes", "t", "index.html"], .file (.text "home") 0)]

/-- Where a draft is added. -/
def draftPlace : Place := ["s", "c", "p", "b.md"]

/-- The disk with a draft besides the post. -/
def draftDisk : Disk :=
  publishedDisk.put draftPlace (.file (.text "---\npublished: false\n---\ny") 0)

theorem sound_publishedDisk : Sound publishedDisk :=
  Disk.sound_of_forall (by decide) (by decide +kernel)

theorem sound_draftDisk : Sound draftDisk :=
  Disk.sound_of_forall (by decide +kernel) (by decide +kernel)

theorem isDraft_added : IsDraft shortSite.postMaker draftDisk (shortSite.posts.join "b.md") false := by
  have hload : (Post.load shortSite.postMaker draftDisk (shortSite.posts.join "b.md")).toOption.map
      (·.2.published) = some false := by
    decide +kernel
  rcases Option.map_eq_some_iff.1 hload with ⟨⟨document, post⟩, hfound, hdraft⟩
  exact .post (by decide +kernel) (eq_ok_of_toOption hfound) hdraft

theorem get?_draftDisk {k : Place} (hk : k ≠ draftPlace) :
    draftDisk.get? k = publishedDisk.get? k := Disk.get?_put_of_ne _ _ hk.symm

/-- The two disks differ in that draft. -/
theorem differsInDrafts_shortSite :
    DiffersInDrafts shortSite.postMaker publishedDisk draftDisk shortSite.posts := by
  have hunlinked : Unlinked ["s", "c", "p"] publishedDisk :=
    Disk.unlinked_of_forall (by simp [publishedDisk])
  have hopen : Open shortSite.posts ["s", "c", "p"] publishedDisk :=
    ⟨eq_ok_of_toOption (by decide +kernel), hunlinked⟩
  have hopen' : Open shortSite.posts ["s", "c", "p"] draftDisk :=
    ⟨eq_ok_of_toOption (by decide +kernel), hunlinked.put (by decide)⟩
  refine differsInDrafts_of_open sound_publishedDisk.proper hopen hopen' fun ns _ => ?_
  by_cases hk : ["s", "c", "p"] ++ ns = draftPlace
  · have hns : ns = ["b.md"] := by simpa [draftPlace] using hk
    subst hns
    exact Or.inr ⟨Or.inl (by decide +kernel), Or.inr isDraft_added⟩
  · exact Or.inl (get?_draftDisk hk)

theorem built_shortSite : (shortSite.build.runOn publishedDisk).1.isOk = true ∧
    (shortSite.build.runOn publishedDisk).2.disk.cwd = [] ∧
      ∀ x ∈ (shortSite.build.runOn publishedDisk).2.disk.entries, x.2.target? = none := by
  decide +kernel

/-- Without links nothing but the way straight down is looked up, which does not lead to the draft from
directories beside the posts. -/
theorem get?_beside_draft {final : Disk} (hcwd : final.cwd = []) (hlinks : Unlinked [] final) {p : Path}
    {front : List String} (hp : p.components = front.map .name)
    (hfront : ∀ ns, ¬ draftPlace <+: front ++ ns) :
    SharedBelow (fun k => draftDisk.get? k = publishedDisk.get? k) final p := by
  intro ns hns k hk
  rw [Disk.trail, Path.components_down p hns, hp, hcwd, ← List.map_append] at hk
  have hprefix := Disk.prefix_of_mem_trailFrom hlinks List.nil_prefix hk
  exact get?_draftDisk fun heq => hfront ns (heq ▸ hprefix)

/-- A build on the disk with the draft makes as many pages, and leaves the same. -/
theorem draft_leaves_no_trace : ∃ count after after', shortSite.build.runOn publishedDisk = (.ok count, after) ∧
    shortSite.build.runOn draftDisk = (.ok count, after') ∧
      ∀ ns, (∀ n ∈ ns, Path.IsName n) → after'.disk.entry (shortSite.output.down ns) =
        after.disk.entry (shortSite.output.down ns) := by
  rcases built_shortSite with ⟨hok, hcwd, hlinks⟩
  cases hrun : shortSite.build.runOn publishedDisk with
  | mk result after =>
    rw [hrun] at hok hcwd hlinks
    cases result with
    | error error => cases hok
    | ok count =>
      have hunlinked : Unlinked [] after.disk := Disk.unlinked_of_target? hlinks
      have habsent : publishedDisk.present shortSite.output = false := by decide +kernel
      have habsent' : draftDisk.present shortSite.output = false := by decide +kernel
      have houtput : shortSite.output.components = ["s", "o"].map .name := by decide +kernel
      have htheme : shortSite.themeDir.components = ["s", "themes", "t"].map .name := by decide +kernel
      have hassets : shortSite.assets.components = ["s", "c", "a"].map .name := by decide +kernel
      have hapart : shortSite.IsApartFromPosts publishedDisk draftDisk after.disk := by
        refine ⟨by decide +kernel, ⟨?_, ?_, ?_⟩, fun _ _ k _ hk => ?_, fun _ _ k _ hk => ?_⟩
        · exact get?_beside_draft hcwd hunlinked houtput (by simp [draftPlace])
        · exact get?_beside_draft hcwd hunlinked htheme (by simp [draftPlace])
        · exact get?_beside_draft hcwd hunlinked hassets (by simp [draftPlace])
        · rw [CleanRemoves, habsent] at hk
          cases hk.1
        · rw [CleanRemoves, habsent'] at hk
          cases hk.1
      rcases drafts_leave_no_trace shortSite publishedDisk draftDisk count after sound_publishedDisk
          sound_draftDisk rfl rfl differsInDrafts_shortSite hapart hrun with ⟨after', hrun', hsame⟩
      exact ⟨count, after, after', rfl, hrun', hsame⟩

end Site
end StaticBlog
