import StaticBlog.Proofs.Disk.Depth
import StaticBlog.Proofs.Site.Clean

/-!
# Which posts a site has

- `Site.Publishes` : the published posts of a site, the newest first
- `Site.runs_loadPosts`, `Site.exists_runs_loadPosts` : loading the posts of a site gives these
- `Site.publishes_of_clean` : cleaning keeps them if it removes nothing that is looked up
-/

namespace StaticBlog

open Disk (AllFiles SameBelow)

/-! ## Outcomes -/

/-- Results are collected to the end if each of them is one. -/
theorem eq_map_ok_of_collected {ε α : Type} {outcomes : List (Except ε α)} {read : List α} :
    collected outcomes = (read, none) → outcomes = read.map .ok := by
  intro h
  induction outcomes generalizing read with
  | nil =>
    cases h
    rfl
  | cons outcome rest ih =>
    cases outcome with
    | error e => cases h
    | ok a =>
      rw [collected] at h
      cases hrest : collected rest with
      | mk read' failure =>
        rw [hrest] at h
        cases h
        rw [ih hrest, List.map_cons]

theorem collected_map_ok {ε α : Type} (read : List α) :
    collected (read.map (.ok : α → Except ε α)) = (read, none) := by
  induction read with
  | nil => rfl
  | cons a read ih => rw [List.map_cons, collected, ih]

/-- Posts can be read from all files of a walk only if the walk has no failures. -/
theorem allFiles_of_outcomes {m : PostMaker} {d : Disk} {dir : Path} {read : List (Document × Post)}
    (h : outcomes m d dir = read.map .ok) : AllFiles (d.walk dir) := by
  intro q error hmem
  have hfailure : Except.error (SiteError.postUnread q error) ∈ outcomes m d dir :=
    List.mem_filterMap.2 ⟨_, hmem, rfl⟩
  rw [h] at hfailure
  rcases List.mem_map.1 hfailure with ⟨post, -, heq⟩
  cases heq

/-- What becomes of a file depends on what is read from it. -/
theorem outcome?_congr {m : PostMaker} {d e : Disk} {q : Path} (h : e.readFile q = d.readFile q) :
    outcome? m e (.file q) = outcome? m d (.file q) := by
  have hload : Post.load m e q = Post.load m d q := by rw [Post.load, Post.load, h]
  rw [outcome?, outcome?, hload]

/-- What becomes of the files below a directory is the same on sound disks that look the same there. -/
theorem outcomes_congr {m : PostMaker} {d e : Disk} {dir : Path} (hd : d.Sound) (he : e.Sound)
    (hsame : SameBelow d e dir) : outcomes m e dir = outcomes m d dir := by
  rw [outcomes, outcomes, Disk.walk_congr hd he hsame]
  refine List.filterMap_congr fun step hstep => ?_
  cases step with
  | failure q error => rfl
  | file q =>
    rcases Disk.exists_down_of_mem_walk hd.proper hstep with ⟨ns, hns, rfl⟩
    exact outcome?_congr (Disk.readFile_congr (hsame.entry hns))

/-- What becomes of the files below a directory is the same when something else has been removed. -/
theorem outcomes_eraseIf {m : PostMaker} {d : Disk} {lost : Place → Bool} {dir : Path}
    {read : List (Document × Post)} (hd : d.Proper) (hsame : SameBelow d (d.eraseIf lost) dir)
    (h : outcomes m (d.eraseIf lost) dir = read.map .ok) :
    outcomes m d dir = outcomes m (d.eraseIf lost) dir := by
  have hok := allFiles_of_outcomes h
  have hwalk := Disk.walk_eraseIf hd hsame hok
  have hproper := (Disk.shrinks_eraseIf d lost).proper hd
  rw [outcomes, outcomes, hwalk]
  -- The walk is the same, and each of its files reads the same.
  have hstep : ∀ step ∈ (d.eraseIf lost).walk dir,
      outcome? m d step = outcome? m (d.eraseIf lost) step := by
    intro step hstep
    cases step with
    | failure q error => exact absurd hstep (hok q error)
    | file q =>
      rcases Disk.exists_down_of_mem_walk hproper hstep with ⟨ns, hns, rfl⟩
      exact (outcome?_congr (Disk.readFile_congr (hsame.entry hns))).symm
  exact List.filterMap_congr hstep

namespace Site

variable {s : Site} {posts : List Post}

/-! ## Loading -/

/-- The published posts of a site, the newest first. There are none if the directory of the posts is
missing. -/
def Publishes (s : Site) (d : Disk) (posts : List Post) : Prop :=
  (d.present s.posts = false ∧ posts = []) ∨
    (d.present s.posts = true ∧ ∃ read : List (Document × Post),
      outcomes s.postMaker d s.posts = read.map .ok ∧
        posts = newestFirst ((read.map (·.2)).filter (·.published)))

/-- Loading the posts of a site gives its published posts. -/
theorem runs_loadPosts {before after : Session} :
    Work.Runs s.loadPosts before posts after →
      after.disk = before.disk ∧ s.Publishes before.disk posts := by
  intro h
  rcases Work.runs_bind_iff.1 h with ⟨_, s₁, hnotice, hload⟩
  rcases Work.runs_bind_iff.1 hload with ⟨found, s₂, hread, hpure⟩
  rcases Work.runs_pure_iff.1 hpure with ⟨rfl, rfl⟩
  have hdisk := Work.disk_of_runs_reportIf hnotice
  rw [readPosts] at hread
  rcases Work.runs_bind_iff.1 hread with ⟨there, s₃, hasking, hrest⟩
  rcases Work.runs_asking_iff.1 hasking with ⟨hthere, rfl⟩
  rw [hthere, hdisk] at hrest
  cases hpresent : before.disk.present s.posts with
  | false =>
    rw [hpresent] at hrest
    rcases Work.runs_bind_iff.1 hrest with ⟨_, s₄, hmissing, hpure⟩
    rcases Work.runs_pure_iff.1 hpure with ⟨rfl, rfl⟩
    exact ⟨(Work.disk_of_runs_report hmissing).trans hdisk, Or.inl ⟨hpresent, by simp [newestFirst]⟩⟩
  | true =>
    rw [hpresent] at hrest
    rcases Work.runs_bind_iff.1 hrest with ⟨results, s₄, hresults, hrest⟩
    rcases Work.runs_asking_iff.1 hresults with ⟨rfl, rfl⟩
    rw [hdisk] at hrest
    cases hcollected : collected (outcomes s.postMaker before.disk s.posts) with
    | mk read failure =>
      rw [hcollected] at hrest
      rcases Work.runs_bind_iff.1 hrest with ⟨_, s₅, hnotices, hend⟩
      -- A single failure would be thrown, so every outcome is a post.
      cases failure with
      | some e => exact absurd hend Work.not_runs_throw
      | none =>
        rcases Work.runs_pure_iff.1 hend with ⟨rfl, rfl⟩
        exact ⟨(Work.disk_of_runs_reportAll hnotices).trans hdisk,
          Or.inr ⟨hpresent, read, eq_map_ok_of_collected hcollected, rfl⟩⟩

/-- The published posts of a site can be loaded. -/
theorem exists_runs_loadPosts (before : Session) (h : s.Publishes before.disk posts) :
    ∃ after, Work.Runs s.loadPosts before posts after := by
  rcases Work.exists_runs_reportIf (Code.Palette.ofName? s.config.code.theme).isNone
      (.codeThemeUnknown s.config.code.theme Code.Palette.standard.name) before with
    ⟨s₁, hnotice, hdisk⟩
  have hasking : Work.Runs (Work.asking (·.present s.posts)) s₁ (before.disk.present s.posts) s₁ :=
    Work.runs_asking_iff.2 ⟨by rw [hdisk], rfl⟩
  rcases h with ⟨hpresent, rfl⟩ | ⟨hpresent, read, hread, rfl⟩
  · rw [hpresent] at hasking
    -- Without the directory there are no posts, and that is reported.
    have hmissing : ∃ s₂, Work.Runs (do
        Work.report (.postsMissing s.posts)
        return ([] : List Post)) s₁ [] s₂ :=
      ⟨_, Work.runs_bind_iff.2 ⟨_, _, Work.runs_report_iff.2 rfl, Work.runs_pure_iff.2 ⟨rfl, rfl⟩⟩⟩
    rcases hmissing with ⟨s₂, hmissing⟩
    have hread : Work.Runs s.readPosts s₁ [] s₂ := Work.runs_bind_iff.2 ⟨_, _, hasking, hmissing⟩
    have hnone : newestFirst ([] : List Post) = [] := by simp [newestFirst]
    refine ⟨s₂, Work.runs_bind_iff.2 ⟨_, _, hnotice, Work.runs_bind_iff.2 ⟨_, _, hread, ?_⟩⟩⟩
    exact Work.runs_pure_iff.2 ⟨hnone.symm, rfl⟩
  · rw [hpresent] at hasking
    have houtcomes : Work.Runs (Work.asking (outcomes s.postMaker · s.posts)) s₁
        (read.map .ok) s₁ := Work.runs_asking_iff.2 ⟨by rw [hdisk, hread], rfl⟩
    rcases Work.exists_runs_reportAll (read.flatMap fun read => postNotices read.1 read.2) s₁ with
      ⟨s₂, hnotices, -⟩
    have hposts : Work.Runs s.readPosts s₁ ((read.map (·.2)).filter (·.published)) s₂ := by
      refine Work.runs_bind_iff.2 ⟨_, _, hasking, Work.runs_bind_iff.2 ⟨_, _, houtcomes, ?_⟩⟩
      rw [collected_map_ok]
      exact Work.runs_bind_iff.2 ⟨_, _, hnotices, Work.runs_pure_iff.2 ⟨rfl, rfl⟩⟩
    refine ⟨s₂, Work.runs_bind_iff.2 ⟨_, _, hnotice, Work.runs_bind_iff.2 ⟨_, _, hposts, ?_⟩⟩⟩
    exact Work.runs_pure_iff.2 ⟨rfl, rfl⟩

/-! ## Cleaning -/

/-- Cleaning erases some entries, and does nothing else. -/
theorem exists_eraseIf_of_clean {before after : Session} (h : Work.Runs s.clean before () after) :
    ∃ lost, after.disk = before.disk.eraseIf lost := by
  rcases runs_clean h with ⟨-, ⟨-, hdisk⟩ | ⟨-, cleared, hcleared, hremoved⟩⟩
  · exact ⟨_, hdisk.trans (Disk.eraseIf_false _).symm⟩
  · have hfirst : ∃ lost, cleared = before.disk.eraseIf lost := by
      rcases Disk.clear_eq_ok_iff.1 hcleared with ⟨l, -, rfl⟩ | ⟨l, t, -, rfl⟩
      · exact ⟨_, rfl⟩
      · exact ⟨_, rfl⟩
    rcases hfirst with ⟨lost, rfl⟩
    rcases Disk.cases_of_removeCleared hremoved with ⟨l, -, -, heq⟩ | ⟨-, heq⟩
    · exact ⟨_, heq.trans (Disk.eraseIf_eraseIf _ _ _)⟩
    · exact ⟨lost, heq⟩

/-- Cleaning keeps what is looked up below a path if it removes nothing there. -/
theorem sameBelow_of_clean {before after : Session} (hclean : Work.Runs s.clean before () after) {p : Path}
    (h : ∀ ns, (∀ n ∈ ns, Path.IsName n) → ∀ k ∈ before.disk.trail (p.down ns),
      ¬ s.CleanRemoves before.disk k) : SameBelow before.disk after.disk p := by
  rcases get?_of_clean hclean with ⟨hcwd, hget⟩
  exact ⟨hcwd, fun ns hns k hk => (hget k (Disk.ne_nil_of_mem_trailFrom hk)).2 (h ns hns k hk)⟩

/-- Cleaning keeps the published posts if it removes nothing that is looked up at the posts. -/
theorem publishes_of_clean {before after : Session} (hclean : Work.Runs s.clean before () after)
    (hd : before.disk.Proper) (hsame : SameBelow before.disk after.disk s.posts)
    (h : s.Publishes after.disk posts) : s.Publishes before.disk posts := by
  rcases exists_eraseIf_of_clean hclean with ⟨lost, heq⟩
  rw [heq] at h hsame
  have hpresent : (before.disk.eraseIf lost).present s.posts = before.disk.present s.posts :=
    Disk.present_congr hsame.entry_self
  rw [Publishes, hpresent] at h
  rcases h with hnone | ⟨hthere, read, hread, hposts⟩
  · exact Or.inl hnone
  · exact Or.inr ⟨hthere, read, (outcomes_eraseIf hd hsame hread).trans hread, hposts⟩

end Site
end StaticBlog
