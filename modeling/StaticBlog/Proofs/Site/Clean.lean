import StaticBlog.Proofs.Disk.Removal
import StaticBlog.Proofs.Path.Below
import StaticBlog.Proofs.Site.Runs
import StaticBlog.Site.Build

/-!
# What cleaning a site keeps

- `Site.runs_clean`, `Site.exists_runs_clean` : what cleaning does to the disk
- `Site.IsSource` : the files that a site is built from
- `Site.clean_keeps_sources_iff` : when all of them are read as before
-/

namespace StaticBlog
namespace Site

variable {s : Site}

/-- Cleaning is refused, or does nothing, or removes the output directory. -/
theorem runs_clean {before after : Session} :
    Work.Runs s.clean before () after →
      s.outputHoldsSources = false ∧
        ((before.disk.present s.output = false ∧ after.disk = before.disk) ∨
          (before.disk.present s.output = true ∧
            ∃ cleared, before.disk.clear s.output = .ok cleared ∧
              cleared.removeCleared s.output = .ok after.disk)) := by
  intro h
  rw [clean] at h
  cases hholds : s.outputHoldsSources with
  | true =>
    rw [if_pos hholds] at h
    -- With the sources in the output directory cleaning is refused.
    rcases Work.runs_bind_iff.1 h with ⟨_, s₁, hthrow, _⟩
    exact absurd hthrow Work.not_runs_throw
  | false =>
    rw [if_neg (by simp [hholds])] at h
    rcases Work.runs_bind_iff.1 h with ⟨there, s₂, hasking, h⟩
    rcases Work.runs_asking_iff.1 hasking with ⟨hthere, hs₂⟩
    rw [hthere, hs₂] at h
    refine ⟨rfl, ?_⟩
    cases hpresent : before.disk.present s.output with
    | false =>
      rw [hpresent] at h
      rcases Work.runs_pure_iff.1 h with ⟨-, rfl⟩
      exact Or.inl ⟨rfl, rfl⟩
    | true =>
      rw [hpresent] at h
      rcases Work.runs_bind_iff.1 h with ⟨_, s₃, hclear, h⟩
      rcases Work.runs_bind_iff.1 h with ⟨_, s₄, hremove, hreport⟩
      rcases Work.runs_changing_iff.1 hclear with ⟨cleared, hcleared, rfl⟩
      rcases Work.runs_changing_iff.1 hremove with ⟨removed, hremoved, rfl⟩
      refine Or.inr ⟨rfl, cleared, hcleared, ?_⟩
      rw [Work.disk_of_runs_report hreport]
      exact hremoved

/-- The output directory of a site can be removed, if the sources are not in it. -/
theorem exists_runs_clean {before : Session} {removed : Disk}
    (hholds : s.outputHoldsSources = false)
    (h : (before.disk.present s.output = false ∧ removed = before.disk) ∨
      (before.disk.present s.output = true ∧
        ∃ cleared, before.disk.clear s.output = .ok cleared ∧
          cleared.removeCleared s.output = .ok removed)) :
    ∃ after, Work.Runs s.clean before () after ∧ after.disk = removed := by
  rw [clean, if_neg (by simp [hholds])]
  have hasking : Work.Runs (Work.asking (·.present s.output)) before
      (before.disk.present s.output) before := Work.runs_asking_iff.2 ⟨rfl, rfl⟩
  rcases h with ⟨hpresent, rfl⟩ | ⟨hpresent, cleared, hcleared, hremoved⟩
  · rw [hpresent] at hasking
    exact ⟨before, Work.runs_bind_iff.2 ⟨_, _, hasking, Work.runs_pure_iff.2 ⟨rfl, rfl⟩⟩, rfl⟩
  · rw [hpresent] at hasking
    have hclear : Work.Runs (Work.changing (·.clear s.output) (.outputUndeleted s.output)) before ()
        { before with disk := cleared } := Work.runs_changing_iff.2 ⟨cleared, hcleared, rfl⟩
    have hremove : Work.Runs (Work.changing (·.removeCleared s.output) (.outputUndeleted s.output))
        { before with disk := cleared } () { before with disk := removed } :=
      Work.runs_changing_iff.2 ⟨removed, hremoved, rfl⟩
    exact ⟨_, Work.runs_bind_iff.2 ⟨_, _, hasking, Work.runs_bind_iff.2 ⟨_, _, hclear,
      Work.runs_bind_iff.2 ⟨_, _, hremove, Work.runs_report_iff.2 rfl⟩⟩⟩, rfl⟩

/-- The places at which cleaning a site removes something. -/
def CleanRemoves (s : Site) (d : Disk) (k : Place) : Prop :=
  d.present s.output = true ∧ d.Removes s.output k

/-- Cleaning loses the entries at these places, and no others. -/
theorem get?_of_clean {before after : Session} (h : Work.Runs s.clean before () after) :
    after.disk.cwd = before.disk.cwd ∧ ∀ k, k ≠ [] →
      (s.CleanRemoves before.disk k → after.disk.get? k = none) ∧
        (¬ s.CleanRemoves before.disk k → after.disk.get? k = before.disk.get? k) := by
  rcases runs_clean h with ⟨-, ⟨hpresent, hdisk⟩ | ⟨hpresent, cleared, hcleared, hremoved⟩⟩
  · refine ⟨by rw [hdisk], fun k _ => ⟨fun hk => ?_, fun _ => by rw [hdisk]⟩⟩
    -- Nothing is there, so nothing is removed.
    rw [CleanRemoves, hpresent] at hk
    cases hk.1
  · have hremoval := Disk.get?_of_removal hcleared hremoved
    simpa [CleanRemoves, hpresent] using hremoval

theorem shrinks_of_clean {before after : Session} (h : Work.Runs s.clean before () after) :
    Disk.Shrinks before.disk after.disk := by
  rcases get?_of_clean h with ⟨hcwd, hget⟩
  refine ⟨hcwd, fun k => ?_⟩
  by_cases hk : k = []
  · exact Or.inl (by simp [Disk.get?, hk])
  · by_cases hremoves : s.CleanRemoves before.disk k
    · exact Or.inr ((hget k hk).1 hremoves)
    · exact Or.inl ((hget k hk).2 hremoves)

/-! ## Sources -/

/-- The files that a site is built from: the markdown files below the directory of the posts, and
the file that the configuration was read from. -/
def IsSource (s : Site) (d : Disk) (p : Path) : Prop :=
  d.isFile p = true ∧
    ((∃ names, (∀ n ∈ names, Path.IsName n) ∧ p = s.posts.down names ∧ isMarkdownFile p = true) ∨
      s.configFile = some p)

/-- A file is read as before exactly if cleaning removes nothing on the way to it. -/
theorem readFile_clean_eq_iff {before after : Session} (h : Work.Runs s.clean before () after)
    {p : Path} (hfile : before.disk.isFile p = true) :
    after.disk.readFile p = before.disk.readFile p ↔
      ∀ k ∈ before.disk.trail p, ¬ s.CleanRemoves before.disk k := by
  have hget := (get?_of_clean h).2
  rw [(shrinks_of_clean h).readFile_eq_iff hfile]
  rcases Disk.isFile_iff.1 hfile with ⟨m, content, modified, hentry⟩
  -- Before, nothing was missing on the way, so only what cleaning removes can be.
  have hthere := (Disk.entry_eq_ok_iff.1 hentry).2.2.get?_ne_none rfl
  constructor
  · intro hkept k hk hremoves
    exact hkept k hk ((hget k (Disk.ne_nil_of_mem_trailFrom hk)).1 hremoves)
  · intro hnot k hk
    rw [(hget k (Disk.ne_nil_of_mem_trailFrom hk)).2 (hnot k hk)]
    exact hthere k hk

/-- After a successful clean all sources are read as before exactly if, on the way to each of them, no
place is looked up at which cleaning removes something. -/
theorem clean_keeps_sources_iff (s : Site) (d : Disk) (after : Session) :
    s.clean.runOn d = (.ok (), after) →
      ((∀ p, s.IsSource d p → after.disk.readFile p = d.readFile p) ↔
        ∀ p, s.IsSource d p → ∀ k ∈ d.trail p, ¬ s.CleanRemoves d k) := by
  intro h
  have hclean : Work.Runs s.clean ⟨d, []⟩ () after := Work.runOn_eq_ok_iff.1 h
  constructor
  · intro hkept p hp
    exact (readFile_clean_eq_iff hclean hp.1).1 (hkept p hp)
  · intro hnot p hp
    exact (readFile_clean_eq_iff hclean hp.1).2 (hnot p hp)

/-- A site whose pages are written among its posts. -/
def pagesAmongPosts : Site := ⟨⟨"site"⟩, { paths := { output := "source/_posts" } }, none⟩

/-- A disk with one post of that site. -/
def onePost : Disk where
  entries := [(["site"], .directory), (["site", "source"], .directory),
    (["site", "source", "_posts"], .directory),
    (["site", "source", "_posts", "a.md"], .file (.text "text") 0)]

/-- Cleaning that site succeeds and loses the post. -/
theorem clean_loses_post : ∃ after, pagesAmongPosts.clean.runOn onePost = (.ok (), after) ∧
    ¬ ∀ p, pagesAmongPosts.IsSource onePost p → after.disk.readFile p = onePost.readFile p := by
  have hok : (pagesAmongPosts.clean.runOn onePost).1.isOk = true := by decide +kernel
  cases hrun : pagesAmongPosts.clean.runOn onePost with
  | mk result after =>
    rw [hrun] at hok
    cases result with
    | error e => cases hok
    | ok u =>
      refine ⟨after, rfl, fun hkept => ?_⟩
      have hsource : pagesAmongPosts.IsSource onePost ⟨"site/source/_posts/a.md"⟩ := by
        refine ⟨by decide +kernel, Or.inl ⟨["a.md"], by decide, by decide +kernel, by decide +kernel⟩⟩
      have htrail : ["site", "source", "_posts", "a.md"] ∈
          onePost.trail ⟨"site/source/_posts/a.md"⟩ := by
        decide +kernel
      have hlocate : onePost.locate false pagesAmongPosts.output =
          .ok (.entry ["site", "source", "_posts"] .directory) := by
        rfl
      have hremoves : pagesAmongPosts.CleanRemoves onePost ["site", "source", "_posts", "a.md"] :=
        ⟨by decide +kernel, .below hlocate ⟨["a.md"], rfl⟩ (by decide)⟩
      exact (clean_keeps_sources_iff _ _ _ hrun).1 hkept _ hsource _ htrail hremoves

end Site
end StaticBlog
