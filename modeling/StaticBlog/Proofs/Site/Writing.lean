import StaticBlog.Proofs.Disk.Depth
import StaticBlog.Proofs.Disk.Tree
import StaticBlog.Proofs.Site.Pages
import StaticBlog.Proofs.Site.Reading

/-!
# What a build writes

Each step of a build writes files below the output directory, and nothing else changes.

- `copiesIn` : the copies of what is in an asset directory
- `fills_of_copyTree`, `Theme.fills_of_copyAssets` : copying the assets in a directory, and those of a
  theme and of a site
- `Site.fills_of_writePages` : writing pages
- `Site.newFiles`, `Site.runs_generate` : what generating a site writes
-/

namespace StaticBlog

variable {o : Place} {output : Path}

open Disk (Open Fills NewFile AllFiles SameBelow Sound)

/-! ## Assets -/

/-- Whether a name is that of something hidden. -/
def IsHiddenName (n : String) : Prop := n.toList.head? = some '.'

/-- The paths of the copies of what is in an asset directory. -/
def IsCopy (d : Disk) (source output p : Path) : Prop :=
  d.isDirectory source = true ∧ ∃ ns, ns ≠ [] ∧ (∀ n ∈ ns, Path.IsName n) ∧
    (∀ n ∈ ns, ¬ IsHiddenName n) ∧ d.isFile (source.down ns) = true ∧
      p = (output.join "assets").down ns

theorem below_down {source : Path} {ns : List String} (hns : ∀ n ∈ ns, Path.IsName n) :
    (source.down ns).below source = ns.map .name := by
  rw [Path.below, Path.components_down source hns, List.drop_left]

theorem extend_names (p : Path) (ns : List String) : p.extend (ns.map .name) = p.down ns := by
  rw [Path.extend, List.foldl_map]
  rfl

theorem isHiddenBelow_down_iff {source : Path} {ns : List String} (hns : ∀ n ∈ ns, Path.IsName n) :
    isHiddenBelow source (source.down ns) = true ↔ ∃ n ∈ ns, IsHiddenName n := by
  rw [isHiddenBelow, below_down hns, List.any_map, List.any_eq_true]
  exact exists_congr fun n => and_congr_right fun _ => decide_eq_true_iff

/-! ## Sources that stay as they are -/

/-- A path whose files are apart from a place: whatever is looked up at the path or below it is the
same on both disks, and it is not at the place or below it. -/
structure IsApart (d e : Disk) (o : Place) (p : Path) : Prop where
  same : SameBelow d e p
  outside : ∀ ns, (∀ n ∈ ns, Path.IsName n) → ∀ k ∈ d.trail (p.down ns), ¬ o <+: k

namespace IsApart

variable {d e e' : Disk} {p : Path}

/-- What is written below the place does not matter. -/
theorem fills {new : List NewFile} (h : IsApart d e o p) (hfills : Fills output o new e e') :
    IsApart d e' o p := by
  refine ⟨⟨hfills.extends.cwd.trans h.same.cwd, fun ns hns k hk => ?_⟩, h.outside⟩
  exact (hfills.outside k (h.outside ns hns k hk)).trans (h.same.get? ns hns k hk)

/-- The second disk is apart from the place too. -/
theorem self (h : IsApart d e o p) : IsApart e e o p := by
  refine ⟨⟨rfl, fun _ _ _ _ => rfl⟩, fun ns hns k hk => h.outside ns hns k ?_⟩
  rwa [← h.same.trail_eq hns]

theorem readFile_eq (h : IsApart d e o p) {ns : List String} (hns : ∀ n ∈ ns, Path.IsName n) :
    e.readFile (p.down ns) = d.readFile (p.down ns) := Disk.readFile_congr (h.same.entry hns)

end IsApart

theorem isCopy_iff {d e : Disk} {source p : Path} (h : SameBelow d e source) :
    IsCopy e source output p ↔ IsCopy d source output p := by
  have hdir : e.isDirectory source = d.isDirectory source := Disk.isDirectory_congr h.entry_self
  rw [IsCopy, IsCopy, hdir]
  refine and_congr_right fun _ => exists_congr fun ns => and_congr_right fun _ => ?_
  refine and_congr_right fun hns => ?_
  rw [Disk.isFile_congr (h.entry hns)]

/-! ## Copies -/

/-- The copy of a file that a walk through an asset directory meets. Hidden files have none. -/
def copied? (d : Disk) (source : Path) : Disk.Step → Option NewFile
  | .failure _ _ => none
  | .file q =>
    if isHiddenBelow source q then none
    else (d.readFile q).toOption.map fun held =>
      ⟨"assets" :: (q.below source).map Path.Component.text, held.1⟩

/-- The copies of what is in an asset directory, if there is one. -/
def copiesIn (d : Disk) (source : Path) : List NewFile :=
  if d.isDirectory source then (d.walk source).filterMap (copied? d source) else []

theorem text_below_down {source : Path} {ns : List String} (hns : ∀ n ∈ ns, Path.IsName n) :
    ((source.down ns).below source).map Path.Component.text = ns := by
  rw [below_down hns, List.map_map]
  exact List.map_id ns

/-- Where the copy of a file goes that names lead to from an asset directory. -/
theorem extend_below_down {source : Path} {ns : List String} (hns : ∀ n ∈ ns, Path.IsName n) :
    (output.join "assets").extend ((source.down ns).below source) = output.down ("assets" :: ns) := by
  rw [below_down hns, extend_names, Path.down_cons]

/-- The copies of what is in an asset directory that can be walked to its end. -/
theorem exists_mem_copiesIn_iff {d : Disk} {source p : Path} (hd : d.Proper)
    (hok : d.isDirectory source = true → AllFiles (d.walk source)) :
    (∃ f ∈ copiesIn d source, p = output.down f.names) ↔ IsCopy d source output p := by
  cases hdir : d.isDirectory source with
  | false => simp [copiesIn, IsCopy, hdir]
  | true =>
    have hmem := Disk.mem_walk_iff hd hdir (hok hdir)
    rw [copiesIn, if_pos hdir]
    constructor
    · rintro ⟨f, hf, hp⟩
      rcases List.mem_filterMap.1 hf with ⟨step, hstep, hcopied⟩
      cases step with
      | failure q error => cases hcopied
      | file q =>
        rcases (hmem q).1 hstep with ⟨ns, hne, hns, rfl, hfile⟩
        rw [copied?] at hcopied
        split at hcopied
        · cases hcopied
        · next hshown =>
          rcases Option.map_eq_some_iff.1 hcopied with ⟨held, -, rfl⟩
          refine ⟨hdir, ns, hne, hns, fun n hn hhidden => ?_, hfile, ?_⟩
          · exact hshown ((isHiddenBelow_down_iff hns).2 ⟨n, hn, hhidden⟩)
          · rw [hp, text_below_down hns, Path.down_cons]
    · rintro ⟨-, ns, hne, hns, hshown, hfile, hp⟩
      rcases Disk.isFile_iff.1 hfile with ⟨m, content, modified, hentry⟩
      have hread : d.readFile (source.down ns) = .ok (content, modified) := by
        rw [Disk.readFile, hentry]
      have hnot : ¬ isHiddenBelow source (source.down ns) = true := by
        rw [isHiddenBelow_down_iff hns]
        rintro ⟨n, hn, hhidden⟩
        exact hshown n hn hhidden
      refine ⟨⟨"assets" :: ns, content⟩, List.mem_filterMap.2 ⟨.file (source.down ns), ?_, ?_⟩, ?_⟩
      · exact (hmem _).2 ⟨ns, hne, hns, rfl, hfile⟩
      · rw [copied?, if_neg hnot, hread, text_below_down hns]
        rfl
      · rw [hp, Path.down_cons]

/-- Sound disks that look the same below an asset directory have the same copies of it. -/
theorem copiesIn_congr {d e : Disk} {source : Path} (hd : Sound d) (he : Sound e)
    (hsame : SameBelow d e source) : copiesIn e source = copiesIn d source := by
  have hdir : e.isDirectory source = d.isDirectory source := Disk.isDirectory_congr hsame.entry_self
  have hstep : ∀ step ∈ d.walk source, copied? e source step = copied? d source step := by
    intro step hstep
    cases step with
    | failure q error => rfl
    | file q =>
      rcases Disk.exists_down_of_mem_walk hd.proper hstep with ⟨ns, hns, rfl⟩
      rw [copied?, copied?, Disk.readFile_congr (hsame.entry hns)]
  rw [copiesIn, copiesIn, hdir, Disk.walk_congr hd he hsame, List.filterMap_congr hstep]

/-! ## Copying -/

/-- Copying a file from outside the output directory into it writes what the file holds. -/
theorem fills_of_copyFile {source : Path} {ns : List String} {before after : Session}
    (hopen : Open output o before.disk) (hns : ∀ n ∈ ns, Path.IsName n) (hne : ns ≠ [])
    (hsource : ∀ k ∈ before.disk.trail source, ¬ o <+: k) :
    Work.Runs (copyFile source (output.down ns)) before () after →
      ∃ content modified, before.disk.readFile source = .ok (content, modified) ∧
        Fills output o [⟨ns, content⟩] before.disk after.disk := by
  intro h
  rcases List.eq_nil_or_concat ns with heq | ⟨front, n, heq⟩
  · exact absurd heq hne
  · rw [List.concat_eq_append] at heq
    have hfront : ∀ m ∈ front, Path.IsName m := fun m hm => hns m (by simp [heq, hm])
    rcases Path.parent?_down output hfront (hns n (by simp [heq])) with ⟨dir, hparent, -⟩
    rw [← heq] at hparent
    rw [copyFile, hparent] at h
    rcases Work.runs_bind_iff.1 h with ⟨_, s₁, hmake, hcopy⟩
    rcases Work.runs_changing_iff.1 hmake with ⟨made, hmade, rfl⟩
    rcases Work.runs_changing_iff.1 hcopy with ⟨copied, hcopied, rfl⟩
    -- The new directories are not on the way to the file, so it is read as it was.
    have hadds := (Disk.makes_above hopen hns hne hparent hmade).below.adds
    have hread := hadds.sameOn.readFile_eq hsource
    have hsource' : ∀ k ∈ made.trail source, ¬ o <+: k := by
      rwa [hadds.sameOn.trail_eq hsource]
    rw [Disk.copy] at hcopied
    split at hcopied
    · next content modified hfound =>
      rw [Disk.sameEntry_eq_false (hadds.open hopen) hns hsource' hfound] at hcopied
      rw [hread] at hfound
      exact ⟨content, modified, hfound, Disk.fills_of_makeRoom hopen hns hne hparent hmade hcopied⟩
    · cases hcopied
    · cases hcopied

/-- A walk that is copied to its end has no failures. -/
theorem allFiles_of_copySteps {source target : Path} {steps : List Disk.Step} {count : Nat}
    {before after : Session} :
    Work.Runs (copySteps source target steps) before count after → AllFiles steps := by
  intro h
  -- Copying stops at the first failure of the walk.
  induction steps generalizing before after count with
  | nil => exact fun p error hmem => absurd hmem List.not_mem_nil
  | cons step rest ih =>
    cases step with
    | failure p error => exact absurd h Work.not_runs_throw
    | file p =>
      have hrest : AllFiles rest := by
        rw [copySteps] at h
        split at h
        · exact ih h
        · rcases Work.runs_bind_iff.1 h with ⟨_, s₁, -, h⟩
          rcases Work.runs_bind_iff.1 h with ⟨n, s₂, h, -⟩
          exact ih h
      intro q error hmem
      rcases List.mem_cons.1 hmem with heq | hmem
      · cases heq
      · exact hrest q error hmem

/-- Copying the steps of a walk writes the copies of the files that are not hidden. -/
theorem fills_of_copySteps {d : Disk} {source : Path} {steps : List Disk.Step} {count : Nat}
    {before after : Session} (hopen : Open output o before.disk)
    (hapart : IsApart d before.disk o source)
    (hsteps : ∀ q, .file q ∈ steps → ∃ ns, (∀ n ∈ ns, Path.IsName n) ∧ q = source.down ns) :
    Work.Runs (copySteps source (output.join "assets") steps) before count after →
      Fills output o (steps.filterMap (copied? d source)) before.disk after.disk := by
  intro h
  induction steps generalizing before after count with
  | nil =>
    rw [copySteps] at h
    rw [(Work.runs_pure_iff.1 h).2]
    exact .refl output o before.disk
  | cons step rest ih =>
    have hrest : ∀ q, .file q ∈ rest → ∃ ns, (∀ n ∈ ns, Path.IsName n) ∧ q = source.down ns :=
      fun q hq => hsteps q (List.mem_cons_of_mem _ hq)
    cases step with
    | failure p error => exact absurd h Work.not_runs_throw
    | file q =>
      rw [copySteps] at h
      split at h
      · next hhidden =>
        -- A hidden file is passed over.
        have hnone : copied? d source (.file q) = none := by rw [copied?, if_pos hhidden]
        rw [List.filterMap_cons_none hnone]
        exact ih hopen hapart hrest h
      · next hshown =>
        rcases Work.runs_bind_iff.1 h with ⟨_, s₁, hcopy, h⟩
        rcases Work.runs_bind_iff.1 h with ⟨n, s₂, hcopies, h⟩
        rw [(Work.runs_pure_iff.1 h).2]
        rcases hsteps q List.mem_cons_self with ⟨ns, hns, rfl⟩
        -- The copy lies below the output directory, so the rest is copied with that still open.
        have hassets : ∀ n ∈ "assets" :: ns, Path.IsName n :=
          List.forall_mem_cons.2 ⟨by decide, hns⟩
        rw [extend_below_down hns] at hcopy
        rcases fills_of_copyFile hopen hassets (by simp) (hapart.self.outside ns hns) hcopy with
          ⟨content, modified, hread, hfirst⟩
        have hsome : copied? d source (.file (source.down ns)) = some ⟨"assets" :: ns, content⟩ := by
          rw [copied?, if_neg hshown, ← hapart.readFile_eq hns, hread, text_below_down hns]
          rfl
        rw [List.filterMap_cons_some hsome]
        exact hfirst.trans (ih (hfirst.open hopen) (hapart.fills hfirst) hrest hcopies)

/-- Copying what is in an asset directory writes the copies of its files that are not hidden. -/
theorem fills_of_copyTree {source : Path} {count : Nat} {before after : Session}
    (hopen : Open output o before.disk) (hproper : before.disk.Proper)
    (hapart : IsApart before.disk before.disk o source) :
    Work.Runs (copyTree source (output.join "assets")) before count after →
      (before.disk.isDirectory source = true → AllFiles (before.disk.walk source)) ∧
        Fills output o (copiesIn before.disk source) before.disk after.disk := by
  intro h
  rw [copyTree] at h
  rcases Work.runs_bind_iff.1 h with ⟨there, s₁, hasking, h⟩
  rcases Work.runs_asking_iff.1 hasking with ⟨hthere, hs₁⟩
  rw [hthere, hs₁] at h
  rw [copiesIn]
  cases hdir : before.disk.isDirectory source with
  | false =>
    rw [hdir] at h
    rw [(Work.runs_pure_iff.1 h).2]
    exact ⟨fun hthere => absurd hthere Bool.false_ne_true, .refl output o before.disk⟩
  | true =>
    rw [hdir] at h
    rcases Work.runs_bind_iff.1 h with ⟨steps, s₂, hwalk, h⟩
    rcases Work.runs_asking_iff.1 hwalk with ⟨hsteps, hs₂⟩
    rw [hsteps, hs₂] at h
    refine ⟨fun _ => allFiles_of_copySteps h, fills_of_copySteps hopen hapart ?_ h⟩
    exact fun q hq => Disk.exists_down_of_mem_walk hproper hq

/-- Copying the assets of a theme and those of a site writes the copies of both. On sound disks it is
known in which order. -/
theorem Theme.fills_of_copyAssets {t : Theme} {siteAssets : Path} {d : Disk} {count : Nat}
    {before after : Session} (hopen : Open output o before.disk) (hproper : before.disk.Proper)
    (htheme : IsApart d before.disk o (t.dir.join "assets"))
    (hsite : IsApart d before.disk o siteAssets) :
    Work.Runs (t.copyAssets siteAssets output) before count after →
      ∃ new, Fills output o new before.disk after.disk ∧
        (∀ p, (∃ f ∈ new, p = output.down f.names) ↔
          IsCopy d (t.dir.join "assets") output p ∨ IsCopy d siteAssets output p) ∧
        (Sound d → Sound before.disk →
          new = copiesIn d (t.dir.join "assets") ++ copiesIn d siteAssets) := by
  intro h
  rcases Work.runs_bind_iff.1 h with ⟨fromTheme, s₁, hcopyTheme, h⟩
  rcases Work.runs_bind_iff.1 h with ⟨_, s₂, hnotice, h⟩
  rcases Work.runs_bind_iff.1 h with ⟨fromSite, s₃, hcopySite, h⟩
  rcases Work.runs_bind_iff.1 h with ⟨_, s₄, hnotice', h⟩
  rcases fills_of_copyTree hopen hproper htheme.self hcopyTheme with ⟨hok, hfirst⟩
  rw [← Work.disk_of_runs_reportIf hnotice] at hfirst
  -- The assets of the site are still as they were when those of the theme have been copied.
  have hsite' := hsite.fills hfirst
  have hproper' := hfirst.proper hproper
  rcases fills_of_copyTree (hfirst.open hopen) hproper' hsite'.self hcopySite with ⟨hok', hsecond⟩
  rw [← Work.disk_of_runs_reportIf hnotice', ← (Work.runs_pure_iff.1 h).2] at hsecond
  refine ⟨_, hfirst.trans hsecond, fun p => ?_, fun hd hbefore => ?_⟩
  · rw [← isCopy_iff htheme.same, ← isCopy_iff hsite'.same, ← exists_mem_copiesIn_iff hproper hok,
      ← exists_mem_copiesIn_iff hproper' hok']
    simp [or_and_right, exists_or]
  · rw [copiesIn_congr hd hbefore htheme.same, copiesIn_congr hd (hfirst.sound hbefore) hsite'.same]

/-! ## Pages -/

/-- The file that a page is written to, with the page in it. -/
def SitePage.newFile (page : SitePage) : NewFile := ⟨Url.pageNames page.path, .text page.html⟩

namespace Site

variable {s : Site}

/-- The file of a page is where plain names lead from the output directory. -/
theorem fileOf_eq_down (s : Site) (page : SitePage) :
    s.fileOf page = s.output.down (Url.pageNames page.path) := Url.indexFile_eq_down s.output page.path

/-- A page is written in the directory that its path names, below the output directory, and that
directory is made first. -/
theorem exists_of_writePage {page : SitePage} {before after : Session} :
    Work.Runs (s.writePage page) before () after →
      ∃ dir made, (s.fileOf page).parent? = some dir ∧
        before.disk.createDirectories dir = .ok made ∧
          made.write (s.fileOf page) page.html = .ok after.disk := by
  intro h
  have hsegments : ∀ n ∈ (Url.segments page.path.toList).map String.ofList, Path.IsName n :=
    fun n hn => Url.isName_of_mem_pageNames (List.mem_append_left _ hn)
  have hindex : Path.IsName "index.html" := by decide
  rcases Path.parent?_down s.output hsegments hindex with ⟨dir, hparent, -⟩
  have hparent' : (s.fileOf page).parent? = some dir := by
    rw [s.fileOf_eq_down page]
    exact hparent
  unfold writePage at h
  simp only [hparent'] at h
  rcases Work.runs_bind_iff.1 h with ⟨_, s₁, hmake, hrest⟩
  rcases Work.runs_bind_iff.1 hrest with ⟨_, s₂, hwrite, hreport⟩
  rcases Work.runs_changing_iff.1 hmake with ⟨made, hmade, rfl⟩
  rcases Work.runs_changing_iff.1 hwrite with ⟨written, hwritten, rfl⟩
  rw [Work.disk_of_runs_report hreport]
  exact ⟨dir, made, hparent', hmade, hwritten⟩

/-- Writing a page fills the output directory with its file. -/
theorem fills_of_writePage {page : SitePage} {before after : Session}
    (hopen : Open s.output o before.disk) :
    Work.Runs (s.writePage page) before () after →
      Fills s.output o [page.newFile] before.disk after.disk := by
  intro h
  have hns : ∀ n ∈ Url.pageNames page.path, Path.IsName n := fun n => Url.isName_of_mem_pageNames
  rcases exists_of_writePage h with ⟨dir, made, hparent, hmade, hwritten⟩
  rw [s.fileOf_eq_down page] at hparent hwritten
  exact Disk.fills_of_makeRoom hopen hns (by simp [Url.pageNames]) hparent hmade hwritten

/-- Writing pages fills the output directory with their files. -/
theorem fills_of_writePages {pages : List SitePage} {before after : Session}
    (hopen : Open s.output o before.disk) :
    Work.Runs (s.writePages pages) before () after →
      Fills s.output o (pages.map SitePage.newFile) before.disk after.disk := by
  intro h
  induction pages generalizing before with
  | nil =>
    rw [writePages] at h
    rw [(Work.runs_pure_iff.1 h).2]
    exact .refl s.output o before.disk
  | cons page rest ih =>
    rw [writePages] at h
    rcases Work.runs_bind_iff.1 h with ⟨_, s₁, hpage, hrest⟩
    have hfirst := fills_of_writePage hopen (Work.runs_tryCatch_throw_iff.1 hpage)
    exact hfirst.trans (ih (hfirst.open hopen) hrest)

/-! ## Building -/

/-- The paths of the files that a site with these posts is built of. -/
inductive IsBuilt (s : Site) (posts : List Post) (d : Disk) : Path → Prop
  | page {path : String} :
      IsPagePath s.config posts path → IsBuilt s posts d (Url.indexFile s.output path)
  | themeAsset {p : Path} : IsCopy d (s.theme.dir.join "assets") s.output p → IsBuilt s posts d p
  | siteAsset {p : Path} : IsCopy d s.assets s.output p → IsBuilt s posts d p

/-- The files that a site with these pages is built of, in the order in which they are written. -/
def newFiles (s : Site) (d : Disk) (pages : List SitePage) : List NewFile :=
  copiesIn d (s.theme.dir.join "assets") ++ copiesIn d s.assets ++ pages.map SitePage.newFile

/-- Generating a site makes the output directory and fills it with the files that the site is built
of. On sound disks it is known in which order. -/
theorem runs_generate {m : PageMaker} {posts : List Post} {count : Nat} {before after : Session}
    (hm : m.config = s.config) :
    Work.Runs (s.generate m posts) before count after →
      count = (m.pages posts).length ∧
        ∃ made, before.disk.createDirectories s.output = .ok made ∧
          ∀ {d o}, Open s.output o made → made.Proper →
            IsApart d made o (s.theme.dir.join "assets") → IsApart d made o s.assets →
              ∃ new, Fills s.output o new made after.disk ∧
                (∀ p, (∃ f ∈ new, p = s.output.down f.names) ↔ s.IsBuilt posts d p) ∧
                (Sound d → Sound made → new = s.newFiles d (m.pages posts)) := by
  intro h
  rw [generate] at h
  rcases Work.runs_bind_iff.1 h with ⟨_, s₁, hmake, hrest⟩
  rcases Work.runs_bind_iff.1 hrest with ⟨copied, s₂, hcopy, hrest₂⟩
  rcases Work.runs_bind_iff.1 hrest₂ with ⟨_, s₃, hunshown, hrest₃⟩
  rcases Work.runs_bind_iff.1 hrest₃ with ⟨_, s₄, hwrite, hpure⟩
  rcases Work.runs_changing_iff.1 hmake with ⟨made, hmade, rfl⟩
  rcases Work.runs_pure_iff.1 hpure with ⟨hcount, rfl⟩
  refine ⟨hcount, made, hmade, ?_⟩
  intro d o hopen hproper htheme hsite
  rcases s.theme.fills_of_copyAssets hopen hproper htheme hsite hcopy with
    ⟨assets, hassets, hcopies, horder⟩
  -- Telling which values templates do not see leaves the disk as it is.
  have hdisk : s₂.disk = s₃.disk := (Work.keeps_forM Work.progress_eq
    (fun p => keeps_reportUnshown Work.progress_eq p.toJson) posts).of_runs hunshown
  rw [hdisk] at hassets
  have hpages := fills_of_writePages (hassets.open hopen) hwrite
  refine ⟨_, hassets.trans hpages, fun p => ?_, fun hd hmade => ?_⟩
  · have hpath : (∃ f ∈ (m.pages posts).map SitePage.newFile, p = s.output.down f.names) ↔
        ∃ path, IsPagePath s.config posts path ∧ p = Url.indexFile s.output path := by
      rw [← hm]
      simp [← m.exists_page_iff posts, SitePage.newFile, Url.indexFile_eq_down]
    have hsplit : (∃ f ∈ assets ++ (m.pages posts).map SitePage.newFile, p = s.output.down f.names) ↔
        (∃ f ∈ assets, p = s.output.down f.names) ∨
          ∃ f ∈ (m.pages posts).map SitePage.newFile, p = s.output.down f.names := by
      simp only [List.mem_append, or_and_right, exists_or]
    rw [hsplit, hcopies, hpath]
    constructor
    · rintro ((hcopied | hcopied) | ⟨path, hpage, rfl⟩)
      · exact .themeAsset hcopied
      · exact .siteAsset hcopied
      · exact .page hpage
    · intro hbuilt
      cases hbuilt with
      | page hpage => exact Or.inr ⟨_, hpage, rfl⟩
      | themeAsset hcopied => exact Or.inl (Or.inl hcopied)
      | siteAsset hcopied => exact Or.inl (Or.inr hcopied)
  · rw [horder hd hmade, newFiles]

end Site
end StaticBlog
