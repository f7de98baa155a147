import StaticBlog.Proofs.Site.Writing

/-!
# What the files of pages hold

- `Disk.readText_eq_ok_iff` : what a text file holds
- `Site.runs_writePage` : writing a page puts it into its file and leaves other files as they are
- `Site.readText_of_writePages` : a file holds the last page that has been written to it
-/

namespace StaticBlog

namespace Disk

variable {d e : Disk} {k m : Place}

theorem readText_eq_ok_iff {p : Path} {t : String} :
    d.readText p = .ok t ↔ ∃ k modified, d.entry p = .ok (k, .file (.text t) modified) := by
  rw [readText, readFile]
  cases d.entry p with
  | error error => simp
  | ok found =>
    rcases found with ⟨k, x⟩
    cases x with
    | directory => simp
    | link target => simp
    | file content modified => cases content <;> simp

/-- A path leads to the same file as long as nothing else is put in the place of the file. -/
theorem Extends.entry_file (h : Extends d e) {p : Path} {content : Content} {modified : Int}
    (hkeep : e.get? k = d.get? k) (hentry : d.entry p = .ok (k, .file content modified)) :
    e.entry p = .ok (k, .file content modified) := by
  rcases h.entry hentry with ⟨y, hy, hkind⟩
  cases hkind with
  | file _ content' _ modified' =>
    have hold := ((entry_eq_ok_iff.1 hentry).2.2.get?_of_file rfl).1
    have hnew := ((entry_eq_ok_iff.1 hy).2.2.get?_of_file rfl).1
    have hsame : some (Entry.file content' modified') = some (.file content modified) := by
      calc some (Entry.file content' modified') = e.get? k := hnew.symm
        _ = d.get? k := hkeep
        _ = some (.file content modified) := hold
    cases hsame
    exact hy

end Disk

namespace Site

variable {o : Place} {s : Site} {page : SitePage} {pages : List SitePage} {before after : Session}

open Disk (Extends Open)

/-- Writing a page puts it where its path leads, and what is at other places stays. -/
theorem runs_writePage :
    Work.Runs (s.writePage page) before () after →
      Extends before.disk after.disk ∧
        ∃ m modified, after.disk.entry (s.fileOf page) = .ok (m, .file (.text page.html) modified) ∧
          ∀ k x, k ≠ m → before.disk.get? k = some x → after.disk.get? k = some x := by
  intro h
  rcases exists_of_writePage h with ⟨dir, made, -, hmade, hwritten⟩
  have hslash : (s.fileOf page).endsInSlash = false := by
    rw [s.fileOf_eq_down page, Url.pageNames, Path.down_concat]
    exact Path.endsInSlash_join _ (by decide)
  -- The directories are made where nothing was, and the file is put where its path leads.
  have hmakes := (Disk.makes_of_createDirectories hmade).1
  rcases Disk.put_of_writeAt hwritten with ⟨m, hm, hput, halike, hentry⟩
  have hdisk : after.disk = made.put m (.file (.text page.html) made.clock) := hput
  have hextends : Extends made after.disk := by
    rw [hdisk]
    exact Disk.extends_put hm halike
  refine ⟨hmakes.extends.trans hextends, m, made.clock, hentry hslash, fun k x hk hx => ?_⟩
  rw [hdisk, Disk.get?_put_of_ne _ _ (Ne.symm hk)]
  rcases hmakes.get? k with hsame | ⟨-, hnone, -⟩
  · exact hsame.trans hx
  · rw [hnone] at hx
    cases hx

/-- What is on the disk stays when pages are written, and each page has its file. -/
theorem isFile_of_writePages :
    Work.Runs (s.writePages pages) before () after →
      Extends before.disk after.disk ∧
        ∀ page ∈ pages, after.disk.isFile (s.fileOf page) = true := by
  intro h
  induction pages generalizing before with
  | nil =>
    rw [(Work.runs_pure_iff.1 h).2]
    exact ⟨.refl _, fun page hpage => absurd hpage List.not_mem_nil⟩
  | cons first rest ih =>
    rw [writePages] at h
    rcases Work.runs_bind_iff.1 h with ⟨_, s₁, hfirst, hrest⟩
    rcases runs_writePage (Work.runs_tryCatch_throw_iff.1 hfirst) with ⟨hext, m, t, hentry, -⟩
    rcases ih hrest with ⟨hext', hfiles⟩
    refine ⟨hext.trans hext', fun page hpage => ?_⟩
    rcases List.mem_cons.1 hpage with rfl | hpage
    · -- The file stays when the rest is written, whatever it holds then.
      rcases hext'.entry hentry with ⟨y, hy, hkind⟩
      cases hkind with
      | file _ content _ modified => exact Disk.isFile_iff.2 ⟨m, content, modified, hy⟩
    · exact hfiles page hpage

section

variable (hopen : Open s.output o before.disk)
include hopen

/-- Writing a page leaves the texts of other files below the output directory as they are. -/
theorem readText_of_writePage_of_ne {path : String} {t : String}
    (hne : Url.indexFile s.output path ≠ s.fileOf page)
    (ht : before.disk.readText (Url.indexFile s.output path) = .ok t) :
    Work.Runs (s.writePage page) before () after →
      after.disk.readText (Url.indexFile s.output path) = .ok t := by
  intro h
  rcases runs_writePage h with ⟨hext, m, modified, hentry, hkeep⟩
  rcases Disk.readText_eq_ok_iff.1 ht with ⟨k, modified', hk⟩
  have hnames : ∀ path, ∀ n ∈ Url.pageNames path, Path.IsName n :=
    fun path n => Url.isName_of_mem_pageNames
  have hopen' : Open s.output o after.disk := (fills_of_writePage hopen h).open hopen
  -- Both files are below the output directory, where other names lead to another place.
  have hkm : k ≠ m := by
    intro heq
    rw [Url.indexFile_eq_down] at hk
    rw [fileOf, Url.indexFile_eq_down] at hentry
    have hplace := Disk.place_of_entry_down hopen (hnames path) hk
    have hplace' := Disk.place_of_entry_down hopen' (hnames page.path) hentry
    have hsame : Url.pageNames path = Url.pageNames page.path := by
      have hplaces : o ++ Url.pageNames path = o ++ Url.pageNames page.path := by
        calc o ++ Url.pageNames path = k := hplace.symm
          _ = m := heq
          _ = o ++ Url.pageNames page.path := hplace'
      exact List.append_cancel_left hplaces
    apply hne
    rw [fileOf, Url.indexFile_eq_down, Url.indexFile_eq_down, hsame]
  have hget := ((Disk.entry_eq_ok_iff.1 hk).2.2.get?_of_file rfl).1
  have hsame : after.disk.get? k = before.disk.get? k := (hkeep k _ hkm hget).trans hget.symm
  exact Disk.readText_eq_ok_iff.2 ⟨k, modified', hext.entry_file hsame hk⟩

/-- A file holds what it held when pages are written to other files. -/
theorem readText_of_writePages_of_ne {path : String} {t : String}
    (hne : ∀ page ∈ pages, Url.indexFile s.output path ≠ s.fileOf page)
    (ht : before.disk.readText (Url.indexFile s.output path) = .ok t) :
    Work.Runs (s.writePages pages) before () after →
      after.disk.readText (Url.indexFile s.output path) = .ok t := by
  intro h
  induction pages generalizing before with
  | nil =>
    rw [(Work.runs_pure_iff.1 h).2]
    exact ht
  | cons page rest ih =>
    rw [writePages] at h
    rcases Work.runs_bind_iff.1 h with ⟨_, s₁, hpage, hrest⟩
    have hwrite := Work.runs_tryCatch_throw_iff.1 hpage
    have hkept := readText_of_writePage_of_ne hopen (hne page List.mem_cons_self) ht hwrite
    have hopen' := (fills_of_writePage hopen hwrite).open hopen
    exact ih hopen' (fun page hpage => hne page (List.mem_cons_of_mem _ hpage)) hkept hrest

/-- A file holds the last page that has been written to it. -/
theorem readText_of_writePages {earlier later : List SitePage}
    (hlast : ∀ other ∈ later, s.fileOf page ≠ s.fileOf other) :
    Work.Runs (s.writePages (earlier ++ page :: later)) before () after →
      after.disk.readText (s.fileOf page) = .ok page.html := by
  intro h
  induction earlier generalizing before with
  | nil =>
    rw [List.nil_append, writePages] at h
    rcases Work.runs_bind_iff.1 h with ⟨_, s₁, hpage, hrest⟩
    have hwrite := Work.runs_tryCatch_throw_iff.1 hpage
    rcases runs_writePage hwrite with ⟨-, m, modified, hentry, -⟩
    have htext := Disk.readText_eq_ok_iff.2 ⟨m, modified, hentry⟩
    have hopen' := (fills_of_writePage hopen hwrite).open hopen
    exact readText_of_writePages_of_ne hopen' hlast htext hrest
  | cons first earlier ih =>
    rw [List.cons_append, writePages] at h
    rcases Work.runs_bind_iff.1 h with ⟨_, s₁, hfirst, hrest⟩
    have hwrite := Work.runs_tryCatch_throw_iff.1 hfirst
    exact ih ((fills_of_writePage hopen hwrite).open hopen) hrest

end

/-! ## A small site -/

/-- A site whose output directory is near the root. -/
def smallSite : Site := ⟨⟨"/s"⟩, { paths := { output := "o" } }, none⟩

/-- A disk with nothing but that directory. -/
def smallDisk : Disk := ⟨[(["s"], .directory), (["s", "o"], .directory)], [], 0⟩

end Site

/-- Makes pages with the templates of the standard theme. -/
def PageMaker.standard : PageMaker := ⟨{}, ⟨[], ""⟩, {}⟩

end StaticBlog
