import StaticBlog.Proofs.Site.Links
import StaticBlog.Post.Preview

/-!
# The pages of labels

- `IsLabel`, `isLabel_of_mem_distinctLabels` : labels as posts keep them
- `Url.labelSegment_eq_self` : the directory name of a label without slashes is the label
- `PageMaker.labelPages_eq` : there is a page for each label, with the posts that have it
- `Site.label_pages_by_directory_name` : which page the file of a label holds
-/

namespace StaticBlog

/-! ## Labels of a post -/

/-- A label as posts keep it: not empty, and without blanks around it. -/
structure IsLabel (l : String) : Prop where
  nonempty : l ≠ ""
  trimmed : Text.trim l.toList = l.toList

/-- Labels that are collected one by one stay different, and each one is as posts keep it. -/
theorem foldl_labels_spec {ls seen : List String} (htrimmed : ∀ l ∈ ls, Text.trim l.toList = l.toList)
    (hnodup : seen.Nodup) (hlabels : ∀ l ∈ seen, IsLabel l) :
    (ls.foldl (fun seen l => if l = "" ∨ l ∈ seen then seen else seen ++ [l]) seen).Nodup ∧
      ∀ l ∈ ls.foldl (fun seen l => if l = "" ∨ l ∈ seen then seen else seen ++ [l]) seen,
        IsLabel l := by
  induction ls generalizing seen with
  | nil => exact ⟨hnodup, hlabels⟩
  | cons l ls ih =>
    rcases List.forall_mem_cons.1 htrimmed with ⟨hl, hrest⟩
    rw [List.foldl_cons]
    split
    · exact ih hrest hnodup hlabels
    · next hnew =>
      rw [not_or] at hnew
      have hmore : (seen ++ [l]).Nodup := List.concat_eq_append ▸ hnodup.concat hnew.2
      exact ih hrest hmore (List.forall_mem_append.2
        ⟨hlabels, List.forall_mem_singleton.2 ⟨hnew.1, hl⟩⟩)

/-- The labels of a post are different, and each one is as posts keep it. -/
theorem distinctLabels_spec (raw : List String) :
    (distinctLabels raw).Nodup ∧ ∀ l ∈ distinctLabels raw, IsLabel l := by
  refine foldl_labels_spec (fun l hl => ?_) List.nodup_nil (List.forall_mem_nil _)
  rcases List.mem_map.1 hl with ⟨l', -, rfl⟩
  rw [String.toList_ofList]
  exact Text.dropBoth_dropBoth _

namespace Url

/-- The directory name of a label that holds no slash of either kind, and more than dots, is the label
itself. -/
theorem labelSegment_eq_self {l : String} (hl : IsLabel l) (hslash : '/' ∉ l.toList)
    (hback : '\\' ∉ l.toList) (hdots : ¬ ∀ c ∈ l.toList, c = '.') : labelSegment l = l := by
  have hself : (Text.trim l.toList).map dashSlash = l.toList := by
    rw [hl.trimmed]
    refine (List.map_congr_left fun c hc => ?_).trans (List.map_id _)
    have hne : c ≠ '/' := fun heq => hslash (heq ▸ hc)
    have hne' : c ≠ '\\' := fun heq => hback (heq ▸ hc)
    simp [dashSlash, hne, hne']
  have hsame : labelSegmentChars l.toList = l.toList := by
    rcases labelSegmentChars_cases l.toList with ⟨hnil, -⟩ | ⟨-, hall, -⟩ | ⟨-, -, heq⟩
    · rw [hself] at hnil
      exact absurd (String.toList_eq_nil_iff.1 hnil) hl.nonempty
    · rw [hself] at hall
      exact absurd hall hdots
    · rw [heq, hself]
  rw [labelSegment, hsame, String.ofList_toList]

/-- The files of labels are the same exactly if their directory names are. -/
theorem indexFile_labelPath_eq_iff {output : Path} {dir l l' : String} :
    indexFile output (labelPath dir l) = indexFile output (labelPath dir l') ↔
      labelSegment l = labelSegment l' := by
  have hnames : ∀ l, pageNames (labelPath dir l) =
      (segments dir.toList).map String.ofList ++ [labelSegment l, "index.html"] := by
    intro l
    rw [pageNames, segments_labelPath]
    simp [labelSegment]
  constructor
  · intro h
    rw [indexFile_eq_down, indexFile_eq_down] at h
    have hsame := eq_of_down_eq (fun _ => isName_of_mem_pageNames)
      (fun _ => isName_of_mem_pageNames) h
    rw [hnames, hnames] at hsame
    exact (List.cons.inj (List.append_cancel_left hsame)).1
  · intro h
    rw [indexFile_eq_down, indexFile_eq_down, hnames, hnames, h]

end Url

/-! ## Pages of labels -/

section

variable {labels : Post → List String} {posts : List Post}

/-- The page of a label, with the posts that have it. -/
def PageMaker.pageOfLabel (m : PageMaker) (k : PageKind) (name dir : String)
    (labels : Post → List String) (posts : List Post) (l : String) : SitePage :=
  m.labelPage k name dir (l, posts.filter fun p => l ∈ labels p)

/-- There is a page for each label, with the posts that have it. -/
theorem PageMaker.labelPages_eq (m : PageMaker) (k : PageKind) (name dir : String)
    (hlabels : ∀ p ∈ posts, (labels p).Nodup) :
    m.labelPages k name dir (groupBy labels posts) =
      (distinct labels posts).map (m.pageOfLabel k name dir labels posts) := by
  rw [labelPages, groupBy_eq hlabels, List.map_map]
  rfl

end

/-- The last one in a list of those with a property. -/
theorem exists_last {α : Type} {P : α → Prop} {xs : List α} (h : ∃ x ∈ xs, P x) :
    ∃ earlier last later, xs = earlier ++ last :: later ∧ P last ∧ ∀ y ∈ later, ¬ P y := by
  induction xs with
  | nil =>
    rcases h with ⟨x, hx, -⟩
    cases hx
  | cons x xs ih =>
    by_cases hlater : ∃ y ∈ xs, P y
    · rcases ih hlater with ⟨earlier, last, later, heq, hlast, hnone⟩
      exact ⟨x :: earlier, last, later, by rw [heq, List.cons_append], hlast, hnone⟩
    · rcases h with ⟨y, hy, hPy⟩
      rcases List.mem_cons.1 hy with rfl | hy
      · exact ⟨[], y, xs, rfl, hPy, fun z hz hPz => hlater ⟨z, hz, hPz⟩⟩
      · exact absurd ⟨y, hy, hPy⟩ hlater

namespace Site

open Disk (Open)
open Url

/-- Once the pages of all labels have been written, the file of a label holds the page of the last
label with the same directory name. So a label keeps its page if no other label has its directory
name, and labels that hold more than dots and no slash of either kind keep theirs. -/
theorem label_pages_by_directory_name (s : Site) (m : PageMaker) (k : PageKind) (name dir : String)
    (labels : Post → List String) (posts : List Post) (o : Place) (before after : Session)
    (hlabels : ∀ p ∈ posts, ∃ raw, labels p = distinctLabels raw)
    (hopen : Open s.output o before.disk) :
    Work.Runs (s.writePages (m.labelPages k name dir (groupBy labels posts))) before () after →
      (∀ l l', indexFile s.output (labelPath dir l) = indexFile s.output (labelPath dir l') ↔
        labelSegment l = labelSegment l') ∧
      (∀ l ∈ distinct labels posts, ∃ earlier last later,
        distinct labels posts = earlier ++ last :: later ∧ labelSegment last = labelSegment l ∧
          (∀ l' ∈ later, labelSegment l' ≠ labelSegment l) ∧
          after.disk.readText (indexFile s.output (labelPath dir l)) =
            .ok (m.pageOfLabel k name dir labels posts last).html) ∧
      (∀ l ∈ distinct labels posts,
        (∀ l' ∈ distinct labels posts, labelSegment l' = labelSegment l → l' = l) →
          after.disk.readText (indexFile s.output (labelPath dir l)) =
            .ok (m.pageOfLabel k name dir labels posts l).html) ∧
      ((∀ l ∈ distinct labels posts,
          '/' ∉ l.toList ∧ '\\' ∉ l.toList ∧ ¬ ∀ c ∈ l.toList, c = '.') →
        ∀ l ∈ distinct labels posts,
          after.disk.readText (indexFile s.output (labelPath dir l)) =
            .ok (m.pageOfLabel k name dir labels posts l).html) := by
  intro h
  have hnodup : ∀ p ∈ posts, (labels p).Nodup := by
    intro p hp
    rcases hlabels p hp with ⟨raw, hraw⟩
    rw [hraw]
    exact (distinctLabels_spec raw).1
  have hlabel : ∀ l ∈ distinct labels posts, IsLabel l := by
    intro l hl
    rw [distinct, List.mem_eraseDups, List.mem_flatMap] at hl
    rcases hl with ⟨p, hp, hmem⟩
    rcases hlabels p hp with ⟨raw, hraw⟩
    rw [hraw] at hmem
    exact (distinctLabels_spec raw).2 l hmem
  rw [m.labelPages_eq k name dir hnodup] at h
  -- The last page that is written to the file of a label is what the file holds.
  have hlast : ∀ l ∈ distinct labels posts, ∃ earlier last later,
      distinct labels posts = earlier ++ last :: later ∧ labelSegment last = labelSegment l ∧
        (∀ l' ∈ later, labelSegment l' ≠ labelSegment l) ∧
        after.disk.readText (indexFile s.output (labelPath dir l)) =
          .ok (m.pageOfLabel k name dir labels posts last).html := by
    intro l hl
    have hsome : ∃ l' ∈ distinct labels posts, labelSegment l' = labelSegment l := ⟨l, hl, rfl⟩
    rcases exists_last hsome with ⟨earlier, last, later, heq, hsame, hnone⟩
    refine ⟨earlier, last, later, heq, hsame, hnone, ?_⟩
    have hfile : indexFile s.output (labelPath dir l) =
        s.fileOf (m.pageOfLabel k name dir labels posts last) :=
      indexFile_labelPath_eq_iff.2 hsame.symm
    rw [hfile]
    rw [heq, List.map_append, List.map_cons] at h
    refine readText_of_writePages hopen ?_ h
    intro other hother hsameFile
    rcases List.mem_map.1 hother with ⟨l', hl', rfl⟩
    exact hnone l' hl' ((indexFile_labelPath_eq_iff.1 hsameFile).symm.trans hsame)
  have hown : ∀ l ∈ distinct labels posts,
      (∀ l' ∈ distinct labels posts, labelSegment l' = labelSegment l → l' = l) →
        after.disk.readText (indexFile s.output (labelPath dir l)) =
          .ok (m.pageOfLabel k name dir labels posts l).html := by
    intro l hl honly
    rcases hlast l hl with ⟨earlier, last, later, heq, hsame, -, hread⟩
    have hmem : last ∈ distinct labels posts := by simp [heq]
    rw [honly last hmem hsame] at hread
    exact hread
  refine ⟨fun l l' => indexFile_labelPath_eq_iff, hlast, hown, ?_⟩
  intro hplain l hl
  refine hown l hl fun l' hl' hsame => ?_
  have hself : ∀ l ∈ distinct labels posts, labelSegment l = l := by
    intro l hl
    rcases hplain l hl with ⟨hslash, hback, hdots⟩
    exact labelSegment_eq_self (hlabel l hl) hslash hback hdots
  calc l' = labelSegment l' := (hself l' hl').symm
    _ = labelSegment l := hsame
    _ = l := hself l hl

/-- Makes pages of tags that show nothing but the tag. -/
def tagPages : PageMaker := ⟨{}, ⟨[(.tag, Template.parse "[\x7b\x7btag\x7d\x7d]")], ""⟩, {}⟩

/-- A post with two tags that have the same directory name. -/
def postAboutC : Post where
  title := "C"
  date := default
  updated := default
  author := ""
  categories := []
  tags := distinctLabels ["C-C++", "C/C++"]
  excerpt := ""
  content := ""
  headings := none
  readingTime := 1
  layout := ""
  published := true
  slug := "c"
  url := "c"
  source := ⟨"c.md"⟩
  extra := []

/-- The file of the first tag holds the page of the second one. -/
theorem label_page_overwritten : ∃ after,
    Work.Runs (smallSite.writePages
        (tagPages.labelPages .tag "tag" "tags" (groupBy Post.tags [postAboutC]))) ⟨smallDisk, []⟩ ()
      after ∧
      after.disk.readText (indexFile smallSite.output (labelPath "tags" "C-C++")) = .ok "[C/C++]" := by
  have hok : ((smallSite.writePages (tagPages.labelPages .tag "tag" "tags"
      (groupBy Post.tags [postAboutC]))).runOn smallDisk).1.isOk = true := by decide +kernel
  have hopen : Open smallSite.output ["s", "o"] smallDisk := by
    refine ⟨rfl, Disk.unlinked_of_forall ?_⟩
    simp [smallDisk]
  cases hrun : (smallSite.writePages (tagPages.labelPages .tag "tag" "tags"
      (groupBy Post.tags [postAboutC]))).runOn smallDisk with
  | mk result after =>
    rw [hrun] at hok
    cases result with
    | error e => cases hok
    | ok u =>
      have htags : ∀ p ∈ [postAboutC], ∃ raw, p.tags = distinctLabels raw := by
        intro p hp
        rw [List.mem_singleton.1 hp]
        exact ⟨["C-C++", "C/C++"], rfl⟩
      have hpages := label_pages_by_directory_name smallSite tagPages .tag "tag" "tags" Post.tags
        [postAboutC] ["s", "o"] ⟨smallDisk, []⟩ after htags hopen hrun
      have hdistinct : distinct Post.tags [postAboutC] = ["C-C++", "C/C++"] := by decide +kernel
      have hsame : labelSegment "C/C++" = labelSegment "C-C++" := by decide
      have hhtml : (tagPages.pageOfLabel .tag "tag" "tags" Post.tags [postAboutC] "C/C++").html =
          "[C/C++]" := by decide +kernel
      rcases hpages.2.1 "C-C++" (by simp [hdistinct]) with
        ⟨earlier, last, later, heq, -, hlater, hread⟩
      have hlast : last = "C/C++" := by
        rw [hdistinct] at heq
        -- The first tag is not the last one with its directory name.
        cases earlier with
        | nil =>
          cases heq
          exact absurd hsame (hlater "C/C++" List.mem_cons_self)
        | cons first earlier =>
          cases earlier with
          | nil =>
            cases heq
            rfl
          | cons second earlier => simp at heq
      rw [hlast, hhtml] at hread
      exact ⟨after, hrun, hread⟩

end Site
end StaticBlog
