import StaticBlog.Proofs.Site.Links

/-!
# Where requests lead

A request is decoded once, and cut into names only after that. So no escape in it can lead upwards.

- `requestSegments?_eq_some_iff` : which names a request asks for
- `servedFile` : the file that stands for what a path leads to
- `resolveHtml?_eq_some_iff` : which page a request asks for
- `served_pages_stay_below_root` : a page that a request asks for is below the root
-/

namespace StaticBlog

variable {d : Disk} {root p : Path} {uri : String} {names : List (List Char)}

/-- A request asks for the names in what it decodes to, unless one of them leads upwards or holds a
backslash. -/
theorem requestSegments?_eq_some_iff :
    requestSegments? uri = some names ↔ ∃ t, Percent.decode? uri = some t ∧
      names = Url.pathNames t.toList ∧ ∀ w ∈ names, w ≠ ['.', '.'] ∧ '\\' ∉ w := by
  constructor
  · exact Url.decode?_of_requestSegments?
  · rintro ⟨t, hdecode, rfl, hsafe⟩
    have hnone : ¬ (Url.pathNames t.toList).any isUnsafe = true := by
      intro hany
      obtain ⟨w, hw, hbad⟩ := List.any_eq_true.1 hany
      obtain ⟨hup, hback⟩ := hsafe w hw
      simp [isUnsafe, hup, hback] at hbad
    rw [Url.requestSegments?_eq hdecode, if_neg hnone]

/-- The file that stands for what a path leads to. A directory stands for the page in it. -/
def servedFile (d : Disk) (p : Path) : Path := if d.isDirectory p then p.join "index.html" else p

theorem servedFile_cases (d : Disk) (p : Path) :
    servedFile d p = p ∨ servedFile d p = p.join "index.html" := by
  unfold servedFile
  split
  · exact Or.inr rfl
  · exact Or.inl rfl

theorem isHtml_iff : isHtml p = true ↔ p.suffix? = some "html" ∨ p.suffix? = some "htm" := by
  rw [isHtml, Bool.or_eq_true, decide_eq_true_iff, decide_eq_true_iff]

/-- A request asks for the file that its names lead to, if that is a page. -/
theorem resolveHtml?_eq_some_iff :
    resolveHtml? d root uri = some p ↔ ∃ names, requestSegments? uri = some names ∧
      p = servedFile d (root.down (names.map String.ofList)) ∧ d.isFile p = true ∧
        (p.suffix? = some "html" ∨ p.suffix? = some "htm") := by
  rw [resolveHtml?]
  simp only [Option.bind_eq_bind, Option.bind_eq_some_iff, foldl_join_ofList]
  refine exists_congr fun names => and_congr_right fun _ => ?_
  have hserved : (if d.isDirectory (root.down (names.map String.ofList)) then
      (root.down (names.map String.ofList)).join "index.html"
    else root.down (names.map String.ofList)) =
      servedFile d (root.down (names.map String.ofList)) := rfl
  rw [hserved, Option.ite_none_right_eq_some, Bool.and_eq_true, isHtml_iff, Option.some.injEq]
  constructor
  · rintro ⟨⟨hhtml, hfile⟩, rfl⟩
    exact ⟨rfl, hfile, hhtml⟩
  · rintro ⟨rfl, hfile, hhtml⟩
    exact ⟨⟨hhtml, hfile⟩, rfl⟩

/-- A page that a request asks for is a regular file with the suffix of a page, and its path is that of
the root with names behind it, the last one perhaps that of the page in a directory. None of them is
empty, a dot or two, or holds a slash of either kind. So if there are no links below the root, the page
is in the directory where these names lead straight down. A request that asks for no page does not
decode, or leads upwards or holds a backslash, or there is no regular file with such a suffix. -/
theorem served_pages_stay_below_root (d : Disk) (root : Path) (uri : String) :
    (∀ p, resolveHtml? d root uri = some p →
      ∃ names index, (∀ n ∈ names, Path.IsName n ∧ '\\' ∉ n.toList) ∧
        (index = [] ∨ index = ["index.html"]) ∧ p = root.down (names ++ index) ∧
        p.components = root.components ++ (names ++ index).map .name ∧
        d.isFile p = true ∧ (p.suffix? = some "html" ∨ p.suffix? = some "htm") ∧
        ∀ o, Disk.Open root o d → d.FileAt p (o ++ (names ++ index))) ∧
      (resolveHtml? d root uri = none ↔ ∀ t, Percent.decode? uri = some t →
        (∃ w ∈ Url.pathNames t.toList, w = ['.', '.'] ∨ '\\' ∈ w) ∨
          ¬ (d.isFile (servedFile d (root.down ((Url.pathNames t.toList).map String.ofList))) = true ∧
            isHtml (servedFile d (root.down ((Url.pathNames t.toList).map String.ofList))) = true)) := by
  constructor
  · intro p hp
    obtain ⟨names, hnames, hserved, hfile, hsuffix⟩ := resolveHtml?_eq_some_iff.1 hp
    obtain ⟨t, -, -, hsafe⟩ := requestSegments?_eq_some_iff.1 hnames
    have hname := isName_of_requestSegments? hnames
    have hback : ∀ n ∈ names.map String.ofList, '\\' ∉ n.toList := by
      intro n hn
      obtain ⟨w, hw, rfl⟩ := List.mem_map.1 hn
      rw [String.toList_ofList]
      exact (hsafe w hw).2
    obtain ⟨index, hindex, hplace⟩ : ∃ index, (index = [] ∨ index = ["index.html"]) ∧
        p = root.down (names.map String.ofList ++ index) := by
      obtain heq | heq := servedFile_cases d (root.down (names.map String.ofList))
      · exact ⟨[], Or.inl rfl, by rw [hserved, heq, List.append_nil]⟩
      · exact ⟨["index.html"], Or.inr rfl, by rw [hserved, heq, Path.down_concat]⟩
    have hall : ∀ n ∈ names.map String.ofList ++ index, Path.IsName n := by
      intro n hn
      obtain hn | hn := List.mem_append.1 hn
      · exact hname n hn
      · obtain rfl | rfl := hindex
        · exact absurd hn List.not_mem_nil
        · rw [List.mem_singleton.1 hn]
          decide
    refine ⟨_, index, fun n hn => ⟨hname n hn, hback n hn⟩, hindex, hplace, ?_, hfile, hsuffix, ?_⟩
    · rw [hplace, Path.components_down root hall]
    · intro o hopen
      obtain ⟨k, content, modified, hentry⟩ := Disk.isFile_iff.1 hfile
      have hk : k = o ++ (names.map String.ofList ++ index) :=
        Disk.place_of_entry_down hopen hall (hplace ▸ hentry)
      exact ⟨content, modified, hk ▸ hentry⟩
  · rw [Option.eq_none_iff_forall_ne_some]
    constructor
    · intro hnone t hdecode
      by_contra hpage
      obtain ⟨hbad, hpage⟩ := not_or.1 hpage
      obtain ⟨hfile, hhtml⟩ := not_not.1 hpage
      -- Then the request asks for these names, and the file is a page.
      have hnames : requestSegments? uri = some (Url.pathNames t.toList) := by
        refine requestSegments?_eq_some_iff.2 ⟨t, hdecode, rfl, fun w hw => ⟨fun hup => ?_, fun hback => ?_⟩⟩
        · exact hbad ⟨w, hw, Or.inl hup⟩
        · exact hbad ⟨w, hw, Or.inr hback⟩
      exact hnone _ (resolveHtml?_eq_some_iff.2 ⟨_, hnames, rfl, hfile, isHtml_iff.1 hhtml⟩)
    · intro hrefused p hp
      obtain ⟨names, hnames, hserved, hfile, hsuffix⟩ := resolveHtml?_eq_some_iff.1 hp
      obtain ⟨t, hdecode, rfl, hsafe⟩ := requestSegments?_eq_some_iff.1 hnames
      subst hserved
      obtain ⟨w, hw, hbad⟩ | hpage := hrefused t hdecode
      · obtain hup | hback := hbad
        · exact (hsafe w hw).1 hup
        · exact (hsafe w hw).2 hback
      · exact hpage ⟨hfile, isHtml_iff.2 hsuffix⟩

/-- A directory with the page of a label in it, and a page beside the directory. -/
def servedDisk : Disk where
  entries := [(["r"], .directory), (["r", "C++"], .directory),
    (["r", "C++", "index.html"], .file (.text "label") 0), (["secret.html"], .file (.text "secret") 0)]

theorem open_servedDisk : Disk.Open ⟨"/r"⟩ ["r"] servedDisk := by
  have hlinks : ∀ x ∈ servedDisk.entries, ∀ t, x.2 ≠ .link t := by simp [servedDisk]
  have hplace : (servedDisk.entry ⟨"/r"⟩).toOption = some (["r"], .directory) := by decide +kernel
  exact ⟨eq_ok_of_toOption hplace, Disk.unlinked_of_forall hlinks⟩

/-- An escaped name leads to the page of the label; escaped dots or an escaped backslash lead nowhere. -/
theorem label_is_served_and_secret_is_not :
    (∃ names index, resolveHtml? servedDisk ⟨"/r"⟩ "/C%2B%2B/" = some ⟨"/r/C++/index.html"⟩ ∧
      (⟨"/r/C++/index.html"⟩ : Path) = Path.down ⟨"/r"⟩ (names ++ index) ∧
      servedDisk.FileAt ⟨"/r/C++/index.html"⟩ (["r"] ++ (names ++ index))) ∧
      resolveHtml? servedDisk ⟨"/r"⟩ "/%2e%2E/secret.html" = none ∧
      resolveHtml? servedDisk ⟨"/r"⟩ "/..%5Csecret.html" = none := by
  have hpage : resolveHtml? servedDisk ⟨"/r"⟩ "/C%2B%2B/" = some ⟨"/r/C++/index.html"⟩ := by
    decide +kernel
  obtain ⟨names, index, -, -, hdown, -, -, -, hplace⟩ :=
    (served_pages_stay_below_root servedDisk ⟨"/r"⟩ "/C%2B%2B/").1 _ hpage
  refine ⟨⟨names, index, hpage, hdown, hplace _ open_servedDisk⟩, ?_, ?_⟩
  · refine (served_pages_stay_below_root servedDisk ⟨"/r"⟩ _).2.2 fun t ht => Or.inl ?_
    have hdecode : Percent.decode? "/%2e%2E/secret.html" = some "/../secret.html" := by decide +kernel
    obtain rfl := Option.some.inj (hdecode.symm.trans ht)
    exact ⟨['.', '.'], by decide, Or.inl rfl⟩
  · refine (served_pages_stay_below_root servedDisk ⟨"/r"⟩ _).2.2 fun t ht => Or.inl ?_
    have hdecode : Percent.decode? "/..%5Csecret.html" = some "/..\\secret.html" := by decide +kernel
    obtain rfl := Option.some.inj (hdecode.symm.trans ht)
    exact ⟨"..\\secret.html".toList, by decide, Or.inr (by decide)⟩

end StaticBlog
