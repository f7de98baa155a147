import Mathlib.Data.List.Permutation
import StaticBlog.Proofs.Disk.Tour
import StaticBlog.Proofs.Site.Loading
import StaticBlog.Proofs.Text.Search

/-!
# Which posts are read, and which file is at fault

- `IsPostFile` : the files that are read, told by their names
- `IsFault` : what ends the reading of posts at a step of a tour
- `AreShown` : the posts that a tour without faults shows
- `FollowsTour` : whether reading comes to the first fault of a tour, or to the posts that it shows
- `Site.reading_follows_tour` : the first fault on the tour of the posts is the failure, and without one
  the published posts come in the order of the tour
-/

namespace StaticBlog

open Disk (Sound Step)

variable {m : PostMaker} {d : Disk} {p q : Path} {steps : List Step} {step : Step} {error : SiteError}
  {found : Document × Post}

/-! ## Files for posts -/

/-- Whether the name of a file ends in `.md` or `.markdown`, with something in front of that. -/
def IsPostFile (p : Path) : Prop :=
  ∃ stem suffix, stem ≠ "" ∧ (suffix = "md" ∨ suffix = "markdown") ∧
    p.fileName? = some (stem ++ "." ++ suffix)

/-- What stands behind the last dot of a name, if something stands in front of it. -/
theorem Path.splitName_eq_some_iff {name suffix : String} (hdot : '.' ∉ suffix.toList) :
    (splitName name).2 = some suffix ↔ ∃ stem, stem ≠ "" ∧ name = stem ++ "." ++ suffix := by
  constructor
  · intro h
    unfold splitName at h
    split at h
    · cases h
    · next stem rest hne hbreak =>
      cases h
      refine ⟨String.ofList stem, ?_, ?_⟩
      · intro hempty
        have hnil : stem = [] := by simpa using congrArg String.toList hempty
        exact hne hnil
      · apply String.toList_injective
        simpa using ((Text.breakOnLast?_eq_some_iff (List.cons_ne_nil _ _)).1 hbreak).1
    · cases h
  · rintro ⟨stem, hne, rfl⟩
    have htext : (stem ++ "." ++ suffix).toList = stem.toList ++ '.' :: suffix.toList := by simp
    have hstem : stem.toList ≠ [] := mt String.toList_eq_nil_iff.1 hne
    unfold splitName
    rw [htext, Text.breakOnLast?_append _ hdot]
    cases hchars : stem.toList with
    | nil => exact absurd hchars hstem
    | cons c cs => simp

theorem isMarkdownFile_iff : isMarkdownFile p = true ↔ IsPostFile p := by
  have hsuffix : ∀ suffix : String, '.' ∉ suffix.toList →
      (p.suffix? = some suffix ↔ ∃ stem, stem ≠ "" ∧ p.fileName? = some (stem ++ "." ++ suffix)) := by
    intro suffix hdot
    rw [Path.suffix?, Option.bind_eq_some_iff]
    constructor
    · rintro ⟨name, hname, hsplit⟩
      obtain ⟨stem, hne, rfl⟩ := (Path.splitName_eq_some_iff hdot).1 hsplit
      exact ⟨stem, hne, hname⟩
    · rintro ⟨stem, hne, hname⟩
      exact ⟨_, hname, (Path.splitName_eq_some_iff hdot).2 ⟨stem, hne, rfl⟩⟩
  simp only [isMarkdownFile, Bool.or_eq_true, decide_eq_true_eq]
  rw [hsuffix "md" (by decide), hsuffix "markdown" (by decide)]
  constructor
  · rintro (⟨stem, hne, hname⟩ | ⟨stem, hne, hname⟩)
    · exact ⟨stem, "md", hne, .inl rfl, hname⟩
    · exact ⟨stem, "markdown", hne, .inr rfl, hname⟩
  · rintro ⟨stem, suffix, hne, rfl | rfl, hname⟩
    · exact .inl ⟨stem, hne, hname⟩
    · exact .inr ⟨stem, hne, hname⟩

/-! ## Faults -/

/-- What ends the reading of posts at a step of a tour: the tour fails there, or a file for a post holds no
text, or its front matter does not parse, be it published or not. -/
inductive IsFault (d : Disk) : Step → SiteError → Prop
  | unwalked {p : Path} {error : DiskError} : IsFault d (.failure p error) (.postUnread p error)
  | unread {p : Path} {error : DiskError} (file : IsPostFile p) (read : d.readText p = .error error) :
      IsFault d (.file p) (.postUnread p error)
  | malformed {p : Path} {text : String} (file : IsPostFile p) (read : d.readText p = .ok text)
      (parse : Document.parse? text = none) : IsFault d (.file p) (.postMalformed p)

namespace Post

theorem load_of_unread {error : DiskError} (h : d.readText q = .error error) :
    Post.load m d q = .error (.postUnread q error) := by
  unfold Disk.readText at h
  unfold Post.load
  cases hread : d.readFile q with
  | error other =>
    rw [hread] at h
    cases h
    rfl
  | ok found =>
    obtain ⟨content, modified⟩ := found
    rw [hread] at h
    cases content with
    | text text => cases h
    | binary bytes =>
      cases h
      rfl

theorem exists_modified_of_readText {text : String} (h : d.readText q = .ok text) :
    ∃ modified, Post.load m d q = parse m q (Moment.ofUnix modified 0) text := by
  rw [Disk.readText] at h
  split at h
  · next modified hread =>
    cases h
    exact ⟨modified, by rw [Post.load, hread]⟩
  · cases h
  · cases h

theorem load_of_malformed {text : String} (hread : d.readText q = .ok text)
    (hparse : Document.parse? text = none) : Post.load m d q = .error (.postMalformed q) := by
  obtain ⟨modified, hload⟩ := exists_modified_of_readText (m := m) hread
  rw [hload, parse, hparse]

/-- The post in a file knows where it comes from, and whether it is published. -/
theorem exists_load_of_parse {text : String} {document : Document} (hread : d.readText q = .ok text)
    (hparse : Document.parse? text = some document) :
    ∃ post, Post.load m d q = .ok (document, post) ∧ post.source = q ∧
      post.published = document.frontMatter.published := by
  obtain ⟨modified, hload⟩ := exists_modified_of_readText (m := m) hread
  refine ⟨ofDocument m q (Moment.ofUnix modified 0) document, ?_, rfl, rfl⟩
  rw [hload, parse, hparse]

end Post

/-- A step with a fault ends the reading of posts with it. -/
theorem outcome?_of_fault (h : IsFault d step error) :
    outcome? m d step = some (.error error) := by
  cases h with
  | unwalked => rfl
  | unread hfile hread => rw [outcome?, if_pos (isMarkdownFile_iff.2 hfile), Post.load_of_unread hread]
  | malformed hfile hread hparse =>
    rw [outcome?, if_pos (isMarkdownFile_iff.2 hfile), Post.load_of_malformed hread hparse]

/-- A step without a fault is a file that holds a post, or one that is passed over. -/
theorem cases_of_not_fault (m : PostMaker) (h : ∀ error, ¬ IsFault d step error) :
    ∃ q, step = .file q ∧ (¬ IsPostFile q ∧ outcome? m d step = none ∨
      IsPostFile q ∧ ∃ text document post, d.readText q = .ok text ∧
        Document.parse? text = some document ∧ Post.load m d q = .ok (document, post) ∧
          outcome? m d step = some (.ok (document, post))) := by
  cases step with
  | failure q error => exact absurd .unwalked (h _)
  | file q =>
    refine ⟨q, rfl, ?_⟩
    by_cases hfile : IsPostFile q
    · right
      cases hread : d.readText q with
      | error error => exact absurd (.unread hfile hread) (h _)
      | ok text =>
        cases hparse : Document.parse? text with
        | none => exact absurd (.malformed hfile hread hparse) (h _)
        | some document =>
          obtain ⟨post, hload, -, -⟩ := Post.exists_load_of_parse (m := m) hread hparse
          refine ⟨hfile, text, document, post, rfl, hparse, hload, ?_⟩
          rw [outcome?, if_pos (isMarkdownFile_iff.2 hfile), hload]
    · left
      exact ⟨hfile, by rw [outcome?, if_neg (mt isMarkdownFile_iff.1 hfile)]⟩

/-! ## Posts of a tour -/

/-- Whether the front matter of a file parses and does not keep its post from being published. -/
def IsPublished (d : Disk) (q : Path) : Prop :=
  ∃ text document, d.readText q = .ok text ∧ Document.parse? text = some document ∧
    document.frontMatter.published = true

/-- The posts that a tour shows: those of the published files for posts, each one once and in the order of
the tour, and as they are loaded from their files. -/
structure AreShown (m : PostMaker) (d : Disk) (steps : List Step) (posts : List Post) : Prop where
  ordered : (posts.map (·.source)).Sublist (steps.map Step.path)
  complete : ∀ q, q ∈ posts.map (·.source) ↔ .file q ∈ steps ∧ IsPostFile q ∧ IsPublished d q
  loaded : ∀ post ∈ posts, ∃ document, Post.load m d post.source = .ok (document, post)

/-- What reading posts comes to on a tour: the first fault, or else the posts that the tour shows. -/
structure FollowsTour (m : PostMaker) (d : Disk) (steps : List Step)
    (result : Except SiteError (List Post)) : Prop where
  fault : ∀ earlier step later error, steps = earlier ++ step :: later →
    (∀ step' ∈ earlier, ∀ error', ¬ IsFault d step' error') → IsFault d step error →
      result = .error error
  posts : (∀ step ∈ steps, ∀ error, ¬ IsFault d step error) →
    ∃ posts, result = .ok posts ∧ AreShown m d steps posts

namespace AreShown

variable {posts : List Post} {document : Document} {post : Post}

/-- A file that is none for a post, or is not published, shows nothing. -/
theorem skip (h : AreShown m d steps posts) (hnot : ¬ (IsPostFile q ∧ IsPublished d q)) :
    AreShown m d (.file q :: steps) posts := by
  refine ⟨h.ordered.cons _, fun q' => ?_, h.loaded⟩
  rw [h.complete q', List.mem_cons]
  constructor
  · exact fun ⟨hmem, hshown⟩ => ⟨.inr hmem, hshown⟩
  · rintro ⟨heq | hmem, hshown⟩
    · cases heq
      exact absurd hshown hnot
    · exact ⟨hmem, hshown⟩

/-- A published file for a post shows the post. -/
theorem cons (h : AreShown m d steps posts) (hshown : IsPostFile q ∧ IsPublished d q)
    (hload : Post.load m d q = .ok (document, post)) (hsource : post.source = q) :
    AreShown m d (.file q :: steps) (post :: posts) := by
  subst hsource
  refine ⟨h.ordered.cons_cons _, fun q' => ?_, List.forall_mem_cons.2 ⟨⟨document, hload⟩, h.loaded⟩⟩
  rw [List.map_cons, List.mem_cons, List.mem_cons, h.complete q']
  constructor
  · rintro (rfl | ⟨hmem, hshown'⟩)
    · exact ⟨.inl rfl, hshown⟩
    · exact ⟨.inr hmem, hshown'⟩
  · rintro ⟨heq | hmem, hshown'⟩
    · cases heq
      exact .inl rfl
    · exact .inr ⟨hmem, hshown'⟩

end AreShown

/-- All files of a tour without faults can be read, and the published ones show the posts. -/
theorem exists_read_of_not_fault (m : PostMaker)
    (h : ∀ step ∈ steps, ∀ error, ¬ IsFault d step error) :
    ∃ read : List (Document × Post), steps.filterMap (outcome? m d) = read.map .ok ∧
      AreShown m d steps ((read.map (·.2)).filter (·.published)) := by
  induction steps with
  | nil => exact ⟨[], rfl, ⟨List.Sublist.refl _, by simp, by simp⟩⟩
  | cons step steps ih =>
    obtain ⟨hstep, hsteps⟩ := List.forall_mem_cons.1 h
    obtain ⟨read, hread, hshown⟩ := ih hsteps
    obtain ⟨q, rfl, ⟨hnot, hnone⟩ | ⟨hfile, text, document, post, htext, hparse, hload, hsome⟩⟩ :=
      cases_of_not_fault m hstep
    · refine ⟨read, ?_, hshown.skip fun hq => hnot hq.1⟩
      rw [List.filterMap_cons_none hnone, hread]
    · refine ⟨(document, post) :: read, ?_, ?_⟩
      · rw [List.filterMap_cons_some hsome, hread, List.map_cons]
      · -- The post is published if its front matter says so.
        obtain ⟨post', hload', hsource, hpublished⟩ :=
          Post.exists_load_of_parse (m := m) htext hparse
        cases hload.symm.trans hload'
        cases hflag : document.frontMatter.published with
        | true =>
          rw [List.map_cons, List.filter_cons_of_pos (hpublished.trans hflag)]
          exact hshown.cons ⟨hfile, text, document, htext, hparse, hflag⟩ hload hsource
        | false =>
          rw [List.map_cons, List.filter_cons_of_neg (by simp [hpublished, hflag])]
          refine hshown.skip ?_
          rintro ⟨-, text', document', htext', hparse', hflag'⟩
          cases htext.symm.trans htext'
          cases hparse.symm.trans hparse'
          cases hflag.symm.trans hflag'

/-- Where posts have been read, no step has a fault: it would be the first one, as long as there is
none before it. -/
theorem FollowsTour.not_isFault {posts : List Post} (h : FollowsTour m d steps (.ok posts))
    {earlier later : List Step} (hsplit : steps = earlier ++ later) :
    ∀ step ∈ earlier, ∀ error, ¬ IsFault d step error := by
  induction earlier using List.reverseRecOn generalizing later with
  | nil => simp
  | append_singleton earlier step ih =>
    rw [List.append_assoc, List.singleton_append] at hsplit
    have hearlier := ih hsplit
    refine List.forall_mem_append.2 ⟨hearlier, List.forall_mem_singleton.2 fun error hfault => ?_⟩
    cases h.fault earlier step later error hsplit hearlier hfault

theorem FollowsTour.areShown {posts : List Post} (h : FollowsTour m d steps (.ok posts)) :
    AreShown m d steps posts := by
  obtain ⟨posts', hposts, hshown⟩ := h.posts (h.not_isFault (List.append_nil steps).symm)
  cases hposts
  exact hshown

/-- The first failure ends what is collected. -/
theorem collected_append_error {ε α : Type} (read : List α) (e : ε) (rest : List (Except ε α)) :
    collected (read.map .ok ++ .error e :: rest) = (read, some e) := by
  induction read with
  | nil => rfl
  | cons a read ih => rw [List.map_cons, List.cons_append, collected, ih]

namespace Site

variable {s : Site} {before : Session}

/-! ## Reading the posts of a site -/

theorem outcome_readPosts_of_missing (h : before.disk.present s.posts = false) :
    (Work.outcome s.readPosts before).1 = .ok [] := by
  rw [readPosts, Work.outcome_bind, Work.outcome_asking, h]
  rfl

/-- What reading the posts comes to is told by what is collected from their directory. -/
theorem outcome_readPosts_of_collected (h : before.disk.present s.posts = true)
    {read : List (Document × Post)} {failure : Option SiteError}
    (hread : collected (outcomes s.postMaker before.disk s.posts) = (read, failure)) :
    (Work.outcome s.readPosts before).1 =
      failure.elim (.ok ((read.map (·.2)).filter (·.published))) .error := by
  rw [readPosts, Work.outcome_bind, Work.outcome_asking, h]
  dsimp only
  rw [if_pos rfl, Work.outcome_bind, Work.outcome_asking]
  dsimp only
  rw [hread]
  cases failure <;> rfl

/-- Reading the posts of a site is a tour of their directory. -/
theorem followsTour_readPosts (hpresent : before.disk.present s.posts = true) :
    FollowsTour s.postMaker before.disk (before.disk.walk s.posts)
      (Work.outcome s.readPosts before).1 := by
  refine ⟨fun earlier step later error hsplit hearlier hfault => ?_, fun hnone => ?_⟩
  · -- Before the fault everything is read, so it is the failure that is met first.
    obtain ⟨read, hread, -⟩ := exists_read_of_not_fault s.postMaker hearlier
    have houtcomes : outcomes s.postMaker before.disk s.posts = read.map .ok ++
        .error error :: later.filterMap (outcome? s.postMaker before.disk) := by
      rw [outcomes, hsplit, List.filterMap_append, hread,
        List.filterMap_cons_some (outcome?_of_fault hfault)]
    have hcollected := collected_append_error read error
      (later.filterMap (outcome? s.postMaker before.disk))
    rw [← houtcomes] at hcollected
    exact outcome_readPosts_of_collected hpresent hcollected
  · obtain ⟨read, hread, hshown⟩ := exists_read_of_not_fault s.postMaker hnone
    have hcollected : collected (outcomes s.postMaker before.disk s.posts) = (read, none) := by
      rw [outcomes, hread, collected_map_ok]
    exact ⟨_, outcome_readPosts_of_collected hpresent hcollected, hshown⟩

/-- Reading the posts of a site follows the one tour of their directory, which meets no path twice. The
first fault on it is the failure, with the path where it is. Without one there are all published posts, in
the order of the tour and as each one is loaded from its file. If the directory is missing there are none. -/
theorem reading_follows_tour (s : Site) (before : Session) (hd : Sound before.disk) :
    (before.disk.present s.posts = false → (Work.outcome s.readPosts before).1 = .ok []) ∧
      (before.disk.present s.posts = true →
        ∃ steps, (∀ steps', before.disk.Tours [] s.posts false steps' ↔ steps' = steps) ∧
          (steps.map Step.path).Nodup ∧
            FollowsTour s.postMaker before.disk steps (Work.outcome s.readPosts before).1) := by
  refine ⟨outcome_readPosts_of_missing, fun hpresent => ?_⟩
  have htour := Disk.tours_walk hd s.posts
  exact ⟨before.disk.walk s.posts, fun steps' => Disk.tours_iff hd, htour.nodup_paths hd.proper,
    followsTour_readPosts hpresent⟩

/-- A site whose posts are in `s/c/p`. -/
def journalSite : Site where
  base := ⟨"s"⟩
  config := { paths := { source := "c", posts := "p" } }

/-- A disk with a post in a directory, a draft whose front matter does not parse, a file that is no text,
and a link that leads nowhere. -/
def journalDisk : Disk where
  entries := [(["s"], .directory), (["s", "c"], .directory), (["s", "c", "p"], .directory),
    (["s", "c", "p", "d"], .link "nowhere"), (["s", "c", "p", "c.md"], .file (.binary [255]) 0),
    (["s", "c", "p", "b.md"], .file (.text "---\npublished: false\ntitle: [\n---\n") 0),
    (["s", "c", "p", "a"], .directory), (["s", "c", "p", "a", "x.md"], .file (.text "x") 0)]

theorem walk_journalDisk : journalDisk.walk journalSite.posts =
    [.file ⟨"s/c/p/a/x.md"⟩] ++ .file ⟨"s/c/p/b.md"⟩ ::
      [.file ⟨"s/c/p/c.md"⟩, .failure ⟨"s/c/p/d"⟩ .notFound] := by
  have hentry : journalDisk.entry journalSite.posts = .ok (["s", "c", "p"], .directory) :=
    eq_ok_of_toOption (by decide +kernel)
  have hnames : journalDisk.names ["s", "c", "p"] = ["a", "b.md", "c.md", "d"] := by cbv
  have hdepth : journalDisk.depthLimit = 368 + 1 := by decide
  rw [Disk.walk, hentry, hdepth]
  dsimp only
  rw [Disk.walkFrom, hnames]
  decide +kernel

/-- The draft is met before the file that is no text and before the link, so it is what is reported. -/
theorem malformed_draft_is_reported : Sound journalDisk ∧
    (Work.outcome journalSite.readPosts ⟨journalDisk, []⟩).1 =
      .error (.postMalformed ⟨"s/c/p/b.md"⟩) := by
  have hsound : Sound journalDisk := Disk.sound_of_forall (by decide) (by decide +kernel)
  refine ⟨hsound, ?_⟩
  obtain ⟨steps, htour, -, hreading⟩ :=
    (reading_follows_tour journalSite ⟨journalDisk, []⟩ hsound).2 (by decide +kernel)
  have hsteps : journalDisk.walk journalSite.posts = steps :=
    (htour _).1 (Disk.tours_walk hsound _)
  refine hreading.fault _ _ _ _ (hsteps ▸ walk_journalDisk) ?_ ?_
  · -- The first file is read as a post.
    intro step hstep error hfault
    rw [List.mem_singleton.1 hstep] at hfault
    have hpost : (journalDisk.readText ⟨"s/c/p/a/x.md"⟩).toOption.map
        (fun text => (Document.parse? text).isSome) = some true := by
      decide +kernel
    cases hfault with
    | unread _ hread =>
      rw [hread] at hpost
      cases hpost
    | malformed _ hread hparse =>
      rw [hread] at hpost
      simp [Except.toOption, hparse] at hpost
  · have hfile : IsPostFile ⟨"s/c/p/b.md"⟩ := isMarkdownFile_iff.1 (by decide +kernel)
    have hread : journalDisk.readText ⟨"s/c/p/b.md"⟩ =
        .ok "---\npublished: false\ntitle: [\n---\n" := eq_ok_of_toOption (by decide +kernel)
    exact .malformed hfile hread (Option.isNone_iff_eq_none.1 (by decide +kernel))

end Site
end StaticBlog
