import StaticBlog.Proofs.Disk.Filling
import StaticBlog.Proofs.Site.Loading

/-!
# Drafts

A post that is not published is a draft, and so is a directory of drafts.

- `shownPosts` : what readers see of the files below a directory
- `IsDraft` : the paths of drafts
- `DiffersInDrafts` : two disks that differ in drafts below a path
- `DiffersInDrafts.shownPosts_eq` : readers see the same on both
- `differsInDrafts_of_open` : disks without links differ in drafts if their entries do
- `Site.publishes_iff` : a site has the posts that readers see
-/

namespace StaticBlog

open Disk (Open Room Sound)

variable {m : PostMaker} {d e : Disk} {p q : Path} {k l o : Place} {n : String} {ns : List String}
  {isLink : Bool} {fuel fuel' : Nat} {above : List Place}

/-! ## What readers see -/

/-- What readers see of a file that is read: a post if it is published, or the failure. -/
def shown? : Except SiteError (Document × Post) → Option (Except SiteError Post)
  | .ok (_, post) => if post.published then some (.ok post) else none
  | .error e => some (.error e)

/-- What readers see of the steps of a walk. -/
def shownIn (m : PostMaker) (d : Disk) (steps : List Disk.Step) : List (Except SiteError Post) :=
  (steps.filterMap (outcome? m d)).filterMap shown?

/-- What readers see of the files below a directory. Nothing is there without the directory. -/
def shownPosts (m : PostMaker) (d : Disk) (dir : Path) : List (Except SiteError Post) :=
  if d.present dir then shownIn m d (d.walk dir) else []

theorem shownIn_flatMap (m : PostMaker) (d : Disk) (names : List String)
    (steps : String → List Disk.Step) :
    shownIn m d (names.flatMap steps) = names.flatMap fun n => shownIn m d (steps n) := by
  simp only [shownIn, List.filterMap_flatMap]

theorem shownIn_failure {error : DiskError} :
    shownIn m d [.failure p error] = [.error (.postUnread p error)] := rfl

/-- Where an entry is the same and no walk goes on, readers see the same. -/
theorem shownIn_stepsAt_congr (hentry : e.entry p = d.entry p)
    (hends : ∀ l, d.entry p ≠ .ok (l, .directory)) :
    shownIn m e (e.stepsAt fuel' above p isLink) = shownIn m d (d.stepsAt fuel above p isLink) := by
  have hfile : outcome? m e (.file p) = outcome? m d (.file p) :=
    outcome?_congr (Disk.readFile_congr hentry)
  rw [Disk.stepsAt, Disk.stepsAt, hentry]
  split
  · next l hdir => exact absurd hdir (hends l)
  · simp only [shownIn, List.filterMap_cons, List.filterMap_nil, hfile]
  · rw [shownIn_failure, shownIn_failure]

/-- Of files that can be read readers see the posts that are published. -/
theorem filterMap_shown?_map_ok (read : List (Document × Post)) :
    (read.map (.ok : _ → Except SiteError (Document × Post))).filterMap shown? =
      ((read.map (·.2)).filter (·.published)).map .ok := by
  induction read with
  | nil => rfl
  | cons found read ih =>
    rcases found with ⟨document, post⟩
    cases hpublished : post.published with
    | true => simp [shown?, hpublished, ih]
    | false => simp [shown?, hpublished, ih]

/-- If readers see no failure, all files can be read. -/
theorem exists_map_ok_of_shown? {results : List (Except SiteError (Document × Post))}
    {posts : List Post} (h : results.filterMap shown? = posts.map .ok) :
    ∃ read : List (Document × Post), results = read.map .ok := by
  induction results generalizing posts with
  | nil => exact ⟨[], rfl⟩
  | cons result results ih =>
    cases result with
    | error error =>
      -- The failure would be seen first.
      cases posts with
      | nil => cases h
      | cons post posts => cases (List.cons.inj h).1
    | ok found =>
      have hrest : ∃ posts : List Post, results.filterMap shown? = posts.map .ok := by
        rcases found with ⟨document, post⟩
        cases hpublished : post.published with
        | true =>
          simp only [List.filterMap_cons, shown?, hpublished, if_true] at h
          cases posts with
          | nil => cases h
          | cons first posts => exact ⟨posts, (List.cons.inj h).2⟩
        | false =>
          simp only [List.filterMap_cons, shown?, hpublished] at h
          exact ⟨posts, h⟩
      rcases hrest with ⟨posts, hrest⟩
      rcases ih hrest with ⟨read, rfl⟩
      exact ⟨found :: read, rfl⟩

/-- A site has the posts that readers see. -/
theorem Site.publishes_iff {s : Site} {posts : List Post} : s.Publishes d posts ↔
    ∃ seen, shownPosts s.postMaker d s.posts = seen.map .ok ∧ posts = newestFirst seen := by
  have hnone : newestFirst ([] : List Post) = [] := by simp [newestFirst]
  unfold Site.Publishes shownPosts
  cases d.present s.posts with
  | false =>
    constructor
    · rintro (⟨-, rfl⟩ | ⟨hthere, -⟩)
      · exact ⟨[], rfl, hnone.symm⟩
      · cases hthere
    · rintro ⟨seen, hseen, rfl⟩
      rw [if_neg Bool.false_ne_true, eq_comm, List.map_eq_nil_iff] at hseen
      exact Or.inl ⟨rfl, by rw [hseen, hnone]⟩
  | true =>
    rw [if_pos rfl]
    constructor
    · rintro (⟨hmissing, -⟩ | ⟨-, read, hread, rfl⟩)
      · cases hmissing
      · refine ⟨_, ?_, rfl⟩
        rw [shownIn, ← outcomes, hread, filterMap_shown?_map_ok]
    · rintro ⟨seen, hseen, rfl⟩
      rcases exists_map_ok_of_shown? hseen with ⟨read, hread⟩
      refine Or.inr ⟨rfl, read, hread, ?_⟩
      rw [shownIn, hread, filterMap_shown?_map_ok] at hseen
      rw [List.map_injective_iff.2 (fun _ _ => Except.ok.inj) hseen]

/-! ## Drafts -/

/-- The paths of drafts: a post that can be read and is not published, or a directory in which there
are only drafts. `isLink` tells whether a link stands at the end of the path, which may lead to a post. -/
inductive IsDraft (m : PostMaker) (d : Disk) : Path → (isLink : Bool) → Prop
  | post {p : Path} {isLink : Bool} {document : Document} {post : Post}
      (file : isMarkdownFile p = true) (load : Post.load m d p = .ok (document, post))
      (unpublished : post.published = false) : IsDraft m d p isLink
  | directory {p : Path} {l : Place} (leads : d.entry p = .ok (l, .directory))
      (drafts : ∀ n ∈ d.names l, IsDraft m d (p.join n) (d.holdsLink (l ++ [n]))) :
      IsDraft m d p false

/-- A path that a post can be read from leads to a file. -/
theorem exists_file_of_load {found : Document × Post} (h : Post.load m d p = .ok found) :
    ∃ k content modified, d.entry p = .ok (k, .file content modified) := by
  rw [Post.load, Disk.readFile] at h
  split at h
  · next heq =>
    split at heq
    · next hentry => exact ⟨_, _, _, hentry⟩
    · cases heq
    · cases heq
  · cases h
  · cases h

namespace IsDraft

/-- Readers see nothing of a draft. -/
theorem shownIn_stepsAt (h : IsDraft m d p isLink) (hd : d.Proper)
    (hroom : ∀ l, d.entry p = .ok (l, .directory) → Room d fuel p l) :
    shownIn m d (d.stepsAt fuel above p isLink) = [] := by
  -- By induction on the draft. Each directory of drafts takes one of the fuel, which there is room for.
  induction h generalizing fuel above with
  | post hfile hload hdraft =>
    rcases exists_file_of_load hload with ⟨k, content, modified, hentry⟩
    simp [Disk.stepsAt, hentry, shownIn, outcome?, hfile, hload, shown?, hdraft]
  | @directory p l hleads hdrafts ih =>
    rw [Disk.stepsAt_directory hleads rfl]
    cases fuel with
    | zero => exact absurd (hroom l hleads) Disk.not_room_zero
    | succ fuel =>
      rw [Disk.walkFrom_succ hd hleads, shownIn_flatMap, List.flatMap_eq_nil_iff]
      intro n hn
      have hname : Path.IsName n := (hd l n (Disk.mem_names_iff.1 hn)).isName
      exact ih n hn fun k hk => (hroom l hleads).join hname hk

end IsDraft

/-- Readers see nothing of a directory of drafts, or if it is missing. -/
theorem shownPosts_eq_nil (hd : d.Proper) (h : d.present p = false ∨ IsDraft m d p false) :
    shownPosts m d p = [] := by
  unfold shownPosts
  split
  · next hthere =>
    have hdraft : IsDraft m d p false := h.resolve_left (by simp [hthere])
    rw [Disk.walk_eq_stepsAt]
    exact hdraft.shownIn_stepsAt hd fun l hl => Disk.room_depthLimit hl
  · rfl

/-- Whether nothing is at a place that a path leads to, or a draft. -/
def IsBlank (m : PostMaker) (d : Disk) (p : Path) (k : Place) : Prop :=
  d.get? k = none ∨ IsDraft m d p (d.holdsLink k)

theorem IsBlank.shownIn_stepsAt (h : IsBlank m d (p.join n) (l ++ [n])) (hd : d.Proper)
    (hroom : Room d (fuel + 1) p l) (hn : n ∈ d.names l) :
    shownIn m d (d.stepsAt fuel above (p.join n) (d.holdsLink (l ++ [n]))) = [] := by
  have hget := Disk.mem_names_iff.1 hn
  exact (h.resolve_left hget).shownIn_stepsAt hd fun k hk => hroom.join (hd l n hget).isName hk

/-! ## Disks that differ in drafts -/

/-- Two disks that differ in drafts below a path: where it leads to the same directory on both, each
entry in the directory is the same, or there is nothing but drafts on both. -/
structure DiffersInDrafts (m : PostMaker) (d e : Disk) (p : Path) : Prop where
  root : e.entry p = d.entry p ∨
    (d.present p = false ∨ IsDraft m d p false) ∧ (e.present p = false ∨ IsDraft m e p false)
  below : ∀ ns l n, (∀ n ∈ ns, Path.IsName n) → d.entry (p.down ns) = .ok (l, .directory) →
    e.entry (p.down ns) = .ok (l, .directory) →
      e.get? (l ++ [n]) = d.get? (l ++ [n]) ∧
          e.entry ((p.down ns).join n) = d.entry ((p.down ns).join n) ∨
        IsBlank m d ((p.down ns).join n) (l ++ [n]) ∧ IsBlank m e ((p.down ns).join n) (l ++ [n])

namespace DiffersInDrafts

theorem join (h : DiffersInDrafts m d e p) (hn : Path.IsName n)
    (hentry : e.entry (p.join n) = d.entry (p.join n)) : DiffersInDrafts m d e (p.join n) :=
  ⟨Or.inl hentry, fun ns l n' hns => h.below (n :: ns) l n' (List.forall_mem_cons.2 ⟨hn, hns⟩)⟩

/-- Readers see the same of directories that differ in drafts, whatever fuel there is. -/
theorem shownIn_stepsAt (h : DiffersInDrafts m d e p) (hd : Sound d) (he : Sound e)
    (hentry : e.entry p = d.entry p)
    (hroom : ∀ l, d.entry p = .ok (l, .directory) → Room d fuel p l)
    (hroom' : ∀ l, e.entry p = .ok (l, .directory) → Room e fuel' p l) :
    shownIn m e (e.stepsAt fuel' above p isLink) = shownIn m d (d.stepsAt fuel above p isLink) := by
  -- On the fuel of one walk. The other one has fuel of its own, as the disks differ in size.
  induction fuel generalizing fuel' above p isLink with
  | zero => exact shownIn_stepsAt_congr hentry fun l hl => Disk.not_room_zero (hroom l hl)
  | succ fuel ih =>
    by_cases hends : ∀ l, d.entry p ≠ .ok (l, .directory)
    · exact shownIn_stepsAt_congr hentry hends
    rcases not_forall_not.1 hends with ⟨l, hl⟩
    have hl' : e.entry p = .ok (l, .directory) := hentry.trans hl
    cases fuel' with
    | zero => exact absurd (hroom' l hl') Disk.not_room_zero
    | succ fuel' =>
      cases hloop : isLink && above.contains l with
      | true => simp only [Disk.stepsAt, hl, hl', hloop, if_true, shownIn_failure]
      | false =>
        rw [Disk.stepsAt_directory hl hloop, Disk.stepsAt_directory hl' hloop,
          Disk.walkFrom_succ hd.proper hl, Disk.walkFrom_succ he.proper hl', shownIn_flatMap,
          shownIn_flatMap]
        refine Disk.flatMap_names_eq hd he fun n => ?_
        rcases h.below [] l n (by simp) hl hl' with ⟨hget, hsame⟩ | ⟨hblank, hblank'⟩
        · -- The entry is the same, so the walks go on alike.
          have hlink : e.holdsLink (l ++ [n]) = d.holdsLink (l ++ [n]) := by
            rw [Disk.holdsLink, Disk.holdsLink, hget]
          refine Or.inl ⟨by rw [Disk.mem_names_iff, Disk.mem_names_iff, hget], fun hn => ?_⟩
          have hname : Path.IsName n := (hd.proper l n (Disk.mem_names_iff.1 hn)).isName
          rw [hlink]
          exact ih (h.join hname hsame) hsame (fun k hk => (hroom l hl).join hname hk)
            fun k hk => (hroom' l hl').join hname hk
        · exact Or.inr ⟨fun hn => hblank'.shownIn_stepsAt he.proper (hroom' l hl') hn,
            fun hn => hblank.shownIn_stepsAt hd.proper (hroom l hl) hn⟩

/-- Readers see the same of disks that differ in drafts. -/
theorem shownPosts_eq (h : DiffersInDrafts m d e p) (hd : Sound d) (he : Sound e) :
    shownPosts m e p = shownPosts m d p := by
  rcases h.root with hentry | ⟨hblank, hblank'⟩
  · have hpresent : e.present p = d.present p := Disk.present_congr hentry
    have hsteps : shownIn m e (e.stepsAt e.depthLimit [] p false) =
        shownIn m d (d.stepsAt d.depthLimit [] p false) :=
      h.shownIn_stepsAt hd he hentry (fun l hl => Disk.room_depthLimit hl)
        fun l hl => Disk.room_depthLimit hl
    rw [shownPosts, shownPosts, hpresent, Disk.walk_eq_stepsAt, Disk.walk_eq_stepsAt, hsteps]
  · rw [shownPosts_eq_nil hd.proper hblank, shownPosts_eq_nil he.proper hblank']

end DiffersInDrafts

/-- Disks without links below the place that a path leads to differ in drafts if their entries do. -/
theorem differsInDrafts_of_open (hproper : d.Proper) (hd : Open p o d) (he : Open p o e)
    (h : ∀ ns, ns ≠ [] → e.get? (o ++ ns) = d.get? (o ++ ns) ∨
      IsBlank m d (p.down ns) (o ++ ns) ∧ IsBlank m e (p.down ns) (o ++ ns)) :
    DiffersInDrafts m d e p := by
  refine ⟨Or.inl (he.leads.trans hd.leads.symm), fun ns l n hns hl hl' => ?_⟩
  have hplace : l ++ [n] = o ++ (ns ++ [n]) := by
    rw [Disk.place_of_entry_down hd hns hl, List.append_assoc]
  have hdown : (p.down ns).join n = p.down (ns ++ [n]) := (Path.down_concat p ns n).symm
  rcases h (ns ++ [n]) (by simp) with hsame | hblank
  · rw [← hplace] at hsame
    cases hget : d.get? (l ++ [n]) with
    | none => exact Or.inr ⟨Or.inl hget, Or.inl (hsame.trans hget)⟩
    | some x =>
      -- No link stands there, so the path of the name leads to the entry itself.
      have hbelow : o <+: l ++ [n] := hplace ▸ List.prefix_append o (ns ++ [n])
      have hlink : ∀ t, x ≠ .link t := by
        rintro t rfl
        exact hd.unlinked _ t hbelow hget
      have hname := hproper l n (by simp [hget])
      have hentry := Disk.entry_join hl hname hlink hget
      have hentry' := Disk.entry_join hl' hname hlink (hsame.trans hget)
      exact Or.inl ⟨hsame.trans hget, hentry'.trans hentry.symm⟩
  · rw [hplace, hdown]
    exact Or.inr hblank

end StaticBlog
