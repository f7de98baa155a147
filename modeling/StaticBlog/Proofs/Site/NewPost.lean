import StaticBlog.Proofs.Disk.Growth
import StaticBlog.Proofs.Post.Scaffold
import StaticBlog.Proofs.Site.Files
import StaticBlog.Proofs.Site.Runs

/-!
# New posts

- `Disk.Gains` : a disk that differs from another one in new directories only
- `Disk.put_of_writeAt_of_absent` : writing a file where nothing was
- `Site.addPost`, `Site.gains_addPost` : adding a file to the directory of the posts
- `Site.runOn_newPost` : making a new post is adding its file
- `Site.new_post_reads_back_iff` : a new post adds one file, which is read as it was meant if its
  title can be read
-/

namespace StaticBlog

/-! ## The disk -/

namespace Disk

variable {d e : Disk} {m : Place}

/-- A disk that differs from another one in new directories only, places apart. -/
def Gains (apart : Place → Prop) (d e : Disk) : Prop :=
  ∀ k, apart k ∨ e.get? k = d.get? k ∨ d.get? k = none ∧ e.get? k = some .directory

theorem Gains.refl (apart : Place → Prop) (d : Disk) : Gains apart d d :=
  fun _ => Or.inr (Or.inl rfl)

theorem Makes.gains {within : Place → Prop} (h : Makes within d e) (apart : Place → Prop) :
    Gains apart d e := by
  intro k
  rcases h.get? k with hk | ⟨-, hnone, hdirectory, -⟩
  · exact Or.inr (Or.inl hk)
  · exact Or.inr (Or.inr ⟨hnone, hdirectory⟩)

/-- Writing where a path leads to nothing puts a file in a place where nothing was. -/
theorem put_of_writeAt_of_absent {p : Path} {content : Content} {modified : Int}
    (habsent : d.present p = false) (hslash : p.endsInSlash = false)
    (h : d.writeAt p content modified = .ok e) :
    ∃ m, d.get? m = none ∧ e = d.put m (.file content modified) ∧
      e.entry p = .ok (m, .file content modified) := by
  rw [writeAt] at h
  cases hlocate : d.locate true p with
  | error error =>
    rw [hlocate] at h
    cases h
  | ok found =>
    cases found with
    | entry k x =>
      have hpresent : d.present p = true := by simp [present, entry, hlocate]
      rw [hpresent] at habsent
      cases habsent
    | missing k =>
      rw [hlocate] at h
      have he : d.put k (.file content modified) = e := Except.ok.inj h
      have hreach : d.reach true p = .ok (.missing k) := by
        rw [locate, Bool.true_or, hslash] at hlocate
        cases hreach : d.reach true p with
        | error error => simp [hreach] at hlocate
        | ok found =>
          cases found with
          | missing l => simpa [hreach] using hlocate
          | entry l x => cases x <;> simp [hreach] at hlocate
      obtain ⟨husable, hdot, hleads⟩ := reach_eq_missing_iff.1 hreach
      refine ⟨k, (hleads.get?_of_missing rfl).1, he.symm, ?_⟩
      rw [← he]
      exact entry_eq_ok_iff.2 ⟨husable, fun _ => ⟨hslash, hdot⟩, hleads.put rfl (by simp)⟩

end Disk

namespace Site

variable {s : Site} {d made : Disk} {posts file : Path} {text : String}

/-- What adding a post to the directory of the posts comes to. -/
def addPost (d : Disk) (posts file : Path) (text : String) : Except SiteError Path × Session :=
  match d.createDirectories posts with
  | .error error => (.error (.directoryUnmade posts error), ⟨d, []⟩)
  | .ok made =>
    if made.present file then (.error (.postExists file), ⟨made, []⟩)
    else match made.write file text with
      | .error error => (.error (.fileUnwritten file error), ⟨made, []⟩)
      | .ok e => (.ok file, ⟨e, [.postCreated file]⟩)

theorem addPost_of_present (hmade : d.createDirectories posts = .ok made)
    (h : made.present file = true) :
    addPost d posts file text = (.error (.postExists file), ⟨made, []⟩) := by
  unfold addPost
  rw [hmade]
  dsimp only
  rw [if_pos h]

theorem addPost_of_absent (hmade : d.createDirectories posts = .ok made)
    (h : made.present file = false) :
    addPost d posts file text = match made.write file text with
      | .error error => (.error (.fileUnwritten file error), ⟨made, []⟩)
      | .ok e => (.ok file, ⟨e, [.postCreated file]⟩) := by
  unfold addPost
  rw [hmade]
  dsimp only
  rw [if_neg (Bool.eq_false_iff.1 h)]

/-- Adding a post either makes directories only, or adds one file besides. -/
theorem gains_addPost (d : Disk) (posts : Path) (text : String)
    (hslash : file.endsInSlash = false) :
    (∀ error, (addPost d posts file text).1 = .error error →
      Disk.Gains (fun _ => False) d (addPost d posts file text).2.disk) ∧
    ∀ p, (addPost d posts file text).1 = .ok p → p = file ∧ ∃ k, d.get? k = none ∧
      (addPost d posts file text).2.disk.entry file = .ok (k, .file (.text text) d.clock) ∧
      Disk.Gains (· = k) d (addPost d posts file text).2.disk := by
  cases hmade : d.createDirectories posts with
  | error error =>
    unfold addPost
    rw [hmade]
    exact ⟨fun _ _ => .refl _ d, fun p hp => by cases hp⟩
  | ok made =>
    have hmakes := (Disk.makes_of_createDirectories hmade).1
    cases hthere : made.present file with
    | true =>
      rw [addPost_of_present hmade hthere]
      exact ⟨fun _ _ => hmakes.gains _, fun p hp => by cases hp⟩
    | false =>
      rw [addPost_of_absent hmade hthere]
      cases hwrite : made.write file text with
      | error error => exact ⟨fun _ _ => hmakes.gains _, fun p hp => by cases hp⟩
      | ok e =>
        refine ⟨fun _ herror => (by cases herror), fun p hp => ⟨(Except.ok.inj hp).symm, ?_⟩⟩
        obtain ⟨k, hnone, rfl, hentry⟩ := Disk.put_of_writeAt_of_absent hthere hslash hwrite
        rw [hmakes.clock] at hentry
        -- What is not there among the new directories was not there before them.
        have habsent : d.get? k = none := by
          rcases hmakes.get? k with hk | ⟨-, hk, -⟩
          · rw [← hk, hnone]
          · exact hk
        refine ⟨k, habsent, by rw [hmakes.clock]; exact hentry, fun j => ?_⟩
        by_cases hj : j = k
        · exact Or.inl hj
        · rw [Disk.get?_put_of_ne made _ (Ne.symm hj)]
          exact hmakes.gains (· = k) j

/-- Making a new post adds its file to the directory of the posts. -/
theorem runOn_newPost {title : String} (htitle : Text.trim title.toList ≠ []) :
    let now := Moment.ofUnix d.clock 0
    let shown := String.ofList (Text.trim title.toList)
    (s.newPost title).runOn d =
      addPost d s.posts (s.newPostFile shown now) (scaffold shown now) := by
  have hshown : String.ofList (Text.trim title.toList) ≠ "" := by simpa using htitle
  intro now shown
  change Work.outcome (s.newPost title) ⟨d, []⟩ = _
  unfold newPost addPost
  dsimp only
  rw [if_neg hshown, Work.outcome_bind, Work.outcome_asking]
  dsimp only
  rw [Work.outcome_bind, Work.outcome_changing]
  dsimp only
  cases d.createDirectories s.posts with
  | error error => rfl
  | ok made =>
    dsimp only
    rw [Work.outcome_bind, Work.outcome_asking]
    dsimp only
    cases made.present (s.newPostFile shown now) with
    | true => rw [if_pos rfl, if_pos rfl, Work.outcome_bind, Work.outcome_throw]
    | false =>
      rw [if_neg Bool.false_ne_true, if_neg Bool.false_ne_true, Work.outcome_bind,
        Work.outcome_changing]
      dsimp only
      cases made.write (s.newPostFile shown now) (scaffold shown now) with
      | error error => rfl
      | ok e =>
        dsimp only
        rw [Work.outcome_bind, Work.outcome_report]
        exact Work.outcome_pure _

theorem endsInSlash_newPostFile (s : Site) (title : String) (now : Moment) :
    (s.newPostFile title now).endsInSlash = false := by
  -- What is joined to a path stands at its end, and the suffix ends the name of a post.
  have hlast : ∀ p q : List Char, q.getLast? = some 'd' →
      (Path.joinChars p q).getLast? = some 'd' := by
    intro p q hq
    have happend : ∀ w : List Char, (w ++ q).getLast? = some 'd' := fun w => by simp [hq]
    unfold Path.joinChars
    split
    · exact hq
    · split
      · exact happend p
      · rw [List.append_cons]
        exact happend _
  have hname : ((now.format "YYYY-MM-DD" ++ "-" ++ Text.slugOfTitle title ++ ".md").toList).getLast?
      = some 'd' := by
    rw [String.toList_append, List.getLast?_append]
    rfl
  rw [Path.endsInSlash, newPostFile, Path.join, Path.ofChars, String.toList_ofList,
    hlast _ _ hname]
  decide

/-- A new post adds one file and changes no other, or nothing but directories. It fails if its file
is there and goes well if its file can be written, and the file is read as it was meant if the title
can be read. -/
theorem new_post_reads_back_iff (s : Site) (title : String) (d : Disk)
    (htitle : Text.trim title.toList ≠ [])
    (hyear : isYear (Moment.ofUnix d.clock 0).date.year = true) :
    let now := Moment.ofUnix d.clock 0
    let shown := String.ofList (Text.trim title.toList)
    let file := s.newPostFile shown now
    let text := scaffold shown now
    let r := (s.newPost title).runOn d
    (∀ error, r.1 = .error error → Disk.Gains (fun _ => False) d r.2.disk) ∧
    (∀ p, r.1 = .ok p → p = file ∧ ∃ k, d.get? k = none ∧
      r.2.disk.entry file = .ok (k, .file (.text text) d.clock) ∧
      Disk.Gains (· = k) d r.2.disk) ∧
    (∀ made, d.createDirectories s.posts = .ok made →
      (made.present file = true → r.1 = .error (.postExists file)) ∧
      ∀ e, made.present file = false → made.write file text = .ok e → r.1 = .ok file) ∧
    (FrontMatter.IsNewPost text shown ↔ FrontMatter.KeepsTitle shown) := by
  intro now shown file text r
  have hr : r = addPost d s.posts file text := runOn_newPost htitle
  have hslash : file.endsInSlash = false := s.endsInSlash_newPostFile shown now
  have hread := FrontMatter.isNewPost_scaffold_iff hyear shown
  change FrontMatter.IsNewPost text shown ↔ _ at hread
  clear_value r text file
  subst hr
  obtain ⟨hfails, hadds⟩ := gains_addPost d s.posts text hslash
  refine ⟨hfails, hadds, fun made hmade => ⟨fun hthere => ?_, fun e hthere hwrite => ?_⟩,
    hread⟩
  · rw [addPost_of_present hmade hthere]
  · rw [addPost_of_absent hmade hthere, hwrite]

/-- A quoted title is read back as it was meant, and one with the next line control is not. -/
theorem next_line_in_title_is_lost :
    let now := Moment.ofUnix smallDisk.clock 0
    ((smallSite.newPost "Hello: \"World\"").runOn smallDisk).1 =
        .ok ⟨"/s/source/_posts/1970-01-01-hello-world.md"⟩ ∧
      FrontMatter.IsNewPost (scaffold "Hello: \"World\"" now) "Hello: \"World\"" ∧
      ¬ FrontMatter.IsNewPost (scaffold "a \u0085b" now) "a \u0085b" := by
  have hyear : isYear (Moment.ofUnix smallDisk.clock 0).date.year = true := by decide
  have hkept := new_post_reads_back_iff smallSite "Hello: \"World\"" smallDisk (by decide) hyear
  have hlost := new_post_reads_back_iff smallSite "a \u0085b" smallDisk (by decide) hyear
  have htrimmed : String.ofList (Text.trim "Hello: \"World\"".toList) = "Hello: \"World\"" ∧
      String.ofList (Text.trim "a \u0085b".toList) = "a \u0085b" := by decide
  have hfile : smallSite.newPostFile "Hello: \"World\"" (Moment.ofUnix smallDisk.clock 0) =
      ⟨"/s/source/_posts/1970-01-01-hello-world.md"⟩ := by decide +kernel
  dsimp only at hkept hlost
  rw [htrimmed.1, hfile] at hkept
  rw [htrimmed.2] at hlost
  refine ⟨?_, hkept.2.2.2.2 ⟨by decide +kernel,
    Yaml.unfolded_of_forall (by simp [Yaml.isSeparator])⟩, ?_⟩
  · have hwritten : (smallDisk.createDirectories smallSite.posts).toOption.any (fun made =>
        !made.present ⟨"/s/source/_posts/1970-01-01-hello-world.md"⟩ &&
          (made.write ⟨"/s/source/_posts/1970-01-01-hello-world.md"⟩
            (scaffold "Hello: \"World\"" (Moment.ofUnix smallDisk.clock 0))).isOk) = true := by
      decide +kernel
    cases hmade : smallDisk.createDirectories smallSite.posts with
    | error error =>
      rw [hmade] at hwritten
      cases hwritten
    | ok made =>
      rw [hmade] at hwritten
      obtain ⟨habsent, hok⟩ := Bool.and_eq_true_iff.1 hwritten
      cases hwrite : made.write ⟨"/s/source/_posts/1970-01-01-hello-world.md"⟩
          (scaffold "Hello: \"World\"" (Moment.ofUnix smallDisk.clock 0)) with
      | error error =>
        rw [hwrite] at hok
        cases hok
      | ok e => exact (hkept.2.2.1 made hmade).2 e (by simpa using habsent) hwrite
  · rw [hlost.2.2.2]
    rintro ⟨-, hunfolded⟩
    exact absurd (hunfolded ['\u0085', 'b'] ⟨['a', ' '], rfl⟩) (by decide)

end Site
end StaticBlog
