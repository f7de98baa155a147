import StaticBlog.Proofs.Site.Loading
import StaticBlog.Proofs.Site.Steps

/-!
# What a build reads

- `Site.keeps_loadPosts`, `Site.keeps_pageMaker` : reading the posts and the theme changes no disk
- `Site.publishes_congr` : the posts are the same on disks that look the same below them
- `Site.repeats_pageMaker` : pages are made with the same on disks where the theme is the same
-/

namespace StaticBlog

open Disk (Extends SameBelow Sound)
open Work (Grown Keeps Progress Repeats progress_grown)

namespace Site

variable {s : Site} {d e : Disk} {posts : List Post}

/-! ## The disk afterwards -/

section

variable {R : Disk → Disk → Prop} (hR : Progress R)
include hR

theorem keeps_loadPosts : Keeps R s.loadPosts := by
  have hread : Keeps R s.readPosts := by
    unfold readPosts
    refine (Work.keeps_asking hR _).bind hR fun there => ?_
    cases there with
    | false => exact (Work.keeps_report hR _).bind hR fun _ => Work.keeps_pure hR []
    | true =>
      refine (Work.keeps_asking hR _).bind hR fun outcomes => ?_
      cases collected outcomes with
      | mk read failure =>
        refine (Work.keeps_reportAll hR _).bind hR fun _ => ?_
        cases failure with
        | none => exact Work.keeps_pure hR _
        | some error => exact Work.keeps_throw hR error
  unfold loadPosts
  exact (Work.keeps_reportIf hR _ _).bind hR fun _ => hread.bind hR fun posts =>
    Work.keeps_pure hR (newestFirst posts)

theorem keeps_reportUnshown (json : Except Yaml.KeyFault Json) : Keeps R (reportUnshown json) := by
  cases json with
  | ok json => exact Work.keeps_pure hR ()
  | error fault => exact Work.keeps_report hR (.valueUnshown fault)

theorem keeps_templateSource (t : Theme) (k : PageKind) : Keeps R (t.templateSource k) := by
  unfold Theme.templateSource
  refine (Work.keeps_reading hR _).bind hR fun own => ?_
  cases own with
  | none => exact Work.keeps_pure hR _
  | some source => exact (Work.keeps_report hR _).bind hR fun _ => Work.keeps_pure hR source

theorem keeps_templates (t : Theme) (dateFormat : String) : Keeps R (t.templates dateFormat) := by
  unfold Theme.templates
  refine (Work.keeps_mapM hR (fun k => ?_) _).bind hR fun byKind => Work.keeps_pure hR _
  exact (keeps_templateSource hR t k).bind hR fun source =>
    Work.keeps_pure hR (k, Template.parse source)

theorem keeps_pageMaker : Keeps R s.pageMaker := by
  unfold pageMaker
  exact (Work.keeps_asking hR _).bind hR fun found => (Work.keeps_reportIf hR _ _).bind hR fun _ =>
    (keeps_templates hR _ _).bind hR fun templates => (keeps_reportUnshown hR _).bind hR fun _ =>
      (Work.keeps_reading hR _).bind hR fun styles => Work.keeps_pure hR _

end

/-- The pages of a site are made with its configuration and have its variables, and the disk stays as it
is. -/
theorem runs_pageMaker {m : PageMaker} {before after : Session} (h : Work.Runs s.pageMaker before m after) :
    after.disk = before.disk ∧ m.config = s.config ∧ ∃ styles, m.base = baseContext s.config styles := by
  have hdisk : before.disk = after.disk := (keeps_pageMaker Work.progress_eq).of_runs h
  rcases Work.runs_bind_iff.1 h with ⟨found, s₁, -, h⟩
  rcases Work.runs_bind_iff.1 h with ⟨_, s₂, -, h⟩
  rcases Work.runs_bind_iff.1 h with ⟨templates, s₃, -, h⟩
  rcases Work.runs_bind_iff.1 h with ⟨_, s₄, -, h⟩
  rcases Work.runs_bind_iff.1 h with ⟨styles, s₅, -, h⟩
  rw [(Work.runs_pure_iff.1 h).1]
  exact ⟨hdisk.symm, rfl, styles, rfl⟩

/-! ## Posts -/

/-- The posts of a site are the same on sound disks that look the same below them. -/
theorem publishes_congr (hd : Sound d) (he : Sound e) (hsame : SameBelow d e s.posts) :
    s.Publishes e posts ↔ s.Publishes d posts := by
  have hpresent : e.present s.posts = d.present s.posts := Disk.present_congr hsame.entry_self
  rw [Publishes, Publishes, hpresent, outcomes_congr hd he hsame]

/-- Each disk has the posts of a site in one order. -/
theorem Publishes.unique {posts' : List Post} (h : s.Publishes d posts) (h' : s.Publishes d posts') :
    posts = posts' := by
  rcases h with ⟨hnone, rfl⟩ | ⟨hthere, read, hread, rfl⟩
  · rcases h' with ⟨-, rfl⟩ | ⟨hthere, -⟩
    · rfl
    · rw [hnone] at hthere
      cases hthere
  · rcases h' with ⟨hnone, -⟩ | ⟨-, read', hread', rfl⟩
    · rw [hnone] at hthere
      cases hthere
    · have hok : Function.Injective (Except.ok : Document × Post → Except SiteError (Document × Post)) :=
        fun _ _ => Except.ok.inj
      rw [List.map_injective_iff.2 hok (hread.symm.trans hread')]

/-! ## The theme -/

/-- Whether a relation of disks tells that a directory looks the same on both, as long as what is on the
first one stays. -/
def LooksSame (R : Disk → Disk → Prop) (final : Disk) (dir : Path) : Prop :=
  ∀ d e, R d e → Extends d final → ∀ ns, (∀ n ∈ ns, Path.IsName n) →
    e.entry (dir.down ns) = d.entry (dir.down ns)

variable {R : Disk → Disk → Prop} {final : Disk}

theorem repeats_reportUnshown (json : Except Yaml.KeyFault Json) :
    Repeats R final (reportUnshown json) := by
  cases json with
  | ok json => exact Work.repeats_pure ()
  | error fault => exact Work.repeats_report (.valueUnshown fault)

section

variable (hR : ∀ d e, R d e → Sound d)
include hR

theorem repeats_templateSource (t : Theme) (htheme : LooksSame R final t.dir) (k : PageKind) :
    Repeats R final (t.templateSource k) := by
  have hfile : Path.IsName (k.templateName ++ ".html") := by cases k <;> decide
  have hown : ∀ d e, R d e → Extends d final → t.ownTemplate? k e = t.ownTemplate? k d := by
    intro d e hlike hfinal
    have hentry : e.entry (t.templateFile k) = d.entry (t.templateFile k) :=
      htheme d e hlike hfinal [k.templateName ++ ".html"] (by simpa using hfile)
    simp only [Theme.ownTemplate?, Disk.isFile_congr hentry, Disk.readText_congr hentry]
  unfold Theme.templateSource
  refine (Work.repeats_reading hown).bind hR fun own => ?_
  cases own with
  | none => exact Work.repeats_pure _
  | some source => exact (Work.repeats_report _).bind hR fun _ => Work.repeats_pure source

theorem repeats_templates (t : Theme) (htheme : LooksSame R final t.dir) (dateFormat : String) :
    Repeats R final (t.templates dateFormat) := by
  unfold Theme.templates
  refine (Work.repeats_mapM hR (fun k => ?_) _).bind hR fun byKind => Work.repeats_pure _
  exact (repeats_templateSource hR t htheme k).bind hR fun source =>
    Work.repeats_pure (k, Template.parse source)

/-- Pages are made with the same on disks where the theme looks the same. -/
theorem repeats_pageMaker (htheme : LooksSame R final s.themeDir) : Repeats R final s.pageMaker := by
  have hdir : ∀ d e, R d e → Extends d final → e.isDirectory s.themeDir = d.isDirectory s.themeDir :=
    fun d e hlike hfinal => Disk.isDirectory_congr (htheme d e hlike hfinal [] (by simp))
  have hstyles : ∀ d e, R d e → Extends d final → s.theme.styles e = s.theme.styles d := by
    intro d e hlike hfinal
    have hentry : e.entry s.theme.stylesheetFile = d.entry s.theme.stylesheetFile :=
      htheme d e hlike hfinal ["assets", "css", "style.css"] (by decide)
    simp only [Theme.styles, Disk.isFile_congr hentry, Disk.readText_congr hentry]
  unfold pageMaker
  exact (Work.repeats_asking hdir).bind hR fun found => (Work.repeats_reportIf _ _).bind hR fun _ =>
    (repeats_templates hR s.theme htheme _).bind hR fun templates => (repeats_reportUnshown _).bind hR fun _ =>
      (Work.repeats_reading hstyles).bind hR fun styles => Work.repeats_pure _

end

end Site
end StaticBlog
