import StaticBlog.Path
import StaticBlog.Text.Digits
import StaticBlog.Text.Quoted
import StaticBlog.Yaml.Value

/-!
# Notices

What a program tells about its work while it is doing it.

- `Notice` : the notices there are
- `Notice.level`, `Notice.topic`, `Notice.text` : how much a notice matters, what it is about, and
  what it says
- `Notice.line` : a notice as a line of a log
-/

namespace StaticBlog

/-- How much a notice matters. -/
inductive NoticeLevel
  | debug
  | info
  | warning
  deriving DecidableEq, Repr

def NoticeLevel.name : NoticeLevel → String
  | debug => "DEBUG"
  | info => "INFO"
  | warning => "WARN"

/-- What can be told about the work on a site. -/
inductive Notice
  | configLoaded (path : Path)
  | configMissing
  | codeThemeUnknown (name standard : String)
  | postsMissing (dir : Path)
  /-- The date of a post is not understood. -/
  | dateStrange (date : String) (path : Path)
  | postSkipped (path : Path)
  | postsLoaded (count : Nat)
  /-- A value has no form that pages can show. -/
  | valueUnshown (fault : Yaml.KeyFault)
  | themeMissing (dir : Path)
  | templateUsed (path : Path)
  | themeAssetsCopied (count : Nat)
  | siteAssetsCopied (count : Nat)
  | pageWritten (path : Path)
  | pagesWritten (count : Nat)
  | outputDeleted (path : Path)
  | siteCleaned (path : Path)
  | postCreated (path : Path)
  deriving DecidableEq, Repr

namespace Notice

def level : Notice → NoticeLevel
  | configMissing | codeThemeUnknown _ _ | dateStrange _ _ => .warning
  | postsLoaded _ | pagesWritten _ | outputDeleted _ | siteCleaned _ | postCreated _ => .info
  | _ => .debug

/-- What a notice is about. -/
def topic : Notice → String
  | configLoaded _ | configMissing => "shiori::config::site"
  | codeThemeUnknown _ _ => "shiori::content::markdown"
  | postsMissing _ | dateStrange _ _ | postSkipped _ => "shiori::content::loader"
  | postsLoaded _ | pagesWritten _ => "shiori::commands::build"
  | valueUnshown _ => "shiori::theme::value"
  | themeMissing _ | templateUsed _ | themeAssetsCopied _ | siteAssetsCopied _ =>
    "shiori::theme::loader"
  | pageWritten _ => "shiori::generator"
  | outputDeleted _ => "shiori::commands::clean"
  | siteCleaned _ => "shiori"
  | postCreated _ => "shiori::commands::new"

def pathText (p : Path) : String := Text.quotePath p.text

def countText (n : Nat) : String := String.ofList (Text.digits n)

/-- What a notice says. `elapsed` is the time that the work has taken. -/
def text (elapsed : String) : Notice → String
  | configLoaded p => "Loaded config from " ++ pathText p
  | configMissing => "Config file not found, using defaults"
  | codeThemeUnknown name standard =>
    "Unknown syntax theme " ++ Text.quote name ++ ", using " ++ standard
  | postsMissing dir => "Posts directory " ++ pathText dir ++ " does not exist"
  | dateStrange date p =>
    "Unrecognized date " ++ Text.quote date ++ " in " ++ pathText p
      ++ ", using file modification time"
  | postSkipped p => "Skipping unpublished post " ++ pathText p
  | postsLoaded n => "Loaded " ++ countText n ++ " posts"
  | valueUnshown fault => "Value is not representable in a template: " ++ fault.message
  | themeMissing dir => "Theme directory " ++ pathText dir ++ " not found, using built-in theme"
  | templateUsed p => "Using theme template " ++ pathText p
  | themeAssetsCopied n => "Copied " ++ countText n ++ " theme assets"
  | siteAssetsCopied n => "Copied " ++ countText n ++ " site assets"
  | pageWritten p => "Generated: " ++ pathText p
  | pagesWritten n => "Generated " ++ countText n ++ " pages in " ++ elapsed
  | outputDeleted p => "Deleted: " ++ pathText p
  | siteCleaned p => "Cleaned " ++ pathText p
  | postCreated p => "Created: " ++ pathText p

/-- A notice as a line of a log. -/
def line (elapsed : String) (n : Notice) : String :=
  n.level.name ++ " " ++ n.topic ++ ": " ++ n.text elapsed

/-- Whether a notice is shown, with or without those that only help to find mistakes. -/
def isShown (debug : Bool) (n : Notice) : Bool := debug || n.level ≠ .debug

end Notice
end StaticBlog
