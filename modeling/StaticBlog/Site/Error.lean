import StaticBlog.Config.Site
import StaticBlog.Disk.Basic

/-!
# What can go wrong with a site

- `SiteError` : the causes
- `SiteError.chain` : the texts of a cause and of what is behind it
- `SiteError.message` : those texts in one line
-/

namespace StaticBlog

/-- The languages that a configuration may be written in. -/
inductive ConfigFormat
  | yaml
  | json
  | toml
  deriving DecidableEq, Repr

/-- How a text that is not in a language is reported. -/
def ConfigFormat.malformed : ConfigFormat → String
  | yaml => "<yaml>"
  | json => "<json>"
  | toml => "<toml>"

/-- How an error of the disk is reported. -/
def DiskError.message (e : DiskError) : String := "<io " ++ e.kind ++ ">"

/-- Why a port cannot be used. -/
inductive PortError
  | taken
  | unavailable
  deriving DecidableEq, Repr

def PortError.message : PortError → String
  | taken => "<io AddrInUse>"
  | unavailable => "<io Unsupported>"

/-- The causes why something cannot be done with a site. -/
inductive SiteError
  | configUnread (path : Path) (error : DiskError)
  | configMalformed (path : Path) (format : ConfigFormat)
  | configFaulty (path : Path) (fault : SiteConfig.Fault)
  | templateUnread (path : Path) (error : DiskError)
  | stylesheetUnread (path : Path) (error : DiskError)
  | postUnread (path : Path) (error : DiskError)
  | postMalformed (path : Path)
  | assetsUnwalked (path : Path)
  | directoryUnmade (path : Path) (error : DiskError)
  | assetUncopied (source target : Path) (error : DiskError)
  | pageDirectoryUnmade (path : Path) (error : DiskError)
  | fileUnwritten (path : Path) (error : DiskError)
  /-- The page of a post cannot be written. -/
  | pageUnmade (source : Path) (cause : SiteError)
  /-- The output holds the sources. -/
  | outputHoldsSources (path : Path)
  | outputUndeleted (path : Path) (error : DiskError)
  | titleEmpty
  | postExists (path : Path)
  /-- The port that the site is shown at cannot be used. -/
  | portUnbound (port : Nat) (error : PortError)
  deriving DecidableEq, Repr

namespace SiteError

/-- The texts of a cause and of what is behind it, the outermost one first. -/
def chain : SiteError → List String
  | configUnread p e => ["Failed to read config " ++ p.text, e.message]
  | configMalformed p f => ["Invalid config " ++ p.text, f.malformed]
  | configFaulty p f => ["Invalid config " ++ p.text, f.message]
  | templateUnread p e => ["Failed to read template " ++ p.text, e.message]
  | stylesheetUnread p e => ["Failed to read stylesheet " ++ p.text, e.message]
  | postUnread p e => ["Failed to read " ++ p.text, e.message]
  | postMalformed p => ["Invalid front-matter in " ++ p.text, "<yaml>"]
  | assetsUnwalked p => ["Failed to walk " ++ p.text, "<walk>"]
  | directoryUnmade p e => ["Failed to create " ++ p.text, e.message]
  | assetUncopied p q e => ["Failed to copy " ++ p.text ++ " to " ++ q.text, e.message]
  | pageDirectoryUnmade p e => ["Failed to create dir " ++ p.text, e.message]
  | fileUnwritten p e => ["Failed to write " ++ p.text, e.message]
  | pageUnmade p cause => ("Failed to generate " ++ p.text) :: cause.chain
  | outputHoldsSources p => ["Refusing to delete " ++ p.text ++ ": it contains the site sources"]
  | outputUndeleted p e => ["Failed to delete " ++ p.text, e.message]
  | titleEmpty => ["Post title must not be empty"]
  | postExists p => ["File already exists: " ++ p.text]
  | portUnbound port e =>
    ["Failed to bind 127.0.0.1:" ++ String.ofList (Text.digits port), e.message]

/-- The text of a cause, without what is behind it. -/
def outermost (e : SiteError) : String := e.chain.headD ""

/-- The texts of a cause and of what is behind it in one line. -/
def message (e : SiteError) : String := String.intercalate ": " e.chain

end SiteError
end StaticBlog
