import StaticBlog.Disk.Access
import StaticBlog.Json.Parse
import StaticBlog.Site.Error
import StaticBlog.Toml.Parse

/-!
# Configuration files

- `ConfigFormat.ofPath` : the language of a configuration file, by its name
- `SiteConfig.parse?` : the configuration that a text holds
- `SiteConfig.load` : the configuration in a file
- `SiteConfig.discover` : the configuration of the site in a directory
-/

namespace StaticBlog

/-- The language of a configuration file, by the end of its name. -/
def ConfigFormat.ofPath (p : Path) : ConfigFormat :=
  match p.suffix? with
  | some "json" => .json
  | some "toml" => .toml
  | _ => .yaml

namespace SiteConfig

/-- The configuration that a text in one of the languages holds. -/
def parse? (format : ConfigFormat) (text : String) : Option SiteConfig :=
  match format with
  | .yaml => (Yaml.Node.parse? text).bind read?
  | .json => (Json.parse? text).bind read?
  | .toml => (Toml.parse? text).bind read?

/-- A configuration from a file, if nothing is wrong with it. -/
def checked (p : Path) (c : SiteConfig) : Except SiteError SiteConfig :=
  match c.fault? with
  | some f => .error (.configFaulty p f)
  | none => .ok c

/-- The configuration in a file. -/
def load (d : Disk) (p : Path) : Except SiteError SiteConfig :=
  match d.readText p with
  | .error e => .error (.configUnread p e)
  | .ok text =>
    match parse? (.ofPath p) text with
    | none => .error (.configMalformed p (.ofPath p))
    | some c => c.checked p

/-- The names of configuration files; the first one that is there counts. -/
def fileNames : List String :=
  ["shiori.config.yml", "shiori.config.yaml", "shiori.config.json", "shiori.config.toml"]

/-- The configuration file of the site in a directory. -/
def file? (d : Disk) (base : Path) : Option Path := (fileNames.map base.join).find? d.isFile

/-- The configuration of the site in a directory. Without a file, everything has its default. -/
def discover (d : Disk) (base : Path) : Except SiteError SiteConfig :=
  match file? d base with
  | some p => load d p
  | none => .ok {}

end SiteConfig
end StaticBlog
