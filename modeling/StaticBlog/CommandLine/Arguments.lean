/-!
# Arguments

What a user asks for on the command line. Arguments are read one after the other.

- `CommandName`, `Request` : the commands, and what is asked for
- `Ending` : what an argument can bring reading to
- `Reading.step` : reads one argument
- `Request.ofArguments` : reads all of them
- `helpText`, `versionText` : how a command is used, and which program this is
-/

namespace StaticBlog
namespace CommandLine

/-! ## Commands -/

/-- The commands by name. -/
inductive CommandName
  | build
  | preview
  | serve
  | clean
  | new
  | help
  deriving DecidableEq, Repr

namespace CommandName

def all : List CommandName := [build, preview, serve, clean, new, help]

/-- The names that a command goes by; the first one is shown. -/
def names : CommandName → List String
  | build => ["build", "b"]
  | preview => ["preview"]
  | serve => ["serve", "s"]
  | clean => ["clean"]
  | new => ["new"]
  | help => ["help"]

/-- The command that goes by a name. -/
def ofName? (name : String) : Option CommandName := all.find? fun c => c.names.contains name

end CommandName

/-- What the program is asked to do. -/
inductive Command
  | build (watch : Bool)
  | preview
  | serve
  | clean
  | new (title : String)
  deriving DecidableEq, Repr

/-- A command with the site that it is for, if one is named, and whether all notices are shown. -/
structure Request where
  site : Option String
  debug : Bool
  command : Command
  deriving DecidableEq, Repr

/-- What reading can end with besides a request. -/
inductive Ending
  /-- The help of a command, or of the program. -/
  | help (command : Option CommandName)
  | version
  /-- The arguments make no sense. -/
  | misused
  deriving DecidableEq, Repr

/-! ## Options -/

/-- The options given so far with a command, or in front of it. -/
structure Options where
  site : Option String := none
  debug : Bool := false
  watch : Bool := false
  deriving DecidableEq, Repr

namespace Options

/-- Names the site. It can be named once, by a text that is not empty. -/
def withSite (o : Options) (name : String) : Except Ending Options :=
  if o.site.isSome || name = "" then .error .misused else .ok { o with site := some name }

def withDebug (o : Options) : Except Ending Options :=
  if o.debug then .error .misused else .ok { o with debug := true }

def withWatch (o : Options) : Except Ending Options :=
  if o.watch then .error .misused else .ok { o with watch := true }

end Options

/-! ## Reading -/

/-- What has been read. -/
structure Reading where
  /-- The command, if its name has been read. -/
  command : Option CommandName := none
  /-- The options in front of the command. -/
  before : Options := {}
  /-- The options behind the command, or in front of it as long as it has not been read. -/
  options : Options := {}
  /-- Whether the next argument names the site. -/
  awaitsSite : Bool := false
  /-- Whether arguments are no longer options. -/
  escaped : Bool := false
  title : Option String := none
  /-- The command that help is wanted for. -/
  subject : Option CommandName := none
  deriving DecidableEq, Repr

namespace Reading

/-- Reads an argument that is neither an option nor the name of the site. -/
def word (r : Reading) (arg : String) : Except Ending Reading :=
  match r.command with
  | none =>
    if r.escaped then .error .misused
    else match CommandName.ofName? arg with
      | some c => .ok { r with command := some c, before := r.options, options := {} }
      | none => .error .misused
  | some .new =>
    if r.title.isSome then .error .misused else .ok { r with title := some arg }
  | some .help =>
    match r.subject, CommandName.ofName? arg with
    | none, some c => .ok { r with subject := some c }
    | _, _ => .error .misused
  | some _ => .error .misused

/-- Reads options of one letter each. -/
def letters (r : Reading) : List Char → Except Ending Reading
  | [] => .ok r
  | 'd' :: rest => do letters { r with options := ← r.options.withDebug } rest
  | 'c' :: [] => if r.options.site.isSome then .error .misused else .ok { r with awaitsSite := true }
  | 'c' :: '=' :: name => do
    return { r with options := ← r.options.withSite (String.ofList name) }
  | 'c' :: name => do return { r with options := ← r.options.withSite (String.ofList name) }
  | 'h' :: _ => .error (.help r.command)
  | 'V' :: _ => .error (if r.command.isNone then .version else .misused)
  | 'w' :: rest =>
    if r.command = some .build then do
      letters { r with options := ← r.options.withWatch } rest
    else .error .misused
  | _ => .error .misused

/-- Reads an option of a name, maybe with a value. -/
def named (r : Reading) (name : String) (value : Option String) : Except Ending Reading :=
  match name, value with
  | "cwd", some v => do return { r with options := ← r.options.withSite v }
  | "cwd", none => letters r ['c']
  | "debug", none => letters r ['d']
  | "help", none => letters r ['h']
  | "version", none => letters r ['V']
  | "watch", none => letters r ['w']
  | _, _ => .error .misused

/-- Cuts an option at its first equals sign. -/
def cutName (s : List Char) : String × Option String :=
  match s.dropWhile (· ≠ '=') with
  | [] => (String.ofList s, none)
  | _ :: value => (String.ofList (s.takeWhile (· ≠ '=')), some (String.ofList value))

/-- Reads an argument. -/
def step (r : Reading) (arg : String) : Except Ending Reading :=
  if r.escaped || r.command = some .help then r.word arg
  else match arg.toList with
    | ['-', '-'] => if r.awaitsSite then .error .misused else .ok { r with escaped := true }
    | '-' :: '-' :: s =>
      if r.awaitsSite then .error .misused else r.named (cutName s).1 (cutName s).2
    | '-' :: c :: s => if r.awaitsSite then .error .misused else r.letters (c :: s)
    | _ =>
      if r.awaitsSite then do
        return { r with options := ← r.options.withSite arg, awaitsSite := false }
      else r.word arg

/-- The command that has been read, with what it needs. -/
def command? (r : Reading) : Option Command :=
  match r.command with
  | some .build => some (.build r.options.watch)
  | some .preview => some .preview
  | some .serve => some .serve
  | some .clean => some .clean
  | some .new => r.title.map .new
  | some .help => none
  | none => none

/-- The request that has been read. An option behind the command counts more than one in front of
it. -/
def finish (r : Reading) : Except Ending Request :=
  if r.command = some .help then .error (.help r.subject)
  else if r.awaitsSite then .error .misused
  else match r.command? with
    | some command =>
      .ok
        { site := r.options.site <|> r.before.site
          debug := r.options.debug || r.before.debug
          command }
    | none => .error .misused

end Reading

/-- What the arguments ask for. -/
def Request.ofArguments (args : List String) : Except Ending Request := do
  Reading.finish (← args.foldlM Reading.step {})

/-! ## Help -/

/-- An entry of a list in a help text: a name, and what it means. -/
abbrev HelpEntry := String × String

/-- Lines of entries, the meanings in one column. -/
def entryLines (entries : List HelpEntry) : List String :=
  let width := (entries.map (·.1.length)).foldl max 0
  entries.map fun (name, meaning) =>
    "  " ++ name ++ String.ofList (List.replicate (width - name.length + 2) ' ') ++ meaning

/-- A list of entries under a title. -/
def section_ (title : String) (entries : List HelpEntry) : List String :=
  if entries.isEmpty then [] else ("" :: (title ++ ":") :: entryLines entries)

/-- What a command does. -/
def CommandName.purpose : CommandName → String
  | build => "Generate the site into the output directory"
  | preview => "Build once and serve the output directory"
  | serve => "Build, serve and rebuild on changes with live reload"
  | clean => "Remove the output directory"
  | new => "Create a new post"
  | help => "Print this message or the help of the given subcommand(s)"

def siteOption : HelpEntry :=
  ("-c, --cwd <CWD>", "Site directory (defaults to the current directory)")

def debugOption : HelpEntry := ("-d, --debug", "Enable debug output")

def helpOption : HelpEntry := ("-h, --help", "Print help")

/-- The options of a command. -/
def CommandName.options : CommandName → List HelpEntry
  | build =>
    [("-w, --watch", "Rebuild when sources, theme or config change"), siteOption, debugOption,
      helpOption]
  | help => []
  | _ => [siteOption, debugOption, helpOption]

/-- What a command is given besides options. -/
def CommandName.arguments : CommandName → List HelpEntry
  | new => [("<TITLE>", "Title of the new post")]
  | help => [("[COMMAND]...", "Print help for the subcommand(s)")]
  | _ => []

/-- How a command is called. -/
def CommandName.usage (c : CommandName) : String :=
  String.join
    (["Usage: shiori ", c.names.headD ""] ++
      (if c.options.isEmpty then [] else [" [OPTIONS]"]) ++
      c.arguments.map fun (name, _) => " " ++ name)

/-- How the program or one of its commands is used, line by line. -/
def helpText : Option CommandName → List String
  | none =>
    ["A minimalist static blog generator", "", "Usage: shiori [OPTIONS] <COMMAND>"] ++
      section_ "Commands" (CommandName.all.map fun c => (c.names.headD "", c.purpose)) ++
      section_ "Options"
        [siteOption, debugOption, helpOption, ("-V, --version", "Print version")]
  | some c =>
    [c.purpose, "", c.usage] ++ section_ "Arguments" c.arguments ++ section_ "Options" c.options

/-- Which program this is. -/
def versionText : List String := ["shiori 0.1.0"]

end CommandLine
end StaticBlog
