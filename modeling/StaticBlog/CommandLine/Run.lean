import StaticBlog.CommandLine.Arguments
import StaticBlog.Site.Build
import StaticBlog.Site.Scaffold

/-!
# Running commands

- `Command.work` : the work that a command is
- `Outcome` : what a run of the program shows and leaves
- `run` : a run of the program with arguments
-/

namespace StaticBlog
namespace CommandLine

/-- The work of a command for the site in a directory, with the lines that it prints. -/
def Command.work (c : Command) (base : Path) (refusal : Nat → Option PortError) :
    Work (List String) := do
  let site ← Site.open base
  match c with
  | .build _ =>
    let _ ← site.build
    return []
  | .preview | .serve =>
    site.present refusal
    return []
  | .clean =>
    site.clean
    Work.report (.siteCleaned site.output)
    return []
  | .new title => return [(← site.newPost title).text]

/-- What a run of the program shows and leaves. -/
structure Outcome where
  /-- Zero if all is well, one if the command failed, two if it was misused. -/
  code : Nat
  /-- The notices to show, in order. -/
  notices : List Notice := []
  /-- The lines that are printed. -/
  output : List String := []
  error : Option SiteError := none
  disk : Disk

/-- A run of the program with arguments. `here` is the directory that it is run in. -/
def run (args : List String) (here : Path) (refusal : Nat → Option PortError) (d : Disk) :
    Outcome :=
  match Request.ofArguments args with
  | .error (.help c) => { code := 0, output := helpText c, disk := d }
  | .error .version => { code := 0, output := versionText, disk := d }
  | .error .misused => { code := 2, disk := d }
  | .ok request =>
    let base := match request.site with
      | some name => ⟨name⟩
      | none => here
    let (result, after) := (request.command.work base refusal).runOn d
    let notices := after.notices.reverse.filter (·.isShown request.debug)
    match result with
    | .ok output => { code := 0, notices, output, disk := after.disk }
    | .error e => { code := 1, notices, error := some e, disk := after.disk }

end CommandLine
end StaticBlog
