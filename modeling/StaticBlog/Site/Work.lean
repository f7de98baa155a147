import StaticBlog.Disk.Access
import StaticBlog.Site.Error
import StaticBlog.Site.Notice

/-!
# Work on a site

Work reads and changes a disk, gives notices, and may fail. What has been done before a failure
stays done.

- `Session` : the disk and the notices so far
- `Work` : work with a result
- `Work.report`, `Work.reading`, `Work.changing` : the steps that work is made of
-/

namespace StaticBlog

/-- What work goes on with: the disk, and the notices that have been given, the last one first. -/
structure Session where
  disk : Disk
  notices : List Notice := []
  deriving Inhabited

/-- Work on a site that has a result unless it fails. -/
abbrev Work (α : Type) := ExceptT SiteError (StateM Session) α

namespace Work

/-- Gives a notice. -/
def report (n : Notice) : Work Unit := modify fun s => { s with notices := n :: s.notices }

/-- Gives a notice if there is a reason. -/
def reportIf (reason : Bool) (n : Notice) : Work Unit := if reason then report n else pure ()

def reportAll (ns : List Notice) : Work Unit :=
  modify fun s => { s with notices := ns.reverse ++ s.notices }

/-- Looks something up on the disk. -/
def asking {α : Type} (f : Disk → α) : Work α := do return f (← get).disk

/-- Reads from the disk, which may fail. -/
def reading {α : Type} (f : Disk → Except SiteError α) : Work α := do
  match f (← get).disk with
  | .ok a => return a
  | .error e => throw e

/-- Changes the disk, or fails for a cause. -/
def changing (f : Disk → Except DiskError Disk) (cause : DiskError → SiteError) : Work Unit := do
  match f (← get).disk with
  | .ok d => modify fun s => { s with disk := d }
  | .error e => throw (cause e)

/-- Does work with a disk: its result, and the session after it. -/
def runOn {α : Type} (w : Work α) (d : Disk) : Except SiteError α × Session :=
  (ExceptT.run w).run ⟨d, []⟩

end Work
end StaticBlog
