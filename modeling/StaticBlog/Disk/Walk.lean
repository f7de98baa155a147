import StaticBlog.Disk.Access

/-!
# Walking through a directory

- `Disk.walk` : the files below a directory, links followed, depth first and names in order
-/

namespace StaticBlog
namespace Disk

/-- What a walk meets: a file, or a path where it cannot go on. -/
inductive Step
  | file (path : Path)
  | failure (path : Path) (error : DiskError)
  deriving DecidableEq, Repr

/-- The steps of a walk through the directory at a place. `above` holds the directories that lead
there, and `fuel` bounds their number: a link to one of them is a failure. -/
def walkFrom (d : Disk) : (fuel : Nat) → (above : List Place) → Path → Place → List Step
  | 0, _, p, _ => [.failure p .loop]
  | fuel + 1, above, p, l =>
    (d.names l).flatMap fun n =>
      let path := p.join n
      match d.get? (l ++ [n]) with
      | some (.file _ _) => [.file path]
      | some .directory => walkFrom d fuel ((l ++ [n]) :: above) path (l ++ [n])
      | some (.link _) =>
        match d.entry path with
        | .ok (target, .directory) =>
          if above.contains target then [.failure path .loop]
          else walkFrom d fuel (target :: above) path target
        | .ok _ => [.file path]
        | .error e => [.failure path e]
      | none => []

/-- The number of directories that a walk may enter one below another. Between two links each one is
another entry of the disk. -/
def depthLimit (d : Disk) : Nat := (linkLimit + 1) * (d.entries.length + 1)

/-- The files below a directory. A path to a file leads to that file alone. -/
def walk (d : Disk) (p : Path) : List Step :=
  match d.entry p with
  | .ok (l, .directory) => walkFrom d d.depthLimit [l] p l
  | .ok _ => [.file p]
  | .error e => [.failure p e]

end Disk
end StaticBlog
