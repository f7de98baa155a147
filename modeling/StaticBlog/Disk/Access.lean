import StaticBlog.Disk.Basic

/-!
# Reading and changing a disk

- `Disk.isFile`, `Disk.isDirectory`, `Disk.present` : what is at a path, links followed
- `Disk.readText`, `Disk.modified` : what a file holds and when it was changed
- `Disk.write`, `Disk.copy` : writing a file
- `Disk.createDirectories` : makes a directory with those above it
- `Disk.clear`, `Disk.removeCleared` : removes what is in a directory, and then the directory
-/

namespace StaticBlog
namespace Disk

/-! ## Questions -/

/-- The place and the entry that a path leads to, links followed. -/
def entry (d : Disk) (p : Path) : Except DiskError (Place × Entry) :=
  match d.locate true p with
  | .ok (.entry l e) => .ok (l, e)
  | .ok (.missing _) => .error .notFound
  | .error e => .error e

/-- Whether a path leads to anything. -/
def present (d : Disk) (p : Path) : Bool :=
  match d.entry p with
  | .ok _ => true
  | .error _ => false

def isFile (d : Disk) (p : Path) : Bool :=
  match d.entry p with
  | .ok (_, .file _ _) => true
  | _ => false

def isDirectory (d : Disk) (p : Path) : Bool :=
  match d.entry p with
  | .ok (_, .directory) => true
  | _ => false

/-- What a file holds, and when it was changed. -/
def readFile (d : Disk) (p : Path) : Except DiskError (Content × Int) :=
  match d.entry p with
  | .ok (_, .file content modified) => .ok (content, modified)
  | .ok _ => .error .isADirectory
  | .error e => .error e

/-- The text that a file holds. -/
def readText (d : Disk) (p : Path) : Except DiskError String :=
  match d.readFile p with
  | .ok (.text s, _) => .ok s
  | .ok (.binary _, _) => .error .notText
  | .error e => .error e

/-! ## Changes -/

/-- Writes a file, in place of the one that is there. -/
def writeAt (d : Disk) (p : Path) (content : Content) (modified : Int) : Except DiskError Disk :=
  match d.locate true p with
  | .ok (.entry _ .directory) => .error .isADirectory
  | .ok (.entry l _) => .ok (d.put l (.file content modified))
  | .ok (.missing l) => .ok (d.put l (.file content modified))
  | .error e => .error e

/-- Writes a text to a file. -/
def write (d : Disk) (p : Path) (text : String) : Except DiskError Disk :=
  d.writeAt p (.text text) d.clock

/-- Whether two paths lead to the same entry. -/
def sameEntry (d : Disk) (p q : Path) : Bool :=
  match d.entry p, d.entry q with
  | .ok (l, _), .ok (k, _) => l = k
  | _, _ => false

/-- Writes what a file holds to another one. The target is emptied first, so a file that is copied
to itself is empty afterwards. -/
def copy (d : Disk) (source target : Path) : Except DiskError Disk :=
  match d.readFile source with
  | .ok (content, _) =>
    d.writeAt target (if d.sameEntry source target then .text "" else content) d.clock
  | .error .isADirectory => .error .notAFile
  | .error e => .error e

/-- Makes a directory. -/
def createDirectory (d : Disk) (p : Path) : Except DiskError Disk :=
  match d.reach false p with
  | .ok (.entry _ _) => .error .alreadyExists
  | .ok (.missing l) => .ok (d.put l .directory)
  | .error e => .error e

/-- Makes a directory, unless it is there. -/
def ensureDirectory (d : Disk) (p : Path) : Except DiskError Disk :=
  match d.createDirectory p with
  | .ok d => .ok d
  | .error e => if d.isDirectory p then .ok d else .error e

/-- Makes a directory with those above it. `fuel` bounds their number. -/
def createDirectoriesFrom : (fuel : Nat) → Disk → Path → Except DiskError Disk
  | 0, _, _ => .error .notFound
  | fuel + 1, d, p =>
    if p.text = "" then .ok d
    else match d.createDirectory p with
      | .ok d => .ok d
      | .error .notFound =>
        match p.parent? with
        | none => .error .notFound
        | some parent =>
          match createDirectoriesFrom fuel d parent with
          | .ok d => d.ensureDirectory p
          | .error e => .error e
      | .error e => if d.isDirectory p then .ok d else .error e

/-- Makes a directory with those above it, unless it is there. -/
def createDirectories (d : Disk) (p : Path) : Except DiskError Disk :=
  createDirectoriesFrom (p.text.length + 2) d p

/-- Removes what is in a directory. A link is removed itself. -/
def clear (d : Disk) (p : Path) : Except DiskError Disk :=
  match d.locate false p with
  | .ok (.entry l .directory) => .ok (d.eraseBelow l)
  | .ok (.entry l (.link _)) => .ok (d.erase l)
  | .ok (.entry _ (.file _ _)) => .error .notADirectory
  | .ok (.missing _) => .error .notFound
  | .error e => .error e

/-- Removes a directory that has been cleared. It may be that nothing is found there any more, because
the path led through what has been removed. -/
def removeCleared (d : Disk) (p : Path) : Except DiskError Disk :=
  match d.reach false p with
  | .ok (.entry l .directory) =>
    if p.endsInDot then .error .notAFile
    else if p.lastPiece = ['.', '.'] then .error .notEmpty
    else .ok (d.erase l)
  | .ok (.entry _ _) => .error .notADirectory
  | .ok (.missing _) | .error .notFound => .ok d
  | .error e => .error e

end Disk
end StaticBlog
