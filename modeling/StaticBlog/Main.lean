import StaticBlog.CommandLine.Run

/-!
# The program

Reads the files of a site, runs a command on them, and writes what has changed. All that the command
decides is decided by `StaticBlog.CommandLine.run`.
-/

namespace StaticBlog
namespace Program

/-! ## Reading files -/

/-- The path of a place. -/
def pathOf (l : Place) : String := "/" ++ String.intercalate "/" l

/-- The names on the way to a place, each with a directory at it. -/
def waysTo (l : Place) : List (Place × Entry) :=
  (List.range l.length).map fun n => (l.take (n + 1), .directory)

/-- The entries below a directory. Links are taken for what they lead to. `depth` bounds the number of
directories above each other. -/
def readBelow : (depth : Nat) → Place → IO (List (Place × Entry))
  | 0, _ => return []
  | depth + 1, l => do
    let dir ← IO.FS.realPath (pathOf l)
    let entries ← dir.readDir
    let parts ← entries.toList.mapM fun e => do
      let place := l ++ [e.fileName]
      try
        let data ← e.path.metadata
        match data.type with
        | .dir => return (place, Entry.directory) :: (← readBelow depth place)
        | .file =>
          let bytes ← IO.FS.readBinFile e.path
          return [(place, Entry.file (.ofBytes bytes.toList) data.modified.sec)]
        | _ => return []
      catch _ => return [(place, .link "")]
    return parts.flatten

/-- The time, which is that of a new file. -/
def currentTime : IO Int := do
  let (_, file) ← IO.FS.createTempFile
  let data ← file.metadata
  IO.FS.removeFile file
  return data.modified.sec

/-- The place that a path means without looking at any file. -/
def placeFrom (cwd : Place) (p : Path) : Place :=
  p.components.foldl (fun l c => match c with
    | .root => []
    | .here => l
    | .up => l.dropLast
    | .name n => l ++ [n]) cwd

/-- How deep directories may be nested. -/
def depthLimit : Nat := 64

/-- Whether there is a directory at a place. -/
def isDirectoryAt (l : Place) : IO Bool := do
  try
    let p ← IO.FS.realPath (pathOf l)
    p.isDir
  catch _ => return false

/-- The disk as far as a site in a directory needs it. -/
def readDisk (cwd : Place) (base : Path) : IO Disk := do
  let clock ← currentTime
  let place := placeFrom cwd base
  if ← isDirectoryAt place then
    return ⟨(waysTo cwd ++ waysTo place).eraseDups ++ (← readBelow depthLimit place), cwd, clock⟩
  else return ⟨(waysTo cwd ++ waysTo place.dropLast).eraseDups, cwd, clock⟩

/-! ## Writing changes -/

/-- Removes what is no longer there, what is below a directory before the directory. -/
def removeMissing (before after : Disk) : IO Unit := do
  let gone := before.entries.filter fun (l, _) => (after.get? l).isNone
  for (l, e) in gone.reverse do
    match e with
    | .directory => IO.FS.removeDir (pathOf l)
    | _ => IO.FS.removeFile (pathOf l)

/-- Writes what is new or different, directories before what is in them. -/
def writeChanges (before after : Disk) : IO Unit := do
  for (l, e) in after.entries do
    if before.get? l ≠ some e then
      match e with
      | .directory => IO.FS.createDirAll (pathOf l)
      | .file (.text s) _ => IO.FS.writeFile (pathOf l) s
      | .file (.binary bytes) _ => IO.FS.writeBinFile (pathOf l) ⟨bytes.toArray⟩
      | .link _ => pure ()

/-! ## Running -/

/-- A time as it is shown behind a number of pages. -/
def secondsText (milliseconds : Nat) : String :=
  let hundredths := milliseconds / 10
  String.ofList (Text.digits (hundredths / 100) ++ '.' :: Text.fixed 2 (hundredths % 100) ++ ['s'])

/-- Tells what a run has shown. -/
def showOutcome (elapsed : String) (o : CommandLine.Outcome) : IO Unit := do
  for n in o.notices do
    IO.println (n.line elapsed)
  for line in o.output do
    IO.println line
  match o.error with
  | some e => IO.eprintln ("Error: " ++ e.message)
  | none => if o.code = 2 then IO.eprintln (String.intercalate "\n" (CommandLine.helpText none))

/-- Runs the program with arguments. -/
def runWith (args : List String) : IO UInt32 := do
  let start ← IO.monoMsNow
  let here : Path := ⟨toString (← IO.currentDir)⟩
  let cwd := placeFrom [] here
  let base := match CommandLine.Request.ofArguments args with
    | .ok request => (request.site.map Path.mk).getD here
    | .error _ => here
  let before ← readDisk cwd base
  let o := CommandLine.run args here (fun _ => some .unavailable) before
  removeMissing before o.disk
  writeChanges before o.disk
  showOutcome (secondsText ((← IO.monoMsNow) - start)) o
  return o.code.toUInt32

end Program
end StaticBlog

def main (args : List String) : IO UInt32 := StaticBlog.Program.runWith args
