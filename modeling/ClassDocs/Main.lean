import ClassDocs.Command.Run

namespace ClassDocs

/-- Where a place lies on the disk. -/
def onDisk (place : List String) :=
  (· / ("/" ++ "/".intercalate place)) <$> IO.currentDir

/-- Add what the disk holds at a place, and the directories above it. -/
def addPlace (files : FileSystem) (place : List String) : IO FileSystem := do
  let mut files := files
  for length in List.range (place.length + 1) do
    let names := place.take length
    let path ← onDisk names
    if (files.node? names).isNone then
      if ← path.isDir then
        files := files.set names .directory
      else if ← path.pathExists then
        let node := match String.fromUTF8? (← IO.FS.readBinFile path) with
          | some content => FileNode.text content
          | none => FileNode.binary
        files := files.set names node
  return files

/-- Add the entries of a directory, and those of the directories below it if they are wanted. -/
partial def addBelow (files : FileSystem) (place : List String) (atAnyDepth : Bool) : IO FileSystem := do
  let mut files ← addPlace files place
  if files.node? place == some .directory then
    for entry in ← (← onDisk place).readDir do
      let names := place ++ [entry.fileName]
      files ← if atAnyDepth then addBelow files names true else addPlace files names
  return files

/-- Add what the disk holds on the way along a path, and where it ends. -/
def addPath (files : FileSystem) (path : String) (atAnyDepth : Bool) : IO FileSystem := do
  let mut files := files
  let mut place := files.start path
  for piece in Path.pieces path do
    files ← addPlace files place
    if piece == ".." then place := place.dropLast
    else if piece != "" && piece != "." then place := place ++ [piece]
  addBelow files place atAnyDepth

/-- What the disk holds that a run can read or change: the classes and the output directory. -/
def fetch (arguments : Arguments) : IO FileSystem := do
  let base := (← IO.currentDir).components.filter (!·.isEmpty)
  let files ← addPlace ⟨[], base⟩ base
  let files ← addPath files arguments.config.root true
  match arguments.output with
  | some directory => addPath files directory false
  | none => return files

/-- Bring what a run made or changed to the disk. -/
def store (before after : FileSystem) : IO Unit :=
  for (place, node) in after.entries do
    if before.node? place ≠ some node then
      let path ← onDisk place
      match node with
      | .directory => IO.FS.createDirAll path
      | .text content => IO.FS.writeFile path content
      | .binary => pure ()

end ClassDocs

open ClassDocs in
/-- Document the classes that the command line names. -/
def main (line : List String) : IO UInt32 := do
  let files ← match Arguments.parse? line with
    | some (.document arguments) => fetch arguments
    | _ => pure FileSystem.empty
  let outcome := run line files
  store files outcome.files
  IO.print outcome.output
  match outcome.report with
  | some report => IO.eprint report
  | none => if outcome.exitCode = 2 then IO.eprintln "error: the arguments were not understood"
  return outcome.exitCode.toUInt32
