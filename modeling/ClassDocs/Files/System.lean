import ClassDocs.Error
import ClassDocs.Files.Path

namespace ClassDocs

/-- What a place in the file system holds. -/
inductive FileNode where
  | directory
  | text (content : String)
  /-- A file whose bytes are no text. -/
  | binary
  deriving DecidableEq, Repr

/-- The files and directories, each under the names that lead to it from the root, and the place of the
working directory. The root itself has no entry. -/
structure FileSystem where
  entries : List (List String × FileNode)
  base : List String
  deriving DecidableEq, Repr

namespace FileSystem

/-- An empty root, which is the working directory as well. -/
def empty : FileSystem := ⟨[], []⟩

/-- What a place holds. -/
def node? (files : FileSystem) (place : List String) : Option FileNode :=
  if place.isEmpty then some .directory
  else (files.entries.find? fun entry => entry.1 == place).map (·.2)

/-- Change what a place holds in a list of entries, or add it at the end. -/
def setEntry (place : List String) (node : FileNode) :
    List (List String × FileNode) → List (List String × FileNode)
  | [] => [(place, node)]
  | entry :: rest =>
    if entry.1 = place then (place, node) :: rest else entry :: setEntry place node rest

/-- Change what a place holds. -/
def set (files : FileSystem) (place : List String) (node : FileNode) : FileSystem :=
  ⟨setEntry place node files.entries, files.base⟩

/-- Follow the pieces of a path from a place. Every place that is left must be a directory; the last
one need not exist. Above the root is the root. -/
def follow (files : FileSystem) (place : List String) : List String → Except FileError (List String)
  | [] => .ok place
  | piece :: rest =>
    match files.node? place with
    | some .directory =>
      if piece = "" ∨ piece = "." then follow files place rest
      else if piece = ".." then follow files place.dropLast rest
      else follow files (place ++ [piece]) rest
    | some _ => .error .notADirectory
    | none => .error .noSuchFile

/-- Where a path begins: at the root if it begins with a slash, else in the working directory. -/
def start (files : FileSystem) (path : String) : List String :=
  if Path.isAbsolute path then [] else files.base

/-- The place that a path denotes. -/
def locate (files : FileSystem) (path : String) : Except FileError (List String) :=
  if path.isEmpty then .error .noSuchFile
  else files.follow (files.start path) (Path.pieces path)

/-- What a path denotes. -/
def find (files : FileSystem) (path : String) : Except FileError (List String × FileNode) := do
  let place ← files.locate path
  match files.node? place with
  | some node => return (place, node)
  | none => throw .noSuchFile

/-- Whether a path denotes anything. -/
def isPresent (files : FileSystem) (path : String) : Bool :=
  match files.find path with
  | .ok _ => true
  | .error _ => false

/-- Whether a path denotes a directory. -/
def isDirectory (files : FileSystem) (path : String) : Bool :=
  match files.find path with
  | .ok (_, .directory) => true
  | _ => false

/-- Whether a path denotes a file. -/
def isFile (files : FileSystem) (path : String) : Bool :=
  match files.find path with
  | .ok (_, .directory) => false
  | .ok _ => true
  | .error _ => false

/-- The text of a file. -/
def read (files : FileSystem) (path : String) : Except FileError String := do
  match (← files.find path).2 with
  | .directory => throw .isADirectory
  | .text content => return content
  | .binary => throw .notText

/-- The names that lead from a place to each entry below it, at any depth. -/
def below (files : FileSystem) (place : List String) : List (List String × FileNode) :=
  files.entries.filterMap fun entry =>
    if place.isPrefixOf entry.1 && decide (place.length < entry.1.length) then
      some (entry.1.drop place.length, entry.2)
    else none

/-- Make one directory, in a directory that exists. The pieces of its path lead to it from a place. -/
def makeDirectory (files : FileSystem) (start pieces : List String) : Except FileError FileSystem := do
  let place ← files.follow start pieces
  match files.node? place with
  | some _ => throw .fileExists
  | none => return files.set place .directory

/-- Whether the pieces of a path lead to a directory. -/
def leadsToDirectory (files : FileSystem) (start pieces : List String) : Bool :=
  match files.follow start pieces with
  | .ok place => files.node? place == some .directory
  | .error _ => false

/-- Make one directory, unless it is there already. -/
def ensureDirectory (files : FileSystem) (start pieces : List String) : FileSystem × Option FileError :=
  match files.makeDirectory start pieces with
  | .ok made => (made, none)
  | .error error =>
    if files.leadsToDirectory start pieces then (files, none) else (files, some error)

/-- Make a directory, given by the pieces of its path in reverse, and all that are missing above it.
What was made before a failure stays. -/
def makeAll (files : FileSystem) (start : List String) : List String → FileSystem × Option FileError
  | [] => (files, none)
  | piece :: above =>
    match files.ensureDirectory start (piece :: above).reverse with
    | (_, some .noSuchFile) =>
      match files.makeAll start above with
      | (made, none) => made.ensureDirectory start (piece :: above).reverse
      | failed => failed
    | result => result

/-- Make the directory at a path, and all that are missing above it. A path that ends with a step in
place asks for a directory inside one that nothing else makes, so that one must exist. -/
def makeDirectories (files : FileSystem) (path : String) : FileSystem × Option FileError :=
  let start := files.start path
  let pieces := (Path.pieces path).filter (!·.isEmpty)
  match files.ensureDirectory start pieces with
  | (_, some .noSuchFile) =>
    match files.makeAll start (Path.stepsAbove path).reverse with
    | (made, none) => made.ensureDirectory start pieces
    | failed => failed
  | result => result

/-- Write a text to a file, in a directory that exists. -/
def write (files : FileSystem) (path content : String) : Except FileError FileSystem := do
  let place ← files.locate path
  match files.node? place with
  | some .directory => throw .isADirectory
  | _ => return files.set place (.text content)

/-- Put a file or a directory at a path, with all directories above it. -/
def put (files : FileSystem) (path : String) (node : FileNode) : FileSystem :=
  let (made, _) := files.makeAll (files.start path) (Path.stepsAbove path).reverse
  match made.locate path with
  | .ok place => made.set place node
  | .error _ => made

/-- Take away what a path denotes, with all below it. -/
def remove (files : FileSystem) (path : String) : FileSystem :=
  match files.locate path with
  | .ok place => ⟨files.entries.filter fun entry => !place.isPrefixOf entry.1, files.base⟩
  | .error _ => files

end FileSystem

end ClassDocs
