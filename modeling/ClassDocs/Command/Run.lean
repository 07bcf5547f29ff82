import ClassDocs.Command.Arguments
import ClassDocs.Library.Listing
import ClassDocs.Library.Reflect
import ClassDocs.Page.Format

namespace ClassDocs

/-- Why a run failed: a message, and what caused it. -/
structure Failure where
  message : String
  causes : List String
  deriving DecidableEq, Repr

namespace Failure

/-- A failure to make documentation. -/
def ofError (error : DocError) : Failure :=
  ⟨error.message, error.chain.tail⟩

/-- A failure to make documentation, with what was being done. -/
def during (task : String) (error : DocError) : Failure :=
  ⟨task, error.chain⟩

/-- A failure to change the files, with what was being done. -/
def ofFile (task : String) (error : FileError) : Failure :=
  ⟨task, [error.message]⟩

/-- A text whose further lines are indented. -/
def indent (width : Nat) (text : String) : String :=
  let margin := List.replicate width ' '
  String.ofList (text.toList.flatMap fun c => if c == '\n' then '\n' :: margin else [c])

/-- The causes, one a line, numbered if there are several. -/
def causeLines (causes : List String) : List String :=
  match causes with
  | [only] => ["    " ++ indent 4 only]
  | several => several.zipIdx.map fun (cause, number) =>
    "    " ++ toString number ++ ": " ++ indent 7 cause

/-- What the user reads of a failure. -/
def report (failure : Failure) : String :=
  "Error: " ++ failure.message ++ "\n" ++
    (if failure.causes.isEmpty then ""
    else "\nCaused by:\n" ++ String.join ((causeLines failure.causes).map (· ++ "\n")))

end Failure

/-- What a run leaves behind. -/
structure Outcome where
  exitCode : Nat
  output : String
  /-- What was said about a failure. -/
  report : Option String
  files : FileSystem
  deriving DecidableEq, Repr

/-- All that a run needs to know about its classes. -/
structure Library where
  config : Config
  index : SortedMap String
  classes : SortedMap String
  format : PageFormat

namespace Library

/-- Find the classes below the root. -/
def load (files : FileSystem) (config : Config) (format : PageFormat) :
    Except Failure Library :=
  if files.isDirectory config.root then
    match SourceTree.scan files config.layout config.root with
    | .ok tree => .ok {
        config := config
        index := SourceTree.locate config.layout tree
        classes := SourceTree.collect config.layout tree
        format := format }
    | .error error => .error (.during ("failed to list " ++ config.root) error)
  else .error ⟨"class directory not found: " ++ config.root, []⟩

/-- Document one class, as the files are now. -/
def document (library : Library) (files : FileSystem) (name : String) : Except Failure Entity :=
  match Entity.document (reflect files library.index) files.extract library.config.context name with
  | .ok entity => .ok entity
  | .error error => .error (.during ("failed to document " ++ name) error)

/-- The menu of the classes to display. -/
def menu (library : Library) (files : FileSystem) : Except DocError Menu :=
  libraryMenu (reflect files library.index) library.config.context library.config.family
    library.classes

/-- The methods of all classes, one class a line. -/
def listMethods (library : Library) (files : FileSystem) : Except DocError String := do
  let listing ← methodListing (reflect files library.index) library.config.family library.classes
  return String.join (listing.entries.map fun entry =>
    entry.1 ++ ": " ++ ", ".intercalate entry.2 ++ "\n")

end Library

/-- Write a page into a directory, which is made if it is missing. -/
def writePage (files : FileSystem) (directory name : String) (format : PageFormat) (page : String) :
    FileSystem × Option Failure :=
  match files.makeDirectories directory with
  | (made, some error) =>
    (made, some (.ofFile ("failed to create output directory: " ++ directory) error))
  | (made, none) =>
    let path := Path.join directory (name ++ "." ++ format.extension)
    match made.write path page with
    | .ok written => (written, none)
    | .error error => (made, some (.ofFile ("failed to write " ++ path) error))

/-- Document classes one after the other and write the page of each. The result has the entities, or
the failure at which it stopped. -/
def writePages (library : Library) (directory : String) :
    FileSystem → List String → FileSystem × Except Failure (List Entity)
  | files, [] => (files, .ok [])
  | files, name :: rest =>
    match library.document files name with
    | .error failure => (files, .error failure)
    | .ok entity =>
      match writePage files directory name library.format (library.format.entityPage entity) with
      | (written, some failure) => (written, .error failure)
      | (written, none) =>
        match writePages library directory written rest with
        | (final, .ok entities) => (final, .ok (entity :: entities))
        | failed => failed

/-- Write the page of every class to display, and then the menu. -/
def writeSite (library : Library) (directory : String) (files : FileSystem) :
    FileSystem × Option Failure :=
  match writePages library directory files (catalogue library.config.family library.classes) with
  | (written, .error failure) => (written, some failure)
  | (written, .ok entities) =>
    let menu := Menu.build library.config.context.resolve entities
    writePage written directory "menu" library.format (library.format.menuPage menu)

namespace Outcome

/-- A run that prints a text and leaves the files as they are, or fails. -/
def ofPrint (files : FileSystem) : Except Failure String → Outcome
  | .ok text => ⟨0, text, none, files⟩
  | .error failure => ⟨1, "", some failure.report, files⟩

/-- A run that changes files. -/
def ofWrite : FileSystem × Option Failure → Outcome
  | (files, none) => ⟨0, "", none, files⟩
  | (files, some failure) => ⟨1, "", some failure.report, files⟩

end Outcome

/-- Document one class, on a page or on the standard output. -/
def runClass (library : Library) (output : Option String) (files : FileSystem) (name : String) :
    Outcome :=
  match library.document files name, output with
  | .error failure, _ => .ofPrint files (.error failure)
  | .ok entity, none => .ofPrint files (.ok (library.format.entityPage entity))
  | .ok entity, some directory =>
    .ofWrite (writePage files directory (lowercase entity.name) library.format
      (library.format.entityPage entity))

/-- Run over the classes that were found. -/
def runLibrary (library : Library) (arguments : Arguments) (files : FileSystem) : Outcome :=
  if arguments.methods then .ofPrint files ((library.listMethods files).mapError .ofError)
  else match arguments.className, arguments.output with
    | some name, output => runClass library output files name
    | none, some directory => .ofWrite (writeSite library directory files)
    | none, none => .ofPrint files ((library.menu files).mapError .ofError |>.map library.format.menuPage)

/-- Run with arguments that were understood. -/
def runArguments (arguments : Arguments) (files : FileSystem) : Outcome :=
  match PageFormat.ofName arguments.format with
  | .error error => .ofPrint files (.error (.ofError error))
  | .ok format =>
    match Library.load files arguments.config format with
    | .error failure => .ofPrint files (.error failure)
    | .ok library => runLibrary library arguments files

/-- Run the program. Arguments that cannot be understood give the exit code two. -/
def run (line : List String) (files : FileSystem) : Outcome :=
  match Arguments.parse? line with
  | none => ⟨2, "", none, files⟩
  | some .help => ⟨0, Arguments.usage, none, files⟩
  | some (.document arguments) => runArguments arguments files

end ClassDocs
