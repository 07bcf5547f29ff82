import ClassDocs.Text.Lines

namespace ClassDocs

/-- One step of a path. -/
inductive PathPart where
  | root
  /-- The directory itself, `.` -/
  | here
  /-- The directory above, `..` -/
  | up
  | name (text : String)
  deriving DecidableEq, Repr

namespace PathPart

/-- How the step is written. -/
def text : PathPart → String
  | .root => "/"
  | .here => "."
  | .up => ".."
  | .name text => text

/-- Where the kind of step stands in the order of paths. -/
def rank : PathPart → Nat
  | .root => 0
  | .here => 1
  | .up => 2
  | .name _ => 3

/-- The strict order of steps; names are ordered as texts. -/
def before : PathPart → PathPart → Bool
  | .name first, .name second => decide (first < second)
  | first, second => decide (first.rank < second.rank)

/-- The step that a piece between slashes stands for. -/
def ofPiece (piece : List Char) : PathPart :=
  match piece with
  | ['.'] => .here
  | ['.', '.'] => .up
  | _ => .name (String.ofList piece)

end PathPart

namespace Path

/-- The pieces of a path between its slashes. -/
def pieces (path : String) : List String :=
  (splitAtChar '/' path.toList).map String.ofList

/-- The steps of a path. Doubled slashes and steps that stay in place do not count, except for one at
the very start. -/
def parts (path : String) : List PathPart :=
  match splitAtChar '/' path.toList with
  | [] :: rest =>
    if path.isEmpty then []
    else .root :: ((rest.filter (!·.isEmpty)).map PathPart.ofPiece).filter (· ≠ .here)
  | first :: rest =>
    PathPart.ofPiece first ::
      ((rest.filter (!·.isEmpty)).map PathPart.ofPiece).filter (· ≠ .here)
  | [] => []

/-- Whether a path begins at the root. -/
def isAbsolute (path : String) : Bool :=
  path.toList.head? == some '/'

/-- The steps from where a path begins to the directory that it lies in, as they are written. -/
def stepsAbove (path : String) : List String :=
  (((parts path).filter (· ≠ .root)).map PathPart.text).dropLast

/-- The order of paths, step by step. -/
def partsLe : List PathPart → List PathPart → Bool
  | [], _ => true
  | _ :: _, [] => false
  | first :: rest, second :: others =>
    if first.before second then true
    else if second.before first then false
    else partsLe rest others

/-- The order of paths as they are written. -/
def le (first second : String) : Bool :=
  partsLe (parts first) (parts second)

/-- A path followed by one more step. -/
def join (path step : String) : String :=
  if path.isEmpty || path.toList.getLast? == some '/' then path ++ step
  else path ++ "/" ++ step

/-- The steps that lead from a directory to a path below it. -/
def relative? : List PathPart → List PathPart → Option (List PathPart)
  | [], path => some path
  | _ :: _, [] => none
  | step :: directory, first :: path =>
    if step = first then relative? directory path else none

end Path

end ClassDocs
