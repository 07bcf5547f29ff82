import ClassDocs.Error
import ClassDocs.Source.Braces
import ClassDocs.Source.Declaration
import ClassDocs.Source.Outline

namespace ClassDocs

namespace Scan

/-- What the scanner is inside of. -/
inductive Place where
  | between
  /-- Inside a doc block, with its lines so far in reverse. -/
  | docBlock (lines : List (List Char))
  /-- Inside a method, which ends where the nesting is back at `base` once a brace was opened. -/
  | method (method : MethodOutline) (base : Int) (opened : Bool)
  deriving DecidableEq, Repr

/-- What the scanner knows after some lines. -/
structure State where
  /-- The first class, with the methods that are complete. -/
  found : Option ClassOutline := none
  /-- The nesting in front of the line that declares the class. -/
  classDepth : Int := 0
  depth : Int := 0
  /-- The doc block that the next declaration takes. -/
  pending : Option String := none
  place : Place := .between
  /-- Whether a block comment is open. -/
  inBlock : Bool := false
  deriving DecidableEq, Repr

/-- Whether a trimmed line is a comment, so that it does not part a doc block from its declaration. -/
def isCommentLine : List Char → Bool
  | '/' :: '/' :: _ => true
  | '*' :: _ => true
  | '#' :: '[' :: _ => false
  | '#' :: _ => true
  | _ => false

/-- Whether a text closes a block comment. -/
def closesBlock (line : List Char) : Bool :=
  occursIn ['*', '/'] line

/-- Whether a trimmed line opens a doc block. -/
def opensDoc (line : List Char) : Bool :=
  ['/', '*', '*'].isPrefixOf line

/-- Add a complete method to the class. -/
def State.addMethod (state : State) (method : MethodOutline) : State :=
  { state with found := state.found.map fun outline =>
      { outline with methods := outline.methods ++ [method] } }

/-- One more line of a doc block. -/
def State.continueDoc (state : State) (before : List (List Char)) (line : List Char) : State :=
  if closesBlock line then
    { state with
      pending := some (String.ofList (joinLines (line :: before).reverse))
      place := .between }
  else { state with place := .docBlock (line :: before) }

/-- Go on with a method after a line, or complete it there. -/
def State.settleMethod (state : State) (method : MethodOutline) (base : Int) (opened : Bool)
    (number : Nat) : State :=
  if opened && decide (state.depth ≤ base) then
    { state with place := .between }.addMethod { method with last := number }
  else { state with place := .method method base opened }

/-- One more line of a method. -/
def State.continueMethod (state : State) (method : MethodOutline) (base : Int) (opened : Bool)
    (number : Nat) (line : List Char) : State :=
  let braces := lineBraces state.inBlock line
  { state with depth := state.depth + braces.net, inBlock := braces.inBlock }.settleMethod
    method base (opened || decide (0 < braces.opens)) number

/-- The line that opens a doc block, which may also close it. -/
def State.openDoc (state : State) (line : List Char) : State :=
  let trimmed := trim line
  if closesBlock trimmed then { state with pending := some (String.ofList trimmed) }
  else { state with place := .docBlock [line] }

/-- A line of code that declares nothing new: it parts a pending doc block from what follows, unless
it is a comment. -/
def State.passLine (state : State) (line : List Char) (braces : LineBraces) : State :=
  { state with
    pending := if isCommentLine (trim line) then state.pending else none
    depth := state.depth + braces.net
    inBlock := braces.inBlock }

/-- The line that declares the class. -/
def State.declareClass (state : State) (path : String) (name : List Char)
    (parent : Option (List Char)) : State :=
  { state with
    found := some {
      name := String.ofList name
      path := path
      comment := state.pending
      parent := parent.map String.ofList
      methods := [] }
    classDepth := state.depth
    pending := none }

/-- The line that declares a method. Without a body it is complete at once. -/
def State.declareMethod (state : State) (path : String) (name : List Char) (number : Nat)
    (line : List Char) (braces : LineBraces) : State :=
  let method : MethodOutline :=
    { name := String.ofList name, path := path, comment := state.pending, first := number,
      last := number }
  let after := { state with
    pending := none, depth := state.depth + braces.net, inBlock := braces.inBlock }
  if braces.opens == 0 && (trim line).getLast? == some ';' then after.addMethod method
  else after.settleMethod method state.depth (decide (0 < braces.opens)) number

/-- A line of code between doc blocks and methods. -/
def State.readCode (state : State) (path : String) (number : Nat) (line : List Char) : State :=
  let braces := lineBraces state.inBlock line
  if state.inBlock then
    { state with depth := state.depth + braces.net, inBlock := braces.inBlock }
  else if state.found.isNone then
    match classDeclaration? line with
    | some (name, parent) => (state.declareClass path name parent).passLine line braces
    | none => state.passLine line braces
  else if state.depth = state.classDepth + 1 then
    match methodDeclaration? line with
    | some name => state.declareMethod path name number line braces
    | none => state.passLine line braces
  else state.passLine line braces

/-- What one line, with its number counted from one, adds to what is known. -/
def State.step (path : String) (state : State) (number : Nat) (line : List Char) : State :=
  match state.place with
  | .docBlock before => state.continueDoc before line
  | .method method base opened => state.continueMethod method base opened number line
  | .between =>
    if !state.inBlock && opensDoc (trim line) then state.openDoc line
    else if (trim line).isEmpty then state
    else state.readCode path number line

/-- Read lines of which the first has the given number. -/
def run (path : String) : State → Nat → List (List Char) → State
  | state, _, [] => state
  | state, number, line :: rest => run path (state.step path number line) (number + 1) rest

/-- At the end of the text, whose last line has the given number, a method without an end is
complete. -/
def State.finish (state : State) (number : Nat) : State :=
  match state.place with
  | .method method _ _ => state.addMethod { method with last := number }
  | _ => state

end Scan

/-- Read the first class that a text declares, with its doc block and its methods. Fails when there
is none. -/
def scan (name path content : String) : Except DocError ClassOutline :=
  let text := lines content.toList
  match ((Scan.run path {} 1 text).finish text.length).found with
  | some outline => .ok outline
  | none => .error (.emptyEntity name path)

end ClassDocs
