import ClassDocs.Markup.Node

namespace ClassDocs

namespace Markup

/-- A run of emphasis marks that has not been matched. -/
structure Run where
  mark : Char
  /-- How many marks are left, and where they begin and end. -/
  count : Nat
  start : Nat
  stop : Nat
  /-- How many marks there were. -/
  length : Nat
  opens : Bool
  closes : Bool

/-- The marks that are left as text. -/
def Run.toText (run : Run) : Node :=
  ⟨run.start, run.stop, .text, []⟩

/-- The run without its first marks. -/
def Run.dropFirst (run : Run) (count : Nat) : Run :=
  { run with count := run.count - count, start := run.start + count }

/-- The run without its last marks. -/
def Run.dropLast (run : Run) (count : Nat) : Run :=
  { run with count := run.count - count, stop := run.start + (run.count - count) }

/-- The run that a node stands for. -/
def Node.run? (node : Node) : Option Run :=
  match node.body with
  | .run mark count opens closes => some ⟨mark, count, node.start, node.stop, count, opens, closes⟩
  | _ => none

/-- A run that waits for its closing marks, with the nodes in front of it in reverse. -/
structure Opener where
  run : Run
  /-- Whether it can be matched no more. -/
  barred : Bool := false
  before : List Node

/-- Whether a closing run fits an opening one. When one of them could both open and close, their
lengths may not add up to a multiple of three, unless both are such multiples. Tildes need a run of
their own length. -/
def Run.fits (closing opening : Run) : Bool :=
  closing.mark == opening.mark &&
    (closing.mark != '~' || closing.length == opening.length) &&
    (!(closing.opens && closing.closes) && !(opening.opens && opening.closes) ||
      (closing.length + opening.length) % 3 != 0 || closing.length % 3 == 0)

/-- Give up the openers above the first one that fits. The result is that opener, the openers below
it, and the nodes after it in reverse. -/
def findOpener? (closing : Run) : List Opener → List Node → Option (Opener × List Opener × List Node)
  | [], _ => none
  | opener :: below, inside =>
    if !opener.barred && closing.fits opener.run then some (opener, below, inside)
    else findOpener? closing below (inside ++ opener.run.toText :: opener.before)

/-- Tildes that find nothing to close bar all tildes in front of them. -/
def barTildes (closing : Run) (openers : List Opener) : List Opener :=
  if closing.mark == '~' then
    openers.map fun opener => { opener with barred := opener.barred || opener.run.mark == '~' }
  else openers

/-- Wrap nodes in as many marks as were matched: pairs first, from the inside out. -/
def wrap (run : Run) : Nat → List Node → List Node
  | 0, children => children
  | 1, children => [⟨run.start, run.stop, if run.mark == '~' then .strike else .emphasis, children⟩]
  | count + 2, children =>
    wrap run count [⟨run.start, run.stop, if run.mark == '~' then .strike else .strong, children⟩]

/-- Match a closing run against the openers as often as possible. -/
def closeRun (run : Run) (openers : List Opener) (inside : List Node) :
    Run × List Opener × List Node :=
  match findOpener? run openers inside with
  | none => (run, barTildes run openers, inside)
  | some (opener, below, between) =>
    let matched := min run.count opener.run.count
    if matched = 0 then (run, openers, inside)
    else
      let wrapped := wrap run matched between.reverse
      let rest := run.dropFirst matched
      let (left, made) :=
        if matched < opener.run.count then
          ({ opener with run := opener.run.dropLast matched } :: below, wrapped)
        else (below, wrapped ++ opener.before)
      if rest.count = 0 then (rest, left, made) else closeRun rest left made
termination_by run.count
decreasing_by simp only [Run.dropFirst]; omega

/-- Resolve emphasis from left to right, with the open runs and the nodes after the innermost of them
in reverse. -/
def emphasizeFrom : List Opener → List Node → List Node → List Node
  | [], inside, [] => inside.reverse
  | opener :: below, inside, [] =>
    emphasizeFrom below (inside ++ opener.run.toText :: opener.before) []
  | openers, inside, node :: rest =>
    match node.run? with
    | none => emphasizeFrom openers (node :: inside) rest
    | some run =>
      let (left, remaining, made) :=
        if run.closes then closeRun run openers inside else (run, openers, inside)
      if left.count = 0 then emphasizeFrom remaining made rest
      else if run.opens then
        emphasizeFrom ({ run := left, before := made } :: remaining) [] rest
      else emphasizeFrom remaining (left.toText :: made) rest
termination_by openers _ nodes => (nodes.length, openers.length)

/-- A line break by a backslash that nothing follows is a backslash. -/
def showLastSlash (nodes : List Node) : List Node :=
  match nodes.getLast? with
  | some ⟨start, stop, .hardBreak true, _⟩ => nodes.dropLast ++ [⟨start, stop, .shown ['\\'], []⟩]
  | _ => nodes

/-- Resolve the emphasis of a sequence of nodes. -/
def emphasize (nodes : List Node) : List Node :=
  emphasizeFrom [] [] (showLastSlash nodes)

end Markup

end ClassDocs
