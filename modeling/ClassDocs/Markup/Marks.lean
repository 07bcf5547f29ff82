import ClassDocs.Markup.Entities
import ClassDocs.Markup.Line
import ClassDocs.Markup.Node
import ClassDocs.Text.Blank

namespace ClassDocs

namespace Markup

/-- Whether a run of marks may open emphasis between the given neighbours. Stars and double tildes may
do so inside a word, underscores and single tildes may not. -/
def canOpen (mark : Char) (count : Nat) (before after : Option Char) : Bool :=
  match before, after with
  | _, none => false
  | none, some next => !isBlank next
  | some previous, some next =>
    !isBlank next &&
      (mark == '*' && !isSymbol next || mark == '~' && decide (1 < count) ||
        mark == '~' && previous == '~' && !isSymbol next || isBlank previous || isSymbol previous)

/-- Whether a run of marks may close emphasis between the given neighbours. -/
def canClose (mark : Char) (count : Nat) (before after : Option Char) : Bool :=
  match before, after with
  | none, _ => false
  | some previous, none => !isBlank previous
  | some previous, some next =>
    !isBlank previous &&
      ((mark == '*' || mark == '~' && decide (1 < count)) && !isSymbol previous ||
        mark == '~' && previous == '~' || isBlank next || isSymbol next)

/-- A run of marks between its neighbours. The pipe that ends a cell of a table is like a space. -/
def runBody (inCell : Bool) (mark : Char) (count : Nat) (before after : Option Char) : Body :=
  let ended := inCell && after == some '|'
  .run mark count (!ended && canOpen mark count before after)
    (if ended then before.any (!isBlank ·) else canClose mark count before after)

/-- Whether a run of marks can take part in emphasis at all. -/
def Body.isUseful : Body → Bool
  | .run mark count opens closes => (opens || closes) && (mark != '~' || decide (count ≤ 2))
  | _ => true

/-- A line of running text while it is read. -/
structure LineState where
  /-- The nodes so far, in reverse. -/
  nodes : List Node
  /-- The position in the document. -/
  place : Nat
  /-- Where the text begins that has no node yet. -/
  textStart : Nat
  /-- The character in front, if it belongs to the text of the line. -/
  before : Option Char := none
  /-- How many spaces stand in front. -/
  spaces : Nat := 0
  /-- How many backslashes stand in front. -/
  slashes : Nat := 0

namespace LineState

/-- Pass a character. -/
def pass (state : LineState) (c : Char) : LineState :=
  { state with
    place := state.place + 1, before := some c,
    spaces := if isSpace c then state.spaces + 1 else 0,
    slashes := if c == '\\' then state.slashes + 1 else 0 }

/-- Pass characters. -/
def passAll (state : LineState) (chars : List Char) : LineState :=
  chars.foldl pass state

/-- Give the text so far a node. -/
def flush (state : LineState) : LineState :=
  { state with
    nodes := addText state.nodes state.textStart state.place, textStart := state.place }

/-- Give the text so far a node, without the spaces at its end. -/
def flushTrimmed (state : LineState) : List Node :=
  addText state.nodes state.textStart (state.place - state.spaces)

/-- A node for the characters that come next. -/
def mark (state : LineState) (body : Body) (chars : List Char) : LineState :=
  let after := state.flush.passAll chars
  { after with
    nodes := ⟨state.place, after.place, body, []⟩ :: after.nodes, textStart := after.place }

/-- Leave out characters, and go on with text. -/
def leaveOut (state : LineState) (chars : List Char) : LineState :=
  let after := state.flush.passAll chars
  { after with textStart := after.place }

end LineState

/-- What a line of running text gives. -/
structure LineReading where
  /-- The nodes in front of the line and those of the line, in reverse. -/
  nodes : List Node
  /-- The position after the line. -/
  stop : Nat
  /-- The line break after it, if the document goes on. -/
  ending : Option Node := none

/-- The end of a line: a backslash or two spaces in front of it make a line break that shows. The rest
begins with the line end. -/
def endLine (state : LineState) (rest : List Char) : LineReading :=
  let size := (lineEnd? rest).getD 0
  let stop := state.place + size
  if state.slashes % 2 = 1 && !(rest.drop size).isEmpty then
    ⟨addText state.nodes state.textStart (state.place - 1), stop,
      some ⟨state.place - 1, stop, .hardBreak true, []⟩⟩
  else if 2 ≤ state.spaces then
    ⟨state.flushTrimmed, stop, some ⟨state.place - state.spaces, stop, .hardBreak false, []⟩⟩
  else ⟨state.flushTrimmed, stop, some ⟨state.place, stop, .softBreak, []⟩⟩

/-- Read a backslash. It takes the meaning of a symbol behind it away; but backticks behind it may end
a code span, and in a cell one or two of them keep a pipe from ending the cell. The result has how many
characters after the backslash were read. -/
def readSlash (inCell : Bool) (state : LineState) (rest : List Char) : LineState × Nat :=
  match rest with
  | [] => (state.pass '\\', 0)
  | c :: more =>
    if !isAsciiSymbol c then (state.pass '\\', 0)
    else if c.toNat == 96 then
      let count := 1 + countWhile (·.toNat == 96) more
      ((state.leaveOut ['\\']).mark (.ticks count true) (rest.take count), count)
    else if inCell && c == '\\' && more.head? == some '|' then
      ((state.leaveOut ['\\', '\\']).pass '|', 2)
    else ((state.leaveOut ['\\']).pass c, 1)

/-- Read what begins with a character, and say how many characters after it were read. -/
def readMark (inCell : Bool) (state : LineState) (c : Char) (rest : List Char) : LineState × Nat :=
  if c == '\\' then readSlash inCell state rest
  else if c == '*' || c == '_' || c == '~' then
    let more := countWhile (· == c) rest
    let chars := c :: rest.take more
    let body := runBody inCell c (more + 1) state.before (rest.drop more).head?
    (if body.isUseful then state.mark body chars else state.passAll chars, more)
  else if c.toNat == 96 then
    let more := countWhile (·.toNat == 96) rest
    (state.mark (.ticks (more + 1) false) (c :: rest.take more), more)
  else if c == '<' && rest.head? != some '\\' then (state.mark .angle [c], 0)
  else if c == '!' && rest.head? == some '[' then (state.mark (.opening true) [c, '['], 1)
  else if c == '[' then (state.mark (.opening false) [c], 0)
  else if c == ']' then (state.mark (.closing true) [c], 0)
  else if c == '&' then
    match entity? rest with
    | some (value, used) => (state.mark (.shown value) (c :: rest.take used), used)
    | none => (state.pass c, 0)
  else (state.pass c, 0)

/-- Read running text up to the end of its line, or in a table to the end of its cell. -/
def readMarks (inCell : Bool) (state : LineState) (text : List Char) : LineReading :=
  match text with
  | [] => ⟨state.flushTrimmed, state.place, none⟩
  | c :: rest =>
    if isBreak c then
      if inCell then ⟨state.flushTrimmed, state.place, none⟩ else endLine state (c :: rest)
    else if inCell && c == '|' then ⟨state.flushTrimmed, state.place, none⟩
    else
      let (next, used) := readMark inCell state c rest
      readMarks inCell next (rest.drop used)
termination_by text.length
decreasing_by simp only [List.length_cons, List.length_drop]; omega

/-- Read a line of running text that begins at `place` and follows nodes in reverse. There are `lead`
spaces in front of it. -/
def readLine (nodes : List Node) (place lead : Nat) (text : List Char) : LineReading :=
  readMarks false { nodes := nodes, place := place, textStart := place, spaces := lead } text

/-- Read a cell of a table that begins at `place`. -/
def readCell (place : Nat) (text : List Char) : LineReading :=
  readMarks true { nodes := [], place := place, textStart := place } text

end Markup

end ClassDocs
