import ClassDocs.Markup.BlockStart
import ClassDocs.Markup.Marks
import ClassDocs.Text.Lines

namespace ClassDocs

namespace Markup

/-- A block that was read. -/
structure BlockReading where
  node : Node
  /-- Where reading goes on. -/
  next : Nat
  /-- Whether the last line that was read is blank. -/
  endsBlank : Bool := false

/-- The parts of a line that show, given with its line feed. A carriage return is left out if one more
byte follows it. -/
def lineParts (place : Nat) (line : List Char) : List (Nat × Nat) :=
  let stop := place + line.length
  match line.reverse with
  | last :: '\r' :: _ =>
    if last.utf8Size = 1 then [(place, stop - 2), (stop - 1, stop)] else [(place, stop)]
  | _ => [(place, stop)]

/-- Blanks that do not stand in the document, in front of other nodes in reverse. -/
def addBlanks (nodes : List Node) (place count : Nat) : List Node :=
  if count = 0 then nodes else ⟨place, place, .shown (List.replicate count ' '), []⟩ :: nodes

/-- Add a line of code, after the spaces that a tab owes it. -/
def addCode (nodes : List Node) (owed place : Nat) (line : List Char) : List Node :=
  (lineParts place line).foldl (fun nodes part => addText nodes part.1 part.2)
    (addBlanks nodes place owed)

/-- Add a line of HTML, after its indentation. -/
def addHtml (nodes : List Node) (indent place : Nat) (line : List Char) : List Node :=
  (lineParts place line).foldl (fun nodes part => ⟨part.1, part.2, .html, []⟩ :: nodes)
    (addBlanks nodes place indent)

/-- The lines of a fenced code block, with those in front of them in reverse, where the block ends, and
where reading goes on. -/
def fencedLines (kinds : List ContainerKind) (fence : Fence) (indent : Nat) (nodes : List Node)
    (place : Nat) (text : List Char) : List Node × Nat × Nat :=
  let (inside, cursor) := enter kinds place text
  if !inside then (nodes, place, place)
  else
    let (_, atCode) := cursor.skip indent
    let (missing, atFence) := atCode.skip (4 - indent)
    match if missing = 0 then none else fence.closing? atFence.rest with
    | some used =>
      let stop := atFence.place + used
      (nodes, stop, stop + (blankLine? (atFence.rest.drop used)).getD 0)
    | none =>
      match text with
      | [] => (nodes, place, place)
      | _ :: tail =>
        let line := atCode.rest.take (lineLength atCode.rest)
        let next := atCode.place + line.length
        fencedLines kinds fence indent (addCode nodes atCode.owed atCode.place line) next
          (tail.drop (next - place - 1))
termination_by text.length
decreasing_by simp only [List.length_cons, List.length_drop]; omega

/-- A fenced code block. -/
def readFenced (kinds : List ContainerKind) (fence : Fence) (indent place : Nat)
    (text : List Char) : BlockReading :=
  let after := text.drop fence.size
  let spaces := countWhile isSpace after
  let first := fence.size + spaces + lineLength (after.drop spaces)
  let (nodes, stop, next) := fencedLines kinds fence indent [] (place + first) (text.drop first)
  ⟨⟨place, stop, .codeBlock (fence.info text), nodes.reverse⟩, next, false⟩

/-- What was read of an indented code block. -/
structure CodeState where
  /-- The lines so far, in reverse. -/
  nodes : List Node := []
  /-- The lines up to the last one that is not blank, in reverse, and where that one ends. -/
  kept : List Node := []
  stop : Nat := 0
  /-- Whether the line that comes next is blank. -/
  blank : Bool := false

/-- The lines of an indented code block, from a line on whose first columns were passed, and where
reading goes on. Blank lines belong to it only between others. -/
def indentedLines (kinds : List ContainerKind) (state : CodeState) (owed place : Nat)
    (text : List Char) : CodeState × Nat :=
  match text with
  | [] => (state, place)
  | _ :: tail =>
    let line := text.take (lineLength text)
    let next := place + line.length
    let nodes := addCode state.nodes owed place line
    let read : CodeState :=
      if state.blank then { state with nodes := nodes } else ⟨nodes, nodes, next, false⟩
    let (inside, cursor) := enter kinds next (text.drop line.length)
    let (missing, after) := cursor.skip 4
    if inside && (missing = 0 || after.atLineEnd) && !after.rest.isEmpty then
      indentedLines kinds { read with blank := (blankLine? after.rest).isSome } after.owed after.place
        (tail.drop (after.place - place - 1))
    else (read, next)
termination_by text.length
decreasing_by simp only [List.length_cons, List.length_drop]; omega

/-- An indented code block, from its indentation on. -/
def readIndented (kinds : List ContainerKind) (owed place : Nat) (text : List Char) :
    BlockReading :=
  let (state, next) := indentedLines kinds {} owed place text
  ⟨⟨place, state.stop, .codeBlock [], state.kept.reverse⟩, next, state.blank⟩

/-- Whether an HTML block ends with a line. -/
def HtmlEnd.endsWith : HtmlEnd → List Char → Bool
  | .mark sign, line => occursIn sign line
  | .blankLine, _ => false

/-- Whether an HTML block ends in front of a line. -/
def HtmlEnd.endsBefore : HtmlEnd → List Char → Bool
  | .mark _, _ => false
  | .blankLine, line => (blankLine? line).isSome

/-- The lines of an HTML block, with those in front of them in reverse, where the block ends, and where
reading goes on. -/
def htmlLines (kinds : List ContainerKind) (ending : HtmlEnd) (nodes : List Node)
    (indent place : Nat) (text : List Char) : List Node × Nat × Nat :=
  match text with
  | [] => (nodes, place, place)
  | _ :: tail =>
    let line := text.take (lineLength text)
    let next := place + line.length
    let read := addHtml nodes indent place line
    let (inside, cursor) := enter kinds next (text.drop line.length)
    if !inside || ending.endsWith line then (read, next, next)
    else if cursor.rest.isEmpty || ending.endsBefore cursor.rest then
      (read, if cursor.atLineEnd && ending.endsBefore cursor.rest then next else cursor.place, next)
    else
      htmlLines kinds ending read cursor.owed cursor.place (tail.drop (cursor.place - place - 1))
termination_by text.length
decreasing_by simp only [List.length_cons, List.length_drop]; omega

/-- An HTML block. -/
def readHtml (kinds : List ContainerKind) (ending : HtmlEnd) (indent place : Nat)
    (text : List Char) : BlockReading :=
  let (nodes, stop, next) := htmlLines kinds ending [] indent place text
  ⟨⟨place, stop, .htmlBlock, nodes.reverse⟩, next, false⟩

/-- Let the last of the nodes, which are in reverse, end at a position. -/
def endLastAt (nodes : List Node) (stop : Nat) : List Node :=
  match nodes with
  | [] => []
  | node :: before => { node with stop := stop } :: before

/-- A heading that begins with number signs. A backslash at its end stands for itself. -/
def readHeading (level place : Nat) (text : List Char) : BlockReading :=
  let after := text.drop level
  match lineEnd? after with
  | some size =>
    let stop := place + level + size
    ⟨⟨place, stop, .heading level, []⟩, stop, false⟩
  | none =>
    let spaces := countWhile isSpace after
    let start := place + level + spaces
    let inner := after.drop spaces
    let line := readLine [] start 0 inner
    let nodes := match line.ending with
      | some ⟨first, last, .hardBreak true, _⟩ => addText line.nodes first last
      | _ => line.nodes
    let length := headingLength (inner.take (line.stop - start))
    ⟨⟨place, line.stop, .heading level, (endLastAt nodes (start + length)).reverse⟩, line.stop, false⟩

/-- The cells of a row of a table, each with where it begins, and where reading goes on. A pipe in front
of a cell is no part of it. -/
def rowCells (place : Nat) (text : List Char) : List (Nat × LineReading) × Nat :=
  match text with
  | [] => ([], place)
  | c :: tail =>
    let pipe := if c == '|' then 1 else 0
    let spaces := countWhile isSpace (text.drop pipe)
    let inner := text.drop (pipe + spaces)
    let start := place + pipe + spaces
    match lineEnd? inner with
    | some size => ([], start + size)
    | none =>
      let cell := readCell start inner
      let (more, next) := rowCells cell.stop (tail.drop (cell.stop - place - 1))
      ((place + pipe, cell) :: more, next)
termination_by text.length
decreasing_by simp only [List.length_cons, List.length_drop]; omega

/-- The cells of a row that ends at `stop`, one for each column. Missing cells are empty, and cells
beyond the last column are dropped. -/
def fillCells (isHead : Bool) (stop : Nat) : List Alignment → List (Nat × LineReading) → List Node
  | [], _ => []
  | column :: columns, [] =>
    ⟨stop, stop, .cell isHead column, []⟩ :: fillCells isHead stop columns []
  | column :: columns, (start, cell) :: cells =>
    ⟨start, cell.stop, .cell isHead column, cell.nodes.reverse⟩ :: fillCells isHead stop columns cells

/-- The rows of a table after its first two lines, and where reading goes on. -/
def tableRows (kinds : List ContainerKind) (columns : List Alignment) (place : Nat)
    (text : List Char) : List Node × Nat :=
  match text with
  | [] => ([], place)
  | _ :: tail =>
    let (inside, cursor) := enter kinds place text
    let atRow := cursor.skipAll
    let (cells, next) := rowCells atRow.place atRow.rest
    if !inside || startsBlock true atRow.rest || cells.isEmpty then ([], place)
    else
      let (more, stop) := tableRows kinds columns next (tail.drop (next - place - 1))
      (⟨atRow.place, next, .row, fillCells false next columns cells⟩ :: more, stop)
termination_by text.length
decreasing_by simp only [List.length_cons, List.length_drop]; omega

/-- A table whose first two lines have the given length. -/
def readTable (kinds : List ContainerKind) (columns : List Alignment) (size place : Nat)
    (text : List Char) : BlockReading :=
  let (cells, stop) := rowCells place text
  let (rows, next) := tableRows kinds columns (place + size) (text.drop size)
  let head : Node := ⟨place, stop, .headRow, fillCells true stop columns cells⟩
  ⟨⟨place, next, .table, head :: rows⟩, next, false⟩

/-- What was read of a paragraph. -/
structure ParagraphReading where
  /-- The nodes, in reverse. -/
  nodes : List Node
  stop : Nat
  /-- The level of the heading that an underline makes of it. -/
  level : Option Nat := none

/-- The lines of a paragraph, with the nodes in front of them in reverse, and with `lead` spaces in
front of the first. A line outside some of the containers goes on with it as long as it begins nothing
else. A backslash at the very end stands for itself. -/
def paragraphLines (kinds : List ContainerKind) (nodes : List Node) (place lead : Nat)
    (text : List Char) : ParagraphReading :=
  match text with
  | [] => ⟨nodes, place, none⟩
  | _ :: tail =>
    let line := readLine nodes place lead text
    let rest := text.drop (line.stop - place)
    let ended := match line.ending with
      | some ⟨start, _, .hardBreak true, _⟩ => addText line.nodes start (start + 1)
      | _ => line.nodes
    let (inside, cursor) := enter kinds line.stop rest
    let (missing, atText) := cursor.skip 4
    match if missing ≠ 0 && inside then underline? atText.rest else none with
    | some (size, level) => ⟨ended, atText.place + size, some level⟩
    | none =>
      let next := atText.skipAll
      if missing ≠ 0 && interrupts kinds inside atText.rest || next.atLineEnd then
        ⟨ended, line.stop, none⟩
      else
        paragraphLines kinds (line.ending.toList ++ line.nodes) next.place
          (countBack isSpace (rest.take (next.place - line.stop))) (tail.drop (next.place - place - 1))
termination_by text.length
decreasing_by simp only [List.length_cons, List.length_drop]; omega

/-- A paragraph, or the heading or table that it turns out to be. -/
def readParagraph (kinds : List ContainerKind) (place lead : Nat) (text : List Char) :
    BlockReading :=
  match tableStart? kinds text with
  | some (columns, size) => readTable kinds columns size place text
  | none =>
    let reading := paragraphLines kinds [] place lead text
    let body := match reading.level with
      | some level => .heading level
      | none => .paragraph
    ⟨⟨place, reading.stop, body, reading.nodes.reverse⟩, reading.stop, false⟩

/-- A block that holds no other blocks and is no paragraph. -/
def readLeaf? (kinds : List ContainerKind) (cursor : Cursor) : Option BlockReading :=
  let (indent, atText) := cursor.indentation 4
  let text := atText.rest
  if indent = 4 then some (readIndented kinds atText.owed atText.place text)
  else match htmlStart? text with
    | some ending => some (readHtml kinds ending indent atText.place text)
    | none =>
      match ruleLength? text with
      | some size =>
        let stop := atText.place + size
        some ⟨⟨atText.place, stop, .rule, []⟩, stop, false⟩
      | none =>
        match headingLevel? text with
        | some level => some (readHeading level atText.place text)
        | none => (fence? text).map fun fence => readFenced kinds fence indent atText.place text

end Markup

end ClassDocs
