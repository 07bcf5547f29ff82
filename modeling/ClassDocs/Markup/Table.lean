import ClassDocs.Markup.Container
import ClassDocs.Markup.Node

namespace ClassDocs

namespace Markup

/-- A column while its dashes are read: how it is aligned so far, whether it has begun, and whether it
has a dash. -/
structure ColumnReading where
  alignment : Alignment := .none
  begun : Bool := false
  dashed : Bool := false

/-- A colon in front of the dashes aligns left, behind them right, both center. -/
def ColumnReading.colon (column : ColumnReading) : ColumnReading :=
  let alignment := match column.begun, column.alignment with
    | false, .none => .left
    | true, .left => .center
    | true, .none => .right
    | _, other => other
  { column with alignment := alignment, begun := true }

/-- Read the row that sets columns apart up to its line end. Every column in front of a pipe has a
dash. -/
def delimiterFrom (column : ColumnReading) : List Char → Option (List Alignment)
  | [] => some (if column.begun then [column.alignment] else [])
  | c :: rest =>
    if c == ' ' then delimiterFrom column rest
    else if c == '-' then delimiterFrom { column with begun := true, dashed := true } rest
    else if c == '|' then
      if column.dashed then (delimiterFrom {} rest).map (column.alignment :: ·) else none
    else if c == ':' then delimiterFrom column.colon rest
    else none

/-- The columns that a row of dashes sets apart. The row has a dash, a pipe, and less than four columns
of indentation. -/
def delimiterRow? (text : List Char) : Option (List Alignment) :=
  let line := lineText text
  let blanks := countWhile (· == ' ') line
  let row := line.drop blanks
  if decide (3 < blanks) || !line.contains '-' || !line.contains '|' then none
  else delimiterFrom {} (if row.head? == some '|' then row.tail else row)

/-- The pipes of a row that no backslash stands in front of, and what follows the last of them. -/
def pipes (escaped : Bool) : List Char → Nat × Option (List Char)
  | [] => (0, none)
  | c :: rest =>
    let (count, last) := pipes (c == '\\') rest
    if c == '|' && !escaped then (count + 1, last.or (some rest)) else (count, last)

/-- The number of columns of a header row, which has at least one pipe. A pipe at the start or at the
end adds none. -/
def headerColumns? (line : List Char) : Option Nat :=
  match pipes false line with
  | (_, none) => none
  | (count, some last) =>
    let inner := if (line.dropWhile isSpace).head? == some '|' then count - 1 else count
    some (if last.all isSpace then inner else inner + 1)

/-- The columns of a table that begins with a line, and the length of its first two lines. The second
line, which lies in the same containers, sets as many columns apart as the first one has. -/
def tableStart? (kinds : List ContainerKind) (text : List Char) :
    Option (List Alignment × Nat) := do
  let line := lineText text
  let count ← headerColumns? line
  let after := text.drop line.length
  let size ← if after.isEmpty then none else lineEnd? after
  let (inside, cursor) := enter kinds (line.length + size) (after.drop size)
  let columns ← if inside then delimiterRow? cursor.rest else none
  let row := lineText cursor.rest
  let last ← lineEnd? (cursor.rest.drop row.length)
  if columns.length = count then some (columns, cursor.place + row.length + last) else none

end Markup

end ClassDocs
