import ClassDocs.Markup.Line

namespace ClassDocs

namespace Markup

/-- A position at the start of a line, among its spaces and the marks of containers. A tab that was
passed in part still owes some spaces. -/
structure Cursor where
  /-- The position in the document. -/
  place : Nat
  rest : List Char
  column : Nat := 0
  owed : Nat := 0

namespace Cursor

/-- Whether the line ends here. -/
def atLineEnd (cursor : Cursor) : Bool :=
  cursor.rest.head?.all isBreak

/-- Pass characters that are no spaces. -/
def advance (cursor : Cursor) (count : Nat) : Cursor :=
  { cursor with
    place := cursor.place + count, rest := cursor.rest.drop count, column := cursor.column + count }

/-- Pass up to `wanted` columns of spaces from a position on. The result has the columns that were not
there. -/
def skipFrom (place column : Nat) : Nat → List Char → Nat × Cursor
  | 0, rest => (0, { place := place, rest := rest, column := column })
  | wanted + 1, ' ' :: rest => skipFrom (place + 1) (column + 1) wanted rest
  | wanted + 1, '\t' :: rest =>
    let width := 4 - column % 4
    if wanted + 1 < width then
      (0, { place := place + 1, rest := rest, column := column + width, owed := width - (wanted + 1) })
    else skipFrom (place + 1) (column + width) (wanted + 1 - width) rest
  | wanted + 1, rest => (wanted + 1, { place := place, rest := rest, column := column })

/-- Pass up to `wanted` columns of spaces. The result has the columns that were not there. -/
def skip (cursor : Cursor) (wanted : Nat) : Nat × Cursor :=
  if wanted ≤ cursor.owed then (0, { cursor with owed := cursor.owed - wanted })
  else skipFrom cursor.place cursor.column (wanted - cursor.owed) cursor.rest

/-- The columns of spaces ahead, up to a limit, and the position after them. -/
def indentation (cursor : Cursor) (limit : Nat) : Nat × Cursor :=
  let (missing, after) := cursor.skip limit
  (limit - missing, after)

/-- Pass all blanks and tabs. -/
def skipAll (cursor : Cursor) : Cursor :=
  let count := countWhile (fun c => c == ' ' || c == '\t') cursor.rest
  { cursor.advance count with owed := 0 }

end Cursor

end Markup

end ClassDocs
