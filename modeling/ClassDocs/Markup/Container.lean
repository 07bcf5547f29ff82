import ClassDocs.Markup.Cursor

namespace ClassDocs

namespace Markup

/-- What kind of container is open. -/
inductive ContainerKind where
  | quote
  /-- A list with the mark of its items and the number of the first. Items of a tight list have no
  blank lines between them. -/
  | list (mark : Char) (first : Nat) (tight : Bool)
  /-- An item, whose lines are indented by so many columns. -/
  | item (indent : Nat)

/-- Pass the mark of a quotation. -/
def quoteMark? (cursor : Cursor) : Option Cursor :=
  if cursor.rest.head? == some '>' then some ((cursor.advance 1).skip 1).2 else none

/-- Pass what a line must begin with to lie inside a container. A line without text lies inside every
list item. -/
def ContainerKind.enter? (kind : ContainerKind) (cursor : Cursor) : Option Cursor :=
  match kind with
  | .quote => quoteMark? (cursor.skip 3).2
  | .list .. => some cursor
  | .item indent =>
    let (missing, after) := cursor.skip indent
    if missing = 0 || after.atLineEnd then some after else none

/-- How many of the containers, outermost first, a line lies inside of, and where it goes on. -/
def enterAll : List ContainerKind → Cursor → Nat × Cursor
  | [], cursor => (0, cursor)
  | kind :: inner, cursor =>
    match kind.enter? cursor with
    | some after =>
      let (count, last) := enterAll inner after
      (count + 1, last)
    | none => (0, cursor)

/-- Whether a line that begins at `place` lies inside all containers, and where it goes on after the
marks of those that it lies inside of. -/
def enter (kinds : List ContainerKind) (place : Nat) (line : List Char) : Bool × Cursor :=
  let (count, cursor) := enterAll kinds { place := place, rest := line }
  (count == kinds.length, cursor)

/-- How much of a line the marks of containers take up. -/
def marksLength (kinds : List ContainerKind) (line : List Char) : Nat :=
  (enter kinds 0 line).2.place

end Markup

end ClassDocs
