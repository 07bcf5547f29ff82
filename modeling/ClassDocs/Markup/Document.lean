import ClassDocs.Markup.Block
import ClassDocs.Markup.Definition

namespace ClassDocs

namespace Markup

/-- An open container, with its nodes so far in reverse. -/
structure Container where
  kind : ContainerKind
  start : Nat
  nodes : List Node := []

/-- Put the text of paragraphs in their place. -/
def openParagraphs : List Node → List Node
  | [] => []
  | node :: rest =>
    match node.body, node.children with
    | .paragraph, child :: more => child :: more ++ openParagraphs rest
    | _, _ => node :: openParagraphs rest

/-- An item of a tight list, whose paragraphs are not set apart. If it begins with a paragraph without
text, it shows nothing. -/
def tighten (item : Node) : Node :=
  match item.children with
  | ⟨_, _, .paragraph, []⟩ :: _ => { item with children := [] }
  | children => { item with children := openParagraphs children }

/-- The node of a container that is closed at a position. -/
def Container.toNode (container : Container) (stop : Nat) : Node :=
  let nodes := container.nodes.reverse
  match container.kind with
  | .quote => ⟨container.start, stop, .quote, nodes⟩
  | .list mark first tight =>
    ⟨container.start, stop, .list (if isBullet mark then none else some first),
      if tight then nodes.map tighten else nodes⟩
  | .item indent => ⟨container.start, stop, .item indent, nodes⟩

/-- A document while its lines are read. -/
structure Draft where
  /-- The nodes outside all containers, in reverse. -/
  nodes : List Node := []
  /-- The open containers, innermost first. -/
  containers : List Container := []
  definitions : Definitions := []
  /-- Whether the last line was blank. -/
  lastBlank : Bool := false
  /-- Where the item ends that began with a blank line, as long as it has nothing in it. -/
  emptyItem : Option Nat := none

namespace Draft

/-- The kinds of the open containers, outermost first. -/
def kinds (draft : Draft) : List ContainerKind :=
  (draft.containers.map (·.kind)).reverse

/-- Add a node to the innermost container. -/
def add (draft : Draft) (node : Node) : Draft :=
  match draft.containers with
  | [] => { draft with nodes := node :: draft.nodes }
  | container :: outer =>
    { draft with containers := { container with nodes := node :: container.nodes } :: outer }

/-- Close the innermost container at a position. -/
def closeOne (draft : Draft) (stop : Nat) : Draft :=
  match draft.containers with
  | [] => draft
  | container :: outer =>
    let emptyItem := match container.kind with
      | .list _ _ true => none
      | _ => draft.emptyItem
    { draft with containers := outer, emptyItem := emptyItem }.add (container.toNode stop)

/-- Close so many containers at a position. -/
def close (draft : Draft) (stop : Nat) : Nat → Draft
  | 0 => draft
  | count + 1 => (draft.closeOne stop).close stop count

/-- Open a container inside the others. -/
def openContainer (draft : Draft) (kind : ContainerKind) (start : Nat) : Draft :=
  { draft with containers := { kind := kind, start := start } :: draft.containers }

/-- An item that begins with a blank line ends at a second one. -/
def finishEmptyItem (draft : Draft) : Draft :=
  match draft.emptyItem, draft.lastBlank, draft.containers with
  | some stop, true, { kind := .item _, .. } :: _ => { draft.closeOne stop with emptyItem := none }
  | _, _, _ => { draft with emptyItem := none }

/-- The containers with the innermost list, if it is the first of them, made loose. -/
def loosen : List Container → List Container
  | { kind := .list mark first _, start, nodes } :: outer =>
    { kind := .list mark first false, start, nodes } :: outer
  | containers => containers

/-- Close a list that no further item belongs to. A blank line between two blocks of an item makes its
list loose. -/
def finishList (draft : Draft) (stop : Nat) : Draft :=
  let settled := draft.finishEmptyItem
  let closed := match settled.containers with
    | { kind := .list .., .. } :: _ => settled.closeOne stop
    | _ => settled
  if closed.lastBlank then
    match closed.containers with
    | inner :: outer => { closed with containers := inner :: loosen outer, lastBlank := false }
    | [] => { closed with lastBlank := false }
  else closed

/-- Go on with the list that an item belongs to, or begin one. A blank line between two items makes
their list loose. -/
def continueList (draft : Draft) (marker : ListMarker) (start : Nat) : Draft :=
  let settled := draft.finishEmptyItem
  let begin (draft : Draft) : Draft :=
    { (draft.finishList start).openContainer (.list marker.mark marker.number true) start with
      lastBlank := false }
  match settled.containers with
  | { kind := .list mark _ _, .. } :: _ =>
    if mark == marker.mark then
      if settled.lastBlank then
        { settled with containers := loosen settled.containers, lastBlank := false }
      else settled
    else begin settled
  | _ => begin settled

/-- Where the text of an item begins, and how far its lines are indented. Five or more columns after
the marker belong to the text, except for one. -/
def itemStart (marker : ListMarker) (indent : Nat) (atMarker : Cursor) : Nat × Cursor :=
  let (_, afterSpace) := (atMarker.advance marker.size).skip 1
  let width := indent + marker.size + 1
  if (blankLine? afterSpace.rest).isSome then (width, afterSpace)
  else
    let (more, atText) := afterSpace.indentation 4
    if more < 4 then (width + more, atText) else (width, afterSpace)

/-- What is left of a line after the containers that begin on it. -/
inductive LineRest where
  /-- Nothing: the line ended with the marker of an item, and the next one begins there. -/
  | done (next : Nat)
  | text (cursor : Cursor)

/-- Open the containers that begin at a cursor on a line, which begins at `line`. At most `limit` are
opened, which is enough if the line is no longer than that. -/
def openContainers (line : Nat) : Nat → Draft → Cursor → Draft × LineRest
  | 0, draft, cursor => (draft, .text cursor)
  | limit + 1, draft, cursor =>
    let (indent, atMarker) := cursor.indentation 4
    if indent = 4 then (draft, .text cursor)
    else match listMarker? atMarker.rest with
      | some marker =>
        let start := atMarker.place - indent
        let (width, atText) := itemStart marker indent atMarker
        let opened := (draft.continueList marker start).openContainer (.item width) start
        match blankLine? atText.rest with
        | some size =>
          let next := atText.place + size
          ({ opened with emptyItem := some next }, .done next)
        | none => openContainers line limit opened atText
      | none =>
        match quoteMark? atMarker with
        | some atText =>
          openContainers line limit
            ((draft.finishList line).openContainer .quote atMarker.place) atText
        | none => (draft, .text cursor)

/-- A blank line. It counts for the looseness of lists, except inside a quotation. No further line
goes on with an item that has nothing in it yet. -/
def blank (draft : Draft) : Draft :=
  match draft.containers with
  | { kind := .quote, .. } :: _ => draft
  | { kind := .item indent, start, nodes } :: outer =>
    let indent := if draft.emptyItem.isSome then 0 else indent
    { draft with containers := { kind := .item indent, start, nodes } :: outer, lastBlank := true }
  | _ => { draft with lastBlank := true }

/-- Read link definitions and the paragraph after them, with `lead` spaces in front, and say where
reading goes on. A line after a definition goes on with it as it would with a paragraph. -/
def paragraph (draft : Draft) (place lead : Nat) (text : List Char) : Draft × Nat :=
  let kinds := draft.kinds
  match definition? kinds text, text with
  | some (entry, used), _ :: tail =>
    let defined := { draft with definitions := entry :: draft.definitions }
    let size := used + (blankLine? (text.drop used)).getD 0
    let (inside, cursor) := enter kinds (place + size) (text.drop size)
    let (missing, atText) := cursor.skip 4
    if missing ≠ 0 && interrupts kinds inside atText.rest then (defined, place + size)
    else
      let next := atText.skipAll
      let used := next.place - place
      let lead := countBack isSpace ((text.drop size).take (used - size))
      defined.paragraph next.place lead (tail.drop (used - 1))
  | _, _ =>
    let reading := readParagraph kinds place lead text
    (draft.add reading.node, reading.next)
termination_by text.length
decreasing_by simp only [List.length_cons, List.length_drop]; omega

/-- Read a block at a cursor on a line, which begins at `line`, and say where reading goes on. -/
def leaf (draft : Draft) (line : Nat) (cursor : Cursor) : Draft × Nat :=
  let settled := draft.finishList line
  match readLeaf? settled.kinds cursor with
  | some reading => ({ settled.add reading.node with lastBlank := reading.endsBlank }, reading.next)
  | none =>
    let (_, atText) := cursor.indentation 4
    settled.paragraph atText.place 0 atText.rest

/-- Read the line that begins at `place`, and as many further ones as its block has, and say where
reading goes on. -/
def step (draft : Draft) (place : Nat) (text : List Char) : Draft × Nat :=
  let (count, cursor) := enterAll draft.kinds { place := place, rest := text }
  let kept := draft.close place (draft.containers.length - count)
  match openContainers place text.length kept cursor with
  | (opened, .done next) => (opened, next)
  | (opened, .text atText) =>
    match blankLine? atText.rest with
    | some size => (opened.blank, atText.place + size)
    | none => opened.leaf place atText

/-- Read a document from a position on, block after block. -/
def readAll (draft : Draft) (place : Nat) (text : List Char) : Draft :=
  match text with
  | [] => draft
  | _ :: tail =>
    let (read, next) := draft.step place text
    read.readAll (place + 1 + (next - place - 1)) (tail.drop (next - place - 1))
termination_by text.length
decreasing_by simp only [List.length_cons, List.length_drop]; omega

end Draft

/-- A document: its text, its blocks, and its link definitions. The marks in running text are not
resolved yet. -/
structure Document where
  text : Array Char
  nodes : List Node
  definitions : Definitions

/-- Read the blocks of a document. -/
def Document.read (text : List Char) : Document :=
  let draft := Draft.readAll {} 0 text
  let closed := draft.close text.length draft.containers.length
  ⟨text.toArray, closed.nodes.reverse, closed.definitions⟩

end Markup

end ClassDocs
