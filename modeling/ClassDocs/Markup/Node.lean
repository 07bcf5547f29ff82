namespace ClassDocs

namespace Markup

/-- Where a link leads. -/
structure LinkTarget where
  target : List Char
  title : List Char := []

/-- How a column of a table is aligned. -/
inductive Alignment where
  | none
  | left
  | center
  | right
  deriving DecidableEq

/-- What a node of a document is. -/
inductive Body where
  /-- Text as it stands in the document. -/
  | text
  /-- Text that does not stand in the document like that. -/
  | shown (text : List Char)
  | code (text : List Char)
  /-- HTML as it stands in the document. -/
  | html
  /-- HTML without what containers put in front of its lines. -/
  | shownHtml (text : List Char)
  | softBreak
  /-- A line break that shows, made by spaces or by a backslash. -/
  | hardBreak (slash : Bool)
  | emphasis
  | strong
  | strike
  | link (target : LinkTarget)
  | image (target : LinkTarget)
  /-- A run of emphasis marks, and whether it may open or close emphasis. -/
  | run (mark : Char) (count : Nat) (opens closes : Bool)
  /-- A run of backticks, perhaps with a backslash in front. -/
  | ticks (count : Nat) (escaped : Bool)
  /-- An angle bracket that may begin HTML or an address. -/
  | angle
  | opening (isImage : Bool)
  /-- A bracket that may end the text of a link. The brackets of a label that leads nowhere hold no
  label of their own. -/
  | closing (mayRefer : Bool)
  | paragraph
  | heading (level : Nat)
  | rule
  | codeBlock (info : List Char)
  | htmlBlock
  | table
  | headRow
  | row
  | cell (isHead : Bool) (alignment : Alignment)
  | quote
  /-- A list. A numbered one has a first number. -/
  | list (first : Option Nat)
  | item (indent : Nat)

/-- Whether a node is a mark of running text that is not resolved yet. -/
def Body.isMark : Body → Bool
  | .run .. => true
  | .ticks .. => true
  | .angle => true
  | .opening _ => true
  | .closing _ => true
  | _ => false

/-- A node of a document: where it begins and ends, what it is, and the nodes inside it. -/
structure Node where
  start : Nat
  stop : Nat
  body : Body
  children : List Node := []

/-- A stretch of text that follows other nodes, which are in reverse. It goes on with text that ends
where it begins. -/
def addText (nodes : List Node) (start stop : Nat) : List Node :=
  if stop ≤ start then nodes
  else match nodes with
    | ⟨first, last, .text, children⟩ :: before =>
      if last = start then ⟨first, stop, .text, children⟩ :: before
      else ⟨start, stop, .text, []⟩ :: nodes
    | _ => ⟨start, stop, .text, []⟩ :: nodes

end Markup

end ClassDocs
