import ClassDocs.Markup.Entities
import ClassDocs.Markup.Line
import ClassDocs.Markup.Node
import ClassDocs.Text.CaseFold

namespace ClassDocs

namespace Markup

/-- The length of a destination in angle brackets, read after the first of them. -/
def angleTarget? : List Char → Option Nat
  | [] => none
  | '>' :: _ => some 1
  | '\\' :: c :: rest =>
    if isAsciiSymbol c then (angleTarget? rest).map (· + 2) else (angleTarget? (c :: rest)).map (· + 1)
  | c :: rest => if isBreak c || c == '<' then none else (angleTarget? rest).map (· + 1)

/-- The length of a destination without brackets. It ends at a blank or control, or at a closing
parenthesis that was not opened in it. Parentheses are nested to a limited depth. -/
def bareTarget? (depth : Nat) : List Char → Option Nat
  | [] => if depth = 0 then some 0 else none
  | '\\' :: c :: rest =>
    if isAsciiSymbol c then (bareTarget? depth rest).map (· + 2)
    else (bareTarget? depth (c :: rest)).map (· + 1)
  | c :: rest =>
    if c.toNat ≤ 32 then if depth = 0 then some 0 else none
    else if c == '(' then
      if 5 < depth then none else (bareTarget? (depth + 1) rest).map (· + 1)
    else if c == ')' then
      if depth = 0 then some 0 else (bareTarget? (depth - 1) rest).map (· + 1)
    else (bareTarget? depth rest).map (· + 1)

/-- The destination of a link as written, and how much was read. -/
def target? : List Char → Option (List Char × Nat)
  | '<' :: rest => (angleTarget? rest).map fun size => (rest.take (size - 1), size + 1)
  | text => (bareTarget? 0 text).map fun size => (text.take size, size)

/-- The character that closes a title which another one opens. -/
def titleClosing? (c : Char) : Option Char :=
  if c == '"' || c.toNat == 39 then some c else if c == '(' then some ')' else none

/-- The gap in a label: spaces with at most one line end among them. At the line end `skip` says how
much of the next line to leave out, or that the label cannot go on there. The result is its length, and
whether it is more than one blank. -/
def labelGap? (skip : List Char → Option Nat) (breaks : Nat) (text : List Char) :
    Option (Nat × Bool) :=
  match text with
  | [] => some (0, false)
  | c :: rest =>
    if isBreak c then
      let size := if c == '\r' && rest.head? == some '\n' then 1 else 0
      if breaks = 0 then
        match skip (rest.drop size) with
        | none => none
        | some skipped =>
          (labelGap? skip 1 (rest.drop (size + skipped))).map fun gap =>
            (gap.1 + size + skipped + 1, true)
      else none
    else if isSpace c then
      (labelGap? skip breaks rest).map fun gap => (gap.1 + 1, c != ' ' || decide (0 < gap.1))
    else some (0, false)
termination_by text.length
decreasing_by all_goals simp only [List.length_cons, List.length_drop]; omega

/-- Read a label after its opening bracket, `weight` being the weight of what was read already. A gap
becomes one blank. In a table a backslash in front of a pipe is dropped. A label whose weight reaches a
thousand is none. -/
def labelFrom? (skip : List Char → Option Nat) (inTable : Bool) (weight : Nat) (text : List Char) :
    Option (List Char × Nat) :=
  let add (chars : List Char) (used : Nat) (label : List Char × Nat) : List Char × Nat :=
    (chars ++ label.1, label.2 + used)
  if 1000 ≤ weight then none
  else match text with
    | [] => none
    | ']' :: _ => some ([], 1)
    | '[' :: _ => none
    | ['\\'] => none
    | '\\' :: c :: rest =>
      if inTable && c == '|' then
        (labelFrom? skip inTable (weight + 1) rest).map (add ['|'] 2)
      else if inTable && c == '\\' && rest.head? == some '|' then
        (labelFrom? skip inTable (weight + 2) rest.tail).map (add ['\\', '|'] 3)
      else if isAsciiSymbol c then
        (labelFrom? skip inTable (weight + 2) rest).map (add ['\\', c] 2)
      else (labelFrom? skip inTable weight (c :: rest)).map (add ['\\'] 1)
    | c :: rest =>
      if isWhite c then
        match labelGap? skip 0 (c :: rest) with
        | none => none
        | some (size, wide) =>
          (labelFrom? skip inTable (weight + if wide then size else 1) (rest.drop (size - 1))).map
            (add [' '] size)
      else
        (labelFrom? skip inTable (weight + if c.toNat < 128 then 0 else c.utf8Size) rest).map
          (add [c] 1)
termination_by text.length
decreasing_by all_goals simp only [List.length_cons, List.length_drop, List.length_tail]; omega

/-- A label in brackets, and how much was read. It has some text. -/
def label? (skip : List Char → Option Nat) (inTable : Bool) : List Char → Option (List Char × Nat)
  | '[' :: rest => do
    let (label, used) ← labelFrom? skip inTable 0 rest
    if label.all (· == ' ') then none else some (label, used + 1)
  | _ => none

/-- The form in which labels are compared. -/
def labelKey (label : List Char) : List Char :=
  let start := label.dropWhile (· == ' ')
  foldCase (start.take (start.length - countBack (· == ' ') start))

/-- The link definitions of a document, by the keys of their labels, the last one first. -/
abbrev Definitions := List (List Char × LinkTarget)

/-- Where a label leads. The first definition of a label counts. -/
def Definitions.find? (definitions : Definitions) (label : List Char) : Option LinkTarget :=
  (List.find? (fun entry => entry.1 == labelKey label) definitions.reverse).map (·.2)

end Markup

end ClassDocs
