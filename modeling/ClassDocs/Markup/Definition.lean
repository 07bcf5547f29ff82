import ClassDocs.Markup.BlockStart
import ClassDocs.Markup.LinkParts

namespace ClassDocs

namespace Markup

/-- How much of a line stands in front of its text, if the line can go on with a definition. It cannot
if it begins something else or is the underline of a heading. -/
def continuedLine? (kinds : List ContainerKind) (line : List Char) : Option Nat :=
  let (inside, cursor) := enter kinds 0 line
  let (missing, atText) := cursor.skip 4
  if missing ≠ 0 && (interrupts kinds inside atText.rest || (underline? atText.rest).isSome) then none
  else some atText.place

/-- The gap between two parts of a definition: spaces with at most one line end among them. The result
is its length and the number of line ends. There is none where the definition ends. -/
def definitionGap? (kinds : List ContainerKind) (text : List Char) : Option (Nat × Nat) := do
  let spaces := countWhile isSpace text
  let after := text.drop spaces
  match lineEnd? after with
  | none => some (spaces, 0)
  | some size =>
    let skipped ← if size = 0 then none else continuedLine? kinds (after.drop size)
    let line := after.drop (size + skipped)
    let more := countWhile isSpace line
    if (lineEnd? (line.drop more)).isSome then none else some (spaces + size + skipped + more, 1)

/-- Read the title of a definition after its opening mark. It goes on over lines that can go on with
the definition, without the blanks in front of their text. The result is the title as written and how
much was read. -/
def definitionTitle? (kinds : List ContainerKind) (closing : Char) (text : List Char) :
    Option (List Char × Nat) :=
  let add (chars : List Char) (used : Nat) (title : List Char × Nat) : List Char × Nat :=
    (chars ++ title.1, title.2 + used)
  match text with
  | [] => none
  | c :: rest =>
    if c == '(' && closing == ')' then none
    else if isBreak c then
      let size := if c == '\r' && rest.head? == some '\n' then 1 else 0
      match continuedLine? kinds (rest.drop size) with
      | none => none
      | some skipped =>
        let line := rest.drop (size + skipped)
        let blanks := countWhile (fun c => c == ' ' || c == '\t') line
        if (blankLine? line).isSome then none
        else
          (definitionTitle? kinds closing (line.drop blanks)).map
            (add ['\n'] (size + skipped + blanks + 1))
    else if c == '\\' then
      match rest.head? with
      | none => none
      | some d =>
        if isBreak d then (definitionTitle? kinds closing rest).map (add [c] 1)
        else (definitionTitle? kinds closing rest.tail).map (add [c, d] 2)
    else if c == closing then some ([], 1)
    else (definitionTitle? kinds closing rest).map (add [c] 1)
termination_by text.length
decreasing_by all_goals simp only [List.length_cons, List.length_drop, List.length_tail]; omega

/-- The title of a definition as written, and how much was read. Nothing follows it on its line. -/
def lastTitle? (kinds : List ContainerKind) : List Char → Option (List Char × Nat)
  | [] => none
  | c :: rest => do
    let closing ← titleClosing? c
    let (title, used) ← definitionTitle? kinds closing rest
    if (blankLine? (rest.drop used)).isSome then some (title, used + 1) else none

/-- A link definition at the start of a text, and how much was read, without the line end: a label, a
colon, a destination, and perhaps a title. A title on a line of its own that is not well formed is no
part of the definition. -/
def definition? (kinds : List ContainerKind) (text : List Char) :
    Option ((List Char × LinkTarget) × Nat) := do
  let (label, labelSize) ← label? (continuedLine? kinds) false text
  let afterLabel := text.drop labelSize
  let gap ← if afterLabel.head? == some ':' then definitionGap? kinds afterLabel.tail else none
  let (target, targetSize) ← target? (afterLabel.tail.drop gap.1)
  let used := labelSize + 1 + gap.1 + targetSize
  let entry (title : List Char) : List Char × LinkTarget :=
    (labelKey label, ⟨unescape false target, unescape false title⟩)
  if targetSize = 0 then none
  else match definitionGap? kinds (text.drop used) with
    | none => some (entry [], used)
    | some (size, breaks) =>
      match if size = 0 then none else lastTitle? kinds (text.drop (used + size)) with
      | some (title, titleSize) => some (entry title, used + size + titleSize)
      | none => if breaks = 0 then none else some (entry [], used)

end Markup

end ClassDocs
