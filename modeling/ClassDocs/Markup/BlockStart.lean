import ClassDocs.Markup.Container
import ClassDocs.Markup.Entities
import ClassDocs.Markup.RawHtml
import ClassDocs.Markup.Table

namespace ClassDocs

namespace Markup

/-- The length of a thematic break with its line end: three or more of one mark, with nothing but
spaces between them. -/
def ruleLength? (text : List Char) : Option Nat :=
  match text with
  | [] => none
  | mark :: _ =>
    let line := text.takeWhile fun c => c == mark || c == ' ' || c == '\t'
    if (mark == '*' || mark == '-' || mark == '_') && decide (3 ≤ line.count mark) then
      (lineEnd? (text.drop line.length)).map (line.length + ·)
    else none

/-- The level of a heading that begins with one to six number signs and a space. -/
def headingLevel? (text : List Char) : Option Nat :=
  let level := countWhile (· == '#') text
  if 1 ≤ level ∧ level ≤ 6 ∧ (text.drop level).head?.all isWhite then some level else none

/-- How much of the text after those signs, given with its line end, belongs to the heading. Blanks
and number signs at the end do not. -/
def headingLength (text : List Char) : Nat :=
  let trimmed := text.length - countBack (fun c => c == ' ' || isBreak c) text
  let inner := trimmed - countBack (· == '#') (text.take trimmed)
  let blanks := countBack (· == ' ') (text.take inner)
  if inner = 0 then 0 else if blanks = 0 then trimmed else inner - blanks

/-- The fence of a code block. -/
structure Fence where
  mark : Char
  size : Nat

/-- The fence at the start of a text. The info string after backticks holds no backtick. -/
def fence? (text : List Char) : Option Fence :=
  match text with
  | [] => none
  | mark :: _ =>
    let size := countWhile (· == mark) text
    let info := (text.drop size).take (lineLength (text.drop size))
    if (mark == '~' || mark.toNat == 96 && !info.any (·.toNat == 96)) && decide (3 ≤ size) then
      some ⟨mark, size⟩
    else none

/-- How much of a line closes a code block, without its line end. The end of the document closes every
block. -/
def Fence.closing? (fence : Fence) (text : List Char) : Option Nat :=
  if text.isEmpty then some 0
  else
    let size := countWhile (· == fence.mark) text
    let blanks := countWhile (· == ' ') (text.drop size)
    if fence.size ≤ size && (lineEnd? (text.drop (size + blanks))).isSome then some (size + blanks)
    else none

/-- The info string after a fence. -/
def Fence.info (fence : Fence) (text : List Char) : List Char :=
  let after := (text.drop fence.size).dropWhile isSpace
  let line := after.take (lineLength after)
  unescape false (line.take (line.length - countBack isWhite line))

/-- The length of an underline, with its line end, and the level of the heading that it makes. -/
def underline? (text : List Char) : Option (Nat × Nat) :=
  match text with
  | [] => none
  | mark :: _ =>
    let size := countWhile (· == mark) text
    if mark == '=' || mark == '-' then
      (blankLine? (text.drop size)).map fun after => (size + after, if mark == '=' then 1 else 2)
    else none

/-- The marker of a list item. -/
structure ListMarker where
  /-- The bullet, or the delimiter after a number. -/
  mark : Char
  number : Nat
  /-- The length of the marker. -/
  size : Nat

/-- Whether the mark of a list item is a bullet. -/
def isBullet (mark : Char) : Bool :=
  mark == '*' || mark == '-' || mark == '+'

/-- The marker at the start of a text: a bullet, or up to nine digits and a delimiter, then a space
or the end of the line. A thematic break is no list. -/
def listMarker? (text : List Char) : Option ListMarker :=
  let followed (marker : ListMarker) : Option ListMarker :=
    if (text.drop marker.size).head?.all (fun c => c == ' ' || c == '\t' || isBreak c) then
      some marker
    else none
  match text with
  | [] => none
  | c :: _ =>
    if isBullet c then
      if (ruleLength? text).isSome then none else followed ⟨c, 0, 1⟩
    else
      let digits := text.takeWhile Char.isDigit
      match text.drop digits.length with
      | delimiter :: _ =>
        if (delimiter == '.' || delimiter == ')') && !digits.isEmpty &&
            decide (digits.length ≤ 9) then
          followed ⟨delimiter, digitsValue 10 digits, digits.length + 1⟩
        else none
      | [] => none

/-- The tags that begin an HTML block wherever they stand. -/
def blockTags : List String :=
  ["address", "article", "aside", "base", "basefont", "blockquote", "body", "caption", "center",
    "col", "colgroup", "dd", "details", "dialog", "dir", "div", "dl", "dt", "fieldset",
    "figcaption", "figure", "footer", "form", "frame", "frameset", "h1", "h2", "h3", "h4", "h5",
    "h6", "head", "header", "hr", "html", "iframe", "legend", "li", "link", "main", "menu",
    "menuitem", "nav", "noframes", "ol", "optgroup", "option", "p", "param", "search", "section",
    "summary", "table", "tbody", "td", "tfoot", "th", "thead", "title", "tr", "track", "ul"]

/-- How an HTML block ends. -/
inductive HtmlEnd where
  /-- With the line that holds this mark. -/
  | mark (text : List Char)
  | blankLine

/-- Whether a text, in any case, begins with a word that ends there. -/
def beginsWithTag (name : String) (text : List Char) : Bool :=
  let size := name.length
  (text.take size).map Char.toLower == name.toList &&
    (text.drop size).head?.all fun c => isWhite c || c == '>'

/-- The end of an HTML block that can interrupt a paragraph, given the text after its bracket. -/
def strongHtml? (text : List Char) : Option HtmlEnd :=
  match ["pre", "style", "script", "textarea"].find? (beginsWithTag · text) with
  | some name => some (.mark ("</" ++ name ++ ">").toList)
  | none =>
    match text with
    | '!' :: '-' :: '-' :: _ => some (.mark "-->".toList)
    | '?' :: _ => some (.mark "?>".toList)
    | '!' :: '[' :: 'C' :: 'D' :: 'A' :: 'T' :: 'A' :: '[' :: _ => some (.mark "]]>".toList)
    | '!' :: c :: _ => if c.isAlpha then some (.mark ['>']) else none
    | _ =>
      let inner := if text.head? == some '/' then text.tail else text
      let name := inner.takeWhile Char.isAlphanum
      let closes := match inner.drop name.length with
        | [] => true
        | '/' :: '>' :: _ => true
        | c :: _ => c == ' ' || c == '\t' || c == '>' || isBreak c
      if closes && blockTags.contains (String.ofList (name.map Char.toLower)) then some .blankLine
      else none

/-- The end of an HTML block that begins with the given text. A line with nothing but one tag begins
such a block too, but interrupts no paragraph. -/
def htmlStart? : List Char → Option HtmlEnd
  | '<' :: rest =>
    match strongHtml? rest with
    | some ending => some ending
    | none =>
      match tag? none rest with
      | some tag => if (blankLine? (rest.drop tag.used)).isSome then some .blankLine else none
      | none => none
  | _ => none

/-- Whether a text begins a list item that may interrupt other text: one that has content, and if it
is numbered, the first. Where the text is `weak`, every item may. -/
def listInterrupts (weak : Bool) (text : List Char) : Bool :=
  match listMarker? text with
  | none => false
  | some marker =>
    weak || (isBullet marker.mark || marker.number == 1) &&
      (blankLine? (text.drop marker.size)).isNone

/-- Whether a text, after its indentation, ends the paragraph or table in front of it. -/
def startsBlock (weak : Bool) (text : List Char) : Bool :=
  (lineEnd? text).isSome || (ruleLength? text).isSome || (headingLevel? text).isSome ||
    (fence? text).isSome || text.head? == some '>' || listInterrupts weak text ||
    text.head? == some '<' && (strongHtml? text.tail).isSome

/-- Whether a text, after its indentation, ends the paragraph in front of it. A table whose header
begins with a pipe does so too. -/
def interrupts (kinds : List ContainerKind) (inside : Bool) (text : List Char) : Bool :=
  startsBlock (!inside) text || text.head? == some '|' && (tableStart? kinds text).isSome

end Markup

end ClassDocs
