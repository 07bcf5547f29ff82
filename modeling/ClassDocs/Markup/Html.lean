import ClassDocs.Markup.Document
import ClassDocs.Markup.Inline

namespace ClassDocs

namespace Markup

/-- A character in the body of an element. -/
def escapeBody : Char → List Char
  | '&' => "&amp;".toList
  | '<' => "&lt;".toList
  | '>' => "&gt;".toList
  | c => [c]

/-- A character in an attribute. -/
def escapeAttribute (c : Char) : List Char :=
  if c == '"' then "&quot;".toList
  else if c.toNat == 39 then "&#39;".toList
  else escapeBody c

/-- Whether a character stands for itself in an address. -/
def isAddressChar (c : Char) : Bool :=
  c.isAlphanum || "!#$%()*+,-./:;=?@_~".toList.contains c

/-- One byte of an address in percent notation. -/
def percentByte (byte : UInt8) : List Char :=
  let digit (n : Nat) : Char := if n < 10 then Char.ofNat (48 + n) else Char.ofNat (55 + n)
  ['%', digit (byte.toNat / 16), digit (byte.toNat % 16)]

/-- A character of an address, in a form that can stand in an attribute. -/
def escapeAddressChar (c : Char) : List Char :=
  if isAddressChar c then [c]
  else if c == '&' then "&amp;".toList
  else if c.toNat == 39 then "&#x27;".toList
  else (String.utf8EncodeChar c).flatMap percentByte

/-- A text in the body of an element. -/
def bodyText (text : List Char) : String :=
  String.ofList (text.flatMap escapeBody)

/-- A text in an attribute. -/
def attributeText (text : List Char) : String :=
  String.ofList (text.flatMap escapeAttribute)

/-- An address in an attribute. -/
def addressText (address : List Char) : String :=
  String.ofList (address.flatMap escapeAddressChar)

mutual

/-- The bare text of a node, for the description of an image. -/
def plainText (text : Array Char) : Node → List Char
  | ⟨start, stop, body, children⟩ =>
    match body with
    | .text => slice text start stop
    | .shown shown => shown
    | .code code => code
    | .html => slice text start stop
    | .shownHtml html => html
    | .softBreak => [' ']
    | .hardBreak _ => [' ']
    | .rule => [' ']
    | .htmlBlock => []
    | _ => plainTexts text children

/-- The bare text of nodes. -/
def plainTexts (text : Array Char) : List Node → List Char
  | [] => []
  | node :: rest => plainText text node ++ plainTexts text rest

end

/-- The title attribute of a link; an empty title is left out. -/
def titleAttribute (title : List Char) : String :=
  if title.isEmpty then "" else " title=\"" ++ attributeText title ++ "\""

/-- The output so far, with a line feed at its end unless it is empty. -/
def freshLine (output : String) : String :=
  if output.isEmpty || output.back == '\n' then output else output ++ "\n"

/-- The style of a table cell. -/
def Alignment.style : Alignment → String
  | .none => ""
  | .left => " style=\"text-align: left\""
  | .center => " style=\"text-align: center\""
  | .right => " style=\"text-align: right\""

/-- The opening tag of a code block. The first word of its info string names the language. -/
def codeTag (info : List Char) : String :=
  let language := info.takeWhile (· != ' ')
  "<pre><code" ++
    (if language.isEmpty then "" else " class=\"language-" ++ attributeText language ++ "\"") ++ ">"

/-- The opening tag of a list. -/
def listTag : Option Nat → String
  | none => "<ul>\n"
  | some 1 => "<ol>\n"
  | some first => "<ol start=\"" ++ toString first ++ "\">\n"

/-- What is written in front of the nodes inside a node and after them, where an element has both. -/
structure Tags where
  /-- Whether the element begins on a line of its own. -/
  fresh : Bool
  opening : String
  closing : String

/-- The tags of the nodes that only enclose others. -/
def Body.tags? : Body → Option Tags
  | .emphasis => some ⟨false, "<em>", "</em>"⟩
  | .strong => some ⟨false, "<strong>", "</strong>"⟩
  | .strike => some ⟨false, "<del>", "</del>"⟩
  | .link target =>
    some ⟨false,
      "<a href=\"" ++ addressText target.target ++ "\"" ++ titleAttribute target.title ++ ">", "</a>"⟩
  | .paragraph => some ⟨true, "<p>", "</p>\n"⟩
  | .heading level =>
    let tag := "h" ++ toString level
    some ⟨true, "<" ++ tag ++ ">", "</" ++ tag ++ ">\n"⟩
  | .codeBlock info => some ⟨true, codeTag info, "</code></pre>\n"⟩
  | .htmlBlock => some ⟨false, "", ""⟩
  | .table => some ⟨false, "<table>", "</tbody></table>\n"⟩
  | .headRow => some ⟨false, "<thead><tr>", "</tr></thead><tbody>\n"⟩
  | .row => some ⟨false, "<tr>", "</tr>\n"⟩
  | .cell isHead alignment =>
    let tag := if isHead then "th" else "td"
    some ⟨false, "<" ++ tag ++ alignment.style ++ ">", "</" ++ tag ++ ">"⟩
  | .quote => some ⟨true, "<blockquote>\n", "</blockquote>\n"⟩
  | .list first => some ⟨true, listTag first, if first.isNone then "</ul>\n" else "</ol>\n"⟩
  | .item _ => some ⟨true, "<li>", "</li>\n"⟩
  | _ => none

mutual

/-- Write a node after the output so far. A mark that was not resolved stands for itself. -/
def nodeHtml (text : Array Char) (output : String) : Node → String
  | ⟨start, stop, body, children⟩ =>
    match body with
    | .shown shown => output ++ bodyText shown
    | .code code => output ++ "<code>" ++ bodyText code ++ "</code>"
    | .html => output ++ String.ofList (slice text start stop)
    | .shownHtml html => output ++ String.ofList html
    | .softBreak => output ++ "\n"
    | .hardBreak _ => output ++ "<br />\n"
    | .rule => freshLine output ++ "<hr />\n"
    | .image target =>
      output ++ "<img src=\"" ++ addressText target.target ++ "\" alt=\"" ++
        attributeText (plainTexts text children) ++ "\"" ++ titleAttribute target.title ++ " />"
    | body =>
      match body.tags? with
      | some tags =>
        let before := if tags.fresh then freshLine output else output
        nodesHtml text (before ++ tags.opening) children ++ tags.closing
      | none => output ++ bodyText (slice text start stop)

/-- Write nodes after the output so far. -/
def nodesHtml (text : Array Char) (output : String) : List Node → String
  | [] => output
  | node :: rest => nodesHtml text (nodeHtml text output node) rest

end

end Markup

/-- Comment prose, written in Markdown, as HTML. -/
def formatMarkup (text : String) : String :=
  let document := Markup.Document.read text.toList
  Markup.nodesHtml document.text ""
    (Markup.resolveNodes document.text document.definitions [] false document.nodes)

end ClassDocs
