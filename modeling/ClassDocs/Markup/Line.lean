namespace ClassDocs

namespace Markup

/-- The space characters of markup, line ends not among them. -/
def isSpace (c : Char) : Bool :=
  c == ' ' || c == '\t' || c.toNat == 11 || c.toNat == 12

/-- The characters that end a line. -/
def isBreak (c : Char) : Bool :=
  c == '\n' || c == '\r'

/-- The space characters of markup and the line ends. -/
def isWhite (c : Char) : Bool :=
  isSpace c || isBreak c

/-- How many characters at the start of a text have a property. -/
def countWhile (holds : Char → Bool) (text : List Char) : Nat :=
  (text.takeWhile holds).length

/-- How many characters at the end of a text have a property. -/
def countBack (holds : Char → Bool) (text : List Char) : Nat :=
  countWhile holds text.reverse

/-- The length of the line end with which a text begins. The end of the text is one of length
zero. -/
def lineEnd? : List Char → Option Nat
  | [] => some 0
  | '\n' :: _ => some 1
  | '\r' :: '\n' :: _ => some 2
  | '\r' :: _ => some 1
  | _ => none

/-- The length of what is left of a line that has only spaces, with its end. -/
def blankLine? (text : List Char) : Option Nat :=
  let spaces := countWhile isSpace text
  (lineEnd? (text.drop spaces)).map (spaces + ·)

/-- The length of a text up to and with its first line feed. -/
def lineLength : List Char → Nat
  | [] => 0
  | c :: rest => if c == '\n' then 1 else lineLength rest + 1

/-- The text of a line up to its end. -/
def lineText (text : List Char) : List Char :=
  text.takeWhile fun c => !isBreak c

end Markup

end ClassDocs
