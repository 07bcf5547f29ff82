import ClassDocs.Markup.NamedEntities
import ClassDocs.Text.Symbol

namespace ClassDocs

namespace Markup

/-- The value of a digit in a base up to sixteen. -/
def digitValue (c : Char) : Nat :=
  if c.isDigit then c.toNat - 48 else c.toLower.toNat - 87

/-- The number that digits stand for. -/
def digitsValue (base : Nat) (digits : List Char) : Nat :=
  digits.foldl (fun value c => value * base + digitValue c) 0

/-- A digit of base sixteen. -/
def isHexDigit (c : Char) : Bool :=
  c.isDigit || decide ('a' ≤ c.toLower ∧ c.toLower ≤ 'f')

/-- The character with a code point, if there is one. Zero stands for the replacement character. -/
def charOfCode? (code : Nat) : Option Char :=
  if code = 0 then some (Char.ofNat 65533)
  else if code.isValidChar then some (Char.ofNat code) else none

/-- A reference by number, read after the `#`: at most `limit` digits, then a semicolon. The result
is the character and how much was read. -/
def numericEntity? (base limit : Nat) (isDigit : Char → Bool) (text : List Char) :
    Option (List Char × Nat) :=
  let digits := text.takeWhile isDigit
  if digits.isEmpty || decide (limit < digits.length) then none
  else match text.drop digits.length with
    | ';' :: _ => (charOfCode? (digitsValue base digits)).map fun c => ([c], digits.length + 1)
    | _ => none

/-- The characters that an entity stands for, read after its ampersand, and how much was read. -/
def entity? : List Char → Option (List Char × Nat)
  | '#' :: 'x' :: rest => (numericEntity? 16 6 isHexDigit rest).map fun found => (found.1, found.2 + 2)
  | '#' :: 'X' :: rest => (numericEntity? 16 6 isHexDigit rest).map fun found => (found.1, found.2 + 2)
  | '#' :: rest => (numericEntity? 10 7 Char.isDigit rest).map fun found => (found.1, found.2 + 1)
  | text =>
    let name := text.takeWhile Char.isAlphanum
    match text.drop name.length with
    | ';' :: _ => (namedEntity? name).map fun value => (value, name.length + 1)
    | _ => none

/-- Resolve the backslashes and entities of a text, and drop carriage returns. In a table two
backslashes in front of a pipe are dropped with the pipe kept. -/
def unescape (inTable : Bool) (text : List Char) : List Char :=
  match text with
  | [] => []
  | '\\' :: c :: rest =>
    if inTable && c == '\\' && rest.head? == some '|' then '|' :: unescape inTable rest.tail
    else if isAsciiSymbol c then c :: unescape inTable rest
    else '\\' :: unescape inTable (c :: rest)
  | '&' :: rest =>
    match entity? rest with
    | some (value, used) => value ++ unescape inTable (rest.drop used)
    | none => '&' :: unescape inTable rest
  | c :: rest => if c == '\r' then unescape inTable rest else c :: unescape inTable rest
termination_by text.length
decreasing_by all_goals simp only [List.length_cons, List.length_drop, List.length_tail]; omega

end Markup

end ClassDocs
