import ClassDocs.Markup.Line

namespace ClassDocs

namespace Markup

/-- A position inside an opening tag. -/
inductive TagPlace where
  | tagName
  /-- After white space, where an attribute may begin. -/
  | gap
  | attributeName
  | afterName
  | beforeValue
  | bareValue
  | quotedValue (quote : Char)
  | afterQuote
  /-- After the slash at the end of the tag. -/
  | slash
  deriving DecidableEq

/-- A character with which the name of an attribute begins. -/
def startsAttribute (c : Char) : Bool :=
  c.isAlpha || c == '_' || c == ':'

/-- A character inside the name of an attribute. -/
def continuesAttribute (c : Char) : Bool :=
  c.isAlphanum || c == '_' || c == ':' || c == '.' || c == '-'

/-- A character that cannot stand in a value without quotes. -/
def isBareStop (c : Char) : Bool :=
  c == '"' || c.toNat == 39 || c == '=' || c == '<' || c.toNat == 96

/-- Where an opening tag goes on after a character; nowhere if the character is out of place. The
bracket that closes the tag is not asked for here, except where it cannot close it. -/
def TagPlace.next? (place : TagPlace) (c : Char) : Option TagPlace :=
  match place with
  | .tagName =>
    if c.isAlphanum || c == '-' then some .tagName
    else if isWhite c then some .gap
    else if c == '/' then some .slash else none
  | .gap =>
    if isWhite c then some .gap
    else if c == '/' then some .slash
    else if startsAttribute c then some .attributeName else none
  | .attributeName =>
    if continuesAttribute c then some .attributeName
    else if isWhite c then some .afterName
    else if c == '=' then some .beforeValue
    else if c == '/' then some .slash else none
  | .afterName =>
    if isWhite c then some .afterName
    else if c == '=' then some .beforeValue
    else if c == '/' then some .slash
    else if startsAttribute c then some .attributeName else none
  | .beforeValue =>
    if isWhite c then some .beforeValue
    else if c == '"' || c.toNat == 39 then some (.quotedValue c)
    else if isBareStop c || c == '>' then none else some .bareValue
  | .bareValue =>
    if c == ' ' || isBreak c then some .gap
    else if isBareStop c then none else some .bareValue
  | .quotedValue quote => if c == quote then some .afterQuote else some (.quotedValue quote)
  | .afterQuote =>
    if isWhite c then some .gap
    else if c == '/' then some .slash else none
  | .slash => none

/-- Whether a bracket closes the tag at a position. -/
def TagPlace.canClose : TagPlace → Bool
  | .beforeValue => false
  | .quotedValue _ => false
  | _ => true

/-- A tag that was read. -/
structure TagReading where
  used : Nat
  /-- The text of the tag, without what containers put in front of its lines. -/
  kept : List Char

/-- The tag after a character in front of it, and after the skipped start of a line. -/
def TagReading.follow (tag : TagReading) (c : Char) (skipped : Nat) : TagReading :=
  ⟨tag.used + skipped + 1, c :: tag.kept⟩

/-- Read an opening tag from a position inside it on. At a line end `skip` says how much of the next
line to leave out; without it the tag has to end on its line. -/
def openingTag? (skip : Option (List Char → Nat)) (place : TagPlace) (text : List Char) :
    Option TagReading :=
  match text with
  | [] => none
  | c :: rest =>
    if c == '>' && place.canClose then some ⟨1, [c]⟩
    else match place.next? c, isBreak c, skip with
      | none, _, _ => none
      | some _, true, none => none
      | some next, true, some lineStart =>
        (openingTag? skip next (rest.drop (lineStart rest))).map (·.follow c (lineStart rest))
      | some next, false, _ => (openingTag? skip next rest).map (·.follow c 0)
termination_by text.length
decreasing_by all_goals simp only [List.length_cons, List.length_drop]; omega

/-- Read a closing tag after its slash. It ends on its line. -/
def closingTag? (text : List Char) : Option TagReading :=
  let name := text.takeWhile fun c => c.isAlphanum || c == '-'
  let size := name.length + countWhile isSpace (text.drop name.length)
  match text.drop size with
  | '>' :: _ =>
    if name.head?.any Char.isAlpha then some ⟨size + 1, text.take (size + 1)⟩ else none
  | _ => none

/-- Read a tag after its opening bracket. -/
def tag? (skip : Option (List Char → Nat)) : List Char → Option TagReading
  | '/' :: rest => (closingTag? rest).map (·.follow '/' 0)
  | c :: rest => if c.isAlpha then (openingTag? skip .tagName rest).map (·.follow c 0) else none
  | [] => none

/-- How much of a text there is up to the end of the first occurrence of a mark. -/
def through? (mark : List Char) : List Char → Option Nat
  | [] => if mark.isEmpty then some 0 else none
  | c :: rest =>
    if mark.isPrefixOf (c :: rest) then some mark.length else (through? mark rest).map (· + 1)

/-- How much of a text belongs to character data, after its start: all up to the first brackets, if an
angle bracket follows them. -/
def dataLength? (text : List Char) : Option Nat :=
  let data := countWhile (· != ']') text
  let brackets := countWhile (· == ']') (text.drop data)
  match text.drop (data + brackets) with
  | '>' :: _ => if brackets = 0 then none else some (data + brackets + 1)
  | _ => none

/-- How much of a text belongs to a piece of HTML other than a tag, after its opening bracket: a
comment, an instruction, a character data section or a declaration. -/
def specialHtml? : List Char → Option Nat
  | '!' :: '-' :: '-' :: '>' :: _ => some 4
  | '!' :: '-' :: '-' :: '-' :: '>' :: _ => some 5
  | '!' :: '-' :: '-' :: rest => (through? "-->".toList rest).map (· + 3)
  | '!' :: '[' :: 'C' :: 'D' :: 'A' :: 'T' :: 'A' :: '[' :: rest => (dataLength? rest).map (· + 8)
  | '!' :: c :: rest => if c.isAlpha then (through? ['>'] rest).map (· + 2) else none
  | '?' :: rest => (through? "?>".toList rest).map (· + 1)
  | _ => none

/-- An address in angle brackets, read after the first of them, and how much was read. A scheme has
two to thirty-two characters. -/
def autoUri? (text : List Char) : Option (List Char × Nat) :=
  match text with
  | [] => none
  | first :: _ =>
    let scheme := text.takeWhile fun c => c.isAlphanum || c == '.' || c == '-' || c == '+'
    match text.drop scheme.length with
    | ':' :: rest =>
      let body := rest.takeWhile fun c => decide (32 < c.toNat) && c != '<' && c != '>'
      match rest.drop body.length with
      | '>' :: _ =>
        if first.isAlpha && decide (2 ≤ scheme.length ∧ scheme.length ≤ 32) then
          some (scheme ++ ':' :: body, scheme.length + body.length + 2)
        else none
      | _ => none
    | _ => none

/-- A character in front of the at sign of a mail address. -/
def isMailChar (c : Char) : Bool :=
  c.isAlphanum || ".!#$%&*+/=?^_\x7b|\x7d~-".toList.contains c || c.toNat == 39 || c.toNat == 96

/-- The pieces of a domain between its dots. -/
def domainLabels : List Char → List (List Char)
  | [] => [[]]
  | c :: rest =>
    if c == '.' then [] :: domainLabels rest
    else match domainLabels rest with
      | [] => [[c]]
      | label :: more => (c :: label) :: more

/-- Whether a piece of a domain is well formed. -/
def isDomainLabel (label : List Char) : Bool :=
  !label.isEmpty && decide (label.length ≤ 63) && label.head? != some '-' &&
    label.getLast? != some '-'

/-- A mail address in angle brackets, read after the first of them, and how much was read. -/
def autoMail? (text : List Char) : Option (List Char × Nat) :=
  let user := text.takeWhile isMailChar
  match text.drop user.length with
  | '@' :: rest =>
    let domain := rest.takeWhile fun c => c.isAlphanum || c == '-' || c == '.'
    match rest.drop domain.length with
    | '>' :: _ =>
      if !user.isEmpty && (domainLabels domain).all isDomainLabel then
        some (user ++ '@' :: domain, user.length + domain.length + 2)
      else none
    | _ => none
  | _ => none

end Markup

end ClassDocs
