import ClassDocs.Error

namespace ClassDocs

/-- One member of a character class. -/
inductive CharSpan where
  | one (c : Char)
  | between (low high : Char)
  deriving DecidableEq, Repr

/-- Whether the member covers a character. -/
def CharSpan.covers : CharSpan → Char → Bool
  | .one single, c => single == c
  | .between low high, c => decide (low ≤ c) && decide (c ≤ high)

/-- One element of a file name pattern. -/
inductive PatternToken where
  | char (c : Char)
  | anyChar
  /-- Any characters, possibly none. -/
  | anyText
  /-- Any directories, possibly none. -/
  | anyDepth
  | within (spans : List CharSpan)
  | outside (spans : List CharSpan)
  deriving DecidableEq, Repr

namespace Pattern

/-- Write a text so that it matches itself only. -/
def escape (text : List Char) : List Char :=
  text.flatMap fun c => if c == '?' || c == '*' || c == '[' || c == ']' then ['[', c, ']'] else [c]

/-- The members of a character class. -/
def spans : List Char → List CharSpan
  | low :: '-' :: high :: rest => .between low high :: spans rest
  | c :: rest => .one c :: spans rest
  | [] => []

/-- The inside of a class whose first character was read already, with what follows its bracket. -/
def closeClass? (first : Char) (rest : List Char) : Option (List CharSpan × List Char) :=
  match rest.dropWhile (· != ']') with
  | [] => none
  | _ :: after => some (spans (first :: rest.takeWhile (· != ']')), after)

theorem length_of_closeClass? {first : Char} {rest after : List Char} {members : List CharSpan}
    (closed : closeClass? first rest = some (members, after)) : after.length < rest.length := by
  have bound := (List.dropWhile_sublist (l := rest) (· != ']')).length_le
  unfold closeClass? at closed
  split at closed
  · simp at closed
  · rename_i bracket tail found
    rw [found] at bound
    simp only [Option.some.injEq, Prod.mk.injEq] at closed
    rw [← closed.2]
    exact bound

/-- Read a pattern from a position on. Two stars stand for directories and must be alone between
slashes. -/
def parseFrom (position : Nat) (previous : Option Char) (text : List Char) :
    Except PatternError (List PatternToken) :=
  match text with
  | [] => .ok []
  | '?' :: rest => (parseFrom (position + 1) (some '?') rest).map (.anyChar :: ·)
  | '*' :: '*' :: '*' :: _ => .error ⟨position + 2, .tooManyStars⟩
  | ['*', '*'] =>
    if previous.all (· == '/') then .ok [.anyDepth] else .error ⟨position - 1, .starsNotAlone⟩
  | '*' :: '*' :: '/' :: rest =>
    if previous.all (· == '/') then
      (parseFrom (position + 3) (some '/') rest).map (.anyDepth :: ·)
    else .error ⟨position - 1, .starsNotAlone⟩
  | '*' :: '*' :: _ =>
    if previous.all (· == '/') then .error ⟨position + 2, .starsNotAlone⟩
    else .error ⟨position - 1, .starsNotAlone⟩
  | '*' :: rest => (parseFrom (position + 1) (some '*') rest).map (.anyText :: ·)
  | '[' :: '!' :: first :: rest =>
    match _ : closeClass? first rest with
    | some (members, after) =>
      (parseFrom (position + 3 + (rest.length - after.length)) (some ']') after).map
        (.outside members :: ·)
    | none => .error ⟨position, .openClass⟩
  | ['[', '!'] => .error ⟨position, .openClass⟩
  | '[' :: first :: rest =>
    match _ : closeClass? first rest with
    | some (members, after) =>
      (parseFrom (position + 2 + (rest.length - after.length)) (some ']') after).map
        (.within members :: ·)
    | none => .error ⟨position, .openClass⟩
  | ['['] => .error ⟨position, .openClass⟩
  | c :: rest => (parseFrom (position + 1) (some c) rest).map (.char c :: ·)
termination_by text.length
decreasing_by
  all_goals simp only [List.length_cons]
  all_goals first
    | omega
    | (have shorter := length_of_closeClass? ‹_›; omega)

/-- Read a pattern. -/
def parse (text : List Char) : Except PatternError (List PatternToken) :=
  parseFrom 0 none text

/-- Whether a file name matches a pattern. -/
def covers (tokens : List PatternToken) (name : List Char) : Bool :=
  match tokens, name with
  | [], name => name.isEmpty
  | .anyText :: rest, [] => covers rest []
  | .anyText :: rest, c :: tail => covers rest (c :: tail) || covers (.anyText :: rest) tail
  | .anyDepth :: rest, [] => covers rest []
  | .anyDepth :: rest, c :: tail => covers rest (c :: tail) || covers (.anyDepth :: rest) tail
  | _ :: _, [] => false
  | .char expected :: rest, c :: tail => expected == c && covers rest tail
  | .anyChar :: rest, _ :: tail => covers rest tail
  | .within members :: rest, c :: tail => members.any (·.covers c) && covers rest tail
  | .outside members :: rest, c :: tail => !members.any (·.covers c) && covers rest tail
termination_by tokens.length + name.length

end Pattern

end ClassDocs
