import ClassDocs.Files.Pattern
import ClassDocs.Proofs.Except

namespace ClassDocs

namespace Pattern

/-- The characters that a pattern gives a meaning to. -/
def isSpecial (c : Char) : Bool :=
  c == '?' || c == '*' || c == '[' || c == ']'

/-- What an escaped character is read as. -/
def literal (c : Char) : PatternToken :=
  if isSpecial c then .within [.one c] else .char c

/-- No character of the text begins a wildcard or a class. -/
def Plain (text : List Char) : Prop :=
  ∀ c ∈ text, c ≠ '?' ∧ c ≠ '*' ∧ c ≠ '['

theorem escape_cons (c : Char) (text : List Char) :
    escape (c :: text) = (if isSpecial c then ['[', c, ']'] else [c]) ++ escape text := by
  rw [escape, List.flatMap_cons, ← escape]
  rfl

theorem parseFrom_char {c : Char} (plain : c ≠ '?' ∧ c ≠ '*' ∧ c ≠ '[') (position : Nat)
    (previous : Option Char) (rest : List Char) :
    parseFrom position previous (c :: rest) = (parseFrom (position + 1) (some c) rest).map (.char c :: ·) := by
  obtain ⟨question, star, bracket⟩ := plain
  rw [parseFrom]
  all_goals simp_all

theorem closeClass?_single (c : Char) (rest : List Char) :
    closeClass? c (']' :: rest) = some ([.one c], rest) := by
  simp [closeClass?, spans]

theorem parseFrom_class {c : Char} (open' : c ≠ '!') (position : Nat) (previous : Option Char)
    (rest : List Char) :
    parseFrom position previous ('[' :: c :: ']' :: rest) =
      (parseFrom (position + 3) (some ']') rest).map (.within [.one c] :: ·) := by
  rw [parseFrom]
  · split
    · rename_i members after closed
      rw [closeClass?_single] at closed
      cases closed
      simp
    · rename_i closed
      simp [closeClass?_single] at closed
  all_goals simp_all

/-- An escaped text is read one character after the other, whatever follows it. -/
theorem parseFrom_escape (text rest : List Char) (position : Nat) (previous : Option Char) :
    ∃ place before, parseFrom position previous (escape text ++ rest) =
      (parseFrom place before rest).map (text.map literal ++ ·) := by
  induction text generalizing position previous with
  | nil =>
    refine ⟨position, previous, ?_⟩
    change parseFrom position previous rest = _
    cases parseFrom position previous rest <;> rfl
  | cons c text ih =>
    by_cases special : isSpecial c = true
    · have named : c ≠ '!' := by
        rintro rfl
        cases special
      obtain ⟨place, before, read⟩ := ih (position + 3) (some ']')
      refine ⟨place, before, ?_⟩
      rw [escape_cons, if_pos special, List.append_assoc]
      change parseFrom position previous ('[' :: c :: ']' :: (escape text ++ rest)) = _
      rw [parseFrom_class named, read, List.map_cons, literal, if_pos special]
      cases parseFrom place before rest <;> rfl
    · have plain : c ≠ '?' ∧ c ≠ '*' ∧ c ≠ '[' := by
        simp only [isSpecial, Bool.or_eq_true, beq_iff_eq, not_or] at special
        exact ⟨special.1.1.1, special.1.1.2, special.1.2⟩
      obtain ⟨place, before, read⟩ := ih (position + 1) (some c)
      refine ⟨place, before, ?_⟩
      rw [escape_cons, if_neg special, List.append_assoc, List.singleton_append, parseFrom_char plain, read,
        List.map_cons, literal, if_neg special]
      cases parseFrom place before rest <;> rfl

theorem parse_escape (text : List Char) : parse (escape text) = .ok (text.map literal) := by
  obtain ⟨place, before, read⟩ := parseFrom_escape text [] 0 none
  rw [List.append_nil] at read
  rw [parse, read, parseFrom]
  change Except.ok (text.map literal ++ []) = _
  rw [List.append_nil]

/-- Where a text stands has no influence on whether it can be read, and as what. -/
theorem parseFrom_toOption (text : List Char) (previous : Option Char) (position other : Nat) :
    (parseFrom position previous text).toOption = (parseFrom other previous text).toOption := by
  fun_induction parseFrom position previous text generalizing other with
  | case1 => rw [parseFrom]
  | case2 position previous rest ih => rw [parseFrom, toOption_map, toOption_map, ih]
  | case3 | case13 | case16 =>
    rw [parseFrom]
    rfl
  | case4 position previous alone => rw [parseFrom, if_pos alone]
  | case5 position previous shared | case7 position previous _ shared =>
    rw [parseFrom, if_neg shared]
    rfl
  | case6 position previous rest alone ih => rw [parseFrom, if_pos alone, toOption_map, toOption_map, ih]
  | case8 position previous rest _ _ _ alone =>
    rw [parseFrom, if_pos alone]
    · rfl
    all_goals assumption
  | case9 position previous rest _ _ _ shared =>
    rw [parseFrom, if_neg shared]
    · rfl
    all_goals assumption
  | case10 | case17 =>
    rename_i ih
    rw [parseFrom, toOption_map, toOption_map, ih]
    all_goals assumption
  | case11 position previous first rest members after closed ih
  | case14 position previous first rest _ _ members after closed ih =>
    rw [parseFrom]
    · split
      · rename_i same
        cases Option.some.inj (same.symm.trans closed)
        rw [toOption_map, toOption_map, ih]
      · rename_i opened
        simp [opened] at closed
    all_goals assumption
  | case12 position previous first rest opened | case15 position previous first rest _ _ opened =>
    rw [parseFrom]
    · split
      · rename_i closed
        simp [opened] at closed
      · rfl
    all_goals assumption

theorem parseFrom_plain {text : List Char} (plain : Plain text) (position : Nat) (previous : Option Char) :
    parseFrom position previous text = .ok (text.map .char) := by
  induction text generalizing position previous with
  | nil => rw [parseFrom, List.map_nil]
  | cons c text ih =>
    rw [parseFrom_char (plain c (List.mem_cons_self ..)),
      ih fun d member => plain d (List.mem_cons_of_mem _ member)]
    rfl

/-- A star and a dot in front of an extension. -/
theorem parseFrom_ending {extension : List Char} (plain : Plain extension) (position : Nat)
    (previous : Option Char) :
    parseFrom position previous ('*' :: '.' :: extension) = .ok (.anyText :: ('.' :: extension).map .char) := by
  have dotted : Plain ('.' :: extension) := by
    intro c member
    rcases List.mem_cons.mp member with rfl | inside
    · decide
    · exact plain c inside
  rw [parseFrom, parseFrom_plain dotted]
  · rfl
  all_goals simp

theorem parse_stars : parse ['*', '*'] = .ok [.anyDepth] := by
  rw [parse, parseFrom]
  rfl

/-- The pattern of all files below a directory can be read, however the directory is named. -/
theorem parse_below (root : List Char) {extension : List Char} (plain : Plain extension) :
    ∃ tokens, parse (escape root ++ "/**/*.".toList ++ extension) = .ok tokens := by
  obtain ⟨place, before, read⟩ := parseFrom_escape root ("/**/*.".toList ++ extension) 0 none
  have slash : "/**/*.".toList ++ extension = '/' :: '*' :: '*' :: '/' :: '*' :: '.' :: extension := rfl
  rw [List.append_assoc, parse, read, slash, parseFrom_char (by decide), parseFrom, if_pos (by rfl),
    parseFrom_ending plain]
  exact ⟨_, rfl⟩

section Covers

/-- A text of which every character stands for itself matches itself only. -/
theorem covers_map {token : Char → PatternToken}
    (single : ∀ c, token c = .char c ∨ token c = .within [.one c]) (text name : List Char) :
    covers (text.map token) name = true ↔ name = text := by
  induction text generalizing name with
  | nil => simp [covers]
  | cons c text ih =>
    cases name with
    | nil => rcases single c with same | same <;> simp [same, covers]
    | cons d tail =>
      have first : covers (token c :: text.map token) (d :: tail) = (c == d && covers (text.map token) tail) := by
        rcases single c with same | same
        · rw [same, covers]
        · simp [same, covers, CharSpan.covers]
      rw [List.map_cons, first, Bool.and_eq_true, beq_iff_eq, ih, List.cons.injEq]
      exact and_congr eq_comm Iff.rfl

theorem covers_literal (text name : List Char) : covers (text.map literal) name = true ↔ name = text := by
  refine covers_map (fun c => ?_) text name
  unfold literal
  split
  · exact Or.inr rfl
  · exact Or.inl rfl

theorem covers_anyText (tokens : List PatternToken) (name : List Char) :
    covers (.anyText :: tokens) name = true ↔ ∃ rest, rest <:+ name ∧ covers tokens rest = true := by
  induction name with
  | nil => simp [covers]
  | cons c tail ih =>
    rw [covers, Bool.or_eq_true, ih]
    constructor
    · rintro (whole | ⟨rest, suffix, covered⟩)
      · exact ⟨c :: tail, List.suffix_refl _, whole⟩
      · exact ⟨rest, suffix.trans (List.suffix_cons ..), covered⟩
    · rintro ⟨rest, suffix, covered⟩
      rcases List.suffix_cons_iff.mp suffix with rfl | inTail
      · exact Or.inl covered
      · exact Or.inr ⟨rest, inTail, covered⟩

/-- A star in front of a text matches the names that end with the text. -/
theorem covers_ending (text name : List Char) :
    covers (.anyText :: text.map .char) name = true ↔ text <:+ name := by
  rw [covers_anyText]
  constructor
  · rintro ⟨rest, suffix, covered⟩
    rw [covers_map fun _ => Or.inl rfl] at covered
    exact covered ▸ suffix
  · intro suffix
    exact ⟨text, suffix, (covers_map (fun _ => Or.inl rfl) text text).mpr rfl⟩

end Covers

end Pattern

end ClassDocs
