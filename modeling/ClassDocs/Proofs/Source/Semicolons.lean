import ClassDocs.Proofs.Source.MethodEnds

namespace ClassDocs

/-- The characters of code from a position of a line on: those outside of string literals and
comments. -/
def codeOf : Lexical → List Char → List Char
  | _, [] => []
  | .blockComment, '*' :: '/' :: rest => codeOf .code rest
  | .blockComment, _ :: rest => codeOf .blockComment rest
  | .quoted _, ['\\'] => []
  | .quoted quote, '\\' :: _ :: rest => codeOf (.quoted quote) rest
  | .quoted quote, c :: rest => codeOf (if c = quote then .code else .quoted quote) rest
  | .code, '/' :: '*' :: rest => codeOf .blockComment rest
  | .code, '/' :: '/' :: _ => []
  | .code, '#' :: _ => []
  | .code, c :: rest =>
    if c = '"' || c.toNat = 39 then codeOf (.quoted c) rest else c :: codeOf .code rest

/-- The braces that are counted are those of the code. -/
theorem countBraces_eq_count (lexical : Lexical) (line : List Char) :
    (countBraces lexical line).opens = (codeOf lexical line).count '\x7b' ∧
      (countBraces lexical line).closes = (codeOf lexical line).count '\x7d' := by
  fun_induction countBraces lexical line with
  | case1 => simp [codeOf]
  | case2 => simp [codeOf]
  | case3 => simp [codeOf]
  | case4 rest ih => simpa [codeOf] using ih
  | case5 c rest plain ih =>
    rw [codeOf]
    · exact ih
    · exact plain
  | case6 => simp [codeOf]
  | case7 quote c rest ih => simpa [codeOf] using ih
  | case8 quote c rest single escape ih =>
    rw [codeOf]
    · exact ih
    · exact single
    · exact escape
  | case9 rest ih => simpa [codeOf] using ih
  | case10 => simp [codeOf]
  | case11 => simp [codeOf]
  | case12 rest tail ih => simpa [codeOf, tail] using ih
  | case13 rest tail ih => simpa [codeOf, tail] using ih
  | case14 c rest noBlock noLine noHash noOpen noClose ih =>
    rw [codeOf]
    · split
      · rename_i quote
        rwa [if_pos quote] at ih
      · rename_i plain
        rw [if_neg plain] at ih
        rw [List.count_cons_of_ne noOpen, List.count_cons_of_ne noClose]
        exact ih
    · exact noBlock
    · exact noLine
    · exact noHash

namespace Scan

/-- The code of the line of a number in a text that is read from the line `first` on, where no comment
is open. -/
def codeOn (text : List (List Char)) (first number : Nat) : List Char :=
  (text[number - 1]?).elim [] (codeOf (if (bracesOver text first (number - 1)).inBlock then .blockComment else .code))

/-- Read from the line `first` on, the code comes to a semicolon before any opening brace, and that on
the line `stop`. -/
structure SemicolonAt (text : List (List Char)) (first stop : Nat) : Prop where
  order : first ≤ stop
  before : ∀ number, first ≤ number → number < stop →
    ';' ∉ codeOn text first number ∧ '\x7b' ∉ codeOn text first number
  here : ∃ front rest, codeOn text first stop = front ++ ';' :: rest ∧ ';' ∉ front ∧ '\x7b' ∉ front

section Braces

variable {text : List (List Char)} {first count stop : Nat} {line : List Char}

theorem opens_bracesOver_succ (positive : 0 < first) (order : first ≤ count + 1) (here : text[count]? = some line) :
    (bracesOver text first (count + 1)).opens =
      (bracesOver text first count).opens + (codeOn text first (count + 1)).count '\x7b' := by
  rw [bracesOver_succ positive order here, LineBraces.followedBy_opens, lineBraces, (countBraces_eq_count _ _).1,
    codeOn, Nat.add_sub_cancel, here, Option.elim_some]

theorem bracesOver_of_lt {last : Nat} (reversed : last < first) : bracesOver text first last = ⟨0, 0, false⟩ := by
  rw [bracesOver, linesOver, Nat.sub_eq_zero_of_le reversed, List.take_zero]
  rfl

theorem SemicolonAt.bounded (semicolon : SemicolonAt text first stop) : stop ≤ text.length := by
  obtain ⟨front, rest, code, _⟩ := semicolon.here
  refine Nat.not_lt.mp fun past => ?_
  rw [codeOn, List.getElem?_eq_none_iff.mpr (by omega)] at code
  simp at code

/-- In front of the line of the semicolon no brace is opened. -/
theorem SemicolonAt.opens_eq_zero (semicolon : SemicolonAt text first stop) (positive : 0 < first)
    (earlier : count < stop) : (bracesOver text first count).opens = 0 := by
  induction count with
  | zero => rw [bracesOver_of_lt positive]
  | succ count ih =>
    by_cases order : first ≤ count + 1
    · have bounded := semicolon.bounded
      have here : text[count]? = some text[count] := List.getElem?_eq_getElem (by omega)
      have absent := (semicolon.before (count + 1) order earlier).2
      rw [opens_bracesOver_succ positive order here, ih (by omega), List.count_eq_zero_of_not_mem absent]
    · rw [bracesOver_of_lt (by omega)]

/-- No braces close in front of the line of the semicolon, since none were opened. -/
theorem SemicolonAt.le_of_mem_closings (semicolon : SemicolonAt text first stop) (positive : 0 < first) {last : Nat}
    (closing : last ∈ closings text first) : stop ≤ last := by
  refine Nat.not_lt.mp fun earlier => ?_
  have none := semicolon.opens_eq_zero positive earlier
  have opened := closing.2.1
  omega

end Braces

/-- When exactly a method whose declaration comes to a semicolon before any opening brace ends on the
line of that semicolon. Either its first line ends in one, then the semicolon must stand there; or it
does not, then the scanner waits for braces, which must be opened and closed behind the semicolon on its
line, or for the end of the text. -/
theorem method_ends_at_semicolon_iff {name path content : String} {outline : ClassOutline}
    (found : scan name path content = .ok outline) {method : MethodOutline} (member : method ∈ outline.methods)
    {stop : Nat} (semicolon : SemicolonAt (lines content.toList) method.first stop) :
    ∃ line, (lines content.toList)[method.first - 1]? = some line ∧
      (method.last = stop ↔
        Bodiless line ∧ stop = method.first ∨
        ¬ Bodiless line ∧
          (stop ∈ closings (lines content.toList) method.first ∨ stop = (lines content.toList).length)) := by
  have fits := fits_of_scan found method member
  have bounded := fits.bounded
  obtain ⟨line, here, bodiless, bodied⟩ := endsExactly_of_scan found method member
  refine ⟨line, here, ?_⟩
  by_cases body : Bodiless line
  · have last := bodiless body
    simp only [body, true_and, not_true_eq_false, false_and, or_false]
    omega
  simp only [body, false_and, not_false_eq_true, true_and, false_or]
  rcases bodied body with ⟨closing, least⟩ | ⟨none, last⟩
  · have behind := semicolon.le_of_mem_closings fits.positive closing
    constructor
    · rintro rfl
      exact Or.inl closing
    · rintro (closes | ending)
      · exact Nat.le_antisymm (least closes) behind
      · omega
  · rw [last]
    constructor
    · rintro rfl
      exact Or.inr rfl
    · rintro (closes | ending)
      · exact absurd closes (none _)
      · exact ending.symm

/-- A class with a declaration that ends in a semicolon, and one with parameters on several lines and
braces behind its semicolon. -/
def semicolons : String :=
  "abstract class A \x7b\n\tabstract function f($a = ';') ;\n\tfunction g(\n\t\t$b // ;\n\t); \x7b\x7d\n\x7d\n"

theorem method_ends_at_semicolon_of_semicolons :
    ∃ outline, scan "a" "a.php" semicolons = .ok outline ∧
      (∃ method ∈ outline.methods, method.name = "f" ∧ SemicolonAt (lines semicolons.toList) method.first 2 ∧
        method.last = 2) ∧
      ∃ method ∈ outline.methods, method.name = "g" ∧ SemicolonAt (lines semicolons.toList) method.first 5 ∧
        method.last = 5 := by
  have text : lines semicolons.toList = ["abstract class A \x7b".toList, "\tabstract function f($a = ';') ;".toList,
      "\tfunction g(".toList, "\t\t$b // ;".toList, "\t); \x7b\x7d".toList, "\x7d".toList] := by decide +kernel
  have found : scan "a" "a.php" semicolons = .ok ⟨"A", "a.php", none, none,
      [⟨"f", "a.php", none, 2, 2⟩, ⟨"g", "a.php", none, 3, 5⟩]⟩ :=
    scan_eq_ok_iff.mpr (by rw [text]; decide +kernel)
  have first : SemicolonAt (lines semicolons.toList) 2 2 := by
    rw [text]
    exact ⟨Nat.le_refl _, fun number lower upper => absurd upper (Nat.not_lt.mpr lower),
      "\tabstract function f($a = ) ".toList, [], by decide +kernel, by decide +kernel⟩
  have second : SemicolonAt (lines semicolons.toList) 3 5 := by
    rw [text]
    refine ⟨by decide, fun number lower upper => ?_, "\t)".toList, " \x7b\x7d".toList, by decide +kernel, by decide⟩
    have inFront : number = 3 ∨ number = 4 := by omega
    rcases inFront with rfl | rfl
    · decide +kernel
    · decide +kernel
  obtain ⟨line, here, ends⟩ := method_ends_at_semicolon_iff found (List.mem_cons_self ..) first
  obtain ⟨other, there, otherEnds⟩ :=
    method_ends_at_semicolon_iff found (List.mem_cons_of_mem _ (List.mem_cons_self ..)) second
  rw [text] at here there ends otherEnds
  cases Option.some.inj here
  cases Option.some.inj there
  refine ⟨_, found, ⟨_, List.mem_cons_self .., rfl, first, ends.mpr (Or.inl ⟨by decide +kernel, rfl⟩)⟩,
    _, List.mem_cons_of_mem _ (List.mem_cons_self ..), rfl, second, otherEnds.mpr (Or.inr ⟨by decide +kernel, ?_⟩)⟩
  exact Or.inl ⟨by decide, by decide +kernel, by decide +kernel⟩

/-- A class with a method without a body, behind whose semicolon a comment stands, and another method. -/
def commentBehindSemicolon : String :=
  "abstract class A \x7b\n\tabstract function f(); // later\n\tfunction g() \x7b\x7d\n\x7d\n"

/-- The comment hides the end of the declaration, so that the next method is taken in and lost. -/
theorem commented_semicolon_takes_next_method :
    ∃ method, scan "a" "a.php" commentBehindSemicolon = .ok ⟨"A", "a.php", none, none, [method]⟩ ∧
      method.name = "f" ∧ SemicolonAt (lines commentBehindSemicolon.toList) method.first 2 ∧ method.last = 3 := by
  refine ⟨⟨"f", "a.php", none, 2, 3⟩, scan_eq_ok_iff.mpr (by decide +kernel), rfl, ?_, rfl⟩
  exact ⟨Nat.le_refl _, fun number lower upper => absurd upper (Nat.not_lt.mpr lower),
    "\tabstract function f()".toList, " ".toList, by decide +kernel, by decide +kernel⟩

end Scan

end ClassDocs
