import ClassDocs.Comment
import ClassDocs.Proofs.Source.ScanRun
import ClassDocs.Proofs.Text.Lines
import ClassDocs.Source.Slice

namespace ClassDocs

/-- A text with a carriage return put in front of some of its line feeds, namely of those that are
chosen. The feeds for which there is no choice are left alone. -/
def withReturns : List Bool → List Char → List Char
  | _, [] => []
  | true :: chosen, '\n' :: text => '\r' :: '\n' :: withReturns chosen text
  | _ :: chosen, '\n' :: text => '\n' :: withReturns chosen text
  | chosen, c :: text => c :: withReturns chosen text

theorem lines_cons_congr {c : Char} (noReturn : c ≠ '\r') {rest other : List Char}
    (same : lines rest = lines other) : lines (c :: rest) = lines (c :: other) := by
  have unbroken {tail : List Char} : ∀ next, c = '\r' → tail = '\n' :: next → False :=
    fun _ broken _ => noReturn broken
  by_cases feed : c = '\n'
  · rw [feed, lines, lines, same]
  · rw [lines, lines, same]
    · exact unbroken
    · exact feed
    · exact unbroken
    · exact feed

/-- A carriage return is dropped together with the line feed after it. The text itself has none, so
that no other one is dropped with it. -/
theorem lines_withReturns (chosen : List Bool) {text : List Char} (noReturn : '\r' ∉ text) :
    lines (withReturns chosen text) = lines text := by
  fun_induction withReturns chosen text with
  | case1 => rfl
  | case2 chosen text ih | case3 chosen text _ _ ih =>
    rw [lines, lines, ih (List.not_mem_of_not_mem_cons noReturn)]
  | case4 chosen c text _ _ ih =>
    exact lines_cons_congr (List.ne_of_not_mem_cons noReturn).symm (ih (List.not_mem_of_not_mem_cons noReturn))

theorem unifyBreaks_cons {c : Char} (noReturn : c ≠ '\r') (rest : List Char) :
    unifyBreaks (c :: rest) = c :: unifyBreaks rest := by
  rw [unifyBreaks]
  · intro _ broken
    exact absurd broken noReturn
  · exact noReturn

theorem unifyBreaks_withReturns (chosen : List Bool) {text : List Char} (noReturn : '\r' ∉ text) :
    unifyBreaks (withReturns chosen text) = unifyBreaks text := by
  fun_induction withReturns chosen text with
  | case1 => rfl
  | case2 chosen text ih =>
    rw [unifyBreaks, unifyBreaks_cons (by decide), ih (List.not_mem_of_not_mem_cons noReturn)]
  | case3 chosen text _ _ ih =>
    rw [unifyBreaks_cons (by decide), unifyBreaks_cons (by decide), ih (List.not_mem_of_not_mem_cons noReturn)]
  | case4 chosen c text _ _ ih =>
    have first : c ≠ '\r' := (List.ne_of_not_mem_cons noReturn).symm
    rw [unifyBreaks_cons first, unifyBreaks_cons first, ih (List.not_mem_of_not_mem_cons noReturn)]

/-- Whichever of the two line endings each line has, the same class is found with the same comments
and ranges, the same lines are cut out, and a comment says the same. -/
theorem mixed_endings_read_alike {text : String} (noReturn : '\r' ∉ text.toList) (chosen : List Bool) :
    (∀ name path, scan name path (String.ofList (withReturns chosen text.toList)) = scan name path text) ∧
      (∀ first last, slice (String.ofList (withReturns chosen text.toList)) first last = slice text first last) ∧
      ∀ context, Comment.parse context (String.ofList (withReturns chosen text.toList)) =
        Comment.parse context text := by
  have sameLines := lines_withReturns chosen noReturn
  have sameBreaks := unifyBreaks_withReturns chosen noReturn
  refine ⟨fun name path => ?_, fun first last => ?_, fun context => ?_⟩
  · simp only [scan, String.toList_ofList, sameLines]
  · simp only [slice, lineRange, String.toList_ofList, sameLines]
  · simp only [Comment.parse, String.toList_ofList, sameBreaks]

/-- A class with a doc block. -/
def documentedClass : String :=
  "/**\n * A.\n\n */\nclass A \x7b\n\tfunction f()\n\t\x7b\n\t\x7d\n\x7d"

theorem mixed_endings_read_alike_of_documentedClass :
    '\r' ∉ documentedClass.toList ∧ ∃ mixed,
      mixed = "/**\r\n * A.\n\r\n */\nclass A \x7b\r\n\tfunction f()\n\t\x7b\r\n\t\x7d\n\x7d" ∧
      (∃ outline, scan "a" "a.php" mixed = .ok outline ∧ outline.comment = some "/**\n * A.\n\n */" ∧
        outline.methods = [⟨"f", "a.php", none, 6, 8⟩]) ∧
      slice mixed 6 8 = "function f()\n\x7b\n\x7d" ∧
      Comment.parse ⟨fun entity _ => entity, id, TagRules.standard⟩ mixed =
        Comment.parse ⟨fun entity _ => entity, id, TagRules.standard⟩ documentedClass := by
  have noReturn : '\r' ∉ documentedClass.toList := by decide
  have alike := mixed_endings_read_alike noReturn [true, false, true, false, true, false, true]
  have found : scan "a" "a.php" documentedClass = .ok ⟨"A", "a.php", some "/**\n * A.\n\n */", none,
      [⟨"f", "a.php", none, 6, 8⟩]⟩ := Scan.scan_eq_ok_iff.mpr (by decide +kernel)
  refine ⟨noReturn, _, ?_, ⟨_, (alike.1 "a" "a.php").trans found, rfl, rfl⟩, ?_, alike.2.2 _⟩
  · decide +kernel
  · rw [alike.2.1]
    decide +kernel

end ClassDocs
