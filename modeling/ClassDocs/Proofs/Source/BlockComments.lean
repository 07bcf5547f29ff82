import ClassDocs.Proofs.Source.Braces
import ClassDocs.Source.Scan
import Mathlib.Data.List.TakeWhile

namespace ClassDocs

/-- What follows the first mark in a text that closes a block comment. -/
def afterBlock? : List Char → Option (List Char)
  | [] => none
  | '*' :: '/' :: rest => some rest
  | _ :: rest => afterBlock? rest

theorem afterBlock?_cons {c : Char} (plain : c ≠ '*') (rest : List Char) :
    afterBlock? (c :: rest) = afterBlock? rest := by
  rw [afterBlock?]
  intro tail same
  exact absurd same plain

/-- Inside a block comment nothing counts up to the mark that closes it. -/
theorem countBraces_blockComment (line : List Char) :
    countBraces .blockComment line = (afterBlock? line).elim ⟨0, 0, true⟩ (countBraces .code) := by
  fun_induction afterBlock? line with
  | case1 => rfl
  | case2 rest => rw [countBraces, Option.elim_some]
  | case3 c rest plain ih =>
    rw [countBraces, ih]
    exact plain

theorem isBlank_star : isBlank '*' = false := by decide

theorem isBlank_slash : isBlank '/' = false := by decide

theorem not_mem_codeMarks_of_isBlank {c : Char} (blank : isBlank c = true) : c ∉ codeMarks := by
  have solid : codeMarks.all (fun c => !isBlank c) = true := by decide
  intro mark
  have apart := List.all_eq_true.mp solid c mark
  simp [blank] at apart

theorem countBraces_trimStart (line : List Char) : countBraces .code (trimStart line) = countBraces .code line := by
  induction line with
  | nil => rfl
  | cons c line ih =>
    unfold trimStart at ih ⊢
    rw [List.dropWhile_cons]
    split
    · rename_i blank
      rw [ih, countBraces_cons (not_mem_codeMarks_of_isBlank blank)]
    · rfl

theorem afterBlock?_trimStart (line : List Char) : afterBlock? (trimStart line) = afterBlock? line := by
  induction line with
  | nil => rfl
  | cons c line ih =>
    unfold trimStart at ih ⊢
    rw [List.dropWhile_cons]
    split
    · rename_i blank
      have plain : c ≠ '*' := by
        rintro rfl
        rw [isBlank_star] at blank
        cases blank
      rw [ih, afterBlock?_cons plain]
    · rfl

theorem trimStart_eq_nil {line : List Char} (empty : trim line = []) : trimStart line = [] := by
  cases starts : trimStart line with
  | nil => rfl
  | cons c rest =>
    obtain ⟨more, shown⟩ := trim_eq_cons starts
    simp [empty] at shown

/-- An empty line changes nothing, inside of a block comment as outside. -/
theorem lineBraces_of_trim_eq_nil {line : List Char} (empty : trim line = []) (inBlock : Bool) :
    lineBraces inBlock line = ⟨0, 0, inBlock⟩ := by
  have start := trimStart_eq_nil empty
  unfold lineBraces
  cases inBlock with
  | false =>
    rw [if_neg Bool.false_ne_true, ← countBraces_trimStart, start]
    rfl
  | true =>
    rw [if_pos rfl, countBraces_blockComment, ← afterBlock?_trimStart, start]
    rfl

theorem trim_append_blanks (line : List Char) :
    ∃ blanks, (∀ c ∈ blanks, isBlank c = true) ∧ trimStart line = trim line ++ blanks := by
  have whole := List.takeWhile_append_dropWhile (p := isBlank) (l := (trimStart line).reverse)
  refine ⟨((trimStart line).reverse.takeWhile isBlank).reverse, fun c member => ?_, ?_⟩
  · exact List.mem_takeWhile_imp (List.mem_reverse.mp member)
  · rw [trim, trimEnd, ← List.reverse_append, whole, List.reverse_reverse]

namespace Scan

theorem closesBlock_eq (line : List Char) : closesBlock line = (afterBlock? line).isSome := by
  unfold closesBlock
  fun_induction afterBlock? line with
  | case1 => rfl
  | case2 rest => simp [occursIn, List.isPrefixOf]
  | case3 c rest plain ih =>
    have other : ['*', '/'].isPrefixOf (c :: rest) = false := by
      refine Bool.eq_false_iff.mpr fun starts => ?_
      obtain ⟨tail, whole⟩ := List.isPrefixOf_iff_prefix.mp starts
      cases whole
      exact plain tail rfl rfl
    rw [occursIn, other, ih, Bool.false_or]

theorem closesBlock_append {text blanks : List Char} (blank : ∀ c ∈ blanks, isBlank c = true) :
    closesBlock (text ++ blanks) = closesBlock text := by
  have outside {c : Char} (solid : isBlank c = false) : c ∉ blanks := by
    intro member
    simp [blank c member] at solid
  induction text with
  | nil =>
    refine Bool.eq_false_iff.mpr fun closes => outside isBlank_star ?_
    exact (occursIn_iff.mp closes).subset (List.mem_cons_self ..)
  | cons c text ih =>
    unfold closesBlock at ih ⊢
    rw [List.cons_append, occursIn, occursIn, ih]
    cases text with
    | cons d text => simp [List.isPrefixOf]
    | nil =>
      -- a star at the end of the text and a slash behind it would be a closing mark that is new
      cases blanks with
      | nil => rfl
      | cons d blanks =>
        have slash : '/' ≠ d := List.ne_of_not_mem_cons (outside isBlank_slash)
        simp [List.isPrefixOf, slash]

theorem closesBlock_trim (line : List Char) : closesBlock (trim line) = closesBlock line := by
  obtain ⟨blanks, blank, start⟩ := trim_append_blanks line
  have front : closesBlock (trimStart line) = closesBlock line := by
    rw [closesBlock_eq, closesBlock_eq, afterBlock?_trimStart]
  rw [← front, start, closesBlock_append blank]

/-- The line that opens a doc block counts like one inside a block comment. -/
theorem lineBraces_of_opensDoc {line : List Char} (doc : opensDoc (trim line) = true) :
    lineBraces false line = countBraces .blockComment line := by
  obtain ⟨blanks, _, start⟩ := trim_append_blanks line
  obtain ⟨rest, opening⟩ := List.isPrefixOf_iff_prefix.mp doc
  have marks : trimStart line = '/' :: '*' :: '*' :: (rest ++ blanks) := by
    rw [start, ← opening]
    rfl
  have inside : countBraces .code (trimStart line) = countBraces .blockComment ('*' :: (rest ++ blanks)) := by
    rw [marks]
    conv => lhs; rw [countBraces]
  have tail : afterBlock? (trimStart line) = afterBlock? ('*' :: (rest ++ blanks)) := by
    rw [marks, afterBlock?_cons (by decide), afterBlock?]
    simp
  rw [lineBraces, if_neg Bool.false_ne_true, ← countBraces_trimStart, inside, countBraces_blockComment,
    countBraces_blockComment, ← tail, afterBlock?_trimStart]

end Scan

end ClassDocs
