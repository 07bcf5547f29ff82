import ClassDocs.Proofs.Source.DocLines
import ClassDocs.Proofs.Source.MethodEnds

namespace ClassDocs

namespace Scan

/-- Whether a comment is open in front of a line. The scanner keeps doc blocks and block comments
apart. -/
def State.inComment (state : State) : Bool :=
  state.inDoc || state.inBlock

/-- The scanner keeps the nesting and the open comment that all lines so far come to when the braces
of every one of them are counted, those of doc blocks included. -/
def InStep (path : String) (text : List (List Char)) (count : Nat) : Prop :=
  (after path text count).depth = (bracesOver text 1 count).net ∧
    (after path text count).inComment = (bracesOver text 1 count).inBlock

section Steps

variable {path : String} {state next : State} {number : Nat} {line : List Char}

theorem State.inComment_of_not_readsDoc (reads : state.readsDoc line = false) : state.inComment = state.inBlock := by
  cases inside : state.inDoc with
  | true => simp [State.readsDoc_of_inDoc inside] at reads
  | false => rw [State.inComment, inside, Bool.false_or]

/-- A line of a doc block counts like one inside a block comment, also the one that opens it. -/
theorem State.lineBraces_of_readsDoc (outside : state.DocsOutside) (reads : state.readsDoc line = true) :
    lineBraces state.inComment line = countBraces .blockComment line := by
  cases inside : state.inDoc with
  | true => rw [State.inComment, inside, Bool.true_or, lineBraces, if_pos rfl]
  | false =>
    rw [State.inComment, inside, outside.inBlock_eq reads, Bool.false_or]
    refine lineBraces_of_opensDoc ?_
    unfold State.readsDoc at reads
    cases place : state.place with
    | docBlock before => exact absurd place (State.place_ne_docBlock inside before)
    | method => simp [place] at reads
    | between =>
      rw [place, Bool.and_eq_true] at reads
      exact reads.2

theorem Step.of_readsDoc (step : Step path state number line next) (outside : state.DocsOutside)
    (reads : state.readsDoc line = true) :
    next.depth = state.depth ∧ next.inComment = !closesBlock line := by
  obtain ⟨depth, block⟩ := step.lexical
  rw [State.counted_eq, if_pos reads] at depth block
  refine ⟨depth.trans (Int.add_zero _), ?_⟩
  rw [State.inComment, step.inDoc_eq, block, outside.inBlock_eq reads, reads, Bool.true_and, Bool.or_false]

/-- Every line that does not end a doc block does to the nesting what its braces do, the lines of doc
blocks too, which the scanner does not count. -/
theorem Step.counts (step : Step path state number line next) (outside : state.DocsOutside)
    (ends : state.endsDoc line = false) :
    next.depth = state.depth + (lineBraces state.inComment line).net ∧
      next.inComment = (lineBraces state.inComment line).inBlock := by
  cases reads : state.readsDoc line with
  | false =>
    obtain ⟨depth, block⟩ := step.lexical
    rw [State.counted_eq, reads, if_neg Bool.false_ne_true] at depth block
    rw [State.inComment_of_not_readsDoc reads, State.inComment, step.inDoc_eq, reads, Bool.false_and, Bool.false_or]
    exact ⟨depth, block⟩
  | true =>
    obtain ⟨depth, comment⟩ := step.of_readsDoc outside reads
    rw [State.endsDoc_eq, reads, Bool.true_and] at ends
    have unclosed : afterBlock? line = none := by
      rw [closesBlock_eq] at ends
      simpa using ends
    rw [State.lineBraces_of_readsDoc outside reads, countBraces_blockComment, unclosed, depth, comment, ends]
    exact ⟨(Int.add_zero _).symm, rfl⟩

/-- The line that ends a doc block does nothing to the nesting, whatever follows the closing mark. -/
theorem Step.skips (step : Step path state number line next) (outside : state.DocsOutside)
    (ends : state.endsDoc line = true) :
    next.place = .between ∧ next.depth = state.depth ∧ next.inComment = false ∧
      ∃ tail, afterBlock? line = some tail ∧ lineBraces state.inComment line = lineBraces false tail := by
  have between := step.between_of_endsDoc ends
  rw [State.endsDoc_eq, Bool.and_eq_true] at ends
  obtain ⟨reads, closed⟩ := ends
  obtain ⟨depth, comment⟩ := step.of_readsDoc outside reads
  refine ⟨between, depth, by rw [comment, closed]; rfl, ?_⟩
  rw [closesBlock_eq] at closed
  obtain ⟨tail, found⟩ := Option.isSome_iff_exists.mp closed
  refine ⟨tail, found, ?_⟩
  rw [State.lineBraces_of_readsDoc outside reads, countBraces_blockComment, found]
  rfl

end Steps

section Runs

variable {path : String} {text : List (List Char)} {count : Nat} {line : List Char}

theorem InStep.bracesOver_next (inStep : InStep path text count) (here : text[count]? = some line) :
    bracesOver text 1 (count + 1) =
      (bracesOver text 1 count).followedBy (lineBraces (after path text count).inComment line) := by
  rw [bracesOver_succ Nat.one_pos (by omega) here, inStep.2]

theorem InStep.next (inStep : InStep path text count) (here : text[count]? = some line)
    (ends : (after path text count).endsDoc line = false) : InStep path text (count + 1) := by
  obtain ⟨depth, comment⟩ :=
    ((after path text count).step_spec path (count + 1) line).counts (after_docsOutside path text count) ends
  rw [InStep, inStep.bracesOver_next here, after_succ here, LineBraces.followedBy_net, LineBraces.followedBy_inBlock]
  exact ⟨by rw [depth, inStep.1], comment⟩

/-- After a doc block the scanner is in step exactly if what follows the closing mark has no part in the
nesting. -/
theorem InStep.next_iff (inStep : InStep path text count) (here : text[count]? = some line)
    (ends : (after path text count).endsDoc line = true) :
    (after path text (count + 1)).place = .between ∧ ∃ tail, afterBlock? line = some tail ∧
      (InStep path text (count + 1) ↔ (lineBraces false tail).net = 0 ∧ (lineBraces false tail).inBlock = false) := by
  obtain ⟨place, depth, comment, tail, found, braces⟩ :=
    ((after path text count).step_spec path (count + 1) line).skips (after_docsOutside path text count) ends
  rw [← after_succ here] at place depth comment
  refine ⟨place, tail, found, ?_⟩
  rw [InStep, inStep.bracesOver_next here, braces, depth, comment, LineBraces.followedBy_net,
    LineBraces.followedBy_inBlock, inStep.1]
  constructor
  · rintro ⟨net, block⟩
    exact ⟨by omega, block.symm⟩
  · rintro ⟨net, block⟩
    exact ⟨by omega, block.symm⟩

theorem inStep_of_between (between : (after path text count).place = .between) :
    InStep path text count ↔
      (after path text count).depth = (bracesOver text 1 count).net ∧
        (after path text count).inBlock = (bracesOver text 1 count).inBlock := by
  rw [InStep, State.inComment, State.inDoc, between, Bool.false_or]

/-- Only the ends of doc blocks can bring the scanner out of step. -/
theorem inStep_of_ends
    (behind : ∀ count line, count + 1 < text.length → text[count]? = some line →
      (after path text count).endsDoc line = true → InStep path text count → InStep path text (count + 1))
    (bounded : count < text.length) : InStep path text count := by
  induction count with
  | zero => exact ⟨rfl, rfl⟩
  | succ count ih =>
    have here : text[count]? = some text[count] := List.getElem?_eq_getElem (by omega)
    have inStep := ih (by omega)
    cases ends : (after path text count).endsDoc text[count] with
    | false => exact inStep.next here ends
    | true => exact behind count _ bounded here ends inStep

end Runs

/-- When exactly the nesting and the block comment flag that the scanner uses, wherever it is outside of
doc blocks and methods, are those of all lines before. The scanner drops what follows the closing mark
of a doc block on its line, so that code must have no part in the nesting. -/
theorem nesting_counts_all_lines_iff (path content : String) :
    (∀ count < (lines content.toList).length, (after path (lines content.toList) count).place = .between →
      (after path (lines content.toList) count).depth = (bracesOver (lines content.toList) 1 count).net ∧
        (after path (lines content.toList) count).inBlock = (bracesOver (lines content.toList) 1 count).inBlock) ↔
    ∀ count line tail, count + 1 < (lines content.toList).length → (lines content.toList)[count]? = some line →
      (after path (lines content.toList) count).endsDoc line = true → afterBlock? line = some tail →
      (lineBraces false tail).net = 0 ∧ (lineBraces false tail).inBlock = false := by
  constructor
  · intro agrees count line tail bounded here ends found
    have outside : ∀ count < (lines content.toList).length, (after path (lines content.toList) count).place = .between →
        InStep path (lines content.toList) count :=
      fun count bounded between => (inStep_of_between between).mpr (agrees count bounded between)
    have inStep : InStep path (lines content.toList) count := by
      refine inStep_of_ends (fun count line bounded here ends inStep => ?_) (by omega)
      exact outside (count + 1) bounded (inStep.next_iff here ends).1
    obtain ⟨between, other, behind, same⟩ := inStep.next_iff here ends
    cases Option.some.inj (found.symm.trans behind)
    exact same.mp (outside (count + 1) bounded between)
  · intro clean count bounded between
    refine (inStep_of_between between).mp (inStep_of_ends (fun count line bounded here ends inStep => ?_) bounded)
    obtain ⟨_, tail, found, same⟩ := inStep.next_iff here ends
    exact same.mpr (clean count line tail bounded here ends found)

/-- A class that uses a trait in a block whose closing brace stands behind a doc block. -/
def braceBehindDoc : String :=
  "class A \x7b\n\tuse T \x7b\n\t\tb as c;\n\t/** end of T */ \x7d\n\tpublic $x;\n\tfunction g() \x7b\x7d\n\x7d\n"

/-- The closing brace is not counted, so the line behind it is read too deep and the method of the class
is lost. -/
theorem nesting_misses_brace_behind_doc :
    (lines braceBehindDoc.toList)[4]? = some "\tpublic $x;".toList ∧
      (after "a.php" (lines braceBehindDoc.toList) 4).AtCode "\tpublic $x;".toList ∧
      (after "a.php" (lines braceBehindDoc.toList) 4).depth = 2 ∧
      (bracesOver (lines braceBehindDoc.toList) 1 4).net = 1 ∧
      scan "a" "a.php" braceBehindDoc = .ok ⟨"A", "a.php", none, none, []⟩ := by
  have text : lines braceBehindDoc.toList = ["class A \x7b".toList, "\tuse T \x7b".toList, "\t\tb as c;".toList,
      "\t/** end of T */ \x7d".toList, "\tpublic $x;".toList, "\tfunction g() \x7b\x7d".toList, "\x7d".toList] := by
    decide +kernel
  rw [scan_eq_ok_iff, text]
  refine ⟨rfl, ⟨?_, ?_, ?_, ?_⟩, ?_, ?_, ?_⟩
  all_goals decide +kernel

end Scan

end ClassDocs
