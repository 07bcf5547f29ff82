import ClassDocs.Proofs.Source.Ranges
import Mathlib.Data.List.TakeWhile

namespace ClassDocs

/-- The lines whose numbers, counted from one, lie between two numbers. -/
def linesBetween (text : List (List Char)) (first last : Nat) : List (List Char) :=
  ((text.zipIdx 1).filter fun line => decide (first ≤ line.2 ∧ line.2 ≤ last)).map (·.1)

/-- Some line of a text has a number between two others. -/
def ReachesLines (text : List (List Char)) (first last : Nat) : Prop :=
  ∃ number, (max first 1 ≤ number ∧ number ≤ last) ∧ 1 ≤ number ∧ number ≤ text.length

/-- The white space in front of a line, as far as it goes. -/
structure IsIndentation (space line : List Char) : Prop where
  leads : space <+: line
  blank : ∀ c ∈ space, isBlank c = true
  longest : ∀ other, other <+: line → (∀ c ∈ other, isBlank c = true) → other.length ≤ space.length

section Range

variable (text : List (List Char)) (first last : Nat)

theorem filter_zipIdx_eq (start : Nat) :
    ((text.zipIdx start).filter fun line => decide (first ≤ line.2 ∧ line.2 ≤ last)).map (·.1) =
      (text.drop (first - start)).take (last + 1 - max first start) := by
  induction text generalizing start with
  | nil => simp
  | cons line rest ih =>
    rw [List.zipIdx_cons, List.filter_cons]
    by_cases early : start < first
    · -- the range begins behind this line
      have skipped : first - start = (first - (start + 1)) + 1 := by omega
      have width : max first (start + 1) = max first start := by omega
      rw [if_neg (by simp; omega), ih, skipped, List.drop_succ_cons, width]
    by_cases inside : start ≤ last
    · have kept : last + 1 - max first start = (last + 1 - max first (start + 1)) + 1 := by omega
      have before : first - start = 0 := by omega
      have next : first - (start + 1) = 0 := by omega
      rw [if_pos (by simp; omega), List.map_cons, ih, kept, before, next, List.drop_zero, List.drop_zero,
        List.take_succ_cons]
    · have none : last + 1 - max first start = 0 := by omega
      have later : last + 1 - max first (start + 1) = 0 := by omega
      rw [if_neg (by simp; omega), ih, none, later, List.take_zero, List.take_zero]

/-- Whatever the two numbers are, the range consists of the lines between them. -/
theorem lineRange_eq_linesBetween (content : List Char) :
    lineRange content first last =
      linesBetween (lines content) (max first 1) (min last (lines content).length) := by
  have bounds : ∀ line ∈ (lines content).zipIdx 1,
      decide (max first 1 ≤ line.2 ∧ line.2 ≤ min last (lines content).length) =
        decide (first ≤ line.2 ∧ line.2 ≤ last) := by
    rintro ⟨line, number⟩ member
    obtain ⟨lower, upper, _⟩ := List.mem_zipIdx member
    rw [decide_eq_decide]
    dsimp only
    omega
  rw [linesBetween, List.filter_congr bounds, filter_zipIdx_eq, lineRange]

theorem lineRange_eq_nil_iff (content : List Char) :
    lineRange content first last = [] ↔
      ¬ ReachesLines (lines content) first last := by
  have count : (lineRange content first last).length =
      min (last + 1 - max first 1) ((lines content).length - (first - 1)) := by
    rw [lineRange, List.length_take, List.length_drop]
  rw [← List.length_eq_zero_iff, count]
  constructor
  · rintro empty ⟨number, _⟩
    omega
  · intro none
    refine Classical.byContradiction fun some => none ⟨max first 1, ?_⟩
    omega

end Range

theorem isIndentation_iff {space line : List Char} : IsIndentation space line ↔ space = line.takeWhile isBlank := by
  have longest : ∀ other, other <+: line → (∀ c ∈ other, isBlank c = true) → other <+: line.takeWhile isBlank := by
    rintro other ⟨rest, rfl⟩ blank
    rw [List.takeWhile_append_of_pos blank]
    exact List.prefix_append _ _
  have leads : line.takeWhile isBlank <+: line := List.takeWhile_prefix _
  have blank : ∀ c ∈ line.takeWhile isBlank, isBlank c = true := fun _ member => List.mem_takeWhile_imp member
  constructor
  · intro indentation
    have within := longest space indentation.leads indentation.blank
    exact within.eq_of_length_le (indentation.longest _ leads blank)
  · rintro rfl
    exact ⟨leads, blank, fun other start solid => (longest other start solid).length_le⟩

/-- A slice shows the lines between its two numbers, each without as many characters as the first of
them has white space in front, or without all of them if it is shorter. Where all of these begin with
that white space, it can be put back. -/
theorem slice_cuts_first_indentation (content : String) (first last : Nat) :
    (¬ ReachesLines (lines content.toList) first last → slice content first last = "") ∧
    (ReachesLines (lines content.toList) first last →
      ∃ range line space, range = linesBetween (lines content.toList) (max first 1)
          (min last (lines content.toList).length) ∧
        range.head? = some line ∧ IsIndentation space line ∧
        (splitAtChar '\n' (slice content first last).toList).length = range.length ∧
        (∀ (index : Nat) (line : List Char), range[index]? = some line →
          (splitAtChar '\n' (slice content first last).toList)[index]? =
            some (line.drop (min space.length line.length))) ∧
        ((∀ line ∈ range, space <+: line) →
          (splitAtChar '\n' (slice content first last).toList).map (space ++ ·) = range)) ∧
    slice content 0 last = slice content 1 last := by
  refine ⟨fun outside => ?_, fun inside => ?_, rfl⟩
  · rw [slice, (lineRange_eq_nil_iff first last content.toList).mpr outside]
    rfl
  · have nonempty : lineRange content.toList first last ≠ [] :=
      fun empty => (lineRange_eq_nil_iff first last content.toList).mp empty inside
    obtain ⟨line, rest, range⟩ := List.exists_cons_of_ne_nil nonempty
    have starts : (lineRange content.toList first last).head? = some line := by rw [range, List.head?_cons]
    have shown := splitAtChar_slice starts
    refine ⟨lineRange content.toList first last, line, line.takeWhile isBlank,
      lineRange_eq_linesBetween first last content.toList, starts, isIndentation_iff.mpr rfl, ?_, ?_, ?_⟩
    · rw [shown, List.length_map]
    · intro index other here
      rw [shown, List.getElem?_map, here, Option.map_some]
      congr 1
      by_cases short : other.length ≤ (line.takeWhile isBlank).length
      · rw [Nat.min_eq_right short, List.drop_length, List.drop_of_length_le short]
      · rw [Nat.min_eq_left (by omega)]
    · intro common
      rw [shown, List.map_map]
      refine (List.map_congr_left fun other member => ?_).trans (List.map_id _)
      exact List.prefix_iff_eq_append.mp (common other member)

/-- Lines that end in different ways, the later ones indented by a wide space and a tab. -/
def wideSpaces : String :=
  "function f()\r\n\u00a0\t\x7b\r\n\u00a0\t\treturn 1;\n\u00a0\t\x7d"

theorem slice_cuts_first_indentation_of_wideSpaces :
    ¬ ReachesLines (lines wideSpaces.toList) 4 3 ∧ slice wideSpaces 4 3 = "" ∧
    ReachesLines (lines wideSpaces.toList) 2 9 ∧
    (∀ line ∈ linesBetween (lines wideSpaces.toList) 2 4, "\u00a0\t".toList <+: line) ∧
    (splitAtChar '\n' (slice wideSpaces 2 9).toList).map ("\u00a0\t".toList ++ ·) =
      linesBetween (lines wideSpaces.toList) 2 4 := by
  have text : lines wideSpaces.toList = ["function f()".toList, "\u00a0\t\x7b".toList,
      "\u00a0\t\treturn 1;".toList, "\u00a0\t\x7d".toList] := by decide +kernel
  have outside : ¬ ReachesLines (lines wideSpaces.toList) 4 3 := by
    rintro ⟨number, ⟨lower, upper⟩, _⟩
    omega
  have inside : ReachesLines (lines wideSpaces.toList) 2 9 := ⟨2, by rw [text]; decide⟩
  have common : ∀ line ∈ linesBetween (lines wideSpaces.toList) 2 4, "\u00a0\t".toList <+: line := by
    rw [text]
    decide
  obtain ⟨range, line, space, between, starts, indentation, _, _, restored⟩ :=
    (slice_cuts_first_indentation wideSpaces 2 9).2.1 inside
  have whole : range = linesBetween (lines wideSpaces.toList) 2 4 := by
    rw [between, text]
    rfl
  have first : line = "\u00a0\t\x7b".toList := by
    rw [whole, text] at starts
    exact (Option.some.inj starts).symm
  have indented : space = "\u00a0\t".toList := by
    rw [isIndentation_iff.mp indentation, first]
    decide
  rw [whole, indented] at restored
  exact ⟨outside, (slice_cuts_first_indentation wideSpaces 4 3).1 outside, inside, common, restored common⟩

end ClassDocs
