import ClassDocs.Files.Path

namespace ClassDocs

/-- The order of the names that lead to files: one name after the other, so that the files of a
directory stand together. -/
def NamesLt : List String → List String → Prop :=
  List.Lex fun first second => first < second

/-- The same names, or names that come before. -/
def NamesLe (first second : List String) : Prop :=
  ¬ NamesLt second first

theorem namesLe_nil (names : List String) : NamesLe [] names :=
  List.nil_le names

theorem not_namesLe_nil (name : String) (rest : List String) : ¬ NamesLe (name :: rest) [] := by
  intro order
  exact order List.Lex.nil

theorem namesLe_cons_cons {name other : String} {rest others : List String} :
    NamesLe (name :: rest) (other :: others) ↔ name < other ∨ name = other ∧ NamesLe rest others :=
  List.cons_le_cons_iff

theorem namesLe_append (place : List String) {first second : List String} :
    NamesLe (place ++ first) (place ++ second) ↔ NamesLe first second := by
  induction place with
  | nil => exact Iff.rfl
  | cons name place ih =>
    rw [List.cons_append, List.cons_append, namesLe_cons_cons, ih]
    simp

theorem NamesLe.trans {first second third : List String} (order : NamesLe first second)
    (later : NamesLe second third) : NamesLe first third :=
  List.le_trans order later

theorem namesLe_total (first second : List String) : NamesLe first second ∨ NamesLe second first :=
  List.le_total first second

theorem NamesLt.le {first second : List String} (order : NamesLt first second) : NamesLe first second :=
  List.le_of_lt order

theorem NamesLe.lt_of_ne {first second : List String} (order : NamesLe first second)
    (apart : first ≠ second) : NamesLt first second := by
  refine Classical.byContradiction fun notBefore => apart ?_
  exact List.le_antisymm order notBefore

namespace Path

/-- The order of names, as paths are compared. -/
def namesLe (first second : List String) : Bool :=
  partsLe (first.map .name) (second.map .name)

theorem namesLe_iff (first second : List String) : namesLe first second = true ↔ NamesLe first second := by
  unfold namesLe
  induction first generalizing second with
  | nil => exact iff_of_true rfl (namesLe_nil second)
  | cons name rest ih =>
    cases second with
    | nil => exact iff_of_false (by simp [partsLe]) (not_namesLe_nil name rest)
    | cons other others =>
      rw [List.map_cons, List.map_cons, partsLe, namesLe_cons_cons, ← ih]
      by_cases before : name < other
      · simp [PathPart.before, before]
      · by_cases after : other < name
        · have apart : name ≠ other := by
            rintro rfl
            exact before after
          simp [PathPart.before, before, after, apart]
        · have same : name = other := String.le_antisymm (String.not_lt.mp after) (String.not_lt.mp before)
          simp [PathPart.before, same]

/-- Sorted names that are all different come one before the other. -/
theorem pairwise_mergeSort_namesLe {found : List (List String)} (distinct : found.Nodup) :
    (found.mergeSort namesLe).Pairwise NamesLt := by
  have sorted : (found.mergeSort namesLe).Pairwise fun first second => namesLe first second = true := by
    refine List.pairwise_mergeSort ?_ ?_ found
    · intro first second third order later
      rw [namesLe_iff] at order later ⊢
      exact order.trans later
    · intro first second
      rw [Bool.or_eq_true, namesLe_iff, namesLe_iff]
      exact namesLe_total first second
  have apart := (List.mergeSort_perm found namesLe).nodup_iff.mpr distinct
  refine (sorted.and apart).imp ?_
  rintro first second ⟨order, different⟩
  exact ((namesLe_iff first second).mp order).lt_of_ne different

end Path

end ClassDocs
