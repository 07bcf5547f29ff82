import Mathlib.Data.List.Nodup

namespace ClassDocs

/-- A list in ascending order of a key, where equal keys have kept the order in which they came. -/
structure StablySorted {α : Type} (key : α → String) (list sorted : List α) : Prop where
  perm : sorted.Perm list
  ascending : sorted.Pairwise fun first second => key first ≤ key second
  stable : ∀ value, sorted.filter (key · == value) = list.filter (key · == value)

section Keys

variable {α : Type} (key : α → String)

theorem key_trans (first second third : α) (before : decide (key first ≤ key second) = true)
    (after : decide (key second ≤ key third) = true) : decide (key first ≤ key third) = true :=
  decide_eq_true (String.le_trans (of_decide_eq_true before) (of_decide_eq_true after))

theorem key_total (first second : α) :
    (decide (key first ≤ key second) || decide (key second ≤ key first)) = true := by
  simpa using String.le_total (key first) (key second)

theorem stablySorted_mergeSort (list : List α) :
    StablySorted key list (list.mergeSort fun first second => decide (key first ≤ key second)) := by
  have perm := List.mergeSort_perm list fun first second => decide (key first ≤ key second)
  refine ⟨perm, (List.pairwise_mergeSort (key_trans key) (key_total key) list).imp of_decide_eq_true, ?_⟩
  intro value
  have tied : (list.filter (key · == value)).Pairwise fun first second => decide (key first ≤ key second) = true := by
    refine List.pairwise_iff_forall_sublist.mpr fun {first second} pair => ?_
    have same : ∀ item ∈ [first, second], key item = value := fun item member => by
      simpa using (List.mem_filter.mp (pair.subset member)).2
    simp [same first, same second]
  -- elements of one key are a sorted sublist, which sorting keeps
  have kept := (List.sublist_mergeSort (key_trans key) (key_total key) tied List.filter_sublist).filter (key · == value)
  rw [List.filter_filter] at kept
  simp only [Bool.and_self] at kept
  exact (kept.eq_of_length (perm.filter _).length_eq.symm).symm

variable {key}

/-- Where no two keys are equal, the order in which the elements came does not matter. -/
theorem StablySorted.eq_of_perm {list other sorted sortedOther : List α} (first : StablySorted key list sorted)
    (second : StablySorted key other sortedOther) (distinct : (list.map key).Nodup) (perm : list.Perm other) :
    sorted = sortedOther := by
  have same : sorted.Perm sortedOther := (first.perm.trans perm).trans second.perm.symm
  refine List.Perm.eq_of_pairwise (fun a b inFirst inSecond lower upper => ?_) first.ascending second.ascending same
  refine List.inj_on_of_nodup_map distinct (first.perm.mem_iff.mp inFirst) ?_ (String.le_antisymm lower upper)
  exact perm.mem_iff.mpr (second.perm.mem_iff.mp inSecond)

end Keys

end ClassDocs
