import ClassDocs.Library.Index
import ClassDocs.Proofs.SortedMap
import ClassDocs.Proofs.Text.Lines
import Mathlib.Logic.Relation

namespace ClassDocs

/-- A name is another one with a family's prefix and an underscore in front of it. -/
def Extends (family name base : String) : Prop :=
  name = family ++ "_" ++ base

/-- The map of some names to themselves. -/
def identityMap (names : List String) : SortedMap String :=
  SortedMap.ofList (names.map fun name => (name, name))

section Names

variable {family name base : String} {classes : SortedMap String}

theorem extended?_eq_some_iff : extended? family name = some base ↔ Extends family name base := by
  rw [extended?, Extends, ← String.toList_inj]
  constructor
  · intro found
    obtain ⟨rest, behind, found⟩ := Option.bind_eq_some_iff.mp found
    obtain ⟨letters, underscore, found⟩ := Option.bind_eq_some_iff.mp found
    cases found
    rw [after?_eq_some_iff.mp behind, after?_eq_some_iff.mp underscore]
    simp
  · intro same
    refine Option.bind_eq_some_iff.mpr ⟨'_' :: base.toList, after?_eq_some_iff.mpr ?_, ?_⟩
    · rw [same]
      simp
    · refine Option.bind_eq_some_iff.mpr ⟨base.toList, after?_eq_some_iff.mpr rfl, ?_⟩
      rw [String.ofList_toList]
      rfl

theorem Extends.length_lt (longer : Extends family name base) : base.length < name.length := by
  rw [Extends] at longer
  rw [longer, String.length_append, String.length_append]
  have underscore : "_".length = 1 := rfl
  omega

theorem mem_catalogue_iff : name ∈ catalogue family classes ↔
    name ∈ classes.keys ∧ ∀ base ∈ classes.keys, ¬ Extends (lowercase family) name base := by
  rw [catalogue, List.mem_filter]
  refine and_congr_right fun _ => ?_
  cases found : extended? (lowercase family) name with
  | none =>
    refine iff_of_true rfl fun base _ longer => ?_
    rw [extended?_eq_some_iff.mpr longer] at found
    cases found
  | some base =>
    have longer := extended?_eq_some_iff.mp found
    simp only [Bool.not_eq_true', Bool.eq_false_iff, ne_eq, ← SortedMap.mem_keys_iff]
    constructor
    · intro absent other member extension
      rw [extended?_eq_some_iff.mpr extension] at found
      cases found
      exact absent member
    · intro none member
      exact none base member longer

theorem not_mem_catalogue_iff (key : name ∈ classes.keys) : name ∉ catalogue family classes ↔
    ∃ base ∈ classes.keys, Extends (lowercase family) name base := by
  rw [mem_catalogue_iff, and_iff_right key]
  simp only [Classical.not_forall, Classical.not_not, exists_prop]

/-- Below every name that is left out there is one that is displayed. -/
theorem exists_displayed_base (key : name ∈ classes.keys) (hidden : name ∉ catalogue family classes) :
    ∃ base ∈ catalogue family classes, Relation.TransGen (Extends (lowercase family)) name base := by
  -- each prefix that is taken away makes the name shorter
  induction length : name.length using Nat.strongRecOn generalizing name with
  | ind count ih =>
    obtain ⟨base, baseKey, longer⟩ := (not_mem_catalogue_iff key).mp hidden
    by_cases displayed : base ∈ catalogue family classes
    · exact ⟨base, displayed, .single longer⟩
    · have shorter := longer.length_lt
      obtain ⟨last, inCatalogue, chain⟩ := ih base.length (by omega) baseKey displayed rfl
      exact ⟨last, inCatalogue, .head longer chain⟩

theorem catalogue_ascending (family : String) (classes : SortedMap String) :
    (catalogue family classes).Pairwise (· < ·) :=
  classes.keys_ascending.sublist List.filter_sublist

theorem keys_identityMap {names : List String} (ascending : names.Pairwise (· < ·)) :
    (identityMap names).keys = names := by
  have same : (names.map fun name => (name, name)).map (·.1) = names := by
    simp [Function.comp_def]
  rw [identityMap, SortedMap.keys_ofList (by rwa [same]), same]

/-- What is displayed extends nothing that is displayed. -/
theorem catalogue_identityMap (family : String) (classes : SortedMap String) :
    catalogue family (identityMap (catalogue family classes)) = catalogue family classes := by
  have keys := keys_identityMap (catalogue_ascending family classes)
  rw [catalogue, keys, List.filter_eq_self]
  intro name displayed
  have again : name ∈ catalogue family (identityMap (catalogue family classes)) := by
    rw [mem_catalogue_iff, keys]
    exact ⟨displayed, fun base shown => (mem_catalogue_iff.mp displayed).2 base (mem_catalogue_iff.mp shown).1⟩
  exact (List.mem_filter.mp again).2

end Names

/-- Only extensions of other names are left out, and each of them leads to a name that is displayed when
the prefix is taken away once or more often. What is displayed is displayed again on its own. -/
theorem catalogue_hides_extensions_only (family : String) (classes : SortedMap String) :
    (catalogue family classes).Pairwise (· < ·) ∧
    (∀ name ∈ catalogue family classes, name ∈ classes.keys) ∧
    (∀ name ∈ classes.keys, name ∉ catalogue family classes ↔
      ∃ base ∈ classes.keys, name = lowercase family ++ "_" ++ base) ∧
    (∀ name ∈ classes.keys, name ∉ catalogue family classes →
      ∃ base ∈ catalogue family classes, Relation.TransGen (Extends (lowercase family)) name base) ∧
    catalogue family (identityMap (catalogue family classes)) = catalogue family classes :=
  ⟨catalogue_ascending family classes, fun _ displayed => (mem_catalogue_iff.mp displayed).1,
    fun _ key => not_mem_catalogue_iff key, fun _ key hidden => exists_displayed_base key hidden,
    catalogue_identityMap family classes⟩

/-- A class with two extensions on top of each other, and an extension of a name that is empty. -/
def stackedClasses : SortedMap String :=
  identityMap ["", "kohana_", "kohana_kohana_route", "kohana_route", "route"]

theorem catalogue_hides_extensions_of_stackedClasses :
    catalogue "Kohana" stackedClasses = ["", "route"] ∧
      "kohana_kohana_route" ∈ stackedClasses.keys ∧
      (∃ base ∈ stackedClasses.keys, "kohana_kohana_route" = lowercase "Kohana" ++ "_" ++ base) ∧
      (∃ base ∈ catalogue "Kohana" stackedClasses,
        Relation.TransGen (Extends (lowercase "Kohana")) "kohana_kohana_route" base) ∧
      catalogue "Kohana" (identityMap (catalogue "Kohana" stackedClasses)) = catalogue "Kohana" stackedClasses := by
  have displayed : catalogue "Kohana" stackedClasses = ["", "route"] := by decide +kernel
  have key : "kohana_kohana_route" ∈ stackedClasses.keys := by decide +kernel
  have hidden : "kohana_kohana_route" ∉ catalogue "Kohana" stackedClasses := by
    rw [displayed]
    decide
  obtain ⟨_, _, extensions, chains, again⟩ := catalogue_hides_extensions_only "Kohana" stackedClasses
  exact ⟨displayed, key, (extensions _ key).mp hidden, chains _ key hidden, again⟩

end ClassDocs
