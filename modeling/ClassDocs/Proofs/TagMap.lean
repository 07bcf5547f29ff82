import ClassDocs.Proofs.Distinct
import ClassDocs.TagMap
import Mathlib.Algebra.Ring.Nat
import Mathlib.Data.Finset.Card
import Mathlib.Data.List.Induction

namespace ClassDocs

namespace TagMap

/-- The names of some entries, in their order. -/
def names (entries : List (String × List String)) : List String :=
  entries.map (·.1)

/-- A value goes to the entry of its name if there is one, and to a new last entry if not. -/
theorem names_pushEntry (name value : String) (entries : List (String × List String)) :
    names (pushEntry name value entries) =
      if name ∈ names entries then names entries else names entries ++ [name] := by
  induction entries with
  | nil => rfl
  | cons entry rest ih =>
    obtain ⟨first, values⟩ := entry
    rw [pushEntry]
    by_cases here : first = name
    · simp [names, here]
    · have elsewhere : name ∈ names ((first, values) :: rest) ↔ name ∈ names rest := by
        simp [names, Ne.symm here]
      have kept : names ((first, values) :: pushEntry name value rest) =
          first :: names (pushEntry name value rest) := rfl
      rw [if_neg here, kept, ih]
      by_cases old : name ∈ names rest
      · rw [if_pos old, if_pos (elsewhere.mpr old)]
        rfl
      · rw [if_neg old, if_neg (fun found => old (elsewhere.mp found))]
        rfl

section Push

variable (tags : TagMap) (name value : String)

theorem get?_push (other : String) :
    (tags.push name value).get? other =
      if other = name then some ((tags.get? name).getD [] ++ [value]) else tags.get? other := by
  unfold get? push
  induction tags.entries with
  | nil =>
    by_cases same : other = name
    · simp [pushEntry, same]
    · simp [pushEntry, same, Ne.symm same]
  | cons entry rest ih =>
    obtain ⟨first, values⟩ := entry
    dsimp only at ih ⊢
    rw [pushEntry]
    by_cases here : first = name
    · subst here
      by_cases same : other = first
      · simp [same]
      · simp [same, Ne.symm same]
    · by_cases found : first = other
      · have apart : other ≠ name := fun same => here (found.trans same)
        simp [found, apart]
      · simpa [here, found] using ih

/-- The number of values under all names. -/
def valueCount : Nat :=
  (tags.entries.map (·.2.length)).sum

theorem valueCount_push : (tags.push name value).valueCount = tags.valueCount + 1 := by
  unfold valueCount push
  induction tags.entries with
  | nil => rfl
  | cons entry rest ih =>
    rw [pushEntry]
    split
    · simp only [List.map_cons, List.sum_cons, List.length_append, List.length_singleton]
      omega
    · simp only [List.map_cons, List.sum_cons] at ih ⊢
      omega

/-- With one entry for each name, the entries show what is found under their names. -/
theorem get?_of_mem_entries {tags : TagMap} (distinct : (names tags.entries).Nodup) {entry : String × List String}
    (member : entry ∈ tags.entries) : tags.get? entry.1 = some entry.2 := by
  rw [get?, find?_of_nodup_keys Prod.fst distinct member]
  rfl

end Push

section Pushes

/-- The values that were pushed under a name, in their order. -/
def valuesUnder (pushes : List (String × String)) (name : String) : List String :=
  (pushes.filter (·.1 == name)).map (·.2)

variable (pushes : List (String × String))

theorem ofPushes_concat (last : String × String) :
    ofPushes (pushes ++ [last]) = (ofPushes pushes).push last.1 last.2 := by
  rw [ofPushes, List.foldl_append]
  rfl

/-- The names stand in the order of their first pushes. -/
theorem names_ofPushes : names (ofPushes pushes).entries = (pushes.map (·.1)).eraseDups := by
  induction pushes using List.reverseRecOn with
  | nil => rfl
  | append_singleton pushes last ih =>
    rw [ofPushes_concat, push, names_pushEntry, ih, List.map_append, List.map_singleton, eraseDups_concat]
    simp only [List.contains_iff_mem, List.mem_eraseDups]

/-- However values were pushed, every name has one entry. -/
theorem nodup_names_ofPushes : (names (ofPushes pushes).entries).Nodup := by
  rw [names_ofPushes]
  exact nodup_eraseDups _

theorem mem_names_ofPushes (name : String) :
    name ∈ names (ofPushes pushes).entries ↔ name ∈ pushes.map (·.1) := by
  rw [names_ofPushes, List.mem_eraseDups]

theorem names_ofPushes_inOrder :
    (names (ofPushes pushes).entries).Pairwise fun first second =>
      (pushes.map (·.1)).idxOf first < (pushes.map (·.1)).idxOf second := by
  rw [names_ofPushes]
  exact eraseDups_inOrder _

theorem get?_ofPushes (name : String) :
    (ofPushes pushes).get? name =
      if name ∈ pushes.map (·.1) then some (valuesUnder pushes name) else none := by
  induction pushes using List.reverseRecOn with
  | nil => rfl
  | append_singleton pushes last ih =>
    rw [ofPushes_concat, get?_push]
    by_cases here : name = last.1
    · subst here
      have added : valuesUnder (pushes ++ [last]) last.1 = valuesUnder pushes last.1 ++ [last.2] := by
        simp [valuesUnder]
      rw [if_pos rfl, if_pos (by simp), added, ih]
      split
      · rfl
      · rename_i new
        have none : valuesUnder pushes last.1 = [] := by
          rw [valuesUnder, List.map_eq_nil_iff, List.filter_eq_nil_iff]
          intro entry member same
          exact new (List.mem_map.mpr ⟨entry, member, by simpa using same⟩)
        rw [none, Option.getD_none]
    · have same : valuesUnder (pushes ++ [last]) name = valuesUnder pushes name := by
        simp [valuesUnder, Ne.symm here]
      have stays : name ∈ (pushes ++ [last]).map (·.1) ↔ name ∈ pushes.map (·.1) := by
        simp [here]
      rw [if_neg here, ih, same, if_congr stays rfl rfl]

theorem valueCount_ofPushes : (ofPushes pushes).valueCount = pushes.length := by
  induction pushes using List.reverseRecOn with
  | nil => rfl
  | append_singleton pushes last ih => rw [ofPushes_concat, valueCount_push, ih, List.length_append, List.length_singleton]

theorem size_ofPushes : (ofPushes pushes).size = (pushes.map (·.1)).toFinset.card := by
  have same : (names (ofPushes pushes).entries).toFinset = (pushes.map (·.1)).toFinset := by
    ext name
    rw [List.mem_toFinset, List.mem_toFinset, mem_names_ofPushes]
  rw [← same, List.toFinset_card_of_nodup (nodup_names_ofPushes pushes), names, List.length_map, size]

theorem isEmpty_ofPushes : (ofPushes pushes).isEmpty = true ↔ pushes = [] := by
  rw [isEmpty, List.isEmpty_iff]
  constructor
  · intro none
    have count := valueCount_ofPushes pushes
    rw [valueCount, none] at count
    exact List.eq_nil_of_length_eq_zero count.symm
  · rintro rfl
    rfl

theorem valuesUnder_ne_nil {name : String} (pushed : name ∈ pushes.map (·.1)) : valuesUnder pushes name ≠ [] := by
  obtain ⟨entry, member, rfl⟩ := List.mem_map.mp pushed
  have value : entry.2 ∈ valuesUnder pushes entry.1 :=
    List.mem_map_of_mem (List.mem_filter.mpr ⟨member, by simp⟩)
  exact List.ne_nil_of_mem value

end Pushes

/-- Pushing groups the values by their names, and no value is lost. -/
theorem ofPushes_groups_values (pushes : List (String × String)) :
    ((names (ofPushes pushes).entries).Nodup ∧
      (∀ name, name ∈ names (ofPushes pushes).entries ↔ name ∈ pushes.map (·.1)) ∧
      (names (ofPushes pushes).entries).Pairwise fun first second =>
        (pushes.map (·.1)).idxOf first < (pushes.map (·.1)).idxOf second) ∧
    (∀ name, (ofPushes pushes).get? name =
      if name ∈ pushes.map (·.1) then some ((pushes.filter (·.1 == name)).map (·.2)) else none) ∧
    (∀ name, (ofPushes pushes).contains name = true ↔ (ofPushes pushes).get? name ≠ none) ∧
    (ofPushes pushes).size = (pushes.map (·.1)).toFinset.card ∧
    ((ofPushes pushes).isEmpty = true ↔ pushes = []) ∧
    (∀ entry ∈ (ofPushes pushes).entries, (ofPushes pushes).get? entry.1 = some entry.2 ∧ entry.2 ≠ []) ∧
    ((ofPushes pushes).entries.map (·.2.length)).sum = pushes.length := by
  refine ⟨⟨nodup_names_ofPushes pushes, mem_names_ofPushes pushes, names_ofPushes_inOrder pushes⟩,
    get?_ofPushes pushes, fun name => ?_, size_ofPushes pushes, isEmpty_ofPushes pushes, fun entry member => ?_,
    valueCount_ofPushes pushes⟩
  · rw [contains, Option.isSome_iff_ne_none]
  · have shown := get?_of_mem_entries (nodup_names_ofPushes pushes) member
    have pushed := (mem_names_ofPushes pushes entry.1).mp (List.mem_map_of_mem member)
    refine ⟨shown, ?_⟩
    rw [get?_ofPushes, if_pos pushed] at shown
    rw [← Option.some.inj shown]
    exact valuesUnder_ne_nil pushes pushed

/-- Values under two names, one of which comes back, with a value that it has and with an empty one. -/
def mixedPushes : List (String × String) :=
  [("param", "a"), ("return", ""), ("param", "a"), ("param", "")]

theorem ofPushes_groups_values_of_mixedPushes :
    ("param", ["a", "a", ""]) ∈ (ofPushes mixedPushes).entries ∧
      (ofPushes mixedPushes).get? "param" = some ["a", "a", ""] ∧ (["a", "a", ""] : List String) ≠ [] := by
  have member : ("param", ["a", "a", ""]) ∈ (ofPushes mixedPushes).entries := by decide
  obtain ⟨_, _, _, _, _, shown, _⟩ := ofPushes_groups_values mixedPushes
  exact ⟨member, shown _ member⟩

end TagMap

end ClassDocs
