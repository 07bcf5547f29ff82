import ClassDocs.Proofs.Distinct
import ClassDocs.SortedMap

namespace ClassDocs

namespace SortedMap

variable {α : Type} {key other : String} {value : α}

/-- Only the value of the changed key is another one than before. -/
theorem find?_alterEntries (key other : String) (change : Option α → α) {entries : List (String × α)}
    (ascending : entries.Pairwise fun first second => first.1 < second.1) :
    ((alterEntries key change entries).find? fun entry => entry.1 == other).map (·.2) =
      if other = key then some (change ((entries.find? fun entry => entry.1 == key).map (·.2)))
      else (entries.find? fun entry => entry.1 == other).map (·.2) := by
  induction entries with
  | nil =>
    by_cases same : other = key
    · simp [alterEntries, same]
    · simp [alterEntries, same, Ne.symm same]
  | cons first rest ih =>
    obtain ⟨above, tail⟩ := List.pairwise_cons.mp ascending
    rw [alterEntries]
    split
    · rename_i below
      -- all keys lie above the new one, which therefore had no value
      have absent : ((first :: rest).find? fun entry => entry.1 == key) = none := by
        refine List.find?_eq_none.mpr fun entry member same => ?_
        rw [beq_iff_eq] at same
        rcases List.mem_cons.mp member with rfl | later
        · exact String.lt_irrefl _ (same ▸ below)
        · exact String.lt_irrefl _ (String.lt_trans below (same ▸ above entry later))
      by_cases same : other = key
      · rw [absent]
        simp [same]
      · simp [same, Ne.symm same]
    · split
      · rename_i here
        by_cases same : other = key
        · simp [same, here]
        · have apart : first.1 ≠ other := fun found => same (found ▸ here.symm)
          simp [same, apart]
      · rename_i elsewhere
        by_cases found : first.1 = other
        · have apart : other ≠ key := fun same => elsewhere (same ▸ found.symm)
          simp [found, apart]
        · simpa [found, Ne.symm elsewhere] using ih tail

theorem get?_alter (map : SortedMap α) (key other : String) (change : Option α → α) :
    (map.alter key change).get? other = if other = key then some (change (map.get? key)) else map.get? other :=
  find?_alterEntries key other change map.ascending

theorem get?_insert (map : SortedMap α) (key other : String) (value : α) :
    (map.insert key value).get? other = if other = key then some value else map.get? other :=
  map.get?_alter key other fun _ => value

theorem mem_keys_iff {map : SortedMap α} : key ∈ map.keys ↔ map.contains key = true := by
  rw [keys, contains, get?, Option.isSome_map, List.find?_isSome]
  simp

theorem keys_ascending (map : SortedMap α) : map.keys.Pairwise (· < ·) :=
  List.pairwise_map.mpr map.ascending

theorem nodup_of_ascending {list : List String} (ascending : list.Pairwise (· < ·)) : list.Nodup := by
  refine ascending.imp ?_
  intro first second below same
  exact String.lt_irrefl _ (same ▸ below)

theorem nodup_keys (map : SortedMap α) : map.keys.Nodup :=
  nodup_of_ascending map.keys_ascending

/-- Every entry is the one that its key leads to. -/
theorem get?_of_mem_entries {map : SortedMap α} (member : (key, value) ∈ map.entries) : map.get? key = some value := by
  rw [get?, find?_of_nodup_keys Prod.fst map.nodup_keys member]
  rfl

theorem get?_foldl_insert (list : List (String × α)) (map : SortedMap α) (key : String) :
    (list.foldl (fun map entry => map.insert entry.1 entry.2) map).get? key =
      ((list.reverse.find? fun entry => entry.1 == key).map (·.2)).or (map.get? key) := by
  induction list generalizing map with
  | nil => rfl
  | cons first rest ih =>
    rw [List.foldl_cons, ih, get?_insert, List.reverse_cons, List.find?_append]
    cases (rest.reverse.find? fun entry => entry.1 == key) with
    | some entry => rfl
    | none =>
      by_cases same : key = first.1
      · simp [same]
      · simp [same, Ne.symm same]

theorem get?_ofList (list : List (String × α)) (key : String) :
    (ofList list).get? key = (list.reverse.find? fun entry => entry.1 == key).map (·.2) :=
  (get?_foldl_insert list empty key).trans Option.or_none

theorem mem_keys_ofList {list : List (String × α)} : key ∈ (ofList list).keys ↔ key ∈ list.map (·.1) := by
  rw [mem_keys_iff, contains, get?_ofList, Option.isSome_map, List.find?_isSome]
  simp

/-- The keys of a list that ascends are those of the list. -/
theorem keys_ofList {list : List (String × α)} (ascending : (list.map (·.1)).Pairwise (· < ·)) :
    (ofList list).keys = list.map (·.1) := by
  have members : (ofList list).keys.Perm (list.map (·.1)) :=
    (List.perm_ext_iff_of_nodup (nodup_keys _) (nodup_of_ascending ascending)).mpr fun _ => mem_keys_ofList
  refine List.Perm.eq_of_pairwise (fun first second _ _ below above => ?_) (keys_ascending _) ascending members
  exact absurd (String.lt_trans below above) (String.lt_irrefl _)

/-- Of the entries of a key the last one counts. -/
theorem get?_ofList_eq_some_iff {list : List (String × α)} : (ofList list).get? key = some value ↔
    ∃ before after, list = before ++ (key, value) :: after ∧ ∀ entry ∈ after, entry.1 ≠ key := by
  rw [get?_ofList, Option.map_eq_some_iff]
  constructor
  · rintro ⟨⟨_, _⟩, found, rfl⟩
    obtain ⟨same, after, before, whole, others⟩ := List.find?_eq_some_iff_append.mp found
    cases beq_iff_eq.mp same
    refine ⟨before.reverse, after.reverse, ?_, ?_⟩
    · rw [← List.reverse_inj, whole]
      simp
    · intro entry member
      simpa using others entry (List.mem_reverse.mp member)
  · rintro ⟨before, after, rfl, others⟩
    refine ⟨(key, value), List.find?_eq_some_iff_append.mpr ⟨by simp, after.reverse, before.reverse, ?_, ?_⟩, rfl⟩
    · simp
    · intro entry member
      simpa using others entry (List.mem_reverse.mp member)

end SortedMap

end ClassDocs
