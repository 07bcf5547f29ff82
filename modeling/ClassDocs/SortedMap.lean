namespace ClassDocs

universe u v

/-- A finite map from texts, kept as its entries in ascending key order. Two maps with the same
contents are equal. -/
structure SortedMap (α : Type u) where
  entries : List (String × α)
  ascending : entries.Pairwise fun first second => first.1 < second.1

namespace SortedMap

variable {α : Type u} {β : Type v}

/-- The map without entries. -/
def empty : SortedMap α := ⟨[], .nil⟩

instance : Inhabited (SortedMap α) := ⟨empty⟩

/-- Change the value of one key in a list of ascending entries, or add it where it belongs. -/
def alterEntries (key : String) (change : Option α → α) :
    List (String × α) → List (String × α)
  | [] => [(key, change none)]
  | (k, value) :: rest =>
    if key < k then (key, change none) :: (k, value) :: rest
    else if key = k then (k, change (some value)) :: rest
    else (k, value) :: alterEntries key change rest

theorem mem_alterEntries {key : String} {change : Option α → α} {entries : List (String × α)}
    {entry : String × α} (member : entry ∈ alterEntries key change entries) :
    entry.1 = key ∨ entry ∈ entries := by
  induction entries with
  | nil => simp_all [alterEntries]
  | cons first rest ih =>
    simp only [alterEntries] at member
    split at member
    · rcases List.mem_cons.mp member with rfl | old
      · exact Or.inl rfl
      · exact Or.inr old
    · split at member
      · rename_i same
        rcases List.mem_cons.mp member with rfl | old
        · exact Or.inl same.symm
        · exact Or.inr (List.mem_cons_of_mem _ old)
      · rcases List.mem_cons.mp member with rfl | later
        · exact Or.inr (List.mem_cons_self ..)
        · rcases ih later with same | old
          · exact Or.inl same
          · exact Or.inr (List.mem_cons_of_mem _ old)

theorem alterEntries_ascending (key : String) (change : Option α → α)
    {entries : List (String × α)}
    (ascending : entries.Pairwise fun first second => first.1 < second.1) :
    (alterEntries key change entries).Pairwise fun first second => first.1 < second.1 := by
  induction entries with
  | nil => simp [alterEntries]
  | cons first rest ih =>
    obtain ⟨above, tail⟩ := List.pairwise_cons.mp ascending
    simp only [alterEntries]
    split
    · rename_i below
      refine List.pairwise_cons.mpr ⟨fun entry member => ?_, ascending⟩
      rcases List.mem_cons.mp member with rfl | old
      · exact below
      · exact String.lt_trans below (above entry old)
    · rename_i notBelow
      split
      · exact List.pairwise_cons.mpr ⟨above, tail⟩
      · rename_i different
        refine List.pairwise_cons.mpr ⟨fun entry member => ?_, ih tail⟩
        rcases mem_alterEntries member with same | old
        · rw [same]
          rcases Decidable.em (first.1 < key) with less | notLess
          · exact less
          · exact absurd (String.le_antisymm notLess notBelow) different
        · exact above entry old

/-- Change the value of one key; a key without a value gets one. -/
def alter (map : SortedMap α) (key : String) (change : Option α → α) : SortedMap α :=
  ⟨alterEntries key change map.entries, alterEntries_ascending key change map.ascending⟩

/-- Set the value of one key. An earlier value is forgotten. -/
def insert (map : SortedMap α) (key : String) (value : α) : SortedMap α :=
  map.alter key fun _ => value

/-- The value of a key. -/
def get? (map : SortedMap α) (key : String) : Option α :=
  (map.entries.find? fun entry => entry.1 == key).map (·.2)

/-- Whether a key has a value. -/
def contains (map : SortedMap α) (key : String) : Bool :=
  (map.get? key).isSome

/-- The keys, in ascending order. -/
def keys (map : SortedMap α) : List String :=
  map.entries.map (·.1)

/-- The values, in the order of their keys. -/
def values (map : SortedMap α) : List α :=
  map.entries.map (·.2)

/-- Change every value, given its key. -/
def mapValues (change : String → α → β) (map : SortedMap α) : SortedMap β :=
  ⟨map.entries.map fun entry => (entry.1, change entry.1 entry.2),
    List.pairwise_map.mpr map.ascending⟩

/-- The map of a list of entries, where a later entry of a key replaces an earlier one. -/
def ofList (entries : List (String × α)) : SortedMap α :=
  entries.foldl (fun map entry => map.insert entry.1 entry.2) empty

end SortedMap

end ClassDocs
