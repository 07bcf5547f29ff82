import ClassDocs.Library.Index
import ClassDocs.Proofs.SortedMap
import ClassDocs.Proofs.Text.Lowercase

namespace ClassDocs

/-- The characters that part the steps of a path. -/
def isSeparator (c : Char) : Bool :=
  c == '/' || c == '\\'

theorem toNat_of_isSeparator {c : Char} (separator : isSeparator c = true) :
    c.toNat = 47 ∨ c.toNat = 92 := by
  simp only [isSeparator, Bool.or_eq_true, beq_iff_eq] at separator
  rcases separator with rfl | rfl
  · exact Or.inl rfl
  · exact Or.inr rfl

theorem eq_of_mem_lowerChar {c d : Char} (member : d ∈ lowerChar c) (separator : isSeparator d = true) :
    d = c := by
  have code := toNat_of_isSeparator separator
  have ascii : ∀ n < 128, isSeparator (Char.ofNat n).toLower = true →
      (Char.ofNat n).toLower = Char.ofNat n := by decide
  unfold lowerChar at member
  split at member
  · rename_i small
    cases List.mem_singleton.mp member
    have same := ascii c.toNat small
    rw [Char.ofNat_toNat] at same
    exact same separator
  · split at member
    · simp only [List.mem_cons, List.not_mem_nil, or_false] at member
      rcases member with rfl | rfl
      · cases separator
      · cases separator
    · split at member
      · rename_i run found
        cases List.mem_singleton.mp member
        have inside : run.contains c = true := by simpa using List.find?_some found
        have above := (capitals_spec run (List.mem_of_find?_eq_some found) _ (CaseRun.mem_codes inside)).2.2
        have shifted := toNat_ofNat_eq_or_eq_zero (c.toNat + run.shift).toNat
        omega
      · exact List.mem_singleton.mp member

theorem mem_of_mem_lowerAfter {before text : List Char} {d : Char} (member : d ∈ lowerAfter before text)
    (separator : isSeparator d = true) : d ∈ text := by
  induction text generalizing before with
  | nil => cases member
  | cons c rest ih =>
    rw [lowerAfter] at member
    rcases List.mem_append.mp member with here | later
    · split at here
      · split at here
        · cases List.mem_singleton.mp here
          cases separator
        · cases List.mem_singleton.mp here
          cases separator
      · rw [eq_of_mem_lowerChar here separator]
        exact List.mem_cons_self ..
    · exact List.mem_cons_of_mem _ (ih later)

/-- The name of an entity is no path, whatever the name of its file. -/
theorem Layout.entityName_no_separator (layout : Layout) (entry : String) :
    ∀ c ∈ (layout.entityName entry).toList, isSeparator c = false := by
  intro c member
  refine Bool.eq_false_iff.mpr fun separator => ?_
  rw [Layout.entityName, lowercase, String.toList_ofList] at member
  have written := mem_of_mem_lowerAfter member separator
  rw [String.toList_ofList] at written
  obtain ⟨d, _, same⟩ := List.mem_map.mp written
  split at same
  · subst same
    cases separator
  · rename_i other
    subst same
    exact other separator

namespace SortedMap

variable {α β : Type}

theorem mem_entries_insert {map : SortedMap α} {key : String} {value : α} {entry : String × α}
    (member : entry ∈ (map.insert key value).entries) : entry = (key, value) ∨ entry ∈ map.entries := by
  obtain ⟨entries, ascending⟩ := map
  change entry ∈ alterEntries key (fun _ => value) entries at member
  change entry = (key, value) ∨ entry ∈ entries
  clear ascending
  induction entries with
  | nil => exact Or.inl (List.mem_singleton.mp member)
  | cons first rest ih =>
    rw [alterEntries] at member
    split at member
    · exact (List.mem_cons.mp member).imp id id
    · split at member
      · rename_i same
        rcases List.mem_cons.mp member with rfl | old
        · exact Or.inl (by rw [same])
        · exact Or.inr (List.mem_cons_of_mem _ old)
      · rcases List.mem_cons.mp member with rfl | later
        · exact Or.inr (List.mem_cons_self ..)
        · exact (ih later).imp id (List.mem_cons_of_mem _)

theorem mem_of_mem_ofList {list : List (String × α)} {entry : String × α}
    (member : entry ∈ (ofList list).entries) : entry ∈ list := by
  have grown : ∀ (map : SortedMap α),
      entry ∈ (list.foldl (fun map other => map.insert other.1 other.2) map).entries →
        entry ∈ map.entries ∨ entry ∈ list := by
    clear member
    induction list with
    | nil => exact fun map member => Or.inl member
    | cons first rest ih =>
      intro map member
      rcases ih _ member with inserted | later
      · rcases mem_entries_insert inserted with rfl | old
        · exact Or.inr (List.mem_cons_self ..)
        · exact Or.inl old
      · exact Or.inr (List.mem_cons_of_mem _ later)
  rcases grown empty member with none | inList
  · cases none
  · exact inList

end SortedMap

theorem nodup_catalogue (family : String) (classes : SortedMap String) :
    (catalogue family classes).Nodup :=
  List.filter_sublist.nodup classes.nodup_keys

/-- The names to display come from files that were found, and none of them is a path. -/
theorem catalogue_no_separator {family name : String} {layout : Layout} {tree : SourceTree}
    (member : name ∈ catalogue family (SourceTree.collect layout tree)) :
    ∀ c ∈ name.toList, isSeparator c = false := by
  have key := (List.mem_filter.mp member).1
  obtain ⟨entry, collected, rfl⟩ := List.mem_map.mp key
  obtain ⟨located, inIndex, rfl⟩ := List.mem_map.mp collected
  obtain ⟨leaf, _, rfl⟩ := List.mem_map.mp (SortedMap.mem_of_mem_ofList inIndex)
  exact layout.entityName_no_separator leaf.1

end ClassDocs
