import Mathlib.Data.List.Basic
import Mathlib.Data.List.Induction

namespace ClassDocs

theorem eraseDups_concat {α : Type} [BEq α] [LawfulBEq α] (list : List α) (last : α) :
    (list ++ [last]).eraseDups = if list.contains last then list.eraseDups else list.eraseDups ++ [last] := by
  have rest : [last].removeAll list = if list.contains last then [] else [last] := by
    cases known : list.contains last with
    | true => simpa [List.removeAll] using known
    | false => simpa [List.removeAll] using known
  rw [List.eraseDups_append, rest]
  split
  · exact List.append_nil _
  · rfl

/-- Without repetitions the elements of a list stand in the order of their first places. -/
theorem eraseDups_inOrder {α : Type} [BEq α] [LawfulBEq α] (list : List α) :
    list.eraseDups.Pairwise fun first second => list.idxOf first < list.idxOf second := by
  induction list using List.reverseRecOn with
  | nil => exact .nil
  | append_singleton list last ih =>
    -- the first places of the elements so far do not change
    have known : ∀ element ∈ list.eraseDups, (list ++ [last]).idxOf element = list.idxOf element := by
      intro element member
      exact List.idxOf_append_of_mem (List.mem_eraseDups.mp member)
    have kept : list.eraseDups.Pairwise fun first second =>
        (list ++ [last]).idxOf first < (list ++ [last]).idxOf second := by
      refine ih.imp_of_mem fun inFirst inSecond order => ?_
      rwa [known _ inFirst, known _ inSecond]
    rw [eraseDups_concat]
    split
    · exact kept
    · rename_i new
      rw [List.contains_iff_mem] at new
      refine List.pairwise_append.mpr ⟨kept, List.pairwise_singleton _ _, fun old member other added => ?_⟩
      have before : list.idxOf old < list.length := List.idxOf_lt_length_of_mem (List.mem_eraseDups.mp member)
      rw [List.mem_singleton.mp added, known old member, List.idxOf_append_of_notMem new]
      omega

theorem nodup_eraseDups {α : Type} [BEq α] [LawfulBEq α] (list : List α) : list.eraseDups.Nodup := by
  refine (eraseDups_inOrder list).imp ?_
  rintro first _ before rfl
  exact Nat.lt_irrefl _ before

/-- Where keys do not repeat, every element is found by its own. -/
theorem find?_of_nodup_keys {α : Type} (key : α → String) {list : List α} (distinct : (list.map key).Nodup)
    {element : α} (member : element ∈ list) : (list.find? fun other => key other == key element) = some element := by
  induction list with
  | nil => cases member
  | cons first rest ih =>
    obtain ⟨new, later⟩ := List.nodup_cons.mp distinct
    rcases List.mem_cons.mp member with rfl | inRest
    · simp
    · have apart : key first ≠ key element := fun same => new (List.mem_map.mpr ⟨element, inRest, same.symm⟩)
      rw [List.find?_cons_of_neg (by simpa using apart)]
      exact ih later inRest

end ClassDocs
