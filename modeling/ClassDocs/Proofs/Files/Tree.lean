import ClassDocs.Files.Search
import ClassDocs.Proofs.Files.Paths

namespace ClassDocs

instance (name : String) : Decidable (IsEntryName name) :=
  decidable_of_iff (name ≠ "" ∧ name ≠ "." ∧ name ≠ ".." ∧ '/' ∉ name.toList)
    ⟨fun ⟨named, notHere, notUp, noSlash⟩ => ⟨named, notHere, notUp, noSlash⟩,
      fun ⟨named, notHere, notUp, noSlash⟩ => ⟨named, notHere, notUp, noSlash⟩⟩

namespace FileSystem

/-- The entries make up a directory tree: no place has two of them, each is named as an entry can be,
and each lies in a directory. -/
structure IsTree (files : FileSystem) : Prop where
  distinct : (files.entries.map (·.1)).Nodup
  named : ∀ entry ∈ files.entries, entry.1 ≠ [] ∧ ∀ name ∈ entry.1, IsEntryName name
  inDirectory : ∀ entry ∈ files.entries, files.node? entry.1.dropLast = some .directory

variable {files : FileSystem} {place names : List String} {node : FileNode}

theorem mem_entries_of_node? (below : place ≠ []) (here : files.node? place = some node) :
    (place, node) ∈ files.entries := by
  rw [node?, if_neg (by simpa using below)] at here
  obtain ⟨entry, found, rfl⟩ := Option.map_eq_some_iff.mp here
  have same : entry.1 = place := by simpa using List.find?_some found
  rw [← same]
  exact List.mem_of_find?_eq_some found

theorem exists_node?_of_mem_entries (below : place ≠ []) (member : (place, node) ∈ files.entries) :
    ∃ other, files.node? place = some other := by
  have found : (files.entries.find? fun entry => entry.1 == place).isSome = true := by
    rw [List.find?_isSome]
    exact ⟨_, member, by simp⟩
  obtain ⟨entry, atPlace⟩ := Option.isSome_iff_exists.mp found
  exact ⟨entry.2, by rw [node?, if_neg (by simpa using below), atPlace]; rfl⟩

namespace IsTree

theorem isEntryName (tree : files.IsTree) (here : files.node? place = some node) :
    ∀ name ∈ place, IsEntryName name := by
  by_cases top : place = []
  · simp [top]
  · exact (tree.named _ (mem_entries_of_node? top here)).2

theorem isEntryName_of_append (tree : files.IsTree) (here : files.node? (place ++ names) = some node) :
    ∀ name ∈ names, IsEntryName name :=
  fun name member => tree.isEntryName here name (List.mem_append_right _ member)

theorem parent (tree : files.IsTree) {name : String} (here : files.node? (place ++ [name]) = some node) :
    files.node? place = some .directory := by
  have above := tree.inDirectory _ (mem_entries_of_node? (by simp) here)
  rwa [List.dropLast_concat] at above

/-- All places above an entry are directories. -/
theorem directory_of_append (tree : files.IsTree) (here : files.node? (place ++ names) = some node)
    (below : names ≠ []) : files.node? place = some .directory := by
  induction names generalizing place with
  | nil => exact absurd rfl below
  | cons name rest ih =>
    cases rest with
    | nil => exact tree.parent here
    | cons next rest =>
      rw [List.append_cons] at here
      exact tree.parent (ih here (by simp))

theorem directory_of_prefix (tree : files.IsTree) (here : files.node? (place ++ names) = some .directory) :
    files.node? place = some .directory := by
  by_cases done : names = []
  · rwa [done, List.append_nil] at here
  · exact tree.directory_of_append here done

/-- An entry is found under its names. -/
theorem follow_names (tree : files.IsTree) (here : files.node? (place ++ names) = some node) :
    files.follow place names = .ok (place ++ names) := by
  induction names generalizing place with
  | nil => rw [follow, List.append_nil]
  | cons name rest ih =>
    have ordinary := tree.isEntryName here name (by simp)
    have above := tree.directory_of_append here (by simp)
    rw [List.append_cons] at here ⊢
    rw [follow_cons_eq_ok, pieceFrom_of_isEntryName ordinary]
    exact ⟨above, ih here⟩

end IsTree

section Locate

variable {path : String}

theorem locate_of_ordinary (ordinary : Path.Ordinary path) :
    files.locate path = files.follow files.base (Path.pieces path) := by
  rw [locate, if_neg (by simpa using ordinary.ne_empty), start, ordinary.isAbsolute_eq]
  rfl

theorem IsTree.find_names (tree : files.IsTree) (below : names ≠ [])
    (here : files.node? (files.base ++ names) = some node) :
    files.find ("/".intercalate names) = .ok (files.base ++ names, node) := by
  have named := tree.isEntryName_of_append here
  refine find_eq_ok_iff.mpr ⟨?_, here⟩
  rw [locate_of_ordinary (Path.ordinary_names below named), Path.pieces_names below named]
  exact tree.follow_names here

theorem IsTree.find_directory (tree : files.IsTree) (ordinary : Path.Ordinary path)
    (here : files.node? (files.base ++ Path.steps path) = some .directory) :
    files.find path = .ok (files.base ++ Path.steps path, .directory) := by
  refine find_eq_ok_iff.mpr ⟨?_, here⟩
  rw [locate_of_ordinary ordinary]
  exact follow_of_filter (tree.follow_names here) here

/-- Steps that are all names are followed one below the other. -/
theorem eq_append_of_follow {pieces target : List String}
    (named : ∀ piece ∈ pieces, piece ≠ "." ∧ piece ≠ "..") (leads : files.follow place pieces = .ok target) :
    target = place ++ pieces.filter (!·.isEmpty) := by
  induction pieces generalizing place with
  | nil =>
    cases leads
    simp
  | cons piece rest ih =>
    obtain ⟨_, leads⟩ := follow_cons_eq_ok.mp leads
    have later := ih (fun other member => named other (List.mem_cons_of_mem _ member)) leads
    obtain ⟨notHere, notUp⟩ := named piece (List.mem_cons_self ..)
    by_cases empty : piece = ""
    · subst empty
      exact later
    · rw [pieceFrom, if_neg (by simp [empty, notHere]), if_neg notUp] at later
      rw [later, List.filter_cons_of_pos (by simpa using empty), List.append_assoc, List.singleton_append]

theorem node?_steps_of_isDirectory (ordinary : Path.Ordinary path) (directory : files.isDirectory path = true) :
    files.node? (files.base ++ Path.steps path) = some .directory := by
  unfold isDirectory at directory
  split at directory
  · rename_i place found
    obtain ⟨located, here⟩ := find_eq_ok_iff.mp found
    rw [locate_of_ordinary ordinary] at located
    have steps := eq_append_of_follow ordinary.named located
    rw [← Path.steps] at steps
    rwa [← steps]
  · cases directory

end Locate

section Contents

theorem mem_below_iff : (names, node) ∈ files.below place ↔
    names ≠ [] ∧ (place ++ names, node) ∈ files.entries := by
  rw [below, List.mem_filterMap]
  constructor
  · rintro ⟨⟨whole, content⟩, member, inside⟩
    dsimp only at inside
    split at inside
    · rename_i under
      cases inside
      rw [Bool.and_eq_true, List.isPrefixOf_iff_prefix, decide_eq_true_eq] at under
      obtain ⟨⟨rest, rfl⟩, longer⟩ := under
      rw [List.drop_left]
      refine ⟨?_, member⟩
      rintro rfl
      simp at longer
    · cases inside
  · rintro ⟨below, member⟩
    refine ⟨_, member, ?_⟩
    have longer : 0 < names.length := List.length_pos_iff.mpr below
    simp [longer]

theorem mem_contents_iff {path : String} (found : files.find path = .ok (place, .directory)) :
    names ∈ files.contents path ↔ names ≠ [] ∧ ∃ node, files.node? (place ++ names) = some node := by
  simp only [contents, found, List.mem_map]
  constructor
  · rintro ⟨⟨_, node⟩, member, rfl⟩
    obtain ⟨below, listed⟩ := mem_below_iff.mp member
    exact ⟨below, exists_node?_of_mem_entries (by simp [below]) listed⟩
  · rintro ⟨below, node, here⟩
    exact ⟨(names, node), mem_below_iff.mpr ⟨below, mem_entries_of_node? (by simp [below]) here⟩, rfl⟩

theorem IsTree.nodup_contents (tree : files.IsTree) (path : String) : (files.contents path).Nodup := by
  unfold contents
  split
  · rename_i place _
    rw [below, List.Nodup, List.pairwise_map]
    refine (List.pairwise_map.mp tree.distinct).filterMap _ ?_
    intro first second apart below under other inside same
    split at under
    · rename_i firstUnder
      split at inside
      · rename_i secondUnder
        cases under
        cases inside
        rw [Bool.and_eq_true, List.isPrefixOf_iff_prefix] at firstUnder secondUnder
        obtain ⟨rest, atFirst⟩ := firstUnder.1
        obtain ⟨others, atSecond⟩ := secondUnder.1
        rw [← atFirst, ← atSecond, List.drop_left, List.drop_left] at same
        have sameRest : rest = others := same
        exact apart (by rw [← atFirst, ← atSecond, sameRest])
      · cases inside
    · cases under
  · exact List.nodup_nil

end Contents

section Inside

/-- The same files, as they are seen from another working directory. -/
def inside (files : FileSystem) (place : List String) : FileSystem :=
  ⟨files.entries, place⟩

@[simp]
theorem node?_inside (files : FileSystem) (base place : List String) :
    (files.inside base).node? place = files.node? place := rfl

theorem IsTree.inside (tree : files.IsTree) (base : List String) : (files.inside base).IsTree :=
  ⟨tree.distinct, tree.named, tree.inDirectory⟩

end Inside

end FileSystem

end ClassDocs
