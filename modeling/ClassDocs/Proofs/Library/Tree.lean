import ClassDocs.Proofs.Except
import ClassDocs.Proofs.Files.Order
import ClassDocs.Proofs.Library.Names

namespace ClassDocs

theorem FileSystem.isFile_of_matching {files : FileSystem} {pattern : List Char} {paths : List String}
    (done : files.matching pattern = .ok paths) : ∀ path ∈ paths, files.isFile path = true := by
  obtain ⟨_, _, done⟩ := bind_eq_ok_iff.mp done
  obtain ⟨components, _, done⟩ := bind_eq_ok_iff.mp done
  split at done
  · cases done
    simp
  · cases done
    intro path member
    exact (List.mem_filter.mp (List.mem_mergeSort.mp member)).2

namespace SourceTree

theorem leaves_append (first second : SourceTree) : leaves (first ++ second) = leaves first ++ leaves second := by
  induction first with
  | nil => simp [leaves]
  | cons entry rest ih => simp [leaves, ih]

theorem leaves_directory (before : SourceTree) (name : String) (entries : SourceTree) :
    leaves (before ++ [.directory name entries]) = leaves before ++ leaves entries := by
  simp [leaves_append, leaves, leavesOf]

/-- The entry name of a file, from a directory on or from the one below it. -/
theorem entryName_below (above name next : String) (rest : List String) :
    above ++ "/" ++ name ++ "/" ++ "/".intercalate (next :: rest) =
      above ++ "/" ++ "/".intercalate (name :: next :: rest) := by
  simp only [String.intercalate_cons_cons, String.append_assoc]

section Members

/-- A change of one directory shows no other files than the tree had and the changed directory has. -/
theorem mem_leaves_changeDirectory {name : String} {change : SourceTree → SourceTree} {tree : SourceTree}
    {leaf : String × String} (member : leaf ∈ leaves (changeDirectory name change tree)) :
    leaf ∈ leaves tree ∨ ∃ entries, leaves entries ⊆ leaves tree ∧ leaf ∈ leaves (change entries) := by
  fun_induction changeDirectory name change tree with
  | case1 => exact Or.inr ⟨[], by simp [leaves], by simpa [leaves, leavesOf] using member⟩
  | case2 entries rest =>
    rw [leaves, leavesOf, List.mem_append] at member
    rcases member with changed | later
    · exact Or.inr ⟨entries, by simp [leaves, leavesOf], changed⟩
    · exact Or.inl (by simp [leaves, later])
  | case3 other entries rest _ ih | case4 other path rest ih =>
    rw [leaves, List.mem_append] at member
    rcases member with here | later
    · exact Or.inl (by simp [leaves, here])
    · rcases ih later with old | ⟨entries, inside, changed⟩
      · exact Or.inl (by simp [leaves, old])
      · refine Or.inr ⟨entries, fun other member => ?_, changed⟩
        rw [leaves]
        exact List.mem_append_right _ (inside member)

theorem mem_leaves_insert {above path : String} {names : List String} {tree : SourceTree}
    {leaf : String × String} (member : leaf ∈ leaves (insert above names path tree)) :
    leaf ∈ leaves tree ∨ leaf.2 = path := by
  induction names generalizing above tree with
  | nil => exact Or.inl member
  | cons name rest ih =>
    cases rest with
    | nil =>
      rw [insert, leaves_append, List.mem_append] at member
      simp only [leaves, leavesOf, List.append_nil, List.mem_singleton] at member
      exact member.imp id (congrArg Prod.snd)
    | cons next rest =>
      rcases mem_leaves_changeDirectory member with old | ⟨entries, inside, changed⟩
      · exact Or.inl old
      · exact (ih changed).imp (fun old => inside old) id

theorem mem_leaves_addFound {layout : Layout} {root path : String} {tree : SourceTree}
    {leaf : String × String} (member : leaf ∈ leaves (addFound layout root tree path)) :
    leaf ∈ leaves tree ∨ leaf.2 = path := by
  unfold addFound at member
  split at member
  · exact mem_leaves_insert member
  · exact Or.inl member

theorem mem_leaves_foldl {layout : Layout} {root : String} {paths : List String} {tree : SourceTree}
    {leaf : String × String} (member : leaf ∈ leaves (paths.foldl (addFound layout root) tree)) :
    leaf ∈ leaves tree ∨ leaf.2 ∈ paths := by
  induction paths generalizing tree with
  | nil => exact Or.inl member
  | cons path rest ih =>
    rcases ih member with inserted | later
    · rcases mem_leaves_addFound inserted with old | here
      · exact Or.inl old
      · exact Or.inr (here ▸ List.mem_cons_self ..)
    · exact Or.inr (List.mem_cons_of_mem _ later)

/-- Every class of the index is in a file that exists. -/
theorem isFile_of_mem_locate {files : FileSystem} {layout : Layout} {root : String} {tree : SourceTree}
    (scanned : scan files layout root = .ok tree) :
    ∀ path ∈ (locate layout tree).values, files.isFile path = true := by
  intro path member
  unfold scan at scanned
  split at scanned
  · rename_i paths found
    cases scanned
    obtain ⟨entry, inIndex, rfl⟩ := List.mem_map.mp member
    obtain ⟨leaf, shown, rfl⟩ := List.mem_map.mp (SortedMap.mem_of_mem_ofList inIndex)
    rcases mem_leaves_foldl shown with empty | inPaths
    · cases empty
    · exact FileSystem.isFile_of_matching found _ inPaths
  · cases scanned

end Members

section Order

/-- The directories of a list of entries have names that come before the given one. -/
def Below (above name : String) (tree : SourceTree) : Prop :=
  ∀ directory entries, .directory directory entries ∈ tree →
    ∃ step, directory = above ++ "/" ++ step ∧ step < name

/-- The file that was added last stands at the end of every directory on the way to it, and all other
directories there come before. -/
def Ends (above : String) : List String → SourceTree → Prop
  | [], tree => tree = []
  | [name], tree => Below above name tree
  | name :: next :: rest, tree => ∃ before entries,
    tree = before ++ [.directory (above ++ "/" ++ name) entries] ∧ Below above name before ∧
      Ends (above ++ "/" ++ name) (next :: rest) entries

theorem Below.nil (above name : String) : Below above name [] := by
  intro directory entries member
  cases member

theorem Below.mono {above name other : String} {tree : SourceTree} (below : Below above name tree)
    (order : name < other) : Below above other tree := by
  intro directory entries member
  obtain ⟨step, same, before⟩ := below directory entries member
  exact ⟨step, same, String.lt_trans before order⟩

theorem Below.append {above name : String} {first second : SourceTree} (left : Below above name first)
    (right : Below above name second) : Below above name (first ++ second) := by
  intro directory entries member
  rcases List.mem_append.mp member with inFirst | inSecond
  · exact left directory entries inFirst
  · exact right directory entries inSecond

theorem Ends.below {above name other : String} {rest : List String} {tree : SourceTree}
    (ends : Ends above (name :: rest) tree) (order : name < other) : Below above other tree := by
  cases rest with
  | nil => exact Below.mono ends order
  | cons next rest =>
    obtain ⟨before, entries, rfl, below, _⟩ := ends
    refine (below.mono order).append fun directory inside member => ?_
    cases List.mem_singleton.mp member
    exact ⟨name, rfl, order⟩

/-- A directory that comes after all others is changed at the end, and made there if it is missing. -/
theorem changeDirectory_of_below {above name : String} {before : SourceTree}
    (below : Below above name before) (change : SourceTree → SourceTree) (after : SourceTree) :
    changeDirectory (above ++ "/" ++ name) change (before ++ after) =
      before ++ changeDirectory (above ++ "/" ++ name) change after := by
  induction before with
  | nil => rfl
  | cons entry rest ih =>
    have later := ih fun directory entries member => below directory entries (List.mem_cons_of_mem _ member)
    cases entry with
    | file other path => rw [List.cons_append, changeDirectory, later, List.cons_append]
    | directory other entries =>
      have apart : other ≠ above ++ "/" ++ name := by
        obtain ⟨step, rfl, order⟩ := below other entries (List.mem_cons_self ..)
        intro same
        rw [String.append_right_inj] at same
        exact String.lt_irrefl _ (same ▸ order)
      rw [List.cons_append, changeDirectory, if_neg apart, later, List.cons_append]

theorem insert_of_below {above name : String} {tree : SourceTree} (below : Below above name tree)
    (rest : List String) (path : String) :
    Ends above (name :: rest) (insert above (name :: rest) path tree) ∧
      leaves (insert above (name :: rest) path tree) =
        leaves tree ++ [(above ++ "/" ++ "/".intercalate (name :: rest), path)] := by
  induction rest generalizing above name tree with
  | nil =>
    rw [insert]
    refine ⟨Below.append below fun directory entries member => ?_, ?_⟩
    · cases List.mem_singleton.mp member
    · simp [leaves_append, leaves, leavesOf]
  | cons next rest ih =>
    obtain ⟨ends, shown⟩ := ih (Below.nil (above ++ "/" ++ name) next)
    have placed := changeDirectory_of_below below (insert (above ++ "/" ++ name) (next :: rest) path) []
    rw [List.append_nil, changeDirectory] at placed
    rw [insert, placed]
    refine ⟨⟨tree, _, rfl, below, ends⟩, ?_⟩
    rw [leaves_directory, shown, leaves, List.nil_append, entryName_below]

/-- A file that does not come before the last one is shown at the end. -/
theorem Ends.insert {above path : String} {last names : List String} {tree : SourceTree}
    (ends : Ends above last tree) (order : NamesLe last names) (named : names ≠ []) :
    Ends above names (insert above names path tree) ∧
      leaves (insert above names path tree) =
        leaves tree ++ [(above ++ "/" ++ "/".intercalate names, path)] := by
  induction last generalizing above names tree with
  | nil =>
    obtain ⟨name, rest, rfl⟩ := List.exists_cons_of_ne_nil named
    cases ends
    exact insert_of_below (Below.nil above name) rest path
  | cons name rest ih =>
    obtain ⟨other, others, rfl⟩ := List.exists_cons_of_ne_nil named
    rcases namesLe_cons_cons.mp order with before | ⟨rfl, behind⟩
    · exact insert_of_below (ends.below before) others path
    · cases rest with
      | nil => exact insert_of_below ends others path
      | cons next rest =>
        -- the file goes into the directory that stands last, where it comes after the last file again
        obtain ⟨before, entries, rfl, below, inside⟩ := ends
        cases others with
        | nil => exact absurd behind (not_namesLe_nil next rest)
        | cons second others =>
          obtain ⟨within, shown⟩ := ih inside behind (by simp)
          rw [SourceTree.insert, changeDirectory_of_below below, changeDirectory, if_pos rfl]
          refine ⟨⟨before, _, rfl, below, within⟩, ?_⟩
          rw [leaves_directory, leaves_directory, shown, entryName_below, List.append_assoc]

/-- Files that are added in the order of their names are shown in that order. -/
theorem leaves_foldl_insert {above : String} {last : List String} {tree : SourceTree}
    {found : List (List String × String)} (ends : Ends above last tree)
    (order : (found.map (·.1)).Pairwise NamesLe) (after : ∀ file ∈ found, NamesLe last file.1)
    (named : ∀ file ∈ found, file.1 ≠ []) :
    leaves (found.foldl (fun tree file => insert above file.1 file.2 tree) tree) =
      leaves tree ++ found.map fun file => (above ++ "/" ++ "/".intercalate file.1, file.2) := by
  induction found generalizing last tree with
  | nil => simp
  | cons file rest ih =>
    obtain ⟨first, later⟩ := List.pairwise_cons.mp order
    obtain ⟨added, shown⟩ := ends.insert (after file (List.mem_cons_self ..)) (named file (List.mem_cons_self ..))
    have others := ih added later (fun other member => first _ (List.mem_map_of_mem member))
      fun other member => named other (List.mem_cons_of_mem _ member)
    rw [List.foldl_cons, others, shown, List.append_assoc, List.map_cons, List.singleton_append]

end Order

end SourceTree

end ClassDocs
