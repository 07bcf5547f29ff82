import ClassDocs.Proofs.Library.Tree
import Mathlib.Data.List.Nodup

namespace ClassDocs

namespace SourceTree

/-- The tree after files were added one after the other, each under the names that lead to it. -/
def ofInserts (above : String) (files : List (List String × String)) : SourceTree :=
  files.foldl (fun tree file => insert above file.1 file.2 tree) []

/-- A file with the name of its entry and its path. -/
def shownAs (above : String) (file : List String × String) : String × String :=
  (above ++ "/" ++ "/".intercalate file.1, file.2)

/-- The names of the directories that stand directly in a tree. -/
def directoryNames : SourceTree → List String
  | [] => []
  | .file _ _ :: rest => directoryNames rest
  | .directory name _ :: rest => name :: directoryNames rest

/-- The tree itself, or what stands directly in a directory somewhere inside it. -/
inductive Level (tree : SourceTree) : SourceTree → Prop
  | top : Level tree tree
  | inside {level entries : SourceTree} {name : String} :
      Level tree level → .directory name entries ∈ level → Level tree entries

/-- A tree as insertion keeps it. No two directories side by side share a name, and every name goes on
from that of the directory above by one step. -/
inductive Nested : String → SourceTree → Prop
  | intro {above : String} {tree : SourceTree} (distinct : (directoryNames tree).Nodup)
      (files : ∀ name path, .file name path ∈ tree → ∃ step, name = above ++ "/" ++ step)
      (directories : ∀ name entries, .directory name entries ∈ tree → ∃ step, name = above ++ "/" ++ step)
      (inside : ∀ name entries, .directory name entries ∈ tree → Nested name entries) : Nested above tree

section Permutation

/-- If a change adds one file to whatever it is applied to, so does changing a directory by it. -/
theorem leaves_changeDirectory_perm {name : String} {change : SourceTree → SourceTree} {leaf : String × String}
    (adds : ∀ entries, (leaves (change entries)).Perm (leaves entries ++ [leaf])) (tree : SourceTree) :
    (leaves (changeDirectory name change tree)).Perm (leaves tree ++ [leaf]) := by
  fun_induction changeDirectory name change tree with
  | case1 => simpa [leaves, leavesOf] using adds []
  | case2 entries rest =>
    rw [leaves, leavesOf, leaves, leavesOf, List.append_assoc]
    refine ((adds entries).append_right (leaves rest)).trans ?_
    rw [List.append_assoc]
    exact List.perm_append_comm.append_left (leaves entries)
  | case3 other entries rest _ ih | case4 other path rest ih =>
    rw [leaves, leaves, List.append_assoc]
    exact ih.append_left _

theorem leaves_insert_perm {names : List String} (named : names ≠ []) (above path : String) (tree : SourceTree) :
    (leaves (insert above names path tree)).Perm (leaves tree ++ [shownAs above (names, path)]) := by
  induction names generalizing above tree with
  | nil => exact absurd rfl named
  | cons name rest ih =>
    cases rest with
    | nil => simp [insert, leaves_append, leaves, leavesOf, shownAs]
    | cons next rest =>
      rw [insert, shownAs, ← entryName_below]
      exact leaves_changeDirectory_perm (ih (by simp) _) tree

theorem leaves_foldl_insert_perm {above : String} {files : List (List String × String)}
    (named : ∀ file ∈ files, file.1 ≠ []) (tree : SourceTree) :
    (leaves (files.foldl (fun tree file => insert above file.1 file.2 tree) tree)).Perm
      (leaves tree ++ files.map (shownAs above)) := by
  induction files generalizing tree with
  | nil => simp
  | cons file rest ih =>
    have later := ih (fun other member => named other (List.mem_cons_of_mem _ member))
      (insert above file.1 file.2 tree)
    have first := leaves_insert_perm (named file (List.mem_cons_self ..)) above file.2 tree
    rw [List.foldl_cons, List.map_cons, List.append_cons]
    exact later.trans (first.append_right _)

end Permutation

section Directories

variable {name : String} {change : SourceTree → SourceTree} {tree : SourceTree}

theorem directoryNames_append (first second : SourceTree) :
    directoryNames (first ++ second) = directoryNames first ++ directoryNames second := by
  fun_induction directoryNames first with
  | case1 => rfl
  | case2 _ _ rest ih => rw [List.cons_append, directoryNames, ih]
  | case3 other _ rest ih => rw [List.cons_append, directoryNames, ih, List.cons_append]

theorem directoryNames_changeDirectory (name : String) (change : SourceTree → SourceTree) (tree : SourceTree) :
    directoryNames (changeDirectory name change tree) =
      if name ∈ directoryNames tree then directoryNames tree else directoryNames tree ++ [name] := by
  fun_induction changeDirectory name change tree with
  | case1 => rfl
  | case2 entries rest => simp [directoryNames]
  | case3 other entries rest apart ih =>
    have elsewhere : name ∈ other :: directoryNames rest ↔ name ∈ directoryNames rest := by
      rw [List.mem_cons, or_iff_right (Ne.symm apart)]
    rw [directoryNames, ih, directoryNames, if_congr elsewhere rfl rfl]
    split
    · rfl
    · rfl
  | case4 other path rest ih => rw [directoryNames, ih, directoryNames]

theorem nodup_directoryNames_changeDirectory (distinct : (directoryNames tree).Nodup) (name : String)
    (change : SourceTree → SourceTree) : (directoryNames (changeDirectory name change tree)).Nodup := by
  rw [directoryNames_changeDirectory]
  split
  · exact distinct
  · rename_i new
    rw [← List.concat_eq_append]
    exact distinct.concat new

/-- The entries after a change are those before, but for the directory that was changed. -/
theorem mem_changeDirectory {entry : TreeEntry} (member : entry ∈ changeDirectory name change tree) :
    entry ∈ tree ∨ ∃ entries, entry = .directory name (change entries) ∧
      (entries = [] ∨ .directory name entries ∈ tree) := by
  fun_induction changeDirectory name change tree with
  | case1 => exact Or.inr ⟨[], List.mem_singleton.mp member, Or.inl rfl⟩
  | case2 entries rest =>
    rcases List.mem_cons.mp member with here | later
    · exact Or.inr ⟨entries, here, Or.inr (List.mem_cons_self ..)⟩
    · exact Or.inl (List.mem_cons_of_mem _ later)
  | case3 other entries rest _ ih | case4 other path rest ih =>
    rcases List.mem_cons.mp member with here | later
    · exact Or.inl (here ▸ List.mem_cons_self ..)
    · rcases ih later with old | ⟨inner, changed, before⟩
      · exact Or.inl (List.mem_cons_of_mem _ old)
      · exact Or.inr ⟨inner, changed, before.imp id (List.mem_cons_of_mem _)⟩

end Directories

namespace Nested

variable {above : String} {tree : SourceTree}

theorem nil (above : String) : Nested above [] :=
  .intro List.nodup_nil nofun nofun nofun

theorem addFile (nested : Nested above tree) (name path : String) :
    Nested above (tree ++ [.file (above ++ "/" ++ name) path]) := by
  obtain ⟨distinct, files, directories, inside⟩ := nested
  have old {other : String} {entries : SourceTree}
      (member : .directory other entries ∈ tree ++ [.file (above ++ "/" ++ name) path]) :
      .directory other entries ∈ tree := by
    simpa using member
  refine .intro ?_ ?_ (fun _ _ member => directories _ _ (old member)) fun _ _ member => inside _ _ (old member)
  · rw [directoryNames_append]
    simpa [directoryNames] using distinct
  · intro other otherPath member
    rcases List.mem_append.mp member with before | added
    · exact files other otherPath before
    · cases List.mem_singleton.mp added
      exact ⟨name, rfl⟩

theorem changeDirectory (nested : Nested above tree) {name : String} {change : SourceTree → SourceTree}
    (kept : ∀ entries, Nested (above ++ "/" ++ name) entries → Nested (above ++ "/" ++ name) (change entries)) :
    Nested above (changeDirectory (above ++ "/" ++ name) change tree) := by
  obtain ⟨distinct, files, directories, inside⟩ := nested
  refine .intro (nodup_directoryNames_changeDirectory distinct _ _) ?_ ?_ ?_
  · intro other path member
    rcases mem_changeDirectory member with old | ⟨_, changed, _⟩
    · exact files other path old
    · cases changed
  · intro other entries member
    rcases mem_changeDirectory member with old | ⟨_, changed, _⟩
    · exact directories other entries old
    · cases changed
      exact ⟨name, rfl⟩
  · intro other entries member
    rcases mem_changeDirectory member with old | ⟨before, changed, rfl | known⟩
    · exact inside other entries old
    · cases changed
      exact kept [] (nil _)
    · cases changed
      exact kept before (inside _ _ known)

theorem insert (nested : Nested above tree) (names : List String) (path : String) :
    Nested above (insert above names path tree) := by
  induction names generalizing above tree with
  | nil => exact nested
  | cons name rest ih =>
    cases rest with
    | nil => exact nested.addFile name path
    | cons next rest => exact nested.changeDirectory fun entries => ih

theorem ofInserts (above : String) (files : List (List String × String)) : Nested above (ofInserts above files) := by
  have kept (tree : SourceTree) (nested : Nested above tree) :
      Nested above (files.foldl (fun tree file => SourceTree.insert above file.1 file.2 tree) tree) := by
    induction files generalizing tree with
    | nil => exact nested
    | cons file rest ih => exact ih _ (nested.insert file.1 file.2)
  exact kept [] (nil above)

theorem level {level : SourceTree} (nested : Nested above tree) (within : Level tree level) :
    ∃ name, Nested name level := by
  induction within with
  | top => exact ⟨above, nested⟩
  | inside _ member ih =>
    obtain ⟨_, ⟨_, _, _, inside⟩⟩ := ih
    exact ⟨_, inside _ _ member⟩

end Nested

theorem exists_entry_of_mem_leaves {leaf : String × String} {tree : SourceTree} (member : leaf ∈ leaves tree) :
    .file leaf.1 leaf.2 ∈ tree ∨ ∃ name entries, .directory name entries ∈ tree ∧ leaf ∈ leaves entries := by
  induction tree with
  | nil => cases member
  | cons entry rest ih =>
    rw [leaves, List.mem_append] at member
    rcases member with here | later
    · cases entry with
      | file name path =>
        rw [leavesOf, List.mem_singleton] at here
        exact Or.inl (by rw [here]; exact List.mem_cons_self ..)
      | directory name entries => exact Or.inr ⟨name, entries, List.mem_cons_self .., by rwa [leavesOf] at here⟩
    · rcases ih later with file | ⟨name, entries, directory, inside⟩
      · exact Or.inl (List.mem_cons_of_mem _ file)
      · exact Or.inr ⟨name, entries, List.mem_cons_of_mem _ directory, inside⟩

/-- The names of all files in a tree go on from that of the directory that holds it. -/
theorem Nested.leaf_below {above : String} {tree : SourceTree} (nested : Nested above tree)
    {leaf : String × String} (member : leaf ∈ leaves tree) : ∃ rest, leaf.1 = above ++ "/" ++ rest := by
  induction nested with
  | intro _ files directories _ ih =>
    rcases exists_entry_of_mem_leaves member with file | ⟨name, entries, directory, inside⟩
    · exact files _ _ file
    · obtain ⟨step, rfl⟩ := directories name entries directory
      obtain ⟨rest, shown⟩ := ih _ entries directory inside
      exact ⟨step ++ "/" ++ rest, by rw [shown]; simp only [String.append_assoc]⟩

/-- However files are inserted, each of them is shown as often as it was inserted. On every level the
directories have different names, and each name goes in front of those of all files below it. Files that
are inserted in the order of their names are shown in that order. -/
theorem inserts_show_every_file (above : String) (files : List (List String × String))
    (named : ∀ file ∈ files, file.1 ≠ []) :
    (leaves (ofInserts above files)).Perm (files.map (shownAs above)) ∧
    (∀ level, Level (ofInserts above files) level → (directoryNames level).Nodup) ∧
    (∀ level, Level (ofInserts above files) level → ∀ name entries, .directory name entries ∈ level →
      ∀ leaf ∈ leaves entries, ∃ rest, leaf.1 = name ++ "/" ++ rest) ∧
    ((files.map (·.1)).Pairwise NamesLe → leaves (ofInserts above files) = files.map (shownAs above)) := by
  have nested := Nested.ofInserts above files
  refine ⟨leaves_foldl_insert_perm named [], fun level within => ?_, fun level within name entries member leaf shown => ?_,
    fun order => ?_⟩
  · obtain ⟨_, ⟨distinct, _⟩⟩ := nested.level within
    exact distinct
  · obtain ⟨_, ⟨_, _, _, inside⟩⟩ := nested.level within
    exact (inside name entries member).leaf_below shown
  · have start : Ends above [] [] := rfl
    exact leaves_foldl_insert start order (fun file _ => namesLe_nil file.1) named

/-- A file with the name of a directory, one that is inserted twice, and one that comes after the
directory. -/
def filesInOrder : List (List String × String) :=
  [(["kohana"], "1"), (["kohana", "arr.php"], "2"), (["kohana", "arr.php"], "2"), (["kohana.php"], "3")]

theorem inserts_show_every_file_of_filesInOrder :
    (∀ file ∈ filesInOrder, file.1 ≠ []) ∧
    (leaves (ofInserts "classes" filesInOrder)).Perm (filesInOrder.map (shownAs "classes")) ∧
    (∃ entries, .directory "classes/kohana" entries ∈ ofInserts "classes" filesInOrder ∧
      Level (ofInserts "classes" filesInOrder) entries ∧ (directoryNames entries).Nodup ∧
      ("classes/kohana/arr.php", "2") ∈ leaves entries ∧
      ∃ rest, "classes/kohana/arr.php" = "classes/kohana" ++ "/" ++ rest) ∧
    (filesInOrder.map (·.1)).Pairwise NamesLe ∧
    leaves (ofInserts "classes" filesInOrder) = filesInOrder.map (shownAs "classes") := by
  have named : ∀ file ∈ filesInOrder, file.1 ≠ [] := by decide
  have order : (filesInOrder.map (·.1)).Pairwise NamesLe := by
    have sorted : (filesInOrder.map (·.1)).Pairwise fun first second => Path.namesLe first second = true := by
      decide +kernel
    exact sorted.imp fun le => (Path.namesLe_iff _ _).mp le
  have member : .directory "classes/kohana" [.file "classes/kohana/arr.php" "2", .file "classes/kohana/arr.php" "2"] ∈
      ofInserts "classes" filesInOrder :=
    List.mem_cons_of_mem _ (List.mem_cons_self ..)
  obtain ⟨shown, distinct, below, inOrder⟩ := inserts_show_every_file "classes" filesInOrder named
  refine ⟨named, shown, ⟨_, member, .inside .top member, distinct _ (.inside .top member), List.mem_cons_self .., ?_⟩,
    order, inOrder order⟩
  exact below _ .top _ _ member _ (List.mem_cons_self ..)

end SourceTree

end ClassDocs
