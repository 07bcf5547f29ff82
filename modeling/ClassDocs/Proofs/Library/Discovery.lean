import ClassDocs.Proofs.Files.Search
import ClassDocs.Proofs.Library.Tree

namespace ClassDocs

namespace SourceTree

section Found

variable {files : FileSystem} {root : String} {names : List String}

/-- The path of a file below a directory. -/
def foundPath (root : String) (names : List String) : String :=
  "/".intercalate (Path.steps root ++ names)

/-- The names can lead from a directory to an entry below it. -/
structure LeadsBelow (root : String) (names : List String) : Prop where
  below : names ≠ []
  named : ∀ name ∈ Path.steps root ++ names, IsEntryName name

theorem leadsBelow_of_node? (tree : files.IsTree) {node : FileNode} (below : names ≠ [])
    (here : files.node? (files.base ++ Path.steps root ++ names) = some node) : LeadsBelow root names := by
  rw [List.append_assoc] at here
  exact ⟨below, tree.isEntryName_of_append here⟩

theorem parts_foundPath (leads : LeadsBelow root names) :
    Path.parts (foundPath root names) = (Path.steps root ++ names).map .name := by
  have nonempty : Path.steps root ++ names ≠ [] := by simp [leads.below]
  rw [foundPath, (Path.ordinary_names nonempty leads.named).parts_eq, Path.steps_names nonempty leads.named]

theorem le_foundPath {other : List String} (leads : LeadsBelow root names) (otherLeads : LeadsBelow root other) :
    Path.le (foundPath root names) (foundPath root other) = Path.namesLe names other := by
  rw [Path.le, parts_foundPath leads, parts_foundPath otherLeads, ← Path.namesLe, Bool.eq_iff_iff,
    Path.namesLe_iff, namesLe_append, Path.namesLe_iff]

theorem addFound_foundPath (layout : Layout) (relative : Path.Ordinary root) (leads : LeadsBelow root names)
    (tree : SourceTree) :
    addFound layout root tree (foundPath root names) =
      insert layout.segment names (foundPath root names) tree := by
  have texts : (names.map PathPart.name).map PathPart.text = names := by
    rw [List.map_map]
    exact List.map_id names
  rw [addFound, relative.parts_eq, parts_foundPath leads, List.map_append, Path.relative?_append]
  dsimp only
  rw [texts]

theorem foldl_addFound (layout : Layout) (relative : Path.Ordinary root) {found : List (List String)}
    (leads : ∀ names ∈ found, LeadsBelow root names) (tree : SourceTree) :
    (found.map (foundPath root)).foldl (addFound layout root) tree =
      (found.map fun names => (names, foundPath root names)).foldl
        (fun tree file => insert layout.segment file.1 file.2 tree) tree := by
  induction found generalizing tree with
  | nil => rfl
  | cons names found ih =>
    rw [List.map_cons, List.foldl_cons, addFound_foundPath layout relative (leads names (List.mem_cons_self ..)),
      ih fun other member => leads other (List.mem_cons_of_mem _ member)]
    rfl

/-- Files that are found in the order of their names are shown in that order. -/
theorem leaves_foldl_addFound (layout : Layout) (ordinary : Path.Ordinary root) {found : List (List String)}
    (ascending : found.Pairwise NamesLt) (leads : ∀ names ∈ found, LeadsBelow root names) :
    leaves ((found.map (foundPath root)).foldl (addFound layout root) []) =
      found.map fun names => (layout.segment ++ "/" ++ "/".intercalate names, foundPath root names) := by
  have start : Ends layout.segment [] [] := rfl
  have order : ((found.map fun names => (names, foundPath root names)).map (·.1)).Pairwise NamesLe := by
    rw [List.map_map]
    exact (List.map_id found).symm ▸ ascending.imp NamesLt.le
  rw [foldl_addFound layout ordinary leads,
    leaves_foldl_insert start order (fun file _ => namesLe_nil file.1)
      (by simpa using fun names member => (leads names member).below)]
  simp [leaves]

theorem isFile_foundPath (tree : files.IsTree) {node : FileNode} (below : names ≠ [])
    (here : files.node? (files.base ++ Path.steps root ++ names) = some node) :
    files.isFile (foundPath root names) = true ↔ node ≠ .directory := by
  rw [List.append_assoc] at here
  rw [FileSystem.isFile, foundPath, tree.find_names (by simp [below]) here]
  cases node <;> simp

end Found

/-- The class files below a directory are found in the order of their names. -/
theorem matching_pattern {files : FileSystem} {layout : Layout} {root : String} (tree : files.IsTree)
    (ordinary : Path.Ordinary root) (here : files.node? (files.base ++ Path.steps root) = some .directory)
    (plain : Pattern.Plain layout.extension.toList) (noSlash : '/' ∉ layout.extension.toList) :
    ∃ found : List (List String), files.matching (pattern layout root) = .ok (found.map (foundPath root)) ∧
      found.Pairwise NamesLt ∧
      ∀ names, names ∈ found ↔ names ≠ [] ∧
        (∃ node, files.node? (files.base ++ Path.steps root ++ names) = some node ∧ node ≠ .directory) ∧
        '.' :: layout.extension.toList <:+ (names.getLastD "").toList := by
  obtain ⟨listed, distinct, members, searched⟩ :=
    FileSystem.search_root tree ordinary here (SearchStep.ending layout.extension.toList)
  have kept := (List.filter_sublist (p := files.isFile ∘ foundPath root) (l := listed)).nodup distinct
  refine ⟨_, ?_, Path.pairwise_mergeSort_namesLe kept, ?_⟩
  · rw [pattern, FileSystem.matching_below files ordinary.relative plain noSlash, searched]
    change Except.ok (((listed.map (foundPath root)).filter files.isFile).mergeSort Path.le) = _
    have leads : ∀ names ∈ listed.filter (files.isFile ∘ foundPath root), LeadsBelow root names := by
      intro names member
      obtain ⟨below, ⟨node, there⟩, _⟩ := (members names).mp (List.mem_filter.mp member).1
      exact leadsBelow_of_node? tree below there
    rw [List.filter_map, List.map_mergeSort]
    intro first inFirst second inSecond
    exact (le_foundPath (leads first inFirst) (leads second inSecond)).symm
  · intro names
    rw [List.mem_mergeSort, List.mem_filter, members, Function.comp_apply, SearchStep.fits_ending]
    constructor
    · rintro ⟨⟨below, ⟨node, there⟩, ends⟩, file⟩
      exact ⟨below, ⟨node, there, (isFile_foundPath tree below there).mp file⟩, ends⟩
    · rintro ⟨below, ⟨node, there, file⟩, ends⟩
      exact ⟨⟨below, ⟨node, there⟩, ends⟩, (isFile_foundPath tree below there).mpr file⟩

/-- The scan of a directory, under whatever names it lies, succeeds and shows every file below it whose
name ends with the extension, once and in the order of the names that lead to it, and no other. -/
theorem scan_shows_class_files {files : FileSystem} {layout : Layout} {root : String} (tree : files.IsTree)
    (ordinary : Path.Ordinary root) (directory : files.isDirectory root = true)
    (plain : ∀ c ∈ layout.extension.toList, c ≠ '?' ∧ c ≠ '*' ∧ c ≠ '[' ∧ c ≠ '/') :
    files.locate root = .ok (files.base ++ Path.steps root) ∧
    ∃ (classes : SourceTree) (found : List (List String)), scan files layout root = .ok classes ∧
      found.Pairwise NamesLt ∧
      (∀ names, names ∈ found ↔ names ≠ [] ∧
        (∃ node, files.node? (files.base ++ Path.steps root ++ names) = some node ∧ node ≠ .directory) ∧
        ("." ++ layout.extension).toList <:+ (names.getLastD "").toList) ∧
      leaves classes = found.map fun names => (layout.segment ++ "/" ++ "/".intercalate names,
        "/".intercalate (Path.steps root ++ names)) := by
  have here := FileSystem.node?_steps_of_isDirectory ordinary directory
  have located := (FileSystem.find_eq_ok_iff.mp (tree.find_directory ordinary here)).1
  obtain ⟨found, matching, ascending, members⟩ := matching_pattern tree ordinary here
    (fun c member => ⟨(plain c member).1, (plain c member).2.1, (plain c member).2.2.1⟩)
    (fun slash => (plain '/' slash).2.2.2 rfl)
  have leads : ∀ names ∈ found, LeadsBelow root names := by
    intro names member
    obtain ⟨below, ⟨node, there, _⟩, _⟩ := (members names).mp member
    exact leadsBelow_of_node? tree below there
  refine ⟨located, _, found, ?_, ascending, ?_, leaves_foldl_addFound layout ordinary ascending leads⟩
  · rw [scan, matching]
  · simpa using members

/-- Class files below a directory whose name has brackets, next to a directory that is named like one. The
working directory is not the root. -/
def bracketed : FileSystem := ⟨[
  (["home"], .directory), (["home", "a[1]"], .directory), (["home", "a[1]", "b"], .directory),
  (["home", "a[1]", "b", "x.php"], .text ""), (["home", "a[1]", "b", "x-y.php"], .binary),
  (["home", "a[1]", "b", "x"], .directory), (["home", "a[1]", "b", "x", "y.php"], .text ""),
  (["home", "a[1]", "b", "d.php"], .directory)], ["home"]⟩

theorem scan_shows_class_files_of_bracketed :
    bracketed.IsTree ∧ Path.Ordinary "a[1]//b/" ∧ bracketed.isDirectory "a[1]//b/" = true ∧
    ∃ (classes : SourceTree) (found : List (List String)),
      scan bracketed {} "a[1]//b/" = .ok classes ∧ found.Pairwise NamesLt ∧
      ["x", "y.php"] ∈ found ∧ ["x-y.php"] ∈ found ∧ ["x.php"] ∈ found ∧ ["d.php"] ∉ found ∧
      leaves classes = found.map fun names => ("classes/" ++ "/".intercalate names,
        "/".intercalate ("a[1]" :: "b" :: names)) := by
  have tree : bracketed.IsTree := ⟨by decide +kernel, by decide +kernel, by decide +kernel⟩
  have ordinary : Path.Ordinary "a[1]//b/" := ⟨by decide +kernel, by decide +kernel⟩
  have directory : bracketed.isDirectory "a[1]//b/" = true := by decide +kernel
  have plain : ∀ c ∈ ({} : Layout).extension.toList, c ≠ '?' ∧ c ≠ '*' ∧ c ≠ '[' ∧ c ≠ '/' := by
    have letters : ({} : Layout).extension.toList = ['p', 'h', 'p'] := by decide
    rw [letters]
    simp
  have steps : Path.steps "a[1]//b/" = ["a[1]", "b"] := by decide +kernel
  have base : bracketed.base = ["home"] := rfl
  obtain ⟨_, classes, found, scanned, ascending, members, shown⟩ :=
    scan_shows_class_files tree ordinary directory plain
  rw [steps] at members shown
  rw [base] at members
  refine ⟨tree, ordinary, directory, classes, found, scanned, ascending, ?_, ?_, ?_, ?_, shown⟩
  · exact (members _).mpr ⟨by decide, ⟨.text "", by decide +kernel, by decide⟩, by decide +kernel⟩
  · exact (members _).mpr ⟨by decide, ⟨.binary, by decide +kernel, by decide⟩, by decide +kernel⟩
  · exact (members _).mpr ⟨by decide, ⟨.text "", by decide +kernel, by decide⟩, by decide +kernel⟩
  · intro inFound
    obtain ⟨_, ⟨node, there, file⟩, _⟩ := (members _).mp inFound
    have isDirectory : bracketed.node? (["home"] ++ ["a[1]", "b"] ++ ["d.php"]) = some .directory := by
      decide +kernel
    exact file (Option.some.inj (there.symm.trans isDirectory))

end SourceTree

end ClassDocs
