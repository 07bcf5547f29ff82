import ClassDocs.Proofs.Files.Roots
import ClassDocs.Proofs.Library.Discovery
import ClassDocs.Proofs.SortedMap

namespace ClassDocs

section Names

variable {extension : String} {names : List String} {key : String}

theorem dropStart_append (start rest : List Char) : dropStart start (start ++ rest) = rest := by
  rw [dropStart, after?_eq_some_iff.mpr rfl]
  rfl

theorem dropEnding_append (text ending : List Char) : dropEnding ending (text ++ ending) = text := by
  rw [dropEnding, List.reverse_append, dropStart_append, List.reverse_reverse]

/-- A text with an underscore for every separator. -/
def underscored (text : String) : String :=
  String.ofList (text.toList.map fun c => if isSeparator c then '_' else c)

theorem Layout.entityName_entry (layout : Layout) (stem : String) :
    layout.entityName (layout.segment ++ "/" ++ (stem ++ "." ++ layout.extension)) = lowercase (underscored stem) := by
  have inside : (layout.segment ++ "/" ++ (stem ++ "." ++ layout.extension)).toList =
      (layout.segment ++ "/").toList ++ (stem.toList ++ ("." ++ layout.extension).toList) := by simp
  rw [Layout.entityName, inside, dropStart_append, dropEnding_append]
  rfl

/-- The name that the path of a class file gives: the path without its final extension, with an
underscore for every separator, in lower case. -/
def GivesName (extension : String) (names : List String) (key : String) : Prop :=
  ∃ stem, "/".intercalate names = stem ++ "." ++ extension ∧ key = lowercase (underscored stem)

/-- The entity of the file that the names lead to. -/
def Layout.entityAt (layout : Layout) (names : List String) : String :=
  layout.entityName (layout.segment ++ "/" ++ "/".intercalate names)

theorem suffix_intercalate (names : List String) :
    (names.getLastD "").toList <:+ ("/".intercalate names).toList := by
  induction names with
  | nil => exact List.suffix_refl _
  | cons name rest ih =>
    cases rest with
    | nil => rw [String.intercalate_singleton]; exact List.suffix_refl _
    | cons next rest =>
      rw [String.intercalate_cons_cons, String.toList_append]
      exact List.IsSuffix.trans ih (List.suffix_append _ _)

/-- The name does not depend on the segment in front of the path. -/
theorem givesName_iff (ends : ("." ++ extension).toList <:+ (names.getLastD "").toList) (segment : String) :
    GivesName extension names key ↔ Layout.entityAt ⟨segment, extension⟩ names = key := by
  obtain ⟨letters, whole⟩ := ends.trans (suffix_intercalate names)
  have path : "/".intercalate names = String.ofList letters ++ "." ++ extension := by
    rw [← String.toList_inj, ← whole]
    simp
  have entity := Layout.entityName_entry ⟨segment, extension⟩ (String.ofList letters)
  rw [Layout.entityAt]
  constructor
  · rintro ⟨stem, same, rfl⟩
    rw [same]
    exact Layout.entityName_entry ⟨segment, extension⟩ stem
  · intro named
    rw [path, entity] at named
    exact ⟨String.ofList letters, path, named.symm⟩

end Names

section Ascending

variable {found : List (List String)} {name : List String → String} {path : List String → String}
  {key file : String}

theorem namesLe_refl (names : List String) : NamesLe names names :=
  (namesLe_total names names).elim id id

/-- Where files are indexed in ascending order, the greatest one of a name counts. -/
theorem get?_ofList_ascending (ascending : found.Pairwise NamesLt) :
    (SortedMap.ofList (found.map fun names => (name names, path names))).get? key = some file ↔
      ∃ names ∈ found, name names = key ∧ path names = file ∧
        ∀ other ∈ found, name other = key → NamesLe other names := by
  rw [SortedMap.get?_ofList_eq_some_iff]
  constructor
  · rintro ⟨before, after, whole, last⟩
    obtain ⟨front, rest, rfl, atFront, atRest⟩ := List.map_eq_append_iff.mp whole
    obtain ⟨names, later, rfl, here, atLater⟩ := List.map_eq_cons_iff.mp atRest
    obtain ⟨named, located⟩ := Prod.mk.inj here
    refine ⟨names, by simp, named, located, fun other member same => ?_⟩
    rcases List.mem_append.mp member with inFront | inRest
    · exact ((List.pairwise_append.mp ascending).2.2 other inFront names (List.mem_cons_self ..)).le
    · rcases List.mem_cons.mp inRest with rfl | inLater
      · exact namesLe_refl other
      · exact absurd same (last _ (atLater ▸ List.mem_map_of_mem inLater))
  · rintro ⟨names, member, rfl, rfl, greatest⟩
    obtain ⟨front, later, rfl⟩ := List.append_of_mem member
    refine ⟨_, _, by rw [List.map_append, List.map_cons], fun entry inLater same => ?_⟩
    obtain ⟨other, member, rfl⟩ := List.mem_map.mp inLater
    have after := (List.pairwise_cons.mp (List.pairwise_append.mp ascending).2.1).1 other member
    exact greatest other (by simp [member]) same after

end Ascending

namespace SourceTree

section Index

variable {files : FileSystem} {root : String}

/-- The class files below a directory are found in the order of their names, none if it is missing. -/
theorem matching_pattern_anywhere (layout : Layout) (tree : files.IsTree) (ordinary : Path.Ordinary root)
    (plain : Pattern.Plain layout.extension.toList) (noSlash : '/' ∉ layout.extension.toList) :
    ∃ found : List (List String), files.matching (pattern layout root) = .ok (found.map (foundPath root)) ∧
      found.Pairwise NamesLt ∧
      ∀ names, names ∈ found ↔ names ≠ [] ∧
        (∃ node, files.node? (files.base ++ Path.steps root ++ names) = some node ∧ node ≠ .directory) ∧
        '.' :: layout.extension.toList <:+ (names.getLastD "").toList := by
  by_cases here : files.node? (files.base ++ Path.steps root) = some .directory
  · exact matching_pattern tree ordinary here plain noSlash
  · have named : ∀ name ∈ [] ++ Path.steps root, IsEntryName name := ordinary.isEntryName
    have nothing : files.search ((Path.pieces root).map SearchStep.named ++
        [.anyDepth, .ending layout.extension.toList]) "." = [] :=
      FileSystem.search_pieces_eq_nil (Or.inl ⟨rfl, rfl⟩) (fun _ => ordinary.relative) named here _
    refine ⟨[], ?_, List.Pairwise.nil, fun names => iff_of_false List.not_mem_nil ?_⟩
    · rw [pattern, FileSystem.matching_below files ordinary.relative plain noSlash, nothing, List.filter_nil, List.mergeSort_nil,
        List.map_nil]
    · rintro ⟨below, ⟨node, there, _⟩, _⟩
      exact here (tree.directory_of_append there below)

theorem locate_foldl_addFound (layout : Layout) (ordinary : Path.Ordinary root) {found : List (List String)}
    (ascending : found.Pairwise NamesLt) (leads : ∀ names ∈ found, LeadsBelow root names) :
    locate layout ((found.map (foundPath root)).foldl (addFound layout root) []) =
      SortedMap.ofList (found.map fun names => (layout.entityAt names, foundPath root names)) := by
  rw [locate, leaves_foldl_addFound layout ordinary ascending leads, List.map_map]
  rfl

end Index

/-- A scan indexes every class file that it finds under the name that its path gives, whatever the
segment is. Of the files of one name the last one in the order of paths counts. -/
theorem scan_indexes_greatest_path {files : FileSystem} {root extension : String} (tree : files.IsTree)
    (ordinary : Path.Ordinary root)
    (plain : ∀ c ∈ extension.toList, c ≠ '?' ∧ c ≠ '*' ∧ c ≠ '[' ∧ c ≠ '/') :
    ∃ (found : List (List String)) (index : SortedMap String),
      (∀ names, names ∈ found ↔ names ≠ [] ∧
        (∃ node, files.node? (files.base ++ Path.steps root ++ names) = some node ∧ node ≠ .directory) ∧
        ("." ++ extension).toList <:+ (names.getLastD "").toList) ∧
      (∀ segment, ∃ classes, scan files ⟨segment, extension⟩ root = .ok classes ∧
        locate ⟨segment, extension⟩ classes = index ∧
        collect ⟨segment, extension⟩ classes = index.mapValues fun name _ => name) ∧
      (∀ key, key ∈ index.keys ↔ ∃ names ∈ found, GivesName extension names key) ∧
      ∀ key path, index.get? key = some path ↔
        ∃ names ∈ found, GivesName extension names key ∧ path = "/".intercalate (Path.steps root ++ names) ∧
          ∀ other ∈ found, GivesName extension other key →
            NamesLe (Path.steps root ++ other) (Path.steps root ++ names) := by
  have special : Pattern.Plain extension.toList :=
    fun c member => ⟨(plain c member).1, (plain c member).2.1, (plain c member).2.2.1⟩
  have noSlash : '/' ∉ extension.toList := fun slash => (plain '/' slash).2.2.2 rfl
  -- the pattern is the same for every segment
  obtain ⟨found, matching, ascending, members⟩ :=
    matching_pattern_anywhere ⟨"", extension⟩ tree ordinary special noSlash
  have leads : ∀ names ∈ found, LeadsBelow root names := by
    intro names member
    obtain ⟨below, ⟨node, there, _⟩, _⟩ := (members names).mp member
    exact leadsBelow_of_node? tree below there
  have ends : ∀ names ∈ found, ("." ++ extension).toList <:+ (names.getLastD "").toList := by
    intro names member
    simpa using ((members names).mp member).2.2
  have located (segment : String) :
      locate ⟨segment, extension⟩ ((found.map (foundPath root)).foldl (addFound ⟨segment, extension⟩ root) []) =
        SortedMap.ofList (found.map fun names => (Layout.entityAt ⟨"", extension⟩ names, foundPath root names)) := by
    rw [locate_foldl_addFound _ ordinary ascending leads]
    refine congrArg SortedMap.ofList (List.map_congr_left fun names member => ?_)
    have gives := (givesName_iff (ends names member) "").mpr rfl
    rw [(givesName_iff (ends names member) segment).mp gives]
  refine ⟨found, _, by simpa using members, fun segment => ⟨_, ?_, located segment, ?_⟩, fun key => ?_,
    fun key path => ?_⟩
  · have read : files.matching (pattern ⟨segment, extension⟩ root) = _ := matching
    rw [scan, read]
  · rw [collect, located]
  · rw [SortedMap.mem_keys_ofList, List.map_map, List.mem_map]
    exact exists_congr fun names => and_congr_right fun member => (givesName_iff (ends names member) "").symm
  · rw [get?_ofList_ascending ascending]
    refine exists_congr fun names => and_congr_right fun member => ?_
    rw [givesName_iff (ends names member) "", eq_comm (a := path)]
    refine and_congr_right fun _ => and_congr_right fun _ => forall_congr' fun other => forall_congr' fun inFound => ?_
    rw [givesName_iff (ends other inFound) "", namesLe_append]

/-- Three class files of one name. -/
def collidingClasses : FileSystem := ⟨[
  (["lib"], .directory), (["lib", "a"], .directory), (["lib", "a", "b.php"], .text ""),
  (["lib", "a_b.php"], .text ""), (["lib", "A"], .directory), (["lib", "A", "b.php"], .text "")], []⟩

theorem scan_indexes_greatest_path_of_collidingClasses :
    collidingClasses.IsTree ∧ Path.Ordinary "lib" ∧
    ∃ index : SortedMap String,
      (∀ segment, (scan collidingClasses ⟨segment, "php"⟩ "lib").toOption.map (locate ⟨segment, "php"⟩) =
        some index) ∧
      GivesName "php" ["a", "b.php"] "a_b" ∧ GivesName "php" ["A", "b.php"] "a_b" ∧
      "a_b" ∈ index.keys ∧ index.get? "a_b" = some "lib/a_b.php" := by
  have tree : collidingClasses.IsTree := ⟨by decide +kernel, by decide +kernel, by decide +kernel⟩
  have ordinary : Path.Ordinary "lib" := ⟨by decide +kernel, by decide +kernel⟩
  have plain : ∀ c ∈ "php".toList, c ≠ '?' ∧ c ≠ '*' ∧ c ≠ '[' ∧ c ≠ '/' := by
    have letters : "php".toList = ['p', 'h', 'p'] := by decide
    rw [letters]
    simp
  have steps : Path.steps "lib" = ["lib"] := by decide +kernel
  obtain ⟨found, index, members, indexed, keys, winners⟩ := scan_indexes_greatest_path tree ordinary plain
  rw [steps] at members winners
  have flat : ["a_b.php"] ∈ found :=
    (members _).mpr ⟨by decide, ⟨.text "", by decide +kernel, by decide⟩, by decide +kernel⟩
  have gives : GivesName "php" ["a_b.php"] "a_b" := ⟨"a_b", by decide +kernel, by decide +kernel⟩
  have greatest : ∀ other ∈ found, NamesLe (["lib"] ++ other) (["lib"] ++ ["a_b.php"]) := by
    have all : ∀ entry ∈ collidingClasses.entries, Path.namesLe entry.1 ["lib", "a_b.php"] = true := by
      decide +kernel
    intro other member
    obtain ⟨_, ⟨node, there, _⟩, _⟩ := (members other).mp member
    exact (Path.namesLe_iff _ _).mp (all _ (FileSystem.mem_entries_of_node? (by simp) there))
  refine ⟨tree, ordinary, index, fun segment => ?_, ⟨"a/b", by decide +kernel, by decide +kernel⟩,
    ⟨"A/b", by decide +kernel, by decide +kernel⟩, (keys "a_b").mpr ⟨_, flat, gives⟩,
    (winners _ _).mpr ⟨_, flat, gives, by decide +kernel, fun other member _ => greatest other member⟩⟩
  obtain ⟨classes, scanned, located, _⟩ := indexed segment
  rw [scanned, ← located]
  rfl

end SourceTree

end ClassDocs
