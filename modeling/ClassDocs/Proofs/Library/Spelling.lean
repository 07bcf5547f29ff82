import ClassDocs.Proofs.Files.Roots
import ClassDocs.Proofs.Library.Lookup
import ClassDocs.Proofs.Library.Tree

namespace ClassDocs

namespace SourceTree

section Pattern

/-- The end of the pattern, behind any directories. -/
def ending (layout : Layout) : List Char :=
  '*' :: '.' :: layout.extension.toList

/-- What is looked for below a directory, whichever it is: the steps behind any directories, or none if
the pattern asks for directories only. Fails if the pattern is faulty. -/
def stepsBelow (layout : Layout) : Option (Option (List SearchStep)) := do
  let _ ← (Pattern.parseFrom 0 (some '/') (ending layout)).toOption
  let components ← ((FileSystem.patternComponents (ending layout)).mapM Pattern.parse).toOption
  return if (ending layout).getLast? == some '/' then none else some (components.map SearchStep.ofTokens)

theorem pattern_eq (layout : Layout) (root : String) :
    pattern layout root = Pattern.escape root.toList ++ '/' :: '*' :: '*' :: '/' :: ending layout := by
  simp [pattern, ending]

theorem parse_pattern_toOption (layout : Layout) (root : String) : ∃ tokens,
    (Pattern.parse (pattern layout root)).toOption =
      (Pattern.parseFrom 0 (some '/') (ending layout)).toOption.map (tokens ++ ·) := by
  obtain ⟨place, before, read⟩ :=
    Pattern.parseFrom_escape root.toList ('/' :: '*' :: '*' :: '/' :: ending layout) 0 none
  have alone : Option.all (· == '/') (some '/') = true := rfl
  refine ⟨root.toList.map Pattern.literal ++ [.char '/', .anyDepth], ?_⟩
  rw [Pattern.parse, pattern_eq, read, Pattern.parseFrom_char (by decide), Pattern.parseFrom, if_pos alone,
    toOption_map, toOption_map, toOption_map, Pattern.parseFrom_toOption (ending layout) _ _ 0, Option.map_map,
    Option.map_map]
  congr 1
  funext later
  simp

theorem components_pattern_toOption (layout : Layout) (root : String) :
    ((FileSystem.patternComponents (pattern layout root)).mapM Pattern.parse).toOption =
      ((FileSystem.patternComponents (ending layout)).mapM Pattern.parse).toOption.map
        ((splitAtChar '/' root.toList).map (List.map Pattern.literal) ++ [.anyDepth] :: ·) := by
  have names : ((splitAtChar '/' root.toList).map Pattern.escape).mapM Pattern.parse =
      .ok ((splitAtChar '/' root.toList).map (List.map Pattern.literal)) := by
    rw [mapM_eq_ok_iff, List.map_map, List.map_map]
    exact List.map_congr_left fun piece _ => Pattern.parse_escape piece
  have stars : FileSystem.patternComponents ('*' :: '*' :: '/' :: ending layout) =
      ['*', '*'] :: FileSystem.patternComponents (ending layout) :=
    FileSystem.patternComponents_append ['*', '*'] (ending layout)
  rw [pattern_eq, FileSystem.patternComponents_append, FileSystem.splitAtChar_escape, stars,
    mapM_append_of_ok names, List.mapM_cons, Pattern.parse_stars]
  cases (FileSystem.patternComponents (ending layout)).mapM Pattern.parse <;> rfl

theorem getLast?_pattern (layout : Layout) (root : String) :
    (pattern layout root).getLast? = (ending layout).getLast? := by
  have whole : pattern layout root = (Pattern.escape root.toList ++ ['/', '*', '*', '/']) ++ ending layout := by
    simp [pattern_eq]
  have nonempty : ending layout ≠ [] := by simp [ending]
  rw [whole, List.getLast?_append, List.getLast?_eq_some_getLast nonempty, Option.some_or]

/-- A root in the working directory has a part in the search only by its names, which come first. -/
theorem matching_pattern_toOption (files : FileSystem) (layout : Layout) {root : String}
    (relative : (Path.pieces root).head? ≠ some "") :
    (files.matching (pattern layout root)).toOption = (stepsBelow layout).map fun
      | none => []
      | some steps => ((files.search ((Path.pieces root).map SearchStep.named ++
          SearchStep.collapse (.anyDepth :: steps)) ".").filter files.isFile).mergeSort Path.le := by
  obtain ⟨tokens, parsed⟩ := parse_pattern_toOption layout root
  have start : FileSystem.searchStart (pattern layout root) = (".", pattern layout root) := by
    rw [pattern_eq]
    exact FileSystem.searchStart_escape relative _
  rw [FileSystem.matching, toOption_bind, parsed, stepsBelow, getLast?_pattern, start]
  cases (Pattern.parseFrom 0 (some '/') (ending layout)).toOption with
  | none => rfl
  | some later =>
    rw [Option.map_some, Option.bind_some, toOption_bind, components_pattern_toOption]
    cases ((FileSystem.patternComponents (ending layout)).mapM Pattern.parse).toOption with
    | none => rfl
    | some components =>
      rw [Option.map_some, Option.bind_some]
      by_cases ends : ((ending layout).getLast? == some '/') = true
      · simp only [if_pos ends]
        rfl
      · simp only [if_neg ends, FileSystem.collapse_root]
        rfl

end Pattern

section Reach

variable {files : FileSystem} {layout : Layout} {root other : String} {place : List String}

/-- The names of a root lead every search from the working directory to the same place. -/
structure Reaches (files : FileSystem) (root : String) (place : List String) : Prop where
  relative : (Path.pieces root).head? ≠ some ""
  leads : ∀ rest, ∃ last, FileSystem.Spells last place ∧
    files.search ((Path.pieces root).map SearchStep.named ++ rest) "." = files.search rest last

/-- A step in place does not lead away from the working directory. -/
theorem search_here (tree : files.IsTree) (here : files.node? files.base = some .directory)
    (rest : List SearchStep) : files.search (SearchStep.named "." :: rest) "." = files.search rest "." := by
  have start : FileSystem.Spells "." [] := Or.inl ⟨rfl, rfl⟩
  have directory : files.isDirectory "." = true := by
    rw [FileSystem.isDirectory, start.find tree (by rwa [List.append_nil])]
  have exact : SearchStep.named "." = .exact "." := by decide +kernel
  have parts : Path.parts "." = [.here] := rfl
  rw [exact, FileSystem.search]
  simp only [parts, if_true, true_or, directory]

theorem reaches_here (tree : files.IsTree) (here : files.node? files.base = some .directory) :
    Reaches files "." [] := by
  have pieces : Path.pieces "." = ["."] := by decide +kernel
  refine ⟨by simp [pieces], fun rest => ⟨".", Or.inl ⟨rfl, rfl⟩, ?_⟩⟩
  rw [pieces]
  exact search_here tree here rest

theorem reaches_steps (tree : files.IsTree) (ordinary : Path.Ordinary root)
    (here : files.node? (files.base ++ Path.steps root) = some .directory) : Reaches files root (Path.steps root) :=
  ⟨ordinary.relative, FileSystem.search_pieces tree (Or.inl ⟨rfl, rfl⟩) (fun _ => ordinary.relative) here⟩

theorem split_behind_dot (root : String) :
    splitAtChar '/' ("./" ++ root).toList = ['.'] :: splitAtChar '/' root.toList := by
  have letters : ("./" ++ root).toList = ['.'] ++ '/' :: root.toList := by simp
  rw [letters, splitAtChar_append (by decide)]

theorem parts_behind_dot (root : String) : ∃ above, Path.parts ("./" ++ root) = .here :: above := by
  rw [Path.parts, split_behind_dot]
  exact ⟨_, rfl⟩

theorem Reaches.behind_dot (reaches : Reaches files root place) (tree : files.IsTree)
    (here : files.node? files.base = some .directory) : Reaches files ("./" ++ root) place := by
  have pieces : Path.pieces ("./" ++ root) = "." :: Path.pieces root := by
    rw [Path.pieces, split_behind_dot, List.map_cons, ← Path.pieces]
  refine ⟨by simp [pieces], fun rest => ?_⟩
  obtain ⟨last, spells, moved⟩ := reaches.leads rest
  refine ⟨last, spells, ?_⟩
  rw [pieces, ← moved]
  exact search_here tree here _

theorem Reaches.matching_eq (reaches : Reaches files root place) (otherReaches : Reaches files other place)
    (tree : files.IsTree) (here : files.node? (files.base ++ place) = some .directory) (layout : Layout) :
    (files.matching (pattern layout other)).toOption = (files.matching (pattern layout root)).toOption := by
  rw [matching_pattern_toOption files layout reaches.relative,
    matching_pattern_toOption files layout otherReaches.relative]
  congr 1
  funext steps
  cases steps with
  | none => rfl
  | some steps =>
    obtain ⟨rest, whole⟩ := SearchStep.collapse_anyDepth steps
    obtain ⟨last, spells, moved⟩ := reaches.leads (.anyDepth :: rest)
    obtain ⟨final, otherSpells, otherMoved⟩ := otherReaches.leads (.anyDepth :: rest)
    dsimp only
    rw [whole, moved, otherMoved, spells.search_eq tree here otherSpells]

theorem Reaches.starts_of_matching (reaches : Reaches files root place) (tree : files.IsTree)
    (here : files.node? (files.base ++ place) = some .directory) {paths : List String}
    (matched : (files.matching (pattern layout root)).toOption = some paths) :
    ∀ path ∈ paths, FileSystem.Starts path := by
  rw [matching_pattern_toOption files layout reaches.relative] at matched
  obtain ⟨steps, _, rfl⟩ := Option.map_eq_some_iff.mp matched
  cases steps with
  | none => simp
  | some steps =>
    obtain ⟨rest, whole⟩ := SearchStep.collapse_anyDepth steps
    obtain ⟨last, spells, moved⟩ := reaches.leads (.anyDepth :: rest)
    intro path member
    dsimp only at member
    rw [whole, moved] at member
    exact spells.starts_of_mem_search tree here (List.mem_filter.mp (List.mem_mergeSort.mp member)).1

end Reach

section Scan

variable {files : FileSystem} {layout : Layout} {root other : String} {place : List String}

theorem scan_toOption (files : FileSystem) (layout : Layout) (root : String) :
    (scan files layout root).toOption =
      (files.matching (pattern layout root)).toOption.map fun paths => paths.foldl (addFound layout root) [] := by
  unfold scan
  cases files.matching (pattern layout root) <;> rfl

theorem addFound_congr (same : Path.parts other = Path.parts root) (layout : Layout) :
    addFound layout other = addFound layout root := by
  funext tree path
  rw [addFound, addFound, same]

/-- A path that begins with a name does not begin like a root that begins in place, so it is left out. -/
theorem foldl_addFound_of_here {above : List PathPart} (inPlace : Path.parts root = .here :: above)
    {paths : List String} (starts : ∀ path ∈ paths, FileSystem.Starts path) (tree : SourceTree) :
    paths.foldl (addFound layout root) tree = tree := by
  induction paths with
  | nil => rfl
  | cons path paths ih =>
    obtain ⟨name, rest, parts⟩ := (starts path (List.mem_cons_self ..)).parts_eq
    have skipped : addFound layout root tree path = tree := by
      rw [addFound, inPlace, parts, Path.relative?, if_neg (by simp)]
    rw [List.foldl_cons, skipped, ih fun other member => starts other (List.mem_cons_of_mem _ member)]

/-- Whether the classes below a root can be listed at all depends on the layout only. -/
theorem Reaches.scan_accepted (reaches : Reaches files root place) (layout : Layout) :
    (scan files layout root).toOption.map (fun _ => ([] : SourceTree)) = (stepsBelow layout).map fun _ => [] := by
  rw [scan_toOption, matching_pattern_toOption files layout reaches.relative, Option.map_map, Option.map_map]
  rfl

/-- Below a root that begins in place all files are found and none of them is kept. -/
theorem Reaches.scan_of_here (reaches : Reaches files root place) (tree : files.IsTree)
    (here : files.node? (files.base ++ place) = some .directory) {above : List PathPart}
    (inPlace : Path.parts root = .here :: above) (layout : Layout) :
    (scan files layout root).toOption = (stepsBelow layout).map fun _ => [] := by
  rw [← reaches.scan_accepted layout, scan_toOption, Option.map_map]
  cases matched : (files.matching (pattern layout root)).toOption with
  | none => rfl
  | some paths =>
    exact congrArg some (foldl_addFound_of_here inPlace (reaches.starts_of_matching tree here matched) [])

end Scan

section Index

variable {files : FileSystem} {layout : Layout} {root : String}

/-- The classes that a scan finds, each with its file. None if the scan fails. -/
def foundIndex (files : FileSystem) (layout : Layout) (root : String) : Option (SortedMap String) :=
  (scan files layout root).toOption.map (locate layout)

/-- The names that a scan finds. -/
def foundNames (files : FileSystem) (layout : Layout) (root : String) : Option (List String) :=
  (scan files layout root).toOption.map fun classes => (collect layout classes).keys

theorem keys_locate_eq_nil_iff {classes : SourceTree} : (locate layout classes).keys = [] ↔ leaves classes = [] := by
  constructor
  · intro empty
    cases shown : leaves classes with
    | nil => rfl
    | cons leaf rest =>
      have member : layout.entityName leaf.1 ∈ (locate layout classes).keys := by
        rw [locate, SortedMap.mem_keys_ofList, shown]
        simp
      rw [empty] at member
      cases member
  · intro none
    rw [locate, none]
    rfl

/-- A scan that finds nothing where another one finds classes gives other names, and another index. -/
theorem index_eq_iff {files other : FileSystem} {root spelled : String}
    (nothing : (scan other layout spelled).toOption = (scan files layout root).toOption.map fun _ => []) :
    (foundIndex other layout spelled = foundIndex files layout root ↔
      ∀ classes, scan files layout root = .ok classes → leaves classes = []) ∧
    (foundNames other layout spelled = foundNames files layout root ↔
      ∀ classes, scan files layout root = .ok classes → leaves classes = []) := by
  rw [foundIndex, foundIndex, foundNames, foundNames, nothing]
  cases scan files layout root with
  | error error => exact ⟨iff_of_true rfl (by simp), iff_of_true rfl (by simp)⟩
  | ok classes =>
    have same : locate layout [] = locate layout classes ↔ leaves classes = [] := by
      constructor
      · intro same
        rw [← keys_locate_eq_nil_iff, ← same]
        rfl
      · intro none
        rw [locate, locate, none]
        rfl
    have sameNames : (collect layout []).keys = (collect layout classes).keys ↔ leaves classes = [] := by
      rw [keys_collect, keys_collect, ← keys_locate_eq_nil_iff]
      exact eq_comm
    simpa [Except.toOption] using ⟨same, sameNames⟩

end Index

/-- A slash behind the root changes nothing. A step in place in front of it, or in its stead from inside
the directory, finds no class at all, so that it finds the same only where there is none. -/
theorem root_spelling_iff {files : FileSystem} {root : String} (tree : files.IsTree)
    (ordinary : Path.Ordinary root) (directory : files.isDirectory root = true) (layout : Layout) :
    (scan files layout (root ++ "/")).toOption = (scan files layout root).toOption ∧
    (scan files layout ("./" ++ root)).toOption = (scan files layout root).toOption.map (fun _ => []) ∧
    (scan (files.inside (files.base ++ Path.steps root)) layout ".").toOption =
      (scan files layout root).toOption.map (fun _ => []) ∧
    (foundIndex files layout ("./" ++ root) = foundIndex files layout root ↔
      ∀ classes, scan files layout root = .ok classes → leaves classes = []) ∧
    (foundNames (files.inside (files.base ++ Path.steps root)) layout "." = foundNames files layout root ↔
      ∀ classes, scan files layout root = .ok classes → leaves classes = []) := by
  have here := FileSystem.node?_steps_of_isDirectory ordinary directory
  have reaches := reaches_steps tree ordinary here
  have slash : (scan files layout (root ++ "/")).toOption = (scan files layout root).toOption := by
    have again : Reaches files (root ++ "/") (Path.steps root) := by
      have other := reaches_steps tree ordinary.append_slash (by rw [Path.steps_append_slash]; exact here)
      rwa [Path.steps_append_slash] at other
    have parts : Path.parts (root ++ "/") = Path.parts root := by
      rw [ordinary.append_slash.parts_eq, ordinary.parts_eq, Path.steps_append_slash]
    rw [scan_toOption, scan_toOption, reaches.matching_eq again tree here, addFound_congr parts]
  -- the search goes to the same directory, but its paths do not begin as the root is written
  have dot : (scan files layout ("./" ++ root)).toOption =
      (scan files layout root).toOption.map fun _ => [] := by
    obtain ⟨above, parts⟩ := parts_behind_dot root
    have behindDot := reaches.behind_dot tree (tree.directory_of_prefix here)
    rw [reaches.scan_accepted, behindDot.scan_of_here tree here parts]
  have inside : (scan (files.inside (files.base ++ Path.steps root)) layout ".").toOption =
      (scan files layout root).toOption.map fun _ => [] := by
    have parts : Path.parts "." = [.here] := rfl
    have start := reaches_here (tree.inside (files.base ++ Path.steps root)) here
    rw [reaches.scan_accepted, start.scan_of_here (tree.inside _) (by rwa [List.append_nil]) parts]
  exact ⟨slash, dot, inside, (index_eq_iff dot).1, (index_eq_iff inside).2⟩

/-- A class file in a directory of a directory. -/
def nestedLibrary : FileSystem := ⟨[
  (["lib"], .directory), (["lib", "classes"], .directory),
  (["lib", "classes", "a.php"], .text "<?php\nclass A \x7b\x7d\n")], []⟩

theorem root_spelling_of_nestedLibrary :
    nestedLibrary.IsTree ∧ Path.Ordinary "lib//classes" ∧ nestedLibrary.isDirectory "lib//classes" = true ∧
    (scan nestedLibrary {} "lib//classes/").toOption = (scan nestedLibrary {} "lib//classes").toOption ∧
    foundIndex nestedLibrary {} "./lib//classes" ≠ foundIndex nestedLibrary {} "lib//classes" := by
  have tree : nestedLibrary.IsTree := ⟨by decide +kernel, by decide +kernel, by decide +kernel⟩
  have ordinary : Path.Ordinary "lib//classes" := ⟨by decide +kernel, by decide +kernel⟩
  have directory : nestedLibrary.isDirectory "lib//classes" = true := by decide +kernel
  have shown : (scan nestedLibrary {} "lib//classes").toOption.map leaves =
      some [("classes/a.php", "lib/classes/a.php")] := by decide +kernel
  obtain ⟨slash, _, _, dot, _⟩ := root_spelling_iff tree ordinary directory {}
  refine ⟨tree, ordinary, directory, slash, fun same => ?_⟩
  have nothing := dot.mp same
  cases scanned : scan nestedLibrary {} "lib//classes" with
  | error error =>
    rw [scanned] at shown
    cases shown
  | ok classes =>
    rw [scanned] at shown
    have none := nothing classes scanned
    rw [Except.toOption, Option.map_some, none] at shown
    cases shown

/-- The same directory in four spellings, of which two hide its class. -/
theorem root_spelling_hides_class :
    foundNames nestedLibrary {} "lib/classes" = some ["a"] ∧
    foundNames nestedLibrary {} "lib/classes/" = some ["a"] ∧
    foundNames nestedLibrary {} "./lib/classes" = some [] ∧
    foundNames (nestedLibrary.inside ["lib", "classes"]) {} "." = some [] := by
  decide +kernel

end SourceTree

end ClassDocs
