import ClassDocs.Proofs.Files.Pattern
import ClassDocs.Proofs.Files.Tree

namespace ClassDocs

namespace SearchStep

/-- The step for a name that was escaped. -/
def named (name : String) : SearchStep :=
  ofTokens (name.toList.map Pattern.literal)

theorem plainText?_literal {text name : List Char} (plain : plainText? (text.map Pattern.literal) = some name) :
    name = text := by
  induction text generalizing name with
  | nil =>
    cases plain
    rfl
  | cons c text ih =>
    rw [List.map_cons, Pattern.literal] at plain
    split at plain
    · cases plain
    · rw [plainText?, Option.map_eq_some_iff] at plain
      obtain ⟨rest, later, rfl⟩ := plain
      rw [ih later]

/-- An escaped name is looked up, or searched for if it has special characters. -/
theorem named_eq (name : String) :
    named name = .exact name ∨ named name = .like (name.toList.map Pattern.literal) := by
  rw [named, ofTokens]
  split
  · rename_i text plain
    rw [plainText?_literal plain, String.ofList_toList]
    exact Or.inl rfl
  · refine Or.inr (if_neg ?_)
    rw [List.contains_iff_mem, List.mem_map]
    rintro ⟨c, _, same⟩
    rw [Pattern.literal] at same
    split at same <;> cases same

theorem named_ne_anyDepth (name : String) : named name ≠ .anyDepth := by
  rcases named_eq name with same | same <;> simp [same]

theorem named_empty : named "" = .exact "" := rfl

theorem specialNames_literal {name : String} (ordinary : IsEntryName name) :
    specialNames (.like (name.toList.map Pattern.literal)) = [] := by
  have other (special : String) (inList : special ∈ [".", ".."]) :
      Pattern.covers (name.toList.map Pattern.literal) special.toList = false := by
    rw [Bool.eq_false_iff]
    intro covered
    have same := String.toList_inj.mp ((Pattern.covers_literal _ _).mp covered)
    subst same
    rcases List.mem_cons.mp inList with same | inList
    · exact ordinary.notHere same
    · exact ordinary.notUp (List.mem_singleton.mp inList)
  generalize name.toList.map Pattern.literal = tokens at other ⊢
  unfold specialNames
  split
  · rename_i rest same
    cases same
    rw [List.filter_eq_nil_iff]
    intro special inList
    rw [other special inList]
    decide
  · rfl

theorem collapse_append {steps : List SearchStep} (single : ∀ step ∈ steps, step ≠ .anyDepth)
    (rest : List SearchStep) : collapse (steps ++ rest) = steps ++ collapse rest := by
  induction steps with
  | nil => rfl
  | cons step steps ih =>
    have later := ih fun other member => single other (List.mem_cons_of_mem _ member)
    rw [List.cons_append, collapse, later, List.cons_append]
    rintro _ rfl
    exact absurd rfl (single _ (List.mem_cons_self ..))

/-- The step for all names that end with an extension. -/
def ending (extension : List Char) : SearchStep :=
  .like (.anyText :: ('.' :: extension).map .char)

theorem ofTokens_ending (extension : List Char) :
    ofTokens (.anyText :: ('.' :: extension).map .char) = ending extension := by
  rw [ofTokens, plainText?]
  · simp [ending]
  · simp

theorem fits_ending (extension : List Char) (name : String) :
    (ending extension).fits name = true ↔ '.' :: extension <:+ name.toList :=
  Pattern.covers_ending ('.' :: extension) name.toList

end SearchStep

namespace FileSystem

section Components

theorem splitAtChar_escape (text : List Char) :
    splitAtChar '/' (Pattern.escape text) = (splitAtChar '/' text).map Pattern.escape := by
  induction text with
  | nil => rfl
  | cons c text ih =>
    rw [Pattern.escape_cons, splitAtChar]
    by_cases slash : c = '/'
    · subst slash
      have empty : Pattern.escape [] = [] := rfl
      simp [splitAtChar, Pattern.isSpecial, ih, empty]
    · obtain ⟨first, rest, split⟩ := List.exists_cons_of_ne_nil (splitAtChar_ne_nil '/' text)
      rw [split, List.map_cons] at ih
      by_cases special : Pattern.isSpecial c = true
      · simp [splitAtChar, special, slash, split, ih, Pattern.escape_cons]
      · simp [splitAtChar, special, slash, split, ih, Pattern.escape_cons]

variable {extension : List Char}

theorem patternComponents_below (root : List Char) (noSlash : '/' ∉ extension) :
    patternComponents (Pattern.escape root ++ "/**/*.".toList ++ extension) =
      (splitAtChar '/' root).map Pattern.escape ++ [['*', '*'], '*' :: '.' :: extension] := by
  have whole : Pattern.escape root ++ "/**/*.".toList ++ extension =
      Pattern.escape root ++ '/' :: (['*', '*'] ++ '/' :: ('*' :: '.' :: extension)) := by simp
  have last : splitAtChar '/' ('*' :: '.' :: extension) = ['*' :: '.' :: extension] :=
    splitAtChar_of_not_mem (by simpa using noSlash)
  rw [patternComponents, whole, splitAtChar_append_separator, splitAtChar_escape, splitAtChar_append (by decide),
    last]
  simp

theorem parse_components (pieces : List (List Char)) (plain : Pattern.Plain extension) :
    (pieces.map Pattern.escape ++ [['*', '*'], '*' :: '.' :: extension]).mapM Pattern.parse =
      .ok (pieces.map (List.map Pattern.literal) ++ [[.anyDepth], .anyText :: ('.' :: extension).map .char]) := by
  have last : Pattern.parse ('*' :: '.' :: extension) = .ok (.anyText :: ('.' :: extension).map .char) :=
    Pattern.parseFrom_ending plain 0 none
  rw [mapM_eq_ok_iff, List.map_append, List.map_append, List.map_map, List.map_map]
  refine congr (congrArg _ (List.map_congr_left fun piece _ => Pattern.parse_escape piece)) ?_
  rw [List.map_cons, List.map_singleton, Pattern.parse_stars, last]
  rfl

/-- The names of the root come first, one step each. -/
theorem collapse_root (root : String) (tail : List (List PatternToken)) :
    SearchStep.collapse (((splitAtChar '/' root.toList).map (List.map Pattern.literal) ++ tail).map
      SearchStep.ofTokens) =
        (Path.pieces root).map SearchStep.named ++ SearchStep.collapse (tail.map SearchStep.ofTokens) := by
  have names : (splitAtChar '/' root.toList).map (SearchStep.ofTokens ∘ List.map Pattern.literal) =
      (Path.pieces root).map SearchStep.named := by
    rw [Path.pieces, List.map_map]
    refine List.map_congr_left fun piece _ => ?_
    rw [Function.comp_apply, Function.comp_apply, SearchStep.named, String.toList_ofList]
  rw [List.map_append, List.map_map, names, SearchStep.collapse_append]
  intro step member
  obtain ⟨name, _, rfl⟩ := List.mem_map.mp member
  exact SearchStep.named_ne_anyDepth name

theorem collapse_components (root : String) (extension : List Char) :
    SearchStep.collapse (((splitAtChar '/' root.toList).map (List.map Pattern.literal) ++
      [[PatternToken.anyDepth], .anyText :: ('.' :: extension).map .char]).map SearchStep.ofTokens) =
        (Path.pieces root).map SearchStep.named ++ [.anyDepth, .ending extension] := by
  rw [collapse_root, List.map_cons, List.map_singleton, SearchStep.ofTokens_ending]
  rfl

/-- The search for a path that does not begin with a slash begins in the working directory. -/
theorem searchStart_escape {root : String} (relative : (Path.pieces root).head? ≠ some "") (tail : List Char) :
    searchStart (Pattern.escape root.toList ++ tail) = (".", Pattern.escape root.toList ++ tail) := by
  cases letters : root.toList with
  | nil =>
    rw [Path.pieces, letters] at relative
    exact absurd rfl relative
  | cons c rest =>
    have notSlash : c ≠ '/' := by
      rintro rfl
      exact relative (Path.head?_pieces_of_isAbsolute (by rw [Path.isAbsolute, letters]; rfl))
    rw [Pattern.escape_cons]
    unfold searchStart
    split
    · rename_i others whole
      split at whole
      · cases whole
      · exact absurd (List.cons.inj whole).1 notSlash
    · rfl

/-- What is searched for below a directory: first the names of the directory, then any directories, and
at last the names with the extension. -/
theorem matching_below (files : FileSystem) {root : String} (relative : (Path.pieces root).head? ≠ some "")
    (plain : Pattern.Plain extension) (noSlash : '/' ∉ extension) :
    files.matching (Pattern.escape root.toList ++ "/**/*.".toList ++ extension) =
      .ok (((files.search ((Path.pieces root).map SearchStep.named ++ [.anyDepth, .ending extension])
        ".").filter files.isFile).mergeSort Path.le) := by
  obtain ⟨tokens, parsed⟩ := Pattern.parse_below root.toList plain
  have forFiles : ((Pattern.escape root.toList ++ "/**/*.".toList ++ extension).getLast? == some '/') = false := by
    have whole : Pattern.escape root.toList ++ "/**/*.".toList ++ extension =
        (Pattern.escape root.toList ++ "/**/*".toList) ++ '.' :: extension := by simp
    have dotted : '.' :: extension ≠ [] := by simp
    rw [beq_eq_false_iff_ne, whole, List.getLast?_append, List.getLast?_eq_some_getLast dotted, Option.some_or]
    intro last
    have member : '/' ∈ '.' :: extension := Option.some.inj last ▸ List.getLast_mem dotted
    exact noSlash (by simpa using member)
  have start := searchStart_escape relative ("/**/*.".toList ++ extension)
  rw [← List.append_assoc] at start
  rw [matching, parsed, start]
  dsimp only
  rw [patternComponents_below root.toList noSlash, parse_components _ plain]
  simp only [forFiles, ← collapse_components]
  rfl

end Components

section Spells

variable {files : FileSystem} {path : String} {place : List String}

/-- A path that is written with the names of its place, perhaps with a slash behind them. -/
def Spells (path : String) (place : List String) : Prop :=
  path = "." ∧ place = [] ∨
    place ≠ [] ∧ (path = "/".intercalate place ∨ path = "/".intercalate place ++ "/")

theorem Spells.moved (spells : Spells path place) (nonempty : place ≠ [])
    (ordinary : ∀ name ∈ place, IsEntryName name) : Path.parts path ≠ [.here] := by
  have parts : Path.parts path = place.map .name := by
    rcases spells with ⟨_, top⟩ | ⟨_, rfl | rfl⟩
    · exact absurd top nonempty
    · rw [(Path.ordinary_names nonempty ordinary).parts_eq, Path.steps_names nonempty ordinary]
    · rw [(Path.ordinary_names_slash nonempty ordinary).parts_eq, Path.steps_append_slash,
        Path.steps_names nonempty ordinary]
  obtain ⟨first, rest, rfl⟩ := List.exists_cons_of_ne_nil nonempty
  simp [parts]

theorem Spells.join_eq (spells : Spells path place) (nonempty : place ≠ [])
    (ordinary : ∀ name ∈ place, IsEntryName name) (step : String) :
    Path.join path step = "/".intercalate place ++ "/" ++ step := by
  rcases spells with ⟨_, top⟩ | ⟨_, rfl | rfl⟩
  · exact absurd top nonempty
  · exact Path.join_names nonempty ordinary step
  · exact Path.join_append_slash _ step

theorem Spells.pathBelow_eq (spells : Spells path place) (ordinary : ∀ name ∈ place, IsEntryName name)
    {names : List String} (below : names ≠ []) :
    pathBelow path names = "/".intercalate (place ++ names) := by
  by_cases top : place = []
  · rcases spells with ⟨rfl, rfl⟩ | ⟨nonempty, _⟩
    · rfl
    · exact absurd top nonempty
  · rw [pathBelow, if_neg (spells.moved top ordinary), spells.join_eq top ordinary,
      String.intercalate_append_of_ne_nil top below]

theorem Spells.find (spells : Spells path place) (tree : files.IsTree)
    (here : files.node? (files.base ++ place) = some .directory) :
    files.find path = .ok (files.base ++ place, .directory) := by
  rcases spells with ⟨rfl, rfl⟩ | ⟨nonempty, rfl | rfl⟩
  · have stays : files.locate "." = .ok files.base := by
      rw [List.append_nil] at here
      exact follow_cons_eq_ok.mpr ⟨here, rfl⟩
    rw [List.append_nil] at here ⊢
    exact find_eq_ok_iff.mpr ⟨stays, here⟩
  · exact tree.find_names nonempty here
  · have ordinary := tree.isEntryName_of_append here
    have steps : Path.steps ("/".intercalate place ++ "/") = place := by
      rw [Path.steps_append_slash, Path.steps_names nonempty ordinary]
    have found := tree.find_directory (Path.ordinary_names_slash nonempty ordinary) (by rw [steps]; exact here)
    rwa [steps] at found

end Spells

section Search

variable {files : FileSystem} {path : String} {place : List String}

/-- A search that goes on from one element only goes on from there. -/
theorem flatMap_eq_of_single {α β : Type} {list : List α} {a : α} {f : α → List β} (distinct : list.Nodup)
    (member : a ∈ list) (others : ∀ b, b ≠ a → f b = []) : list.flatMap f = f a := by
  obtain ⟨before, after, rfl⟩ := List.append_of_mem member
  rw [List.nodup_append, List.nodup_cons] at distinct
  have none {part : List α} (apart : a ∉ part) : part.flatMap f = [] := by
    rw [List.flatMap_eq_nil_iff]
    intro b inPart
    exact others b fun same => apart (same ▸ inPart)
  have first : a ∉ before := fun inside => distinct.2.2 a inside a (List.mem_cons_self ..) rfl
  rw [List.flatMap_append, List.flatMap_cons, none first, none distinct.2.1.1, List.nil_append, List.append_nil]

/-- The search for an escaped name goes on in the directory of that name. -/
theorem search_named (tree : files.IsTree) (spells : Spells path place) {name : String}
    (here : files.node? (files.base ++ (place ++ [name])) = some .directory) (rest : List SearchStep) :
    files.search (SearchStep.named name :: rest) path = files.search rest ("/".intercalate (place ++ [name])) := by
  have ordinary := tree.isEntryName_of_append here
  have named : IsEntryName name := ordinary name (by simp)
  have next : pathBelow path [name] = "/".intercalate (place ++ [name]) :=
    spells.pathBelow_eq (fun other member => ordinary other (List.mem_append_left _ member)) (by simp)
  rcases SearchStep.named_eq name with exact | like
  · -- a name without special characters is looked up
    have text : (if Path.parts path = [.here] then name else Path.join path name) =
        "/".intercalate (place ++ [name]) := by
      rw [← next, pathBelow, String.intercalate_singleton]
    have present : files.isPresent ("/".intercalate (place ++ [name])) = true := by
      rw [isPresent, tree.find_names (by simp) here]
    rw [exact, search]
    simp only [text, named.notHere, named.notUp, or_self, if_false, present, if_true]
  · -- any other is compared with all entries of the directory, and only one of them has it
    rw [← List.append_assoc] at here
    have found := spells.find tree (tree.parent here)
    have listed : [name] ∈ files.contents path := (mem_contents_iff found).mpr ⟨by simp, _, here⟩
    rw [like, search, SearchStep.specialNames_literal named, List.flatMap_nil, ite_self, List.append_nil,
      flatMap_eq_of_single (tree.nodup_contents path) listed]
    · dsimp only
      rw [if_pos ((Pattern.covers_literal _ _).mpr rfl), next]
    · intro names other
      split
      · rename_i single
        rw [if_neg]
        intro covered
        rw [Pattern.covers_literal, String.toList_inj] at covered
        exact other (by rw [covered])
      · rfl

/-- A slash that is doubled or stands at the end is written behind the directory. -/
theorem search_slash (tree : files.IsTree) (spells : Spells path place) (nonempty : place ≠ [])
    (here : files.node? (files.base ++ place) = some .directory) (rest : List SearchStep) :
    files.search (SearchStep.named "" :: rest) path = files.search rest ("/".intercalate place ++ "/") := by
  have ordinary := tree.isEntryName_of_append here
  have text : (if Path.parts path = [.here] then "" else Path.join path "") = "/".intercalate place ++ "/" := by
    rw [if_neg (spells.moved nonempty ordinary), spells.join_eq nonempty ordinary, String.append_empty]
  have ended : Spells ("/".intercalate place ++ "/") place := Or.inr ⟨nonempty, Or.inr rfl⟩
  have present : files.isPresent ("/".intercalate place ++ "/") = true := by
    rw [isPresent, ended.find tree here]
  have neither : ¬ ("" = "." ∨ "" = "..") := by decide
  rw [SearchStep.named_empty, search]
  simp only [text, neither, if_false, present, if_true]

/-- The names of a directory lead the search there. -/
theorem search_pieces (tree : files.IsTree) (spells : Spells path place) {pieces : List String}
    (relative : place = [] → pieces.head? ≠ some "")
    (here : files.node? (files.base ++ (place ++ pieces.filter (!·.isEmpty))) = some .directory)
    (rest : List SearchStep) :
    ∃ last, Spells last (place ++ pieces.filter (!·.isEmpty)) ∧
      files.search (pieces.map SearchStep.named ++ rest) path = files.search rest last := by
  -- what is left of the pieces always leads from the place of the path to the same directory
  have above {place : List String} {others : List String}
      (here : files.node? (files.base ++ (place ++ others)) = some .directory) :
      files.node? (files.base ++ place) = some .directory := by
    rw [← List.append_assoc] at here
    exact tree.directory_of_prefix here
  induction pieces generalizing path place with
  | nil => exact ⟨path, by simpa using spells, rfl⟩
  | cons piece pieces ih =>
    rw [List.map_cons, List.cons_append]
    by_cases empty : piece = ""
    · subst empty
      have nonempty : place ≠ [] := fun top => relative top rfl
      rw [List.filter_cons_of_neg (by simp)] at here ⊢
      have ended : Spells ("/".intercalate place ++ "/") place := Or.inr ⟨nonempty, Or.inr rfl⟩
      rw [search_slash tree spells nonempty (above here)]
      exact ih ended (fun top => absurd top nonempty) here
    · rw [List.filter_cons_of_pos (by simpa using empty), List.append_cons] at here ⊢
      have written : Spells ("/".intercalate (place ++ [piece])) (place ++ [piece]) :=
        Or.inr ⟨by simp, Or.inl rfl⟩
      rw [search_named tree spells (above here)]
      exact ih written (by simp) here

/-- Below a directory the search finds all entries whose names fit. -/
theorem search_anyDepth (spells : Spells path place) (tree : files.IsTree)
    (here : files.node? (files.base ++ place) = some .directory) (step : SearchStep) :
    files.search [.anyDepth, step] path =
      ((files.contents path).filter fun names => step.fits (names.getLastD "")).map
        fun names => "/".intercalate (place ++ names) := by
  have ordinary := tree.isEntryName_of_append here
  have found := spells.find tree here
  have below : ∀ names ∈ files.contents path, names ≠ [] := fun names member =>
    ((mem_contents_iff found).mp member).1
  rw [search]
  generalize files.contents path = listed at below ⊢
  induction listed with
  | nil => rfl
  | cons names listed ih =>
    rw [List.flatMap_cons, ih fun other member => below other (List.mem_cons_of_mem _ member)]
    by_cases fits : step.fits (names.getLastD "") = true
    · rw [if_pos fits, List.filter_cons, if_pos fits, List.map_cons, search,
        spells.pathBelow_eq ordinary (below names (List.mem_cons_self ..)), List.singleton_append]
    · rw [if_neg fits, List.filter_cons, if_neg fits, List.nil_append]

/-- Below a directory that is named in the pattern the search finds each entry whose name fits once. -/
theorem search_root (tree : files.IsTree) {root : String} (ordinary : Path.Ordinary root)
    (here : files.node? (files.base ++ Path.steps root) = some .directory) (step : SearchStep) :
    ∃ listed : List (List String), listed.Nodup ∧
      (∀ names, names ∈ listed ↔ names ≠ [] ∧
        (∃ node, files.node? (files.base ++ Path.steps root ++ names) = some node) ∧
        step.fits (names.getLastD "") = true) ∧
      files.search ((Path.pieces root).map SearchStep.named ++ [.anyDepth, step]) "." =
        listed.map fun names => "/".intercalate (Path.steps root ++ names) := by
  have start : Spells "." [] := Or.inl ⟨rfl, rfl⟩
  obtain ⟨last, spells, moved⟩ :=
    search_pieces tree start (fun _ => ordinary.relative) here [.anyDepth, step]
  rw [List.nil_append, ← Path.steps] at spells
  refine ⟨_, (List.filter_sublist).nodup (tree.nodup_contents last), ?_,
    moved.trans (search_anyDepth spells tree here step)⟩
  intro names
  rw [List.mem_filter, mem_contents_iff (spells.find tree here), and_assoc]

end Search

end FileSystem

end ClassDocs
