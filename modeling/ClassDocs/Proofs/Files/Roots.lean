import ClassDocs.Proofs.Files.Search

namespace ClassDocs

theorem Path.head?_pieces_append_slash (front back : String) :
    (pieces (front ++ "/" ++ back)).head? = (pieces front).head? := by
  have letters : (front ++ "/" ++ back).toList = front.toList ++ '/' :: back.toList := by simp
  obtain ⟨first, rest, split⟩ := List.exists_cons_of_ne_nil (splitAtChar_ne_nil '/' front.toList)
  rw [pieces, letters, splitAtChar_append_separator, pieces, split]
  rfl

/-- A step behind a path does not change where the path begins. -/
theorem Path.head?_pieces_join {path : String} (filled : path ≠ "") (step : String) :
    (pieces (join path step)).head? = (pieces path).head? := by
  unfold join
  split
  · rename_i ends
    rw [Bool.or_eq_true, String.isEmpty_iff, beq_iff_eq] at ends
    rcases ends with empty | slash
    · exact absurd empty filled
    · obtain ⟨before, whole⟩ := List.getLast?_eq_some_iff.mp slash
      have ended : path = String.ofList before ++ "/" := by
        rw [← String.toList_inj, whole]
        simp
      have closed : String.ofList before ++ "/" = String.ofList before ++ "/" ++ "" := String.append_empty.symm
      rw [ended, head?_pieces_append_slash, closed, head?_pieces_append_slash]
  · exact head?_pieces_append_slash path step

theorem SearchStep.collapse_anyDepth (steps : List SearchStep) :
    ∃ rest, collapse (.anyDepth :: steps) = .anyDepth :: rest := by
  induction steps with
  | nil => exact ⟨[], rfl⟩
  | cons step steps ih =>
    cases step with
    | anyDepth =>
      rw [collapse]
      exact ih
    | exact name => exact ⟨_, rfl⟩
    | like tokens => exact ⟨_, rfl⟩

theorem FileSystem.patternComponents_append (front rest : List Char) :
    patternComponents (front ++ '/' :: rest) = splitAtChar '/' front ++ patternComponents rest := by
  have nonempty : (splitAtChar '/' rest).reverse ≠ [] := by simpa using splitAtChar_ne_nil '/' rest
  obtain ⟨last, others, whole⟩ := List.exists_cons_of_ne_nil nonempty
  rw [patternComponents, patternComponents, splitAtChar_append_separator, List.reverse_append, whole,
    List.cons_append]
  cases last with
  | nil => simp
  | cons c more => simp

namespace FileSystem

section Absent

variable {files : FileSystem} {path : String} {place : List String}

theorem Spells.find_eq_ok (spells : Spells path place) (ordinary : ∀ name ∈ place, IsEntryName name)
    {target : List String} {node : FileNode} (found : files.find path = .ok (target, node)) :
    target = files.base ++ place ∧ files.node? (files.base ++ place) = some node := by
  obtain ⟨located, here⟩ := find_eq_ok_iff.mp found
  have reached : target = files.base ++ place := by
    rcases spells with ⟨rfl, rfl⟩ | ⟨nonempty, rfl | rfl⟩
    · have stays : files.follow files.base ["."] = .ok target := located
      rw [List.append_nil]
      exact (Except.ok.inj (follow_cons_eq_ok.mp stays).2).symm
    · have relative := Path.ordinary_names nonempty ordinary
      rw [locate_of_ordinary relative] at located
      rw [eq_append_of_follow relative.named located, ← Path.steps, Path.steps_names nonempty ordinary]
    · have relative := Path.ordinary_names_slash nonempty ordinary
      rw [locate_of_ordinary relative] at located
      rw [eq_append_of_follow relative.named located, ← Path.steps, Path.steps_append_slash,
        Path.steps_names nonempty ordinary]
  exact ⟨reached, reached ▸ here⟩

theorem Spells.contents_eq_nil (spells : Spells path place) (ordinary : ∀ name ∈ place, IsEntryName name)
    (absent : files.node? (files.base ++ place) ≠ some .directory) : files.contents path = [] := by
  unfold contents
  split
  · rename_i target found
    exact absurd (spells.find_eq_ok ordinary found).2 absent
  · rfl

/-- A name leads the search to one path at most. -/
theorem search_named_eq_nil {name : String} (ordinary : name ≠ "" → IsEntryName name) {rest : List SearchStep}
    (nothing : files.search rest (pathBelow path [name]) = []) :
    files.search (SearchStep.named name :: rest) path = [] := by
  rcases SearchStep.named_eq name with exact | like
  · have next : (if Path.parts path = [.here] then name else Path.join path name) = pathBelow path [name] := by
      rw [pathBelow, String.intercalate_singleton]
    rw [exact, search, next, nothing, ite_self]
  · have filled : name ≠ "" := by
      rintro rfl
      cases like
    rw [like, search, SearchStep.specialNames_literal (ordinary filled), List.flatMap_nil, ite_self,
      List.append_nil, List.flatMap_eq_nil_iff]
    intro names _
    split
    · rename_i single
      split
      · rename_i covered
        rw [Pattern.covers_literal, String.toList_inj] at covered
        rw [covered]
        exact nothing
      · rfl
    · rfl

/-- Where the pieces lead to no directory, nothing is found below. -/
theorem search_pieces_eq_nil (spells : Spells path place) {pieces : List String}
    (relative : place = [] → pieces.head? ≠ some "")
    (ordinary : ∀ name ∈ place ++ pieces.filter (!·.isEmpty), IsEntryName name)
    (absent : files.node? (files.base ++ (place ++ pieces.filter (!·.isEmpty))) ≠ some .directory)
    (rest : List SearchStep) :
    files.search (pieces.map SearchStep.named ++ .anyDepth :: rest) path = [] := by
  have above : ∀ name ∈ place, IsEntryName name := fun name member => ordinary name (List.mem_append_left _ member)
  induction pieces generalizing path place with
  | nil =>
    rw [List.filter_nil, List.append_nil] at absent
    cases rest with
    | nil => rw [List.map_nil, List.nil_append, search]
    | cons step rest =>
      rw [List.map_nil, List.nil_append, search, spells.contents_eq_nil above absent, List.flatMap_nil]
  | cons piece pieces ih =>
    rw [List.map_cons, List.cons_append]
    by_cases empty : piece = ""
    · -- an empty piece only adds a slash to the path
      subst empty
      have nonempty : place ≠ [] := fun top => relative top rfl
      rw [List.filter_cons_of_neg (by simp)] at ordinary absent
      have ended : Spells ("/".intercalate place ++ "/") place := Or.inr ⟨nonempty, Or.inr rfl⟩
      have next : pathBelow path [""] = "/".intercalate place ++ "/" := by
        rw [pathBelow, if_neg (spells.moved nonempty above), String.intercalate_singleton,
          spells.join_eq nonempty above, String.append_empty]
      refine search_named_eq_nil (absurd rfl) ?_
      rw [next]
      exact ih ended (fun top => absurd top nonempty) ordinary absent above
    · rw [List.filter_cons_of_pos (by simpa using empty), List.append_cons] at ordinary absent
      have reached : ∀ name ∈ place ++ [piece], IsEntryName name :=
        fun name member => ordinary name (List.mem_append_left _ member)
      have written : Spells ("/".intercalate (place ++ [piece])) (place ++ [piece]) :=
        Or.inr ⟨by simp, Or.inl rfl⟩
      refine search_named_eq_nil (fun _ => reached piece (by simp)) ?_
      rw [spells.pathBelow_eq above (by simp)]
      exact ih written (by simp) ordinary absent reached

end Absent

section Below

variable {files : FileSystem} {path other : String} {place : List String}

/-- What is found below a directory does not depend on how its path is written. -/
theorem Spells.search_eq (tree : files.IsTree) (here : files.node? (files.base ++ place) = some .directory)
    (first : Spells path place) (second : Spells other place) (rest : List SearchStep) :
    files.search (.anyDepth :: rest) path = files.search (.anyDepth :: rest) other := by
  cases rest with
  | nil => rw [search, search]
  | cons step rest =>
    have ordinary := tree.isEntryName_of_append here
    have found := first.find tree here
    have listed : files.contents other = files.contents path := by
      rw [contents, contents, found, second.find tree here]
    have below : ∀ names ∈ files.contents path, pathBelow path names = pathBelow other names := by
      intro names member
      have nonempty := ((mem_contents_iff found).mp member).1
      rw [first.pathBelow_eq ordinary nonempty, second.pathBelow_eq ordinary nonempty]
    rw [search, search, listed, List.flatMap, List.flatMap]
    refine congrArg List.flatten (List.map_congr_left fun names member => ?_)
    rw [below names member]

end Below

section Starts

/-- A path from the working directory whose first step is a name. -/
def Starts (path : String) : Prop :=
  ∃ name, IsEntryName name ∧ (Path.pieces path).head? = some name

theorem Starts.parts_eq {path : String} (starts : Starts path) :
    ∃ name rest, Path.parts path = .name name :: rest := by
  obtain ⟨name, ordinary, first⟩ := starts
  obtain ⟨rest, whole⟩ := List.head?_eq_some_iff.mp first
  obtain ⟨letters, others, split, rfl, _⟩ := List.map_eq_cons_iff.mp whole
  have step := Path.ofPiece_of_ne ⟨ordinary.notHere, ordinary.notUp⟩
  rw [Path.parts, split]
  cases letters with
  | nil => exact absurd rfl ordinary.named
  | cons c more => exact ⟨_, _, congrArg (· :: _) step⟩

theorem Starts.join {path : String} (starts : Starts path) (step : String) : Starts (Path.join path step) := by
  obtain ⟨name, ordinary, first⟩ := starts
  refine ⟨name, ordinary, (Path.head?_pieces_join ?_ step).trans first⟩
  rintro rfl
  exact ordinary.named (Option.some.inj first).symm

theorem Starts.pathBelow {path : String} (starts : Starts path) (names : List String) : Starts (pathBelow path names) := by
  obtain ⟨name, rest, parts⟩ := starts.parts_eq
  rw [FileSystem.pathBelow, if_neg (by simp [parts])]
  exact starts.join _

/-- No step of a search leaves the first name of its path behind. -/
theorem starts_of_mem_search {files : FileSystem} {steps : List SearchStep} {path found : String}
    (starts : Starts path) (member : found ∈ files.search steps path) : Starts found := by
  fun_induction FileSystem.search files steps path with
  | case1 path => exact List.mem_singleton.mp member ▸ starts
  | case2 name rest path next _ _ ih =>
    refine ih ?_ member
    obtain ⟨first, others, parts⟩ := starts.parts_eq
    have joined : next = Path.join path name := if_neg (by simp [parts])
    exact joined ▸ starts.join name
  | case3 | case4 => cases member
  | case5 step rest path ih =>
    obtain ⟨names, _, member⟩ := List.mem_flatMap.mp member
    split at member
    · exact ih names (starts.pathBelow names) member
    · cases member
  | case6 tokens rest path listed special ihListed ihSpecial =>
    rcases List.mem_append.mp member with inListed | inSpecial
    · obtain ⟨names, _, member⟩ := List.mem_flatMap.mp inListed
      split at member
      · split at member
        · exact ihListed _ (starts.pathBelow _) member
        · cases member
      · cases member
    · dsimp only [special] at inSpecial
      split at inSpecial
      · obtain ⟨name, _, member⟩ := List.mem_flatMap.mp inSpecial
        exact ihSpecial name (starts.join name) member
      · cases inSpecial

/-- All that is found below a directory begins with a name, also below the working directory itself. -/
theorem Spells.starts_of_mem_search {files : FileSystem} {path found : String} {place : List String}
    (spells : Spells path place) (tree : files.IsTree) (here : files.node? (files.base ++ place) = some .directory)
    {rest : List SearchStep} (member : found ∈ files.search (.anyDepth :: rest) path) : Starts found := by
  cases rest with
  | nil =>
    rw [search] at member
    cases member
  | cons step rest =>
    rw [search] at member
    obtain ⟨names, listed, member⟩ := List.mem_flatMap.mp member
    obtain ⟨below, node, there⟩ := (mem_contents_iff (spells.find tree here)).mp listed
    have nonempty : place ++ names ≠ [] := by simp [below]
    rw [List.append_assoc] at there
    have ordinary := tree.isEntryName_of_append there
    split at member
    · refine FileSystem.starts_of_mem_search ?_ member
      rw [spells.pathBelow_eq (tree.isEntryName_of_append here) below]
      obtain ⟨first, others, whole⟩ := List.exists_cons_of_ne_nil nonempty
      refine ⟨first, ordinary first (whole ▸ List.mem_cons_self ..), ?_⟩
      rw [Path.pieces_names nonempty ordinary, whole]
      rfl
    · cases member

end Starts

end FileSystem

end ClassDocs
