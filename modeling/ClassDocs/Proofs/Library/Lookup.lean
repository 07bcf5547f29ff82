import ClassDocs.Library.Listing
import ClassDocs.Library.Reflect
import ClassDocs.Proofs.Entity
import ClassDocs.Proofs.SortedMap
import ClassDocs.Proofs.Library.Names

namespace ClassDocs

/-- The error is not about a name that stands for no class. -/
def DocError.Known (error : DocError) : Prop :=
  ∀ name, error ≠ .unknownEntity name

/-- The error is about a file that cannot be read or declares no class. -/
def DocError.OfFile : DocError → Prop
  | .unreadable .. | .emptyEntity .. => True
  | _ => False

section Errors

theorem FileSystem.outlineAt_failsOnly (files : FileSystem) (key path : String) :
    FailsOnly DocError.OfFile (files.outlineAt key path) := by
  refine FailsOnly.bind ?_ fun content => ?_
  · unfold FileSystem.readSource
    split
    · exact .ok _
    · intro error failed
      cases failed
      trivial
  · unfold scan
    dsimp only
    split
    · exact .ok _
    · intro error failed
      cases failed
      trivial

/-- A parent that is not in the index ends the line of ancestors and is no error. -/
theorem ancestors_failsOnly (files : FileSystem) (classes : Unvisited) (outline : ClassOutline) :
    FailsOnly DocError.OfFile (ancestors files classes outline) := by
  fun_induction ancestors files classes outline with
  | case1 | case2 => exact .ok _
  | case3 classes outline parent declared entry found ih =>
    exact (files.outlineAt_failsOnly _ _).bind fun base => (ih base).bind fun above => .ok _

theorem reflect_eq_error {files : FileSystem} {index : SortedMap String} {name : String} {error : DocError}
    (failed : reflect files index name = .error error) :
    error = .unknownEntity name ∧ index.get? (lowercase name) = none ∨
      error.OfFile ∧ (index.get? (lowercase name)).isSome = true := by
  unfold reflect at failed
  dsimp only at failed
  cases atKey : index.get? (lowercase name) with
  | none =>
    rw [atKey] at failed
    cases failed
    exact Or.inl ⟨rfl, rfl⟩
  | some path =>
    rw [atKey] at failed
    have ofFile := (files.outlineAt_failsOnly (lowercase name) path).bind fun outline =>
      (ancestors_failsOnly files (Unvisited.without index.entries (lowercase name)) outline).bind fun above =>
        .ok { outline with methods := mergeMethods (outline :: above) }
    exact Or.inr ⟨ofFile error failed, rfl⟩

theorem Comment.parse?_failsOnly (context : CommentContext) (comment : Option String) :
    FailsOnly DocError.Known (Comment.parse? context comment) := by
  refine (Comment.parse?_fails_malformed context comment).mono ?_
  rintro error rfl name same
  cases same

/-- A name is unknown exactly if its lower-case form is not in the index, whatever the classes extend. -/
theorem reflect_unknown_iff {files : FileSystem} {index : SortedMap String} {name other : String} :
    reflect files index name = .error (.unknownEntity other) ↔ other = name ∧ lowercase name ∉ index.keys := by
  rw [SortedMap.mem_keys_iff, SortedMap.contains]
  constructor
  · intro failed
    rcases reflect_eq_error failed with ⟨same, absent⟩ | ⟨ofFile, _⟩
    · cases same
      exact ⟨rfl, by simp [absent]⟩
    · exact ofFile.elim
  · rintro ⟨rfl, absent⟩
    have none : index.get? (lowercase other) = none := by simpa using absent
    unfold reflect
    dsimp only
    rw [none]
    rfl

end Errors

namespace SourceTree

variable {layout : Layout} {tree : SourceTree} {name : String}

theorem keys_collect (layout : Layout) (tree : SourceTree) :
    (collect layout tree).keys = (locate layout tree).keys := by
  rw [SortedMap.keys, collect, SortedMap.mapValues, List.map_map]
  rfl

theorem values_collect (layout : Layout) (tree : SourceTree) :
    (collect layout tree).values = (locate layout tree).keys := by
  rw [SortedMap.values, collect, SortedMap.mapValues, List.map_map]
  rfl

/-- Names are indexed in lower case, where they stay when they are looked up. -/
theorem lowercase_of_mem_keys (member : name ∈ (locate layout tree).keys) : lowercase name = name := by
  obtain ⟨entry, inIndex, rfl⟩ := List.mem_map.mp member
  obtain ⟨leaf, _, rfl⟩ := List.mem_map.mp (SortedMap.mem_of_mem_ofList inIndex)
  exact lowercase_lowercase _

theorem reflect_failsOnly (files : FileSystem) (member : name ∈ (locate layout tree).keys) :
    FailsOnly DocError.Known (reflect files (locate layout tree) name) := by
  rintro error failed other rfl
  refine (reflect_unknown_iff.mp failed).2 ?_
  rwa [lowercase_of_mem_keys member]

/-- Every name that was discovered is found when it is looked up, in whatever files and whatever the
classes there extend. So neither the list of all methods nor the menu fails for a name without a class. -/
theorem discovered_names_are_found (files : FileSystem) (layout : Layout) (tree : SourceTree)
    (context : CommentContext) (family : String) :
    (∀ name ∈ (collect layout tree).keys, (locate layout tree).contains (lowercase name) = true ∧
      ∀ other, reflect files (locate layout tree) name ≠ .error (.unknownEntity other)) ∧
    (∀ other, methodListing (reflect files (locate layout tree)) family (collect layout tree) ≠
      .error (.unknownEntity other)) ∧
    ∀ other, libraryMenu (reflect files (locate layout tree)) context family (collect layout tree) ≠
      .error (.unknownEntity other) := by
  have found (name : String) (member : name ∈ (locate layout tree).keys) := reflect_failsOnly files member
  have listed : FailsOnly DocError.Known
      (methodListing (reflect files (locate layout tree)) family (collect layout tree)) := by
    refine FailsOnly.bind (FailsOnly.mapM ?_) fun outlines => .ok _
    rw [values_collect]
    exact found
  have menu : FailsOnly DocError.Known
      (libraryMenu (reflect files (locate layout tree)) context family (collect layout tree)) := by
    refine FailsOnly.bind (FailsOnly.mapM fun name displayed => ?_) fun entities => .ok _
    have member := (List.mem_filter.mp displayed).1
    rw [keys_collect] at member
    exact (found name member).bind fun outline =>
      (Comment.parse?_failsOnly context outline.comment).bind fun doc => .ok _
  refine ⟨fun name member => ?_, fun other failed => listed _ failed other rfl,
    fun other failed => menu _ failed other rfl⟩
  rw [keys_collect] at member
  refine ⟨?_, fun other failed => found name member _ failed other rfl⟩
  rw [lowercase_of_mem_keys member]
  exact SortedMap.mem_keys_iff.mp member

/-- A file whose name has a letter that becomes two and one that depends on its neighbours. -/
def dottedSigma : SourceTree := [.directory "classes/Α" [.file "classes/Α/İΣ.php" "x.php"]]

theorem discovered_names_are_found_of_dottedSigma :
    (collect {} dottedSigma).keys = ["α_i̇ς"] ∧
    (locate {} dottedSigma).contains (lowercase "α_i̇ς") = true ∧
    reflect ⟨[(["x.php"], .text "class A extends B \x7b\x7d")], []⟩ (locate {} dottedSigma) "α_i̇ς" ≠
      .error (.unknownEntity "B") := by
  have discovered : (collect {} dottedSigma).keys = ["α_i̇ς"] := by decide +kernel
  have found := (discovered_names_are_found ⟨[(["x.php"], .text "class A extends B \x7b\x7d")], []⟩ {} dottedSigma
    ⟨fun entity _ => entity, id, TagRules.standard⟩ "kohana").1 "α_i̇ς" (by rw [discovered]; decide)
  exact ⟨discovered, found.1, found.2 "B"⟩

end SourceTree

end ClassDocs
