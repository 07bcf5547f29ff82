import ClassDocs.Command.Arguments

namespace ClassDocs

namespace Arguments

/-- Items go together if every setting was given at most once and no path is empty. -/
theorem ofItems?_eq_some_iff {items : List Item} {arguments : Arguments} :
    ofItems? items = some arguments ↔ ∃ root output format family route extension segment className plain methods,
      atMostOne (rootsOf items) = some root ∧
      atMostOne (valuesOf items .output) = some output ∧ atMostOne (valuesOf items .format) = some format ∧
      atMostOne (valuesOf items .family) = some family ∧ atMostOne (valuesOf items .route) = some route ∧
      atMostOne (valuesOf items .extension) = some extension ∧
      atMostOne (valuesOf items .segment) = some segment ∧
      atMostOne (valuesOf items .className) = some className ∧
      switchOnce? items .plain = some plain ∧ switchOnce? items .methods = some methods ∧
      ¬ (root = some "" || output = some "") = true ∧
      arguments = ⟨⟨root.getD "classes", ⟨segment.getD "classes", extension.getD "php"⟩, family.getD "kohana",
        route.getD "/guide/api", plain⟩, output, format.getD "markdown", className, methods⟩ := by
  constructor
  · intro understood
    obtain ⟨root, rootRead, understood⟩ := Option.bind_eq_some_iff.mp understood
    obtain ⟨output, outputRead, understood⟩ := Option.bind_eq_some_iff.mp understood
    obtain ⟨format, formatRead, understood⟩ := Option.bind_eq_some_iff.mp understood
    obtain ⟨family, familyRead, understood⟩ := Option.bind_eq_some_iff.mp understood
    obtain ⟨route, routeRead, understood⟩ := Option.bind_eq_some_iff.mp understood
    obtain ⟨extension, extensionRead, understood⟩ := Option.bind_eq_some_iff.mp understood
    obtain ⟨segment, segmentRead, understood⟩ := Option.bind_eq_some_iff.mp understood
    obtain ⟨className, classRead, understood⟩ := Option.bind_eq_some_iff.mp understood
    obtain ⟨plain, plainRead, understood⟩ := Option.bind_eq_some_iff.mp understood
    obtain ⟨methods, methodsRead, understood⟩ := Option.bind_eq_some_iff.mp understood
    split at understood
    · cases understood
    · rename_i accepted
      cases understood
      exact ⟨root, output, format, family, route, extension, segment, className, plain, methods, rootRead,
        outputRead, formatRead, familyRead, routeRead, extensionRead, segmentRead, classRead, plainRead,
        methodsRead, accepted, rfl⟩
  · rintro ⟨root, output, format, family, route, extension, segment, className, plain, methods, rootRead,
      outputRead, formatRead, familyRead, routeRead, extensionRead, segmentRead, classRead, plainRead,
      methodsRead, accepted, rfl⟩
    refine Option.bind_eq_some_iff.mpr ⟨root, rootRead, ?_⟩
    refine Option.bind_eq_some_iff.mpr ⟨output, outputRead, ?_⟩
    refine Option.bind_eq_some_iff.mpr ⟨format, formatRead, ?_⟩
    refine Option.bind_eq_some_iff.mpr ⟨family, familyRead, ?_⟩
    refine Option.bind_eq_some_iff.mpr ⟨route, routeRead, ?_⟩
    refine Option.bind_eq_some_iff.mpr ⟨extension, extensionRead, ?_⟩
    refine Option.bind_eq_some_iff.mpr ⟨segment, segmentRead, ?_⟩
    refine Option.bind_eq_some_iff.mpr ⟨className, classRead, ?_⟩
    refine Option.bind_eq_some_iff.mpr ⟨plain, plainRead, ?_⟩
    refine Option.bind_eq_some_iff.mpr ⟨methods, methodsRead, ?_⟩
    exact if_neg accepted

/-- Arguments are understood if their items go together and none of them asks for help. -/
theorem parse?_eq_document_iff {line : List String} {arguments : Arguments} :
    parse? line = some (.document arguments) ↔ ∃ items, readAll line = some items ∧
      ofItems? items = some arguments ∧ .switch .help ∉ items ∧
      ¬ (arguments.methods && arguments.className.isSome) = true := by
  constructor
  · intro understood
    obtain ⟨items, read, understood⟩ := Option.bind_eq_some_iff.mp understood
    obtain ⟨given, together, understood⟩ := Option.bind_eq_some_iff.mp understood
    split at understood
    · cases understood
    · rename_i noHelp
      split at understood
      · cases understood
      · rename_i accepted
        cases understood
        exact ⟨items, read, together, by simpa using noHelp, accepted⟩
  · rintro ⟨items, read, together, noHelp, accepted⟩
    refine Option.bind_eq_some_iff.mpr ⟨items, read, ?_⟩
    refine Option.bind_eq_some_iff.mpr ⟨arguments, together, ?_⟩
    rw [if_neg (by simpa using noHelp)]
    exact if_neg accepted

theorem output_ne_empty {line : List String} {arguments : Arguments}
    (understood : parse? line = some (.document arguments)) : arguments.output ≠ some "" := by
  obtain ⟨_, _, together, _⟩ := parse?_eq_document_iff.mp understood
  obtain ⟨_, _, _, _, _, _, _, _, _, _, _, _, _, _, _, _, _, _, _, _, accepted, rfl⟩ :=
    ofItems?_eq_some_iff.mp together
  simp only [Bool.or_eq_true, decide_eq_true_eq, not_or] at accepted
  exact accepted.2

/-- A class that is asked for in front of all other arguments is read as that, whatever its name. -/
theorem readAll_class (name : String) (line : List String) :
    readAll (("--class=" ++ name) :: line) = (readAll line).map (.setting .className name :: ·) := by
  have letters : ("--class=" ++ name).toList =
      '-' :: '-' :: 'c' :: 'l' :: 'a' :: 's' :: 's' :: '=' :: name.toList := by
    simp
  have long : "--class=" ++ name ≠ "--" := by
    intro same
    rw [← String.toList_inj, letters] at same
    cases same
  have split : splitLong ('c' :: 'l' :: 'a' :: 's' :: 's' :: '=' :: name.toList) = ("class", some name) := by
    simp [splitLong]
  have argument : readArgument ("--class=" ++ name) = some ([.setting .className name], none) := by
    simp only [readArgument, letters, split]
    rfl
  rw [readAll, if_neg long, argument]
  rfl

/-- A class may be added where none was asked for, and changes nothing else. -/
theorem ofItems?_class {items : List Item} {arguments : Arguments} (together : ofItems? items = some arguments)
    (noClass : arguments.className = none) (name : String) :
    ofItems? (.setting .className name :: items) = some { arguments with className := some name } := by
  obtain ⟨root, output, format, family, route, extension, segment, className, plain, methods, rootRead, outputRead,
    formatRead, familyRead, routeRead, extensionRead, segmentRead, classRead, plainRead, methodsRead, accepted,
    rfl⟩ := ofItems?_eq_some_iff.mp together
  cases noClass
  have noneBefore : valuesOf items .className = [] := by
    unfold atMostOne at classRead
    split at classRead
    · assumption
    · cases classRead
    · cases classRead
  have others (setting : Setting) (other : setting ≠ .className) :
      valuesOf (.setting .className name :: items) setting = valuesOf items setting :=
    List.filterMap_cons_none (if_neg (Ne.symm other))
  have kept {setting : Setting} {value : Option String} (other : setting ≠ .className)
      (before : atMostOne (valuesOf items setting) = some value) :
      atMostOne (valuesOf (.setting .className name :: items) setting) = some value := by
    rw [others setting other, before]
  have given : atMostOne (valuesOf (.setting .className name :: items) .className) = some (some name) := by
    have first : valuesOf (.setting .className name :: items) .className =
        name :: valuesOf items .className := rfl
    rw [first, noneBefore]
    rfl
  have switches {switch : Switch} {value : Bool} (before : switchOnce? items switch = some value) :
      switchOnce? (.setting .className name :: items) switch = some value := by
    rw [switchOnce?, List.count_cons_of_ne (by simp), ← switchOnce?, before]
  exact ofItems?_eq_some_iff.mpr ⟨root, output, format, family, route, extension, segment, some name, plain,
    methods, rootRead, kept (by decide) outputRead, kept (by decide) formatRead, kept (by decide) familyRead,
    kept (by decide) routeRead, kept (by decide) extensionRead, kept (by decide) segmentRead, given,
    switches plainRead, switches methodsRead, accepted, rfl⟩

/-- Asking for a class as well changes nothing else. -/
theorem parse?_class {line : List String} {arguments : Arguments}
    (understood : parse? line = some (.document arguments)) (noClass : arguments.className = none)
    (noMethods : arguments.methods = false) (name : String) :
    parse? (("--class=" ++ name) :: line) = some (.document { arguments with className := some name }) := by
  obtain ⟨items, read, together, noHelp, _⟩ := parse?_eq_document_iff.mp understood
  have whole : readAll (("--class=" ++ name) :: line) = some (.setting .className name :: items) := by
    rw [readAll_class, read]
    rfl
  exact parse?_eq_document_iff.mpr ⟨_, whole, ofItems?_class together noClass name, by simpa using noHelp,
    by simp [noMethods]⟩

end Arguments

end ClassDocs
