import ClassDocs.Proofs.Command.Site

namespace ClassDocs

namespace Entity

variable {reflect : Reflector} {read : SourceReader} {context : CommentContext} {name : String}

/-- An entity without its methods. -/
def summary (entity : Entity) : Entity :=
  { entity with methods := [] }

theorem summarize_of_document {entity : Entity} (documented : document reflect read context name = .ok entity) :
    summarize reflect context name = .ok entity.summary := by
  obtain ⟨outline, found, documented⟩ := bind_eq_ok_iff.mp documented
  obtain ⟨comment, parsed, documented⟩ := bind_eq_ok_iff.mp documented
  obtain ⟨methods, _, documented⟩ := bind_eq_ok_iff.mp documented
  cases documented
  exact bind_eq_ok_iff.mpr ⟨outline, found, bind_eq_ok_iff.mpr ⟨comment, parsed, rfl⟩⟩

theorem document_of_summarize_error {error : DocError} (failed : summarize reflect context name = .error error) :
    document reflect read context name = .error error := by
  unfold summarize at failed
  unfold document
  cases found : reflect name with
  | error other =>
    rw [found] at failed
    exact failed
  | ok outline =>
    rw [found] at failed
    change summaryOfOutline context outline = .error error at failed
    change ofOutline read context outline = .error error
    unfold summaryOfOutline at failed
    unfold ofOutline
    cases parsed : Comment.parse? context outline.comment with
    | error other =>
      rw [parsed] at failed
      exact failed
    | ok comment =>
      rw [parsed] at failed
      cases failed

end Entity

/-- The menu has no use for methods. -/
theorem Menu.build_summaries (resolve : Resolver) (entities : List Entity) :
    Menu.build resolve (entities.map Entity.summary) = Menu.build resolve entities := by
  have ordered : Menu.inOrder (entities.map Entity.summary) = (Menu.inOrder entities).map Entity.summary := by
    refine (List.map_mergeSort fun first _ second _ => ?_).symm
    rfl
  rw [Menu.build, ordered, List.foldl_map]
  rfl

namespace Library

variable {library : Library} {files : FileSystem} {name : String}

theorem document_eq_ok {entity : Entity} (documented : library.document files name = .ok entity) :
    Entity.document (reflect files library.index) files.extract library.config.context name = .ok entity := by
  unfold document at documented
  split at documented
  · rename_i found
    cases documented
    exact found
  · cases documented

/-- If all classes to display can be documented, their menu is found without the methods. -/
theorem menu_of_documented {entities : List Entity}
    (documented : (catalogue library.config.family library.classes).map (library.document files) =
      entities.map .ok) :
    library.menu files = .ok (Menu.build library.config.context.resolve entities) := by
  have summarized : (catalogue library.config.family library.classes).mapM
      (Entity.summarize (reflect files library.index) library.config.context) =
        .ok (entities.map Entity.summary) := by
    refine mapM_eq_ok_iff.mpr ?_
    generalize catalogue library.config.family library.classes = names at documented ⊢
    induction names generalizing entities with
    | nil =>
      cases entities with
      | nil => rfl
      | cons entity rest => cases documented
    | cons name names ih =>
      cases entities with
      | nil => cases documented
      | cons entity rest =>
        obtain ⟨first, later⟩ := List.cons.inj documented
        rw [List.map_cons, Entity.summarize_of_document (document_eq_ok first), ih later]
        rfl
  rw [menu, libraryMenu, summarized, ← Menu.build_summaries]
  rfl

end Library

section Runs

variable {line : List String} {arguments : Arguments} {files : FileSystem} {format : PageFormat}
  {library : Library}

theorem run_of_load (understood : Arguments.parse? line = some (.document arguments))
    (known : PageFormat.ofName arguments.format = .ok format)
    (loaded : Library.load files arguments.config format = .ok library) :
    run line files = runLibrary library arguments files := by
  simp only [run, understood, runArguments, known, loaded]

theorem runLibrary_menu {menu : Menu} (noOutput : arguments.output = none) (noClass : arguments.className = none)
    (noMethods : arguments.methods = false) (built : library.menu files = .ok menu) :
    runLibrary library arguments files = ⟨0, library.format.menuPage menu, none, files⟩ := by
  simp only [runLibrary, noMethods, noClass, noOutput, built, Bool.false_eq_true, if_false]
  rfl

theorem runLibrary_class {name : String} {entity : Entity} (noOutput : arguments.output = none)
    (asked : arguments.className = some name) (noMethods : arguments.methods = false)
    (documented : library.document files name = .ok entity) :
    runLibrary library arguments files = ⟨0, library.format.entityPage entity, none, files⟩ := by
  simp only [runLibrary, noMethods, asked, noOutput, runClass, documented, Bool.false_eq_true, if_false]
  rfl

end Runs

/-- If no page of a site lies where a class was found, the menu and the pages of the site are what is
printed when they are asked for on the files as they were at the start. For any class, leaving out the
methods changes nothing else, and fails only where documenting the class fails in the same way. -/
theorem output_modes_agree :
    (∀ {siteLine menuLine : List String} {arguments : Arguments} {directory : String} {files : FileSystem}
      {format : PageFormat} {library : Library},
      Arguments.parse? siteLine = some (.document arguments) → arguments.output = some directory →
      arguments.className = none → arguments.methods = false →
      Arguments.parse? menuLine = some (.document { arguments with output := none }) →
      PageFormat.ofName arguments.format = .ok format →
      Library.load files arguments.config format = .ok library →
      (∀ name ∈ catalogue library.config.family library.classes, ∀ path ∈ library.index.values,
        files.locate path ≠ (run siteLine files).files.locate (library.pagePath directory name)) →
      (run siteLine files).exitCode = 0 →
      (∃ text, (run siteLine files).files.read (library.pagePath directory "menu") = .ok text ∧
        run menuLine files = ⟨0, text, none, files⟩) ∧
      ∀ name ∈ catalogue library.config.family library.classes, name ≠ "menu" →
        ∃ text, (run siteLine files).files.read (library.pagePath directory name) = .ok text ∧
          run (("--class=" ++ name) :: menuLine) files = ⟨0, text, none, files⟩) ∧
    ∀ (reflect : Reflector) (read : Entity.SourceReader) (context : CommentContext) (name : String),
      (∀ entity, Entity.document reflect read context name = .ok entity →
        Entity.summarize reflect context name = .ok { entity with methods := [] }) ∧
      ∀ error, Entity.summarize reflect context name = .error error →
        Entity.document reflect read context name = .error error := by
  constructor
  · intro siteLine menuLine arguments directory files format library understood output noClass noMethods
      menuUnderstood known loaded apart exits
    obtain ⟨_, _, place, turns, known', loaded', _, site⟩ :=
      siteRun_of_run understood output noClass noMethods exits
    cases Except.ok.inj (known.symm.trans known')
    cases Except.ok.inj (loaded.symm.trans loaded')
    have documented : ∀ turn ∈ turns, library.document files turn.name = .ok turn.entity := by
      refine site.document_eq loaded fun name displayed path indexed same => apart name displayed path indexed ?_
      rw [same, site.located name]
      rw [site.names]
      exact List.mem_append_left _ displayed
    constructor
    · refine ⟨_, site.menu, ?_⟩
      have built : library.menu files =
          .ok (Menu.build library.config.context.resolve (turns.map (·.entity))) := by
        refine Library.menu_of_documented ?_
        rw [← site.names, List.map_map, List.map_map]
        exact List.map_congr_left documented
      rw [run_of_load menuUnderstood known loaded]
      exact runLibrary_menu rfl noClass noMethods built
    · intro name displayed other
      rw [← site.names] at displayed
      obtain ⟨turn, member, rfl⟩ := List.mem_map.mp displayed
      refine ⟨_, site.pages turn member other, ?_⟩
      rw [run_of_load (Arguments.parse?_class menuUnderstood noClass noMethods turn.name) known loaded]
      exact runLibrary_class rfl rfl noMethods (documented turn member)
  · intro reflect read context name
    exact ⟨fun entity => Entity.summarize_of_document, fun error => Entity.document_of_summarize_error⟩

/-- The directory of the pages lies beside the working directory. -/
theorem output_modes_agree_on_oneClass :
    (run ["-o", "../docs"] oneClass).exitCode = 0 ∧
    (∃ text, (run ["-o", "../docs"] oneClass).files.read "../docs/menu.md" = .ok text ∧
      run [] oneClass = ⟨0, text, none, oneClass⟩) ∧
    (∃ text, (run ["-o", "../docs"] oneClass).files.read "../docs/a.md" = .ok text ∧
      run ["--class=a"] oneClass = ⟨0, text, none, oneClass⟩) ∧
    Entity.summarize (fun _ => .ok ⟨"A", "a.php", none, none, [⟨"f", "a.php", none, 1, 1⟩]⟩)
      ⟨fun entity _ => entity, id, TagRules.standard⟩ "a" = .ok ⟨"A", "", TagMap.empty, []⟩ ∧
    Entity.document (fun name => .error (.unknownEntity name)) oneClass.extract
      ⟨fun entity _ => entity, id, TagRules.standard⟩ "b" = .error (.unknownEntity "b") := by
  have understood : Arguments.parse? ["-o", "../docs"] =
      some (.document ⟨{}, some "../docs", "markdown", none, false⟩) := by decide
  have menuUnderstood : Arguments.parse? [] = some (.document ⟨{}, none, "markdown", none, false⟩) := by
    decide
  obtain ⟨exits, differ⟩ : (run ["-o", "../docs"] oneClass).exitCode = 0 ∧
      (oneClass.locate "classes/a.php").toOption ≠
        ((run ["-o", "../docs"] oneClass).files.locate (Path.join "../docs" ("a" ++ ".md"))).toOption := by
    decide +kernel
  have facts : (Library.load oneClass {} .markdown).toOption.map (fun library =>
      (catalogue library.config.family library.classes, library.index.values, library.format)) =
        some (["a"], ["classes/a.php"], .markdown) := by decide +kernel
  cases loaded : Library.load oneClass {} .markdown with
  | error failure =>
    rw [loaded] at facts
    cases facts
  | ok library =>
    rw [loaded] at facts
    simp only [Except.toOption, Option.map_some, Option.some.injEq, Prod.mk.injEq] at facts
    obtain ⟨displayed, indexed, markdown⟩ := facts
    have page (name : String) : library.pagePath "../docs" name = Path.join "../docs" (name ++ ".md") := by
      rw [Library.pagePath, markdown]
      simp [PageFormat.fileName, PageFormat.extension, String.append_assoc]
    have apart : ∀ name ∈ catalogue library.config.family library.classes, ∀ path ∈ library.index.values,
        oneClass.locate path ≠ (run ["-o", "../docs"] oneClass).files.locate (library.pagePath "../docs" name) := by
      intro name atName path atPath same
      rw [displayed, List.mem_singleton] at atName
      rw [indexed, List.mem_singleton] at atPath
      rw [atPath, page, atName] at same
      exact differ (congrArg _ same)
    obtain ⟨menu, pages⟩ :=
      output_modes_agree.1 understood rfl rfl rfl menuUnderstood rfl loaded apart exits
    have own := pages "a" (by rw [displayed]; decide) (by decide)
    rw [page] at menu own
    refine ⟨exits, menu, own, ?_, ?_⟩
    · exact (output_modes_agree.2 _ (fun _ _ _ => .error .noFile) _ "a").1
        ⟨"A", "", TagMap.empty, [⟨"f", "", TagMap.empty, "a.php", 1, 1, none⟩]⟩
        (eq_ok_of_toOption (by decide +kernel))
    · exact (output_modes_agree.2 _ oneClass.extract _ "b").2 (.unknownEntity "b") rfl

end ClassDocs
