import ClassDocs.Proofs.Command.Modes
import ClassDocs.Proofs.Command.Stopped
import ClassDocs.Proofs.Files.Search

namespace ClassDocs

section Reports

/-- The report is that of a class which could not be documented. -/
def SaysUndocumented (report : String) : Prop :=
  "Error: failed to document ".toList <+: report.toList

/-- The run failed to document a class, and reports it. -/
def Outcome.FailsToDocument (outcome : Outcome) : Prop :=
  ∃ report, outcome.report = some report ∧ SaysUndocumented report

/-- A report begins with the message of its failure. -/
theorem Failure.prefix_report {failure : Failure} {start rest : String} (message : failure.message = start ++ rest) :
    ("Error: " ++ start).toList <+: failure.report.toList := by
  rw [Failure.report, message]
  simp only [String.toList_append, List.append_assoc]
  exact (List.prefix_append_right_inj _).mpr (List.prefix_append _ _)

theorem Failure.saysUndocumented {failure : Failure} {name : String}
    (message : failure.message = "failed to document " ++ name) : SaysUndocumented failure.report := by
  have whole : "Error: failed to document " = "Error: " ++ "failed to document " := by decide
  rw [SaysUndocumented, whole]
  exact prefix_report message

/-- A failure of another kind does not report that a class could not be documented. -/
theorem Failure.not_saysUndocumented {failure : Failure} {start rest : String}
    (message : failure.message = start ++ rest)
    (apart : ¬ "Error: failed to document ".toList <+: ("Error: " ++ start).toList ∧
      ¬ ("Error: " ++ start).toList <+: "Error: failed to document ".toList) :
    ¬ SaysUndocumented failure.report := by
  intro reported
  rcases List.prefix_or_prefix_of_prefix reported (prefix_report message) with shorter | longer
  · exact apart.1 shorter
  · exact apart.2 longer

variable {files written : FileSystem} {failure : Failure}

theorem writePage_not_saysUndocumented {directory name page : String} {format : PageFormat}
    (failed : writePage files directory name format page = (written, some failure)) :
    ¬ SaysUndocumented failure.report := by
  unfold writePage at failed
  split at failed
  · cases failed
    exact Failure.not_saysUndocumented (rfl : _ = "failed to create output directory: " ++ directory) (by decide)
  · dsimp only at failed
    split at failed
    · cases failed
    · cases failed
      exact Failure.not_saysUndocumented (rfl : _ = "failed to write " ++ _) (by decide)

theorem Library.load_not_saysUndocumented {config : Config} {format : PageFormat}
    (failed : Library.load files config format = .error failure) :
    ¬ SaysUndocumented failure.report := by
  unfold Library.load at failed
  split at failed
  · split at failed
    · cases failed
    · cases failed
      exact Failure.not_saysUndocumented (rfl : _ = "failed to list " ++ _) (by decide)
  · cases failed
    exact Failure.not_saysUndocumented (rfl : _ = "class directory not found: " ++ _) (by decide)

theorem PageFormat.ofName_not_saysUndocumented {name : String} {error : DocError}
    (failed : PageFormat.ofName name = .error error) :
    ¬ SaysUndocumented (Failure.ofError error).report := by
  unfold PageFormat.ofName at failed
  split at failed
  · cases failed
  · split at failed
    · cases failed
    · cases failed
      have message : (Failure.ofError (.unknownFormat name)).message =
          "unknown format: " ++ (name ++ ". Use markdown or json") := String.append_assoc ..
      exact Failure.not_saysUndocumented message (by decide)

end Reports

section Runs

variable {line : List String} {arguments : Arguments} {files : FileSystem}

theorem output_ofPrint {result : Except Failure String} (failed : (Outcome.ofPrint files result).exitCode ≠ 0) :
    (Outcome.ofPrint files result).output = "" := by
  cases result with
  | error failure => rfl
  | ok text => exact absurd rfl failed

theorem output_ofWrite (result : FileSystem × Option Failure) : (Outcome.ofWrite result).output = "" := by
  obtain ⟨written, failure⟩ := result
  cases failure <;> rfl

theorem Outcome.FailsToDocument.of_print {failure : Failure}
    (failed : (Outcome.ofPrint files (.error failure)).FailsToDocument) :
    SaysUndocumented failure.report := by
  obtain ⟨report, given, reported⟩ := failed
  cases given
  exact reported

theorem Outcome.FailsToDocument.of_write {result : FileSystem × Option Failure}
    (failed : (Outcome.ofWrite result).FailsToDocument) : ∃ written failure, result = (written, some failure) ∧
      SaysUndocumented failure.report := by
  obtain ⟨report, given, reported⟩ := failed
  obtain ⟨written, failure⟩ := result
  cases failure with
  | none => cases given
  | some failure =>
    cases given
    exact ⟨written, failure, rfl, reported⟩

theorem files_ofPrint (files : FileSystem) (result : Except Failure String) :
    (Outcome.ofPrint files result).files = files := by
  cases result <;> rfl

/-- A run that is understood prints and leaves the files as they are, or it writes one page or a site. -/
theorem run_cases (understood : Arguments.parse? line = some (.document arguments)) (files : FileSystem) :
    (∃ result, run line files = .ofPrint files result) ∨
      arguments.methods = false ∧ ∃ (library : Library) (directory : String), arguments.output = some directory ∧
        ((∃ name page, arguments.className.isSome ∧
            run line files = .ofWrite (writePage files directory name library.format page)) ∨
          arguments.className = none ∧ run line files = .ofWrite (writeSite library directory files)) := by
  have ran : run line files = runArguments arguments files := by rw [run, understood]
  rw [ran]
  unfold runArguments
  split
  · exact Or.inl ⟨_, rfl⟩
  · split
    · exact Or.inl ⟨_, rfl⟩
    · rename_i library _
      unfold runLibrary
      split
      · exact Or.inl ⟨_, rfl⟩
      · rename_i noMethods
        have noMethods := Bool.eq_false_iff.mpr noMethods
        split
        · rename_i name output asked
          unfold runClass
          split
          · exact Or.inl ⟨_, rfl⟩
          · exact Or.inl ⟨_, rfl⟩
          · rename_i entity directory _ given
            exact Or.inr ⟨noMethods, library, directory, given, Or.inl ⟨_, _, by simp [asked], rfl⟩⟩
        · rename_i directory noClass given
          exact Or.inr ⟨noMethods, library, directory, given, Or.inr ⟨noClass, rfl⟩⟩
        · exact Or.inl ⟨_, rfl⟩

theorem output_of_run (failed : (run line files).exitCode ≠ 0) : (run line files).output = "" := by
  cases understood : Arguments.parse? line with
  | none => rw [run, understood]
  | some request =>
    cases request with
    | help =>
      rw [run, understood] at failed
      exact absurd rfl failed
    | document arguments =>
      rcases run_cases understood files with ⟨result, printed⟩ | ⟨_, library, directory, _, written⟩
      · rw [printed] at failed ⊢
        exact output_ofPrint failed
      · rcases written with ⟨name, page, _, written⟩ | ⟨_, written⟩
        · rw [written]
          exact output_ofWrite _
        · rw [written]
          exact output_ofWrite _

/-- Without an output directory, or when methods are listed, nothing is written. -/
theorem files_of_printing (understood : Arguments.parse? line = some (.document arguments))
    (printing : arguments.output = none ∨ arguments.methods = true) : (run line files).files = files := by
  rcases run_cases understood files with ⟨result, printed⟩ | ⟨noMethods, library, directory, given, _⟩
  · rw [printed]
    exact files_ofPrint files result
  · rcases printing with noOutput | methods
    · rw [noOutput] at given
      cases given
    · rw [methods] at noMethods
      cases noMethods

theorem Library.load_eq_error {config : Config} (format : PageFormat)
    (refused : files.isDirectory config.root = false ∨
      ∃ error, SourceTree.scan files config.layout config.root = .error error) :
    ∃ failure, Library.load files config format = .error failure := by
  unfold Library.load
  split
  · rename_i directory
    rcases refused with missing | ⟨error, failed⟩
    · rw [missing] at directory
      cases directory
    · rw [failed]
      exact ⟨_, rfl⟩
  · exact ⟨_, rfl⟩

/-- A run that finds no format, no root or no valid pattern ends before anything is documented. -/
theorem run_of_refused (understood : Arguments.parse? line = some (.document arguments))
    (refused : (∃ error, PageFormat.ofName arguments.format = .error error) ∨
      files.isDirectory arguments.config.root = false ∨
      ∃ error, SourceTree.scan files arguments.config.layout arguments.config.root = .error error) :
    (run line files).exitCode = 1 ∧ (run line files).files = files := by
  rw [run, understood]
  dsimp only
  unfold runArguments
  split
  · exact ⟨rfl, rfl⟩
  · rename_i format known
    rcases refused with ⟨error, unknown⟩ | refused
    · rw [unknown] at known
      cases known
    · obtain ⟨failure, failed⟩ := Library.load_eq_error format refused
      rw [failed]
      exact ⟨rfl, rfl⟩

theorem files_of_undocumented_class (understood : Arguments.parse? line = some (.document arguments))
    (asked : arguments.className.isSome) (failed : (run line files).FailsToDocument) :
    (run line files).files = files := by
  rcases run_cases understood files with ⟨result, printed⟩ | ⟨_, library, directory, _, written⟩
  · rw [printed]
    exact files_ofPrint files result
  · rcases written with ⟨name, page, _, written⟩ | ⟨noClass, _⟩
    · rw [written] at failed
      obtain ⟨final, failure, refused, reported⟩ := failed.of_write
      exact absurd reported (writePage_not_saysUndocumented refused)
    · rw [noClass] at asked
      cases asked

theorem turns_of_writeSite {library : Library} {directory : String} {final : FileSystem} {failure : Failure}
    (failed : writeSite library directory files = (final, some failure))
    (reported : SaysUndocumented failure.report) :
    ∃ turns name rest, catalogue library.config.family library.classes = turns.map (·.name) ++ name :: rest ∧
      Turns library directory files turns final ∧ library.document final name = .error failure := by
  unfold writeSite at failed
  split at failed
  · rename_i written error writing
    cases failed
    obtain ⟨turns, name, rest, names, ⟨run, undocumented⟩ | ⟨before, page, refused⟩⟩ :=
      turns_of_writePages_error writing
    · exact ⟨turns, name, rest, names, run, undocumented⟩
    · exact absurd reported (writePage_not_saysUndocumented refused)
  · exact absurd reported (writePage_not_saysUndocumented failed)

theorem Library.document_eq_error {library : Library} {name : String} {failure : Failure}
    (failed : library.document files name = .error failure) :
    ∃ error, failure = .during ("failed to document " ++ name) error := by
  unfold Library.document at failed
  split at failed
  · cases failed
  · cases failed
    exact ⟨_, rfl⟩

/-- A site whose run reports that a class could not be documented has been written up to that class. -/
theorem stoppedRun_of_run {directory : String} (understood : Arguments.parse? line = some (.document arguments))
    (output : arguments.output = some directory) (noClass : arguments.className = none)
    (noMethods : arguments.methods = false) (failed : (run line files).FailsToDocument) :
    ∃ format library place turns name error, PageFormat.ofName arguments.format = .ok format ∧
      Library.load files arguments.config format = .ok library ∧
      library.document (run line files).files name = .error (.during ("failed to document " ++ name) error) ∧
      (run line files).report = some (Failure.during ("failed to document " ++ name) error).report ∧
      StoppedRun library directory files (run line files).files place turns name := by
  -- what ends a run before its classes are known has another report
  cases known : PageFormat.ofName arguments.format with
  | error error =>
    have ran : run line files = .ofPrint files (.error (.ofError error)) := by
      simp only [run, understood, runArguments, known]
    rw [ran] at failed
    exact absurd failed.of_print (PageFormat.ofName_not_saysUndocumented known)
  | ok format =>
    cases loaded : Library.load files arguments.config format with
    | error failure =>
      have ran : run line files = .ofPrint files (.error failure) := by
        simp only [run, understood, runArguments, known, loaded]
      rw [ran] at failed
      exact absurd failed.of_print (Library.load_not_saysUndocumented loaded)
    | ok library =>
      have ran : run line files = .ofWrite (writeSite library directory files) := by
        rw [run_of_load understood known loaded]
        simp [runLibrary, noMethods, noClass, output]
      rw [ran] at failed ⊢
      obtain ⟨final, failure, stopped, reported⟩ := failed.of_write
      rw [stopped]
      obtain ⟨turns, name, rest, names, run, undocumented⟩ := turns_of_writeSite stopped reported
      obtain ⟨error, rfl⟩ := Library.document_eq_error undocumented
      have named : directory ≠ "" := by
        rintro rfl
        exact Arguments.output_ne_empty understood output
      have clean : ∀ name ∈ catalogue library.config.family library.classes, '/' ∉ name.toList := by
        obtain ⟨tree, _, rfl⟩ := Library.load_eq_ok loaded
        exact fun name displayed slash => Bool.noConfusion (catalogue_no_separator displayed '/' slash)
      obtain ⟨place, stopped⟩ := stoppedRun_of_turns named clean run names
      exact ⟨format, library, place, turns, name, error, rfl, loaded, undocumented, rfl, stopped⟩

end Runs

/-- A run that fails prints nothing, and it leaves the files as they are unless it was to write pages. So
does one that only tells how the program is used. If a run fails before it documents anything, or to
document the one class that it was asked for, then they are left as they are as well. If it fails to
document one class of a site, it has written the pages of the classes before that one and nothing else,
and no menu. -/
theorem failed_run_leaves_clean_output (line : List String) (files : FileSystem) :
    ((run line files).exitCode ≠ 0 → (run line files).output = "") ∧
    (Arguments.parse? line = none → (run line files).exitCode = 2 ∧ (run line files).files = files) ∧
    (Arguments.parse? line = some .help → run line files = ⟨0, Arguments.usage, none, files⟩) ∧
    ∀ arguments, Arguments.parse? line = some (.document arguments) →
      (arguments.output = none ∨ arguments.methods = true → (run line files).files = files) ∧
      ((∃ error, PageFormat.ofName arguments.format = .error error) ∨
          files.isDirectory arguments.config.root = false ∨
          (∃ error, SourceTree.scan files arguments.config.layout arguments.config.root = .error error) →
        (run line files).exitCode = 1 ∧ (run line files).files = files) ∧
      (arguments.className.isSome → (run line files).FailsToDocument → (run line files).files = files) ∧
      ∀ directory, arguments.output = some directory → arguments.className = none → arguments.methods = false →
        (run line files).FailsToDocument →
        ∃ format library place turns name error, PageFormat.ofName arguments.format = .ok format ∧
          Library.load files arguments.config format = .ok library ∧
          library.document (run line files).files name = .error (.during ("failed to document " ++ name) error) ∧
          (run line files).report = some (Failure.during ("failed to document " ++ name) error).report ∧
          StoppedRun library directory files (run line files).files place turns name ∧
          ∀ menu, (run line files).files.node? (library.pagePlace place "menu") =
              some (.text (library.format.menuPage menu)) →
            files.node? (library.pagePlace place "menu") = some (.text (library.format.menuPage menu)) := by
  refine ⟨output_of_run, fun refused => ?_, fun asked => ?_, fun arguments understood =>
    ⟨files_of_printing understood, run_of_refused understood, files_of_undocumented_class understood, ?_⟩⟩
  · rw [run, refused]
    exact ⟨rfl, rfl⟩
  · rw [run, asked]
  · intro directory output noClass noMethods failed
    obtain ⟨format, library, place, turns, name, error, known, loaded, undocumented, reported, stopped⟩ :=
      stoppedRun_of_run understood output noClass noMethods failed
    exact ⟨format, library, place, turns, name, error, known, loaded, undocumented, reported, stopped,
      fun _ => stopped.menu_of_node?⟩

/-- A class, and a file behind it that declares none. The working directory is not the root. -/
def secondEmpty : FileSystem := ⟨[(["home"], .directory), (["home", "classes"], .directory),
  (["home", "classes", "a.php"], .text "<?php\nclass A \x7b\x7d\n"),
  (["home", "classes", "b.php"], .text "")], ["home"]⟩

/-- What a run finds there. -/
def secondEmptyLibrary : Library :=
  let tree := ["classes/a.php", "classes/b.php"].foldl (SourceTree.addFound {} "classes") []
  ⟨{}, SourceTree.locate {} tree, SourceTree.collect {} tree, .markdown⟩

theorem load_secondEmpty : Library.load secondEmpty {} .markdown = .ok secondEmptyLibrary := by
  have letters : ({} : Layout).extension.toList = ['p', 'h', 'p'] := by decide
  have plain : Pattern.Plain ({} : Layout).extension.toList := by
    rw [letters]
    simp [Pattern.Plain]
  have noSlash : '/' ∉ ({} : Layout).extension.toList := by
    rw [letters]
    simp
  have searched : (secondEmpty.search ((Path.pieces "classes").map SearchStep.named ++
      [.anyDepth, .ending ({} : Layout).extension.toList]) ".").filter secondEmpty.isFile =
        ["classes/a.php", "classes/b.php"] := by decide +kernel
  -- the sort does not evaluate, but the two paths are in order already
  have sorted : ["classes/a.php", "classes/b.php"].mergeSort Path.le = ["classes/a.php", "classes/b.php"] :=
    List.mergeSort_of_pairwise (by decide)
  have found : secondEmpty.matching (SourceTree.pattern {} "classes") = .ok ["classes/a.php", "classes/b.php"] := by
    have relative : (Path.pieces "classes").head? ≠ some "" := by decide
    rw [SourceTree.pattern, FileSystem.matching_below _ relative plain noSlash, searched, sorted]
  have directory : secondEmpty.isDirectory ({} : Config).root = true := by decide
  have scanned : SourceTree.scan secondEmpty ({} : Config).layout ({} : Config).root =
      .ok (["classes/a.php", "classes/b.php"].foldl (SourceTree.addFound {} "classes") []) := by
    rw [SourceTree.scan, found]
  rw [Library.load, if_pos directory, scanned]
  rfl

/-- Both classes are displayed, and the second cannot be documented. -/
theorem displayed_secondEmpty :
    catalogue secondEmptyLibrary.config.family secondEmptyLibrary.classes = ["a", "b"] ∧
    (secondEmptyLibrary.document secondEmpty "b").toOption = none := by
  decide +kernel

/-- A site for a directory outside the working directory, one page of it, and lines that end before that. -/
theorem parse?_secondEmpty :
    Arguments.parse? ["-o", "/tmp/docs"] = some (.document ⟨{}, some "/tmp/docs", "markdown", none, false⟩) ∧
    Arguments.parse? ["-o", "/tmp/docs", "--class=b"] =
      some (.document ⟨{}, some "/tmp/docs", "markdown", some "b", false⟩) ∧
    Arguments.parse? ["-o", "/tmp/docs", "-f", "xml"] =
      some (.document ⟨{}, some "/tmp/docs", "xml", none, false⟩) ∧
    Arguments.parse? ["-o", "/tmp/docs", "-vh", "--nothing"] = some .help ∧
    Arguments.parse? ["-o", "/tmp/docs", "--nothing", "-h"] = none := by
  decide

theorem run_secondEmpty :
    run ["-o", "/tmp/docs"] secondEmpty = .ofWrite (writeSite secondEmptyLibrary "/tmp/docs" secondEmpty) := by
  rw [run_of_load parse?_secondEmpty.1 rfl load_secondEmpty]
  simp only [runLibrary, Bool.false_eq_true, if_false]

/-- The page of the first class is new, and at the second the site is given up. -/
theorem writeSite_secondEmpty : ∃ final, writeSite secondEmptyLibrary "/tmp/docs" secondEmpty =
      (final, some (.during "failed to document b" (.emptyEntity "b" "classes/b.php"))) ∧
    final.read "/tmp/docs/a.md" = .ok "# A\n\n" ∧ final ≠ secondEmpty := by
  obtain ⟨stops, page⟩ : (writeSite secondEmptyLibrary "/tmp/docs" secondEmpty).2 =
        some (.during "failed to document b" (.emptyEntity "b" "classes/b.php")) ∧
      ((writeSite secondEmptyLibrary "/tmp/docs" secondEmpty).1.read "/tmp/docs/a.md").toOption =
        some "# A\n\n" := by decide +kernel
  have absent : (secondEmpty.read "/tmp/docs/a.md").toOption = none := by decide
  generalize writeSite secondEmptyLibrary "/tmp/docs" secondEmpty = result at stops page ⊢
  obtain ⟨final, failure⟩ := result
  cases stops
  refine ⟨final, rfl, eq_ok_of_toOption page, ?_⟩
  rintro rfl
  rw [absent] at page
  cases page

/-- A site of these two that has the page of the first was stopped by the second. -/
theorem turns_of_stoppedRun_secondEmpty {directory name : String} {final : FileSystem} {place : List String}
    {turns : List Turn} (stopped : StoppedRun secondEmptyLibrary directory secondEmpty final place turns name)
    (changed : final ≠ secondEmpty) : name = "b" ∧ turns.map (·.name) = ["a"] := by
  have names := stopped.names_eq
  have displayed := stopped.mem_catalogue
  rw [displayed_secondEmpty.1] at names displayed
  rcases List.mem_cons.mp displayed with rfl | second
  · have first : turns = [] := List.map_eq_nil_iff.mp names
    exact absurd (stopped.untouched first) changed
  · cases List.mem_singleton.mp second
    exact ⟨rfl, names⟩

theorem undocumented_secondEmpty :
    (run ["-o", "/tmp/docs", "--class=b"] secondEmpty).FailsToDocument := by
  have nothing := displayed_secondEmpty.2
  rw [run_of_load parse?_secondEmpty.2.1 rfl load_secondEmpty]
  cases documented : secondEmptyLibrary.document secondEmpty "b" with
  | ok entity =>
    rw [documented] at nothing
    cases nothing
  | error failure =>
    obtain ⟨error, rfl⟩ := Library.document_eq_error documented
    simp only [runLibrary, runClass, documented, Bool.false_eq_true, if_false]
    exact ⟨_, rfl, Failure.saysUndocumented rfl⟩

theorem failed_run_leaves_clean_output_of_secondEmpty :
    (run ["-o", "/tmp/docs"] secondEmpty).exitCode = 1 ∧ (run ["-o", "/tmp/docs"] secondEmpty).output = "" ∧
    (∃ place turns, turns.map (·.name) = ["a"] ∧
      StoppedRun secondEmptyLibrary "/tmp/docs" secondEmpty (run ["-o", "/tmp/docs"] secondEmpty).files place
        turns "b") ∧
    (run ["-o", "/tmp/docs"] secondEmpty).files.read "/tmp/docs/a.md" = .ok "# A\n\n" ∧
    (run ["-o", "/tmp/docs", "--class=b"] secondEmpty).FailsToDocument ∧
    (run ["-o", "/tmp/docs", "--class=b"] secondEmpty).files = secondEmpty ∧
    (run ["-o", "/tmp/docs", "-f", "xml"] secondEmpty).exitCode = 1 ∧
    (run ["-o", "/tmp/docs", "-f", "xml"] secondEmpty).files = secondEmpty ∧
    run ["-o", "/tmp/docs", "-vh", "--nothing"] secondEmpty = ⟨0, Arguments.usage, none, secondEmpty⟩ ∧
    (run ["-o", "/tmp/docs", "--nothing", "-h"] secondEmpty).exitCode = 2 := by
  obtain ⟨site, page, unformatted, help, unknown⟩ := parse?_secondEmpty
  obtain ⟨final, wrote, written, changed⟩ := writeSite_secondEmpty
  have ran := run_secondEmpty
  rw [wrote] at ran
  have failed : (run ["-o", "/tmp/docs"] secondEmpty).exitCode = 1 := by rw [ran]; rfl
  have message : "failed to document b" = "failed to document " ++ "b" := by decide
  have reported : (run ["-o", "/tmp/docs"] secondEmpty).FailsToDocument := by
    rw [ran]
    exact ⟨_, rfl, Failure.saysUndocumented message⟩
  have files : (run ["-o", "/tmp/docs"] secondEmpty).files = final := by rw [ran]; rfl
  obtain ⟨silent, _, _, modes⟩ := failed_run_leaves_clean_output ["-o", "/tmp/docs"] secondEmpty
  obtain ⟨_, _, _, ofClass⟩ := failed_run_leaves_clean_output ["-o", "/tmp/docs", "--class=b"] secondEmpty
  obtain ⟨_, _, _, refused⟩ := failed_run_leaves_clean_output ["-o", "/tmp/docs", "-f", "xml"] secondEmpty
  obtain ⟨_, _, helped, _⟩ := failed_run_leaves_clean_output ["-o", "/tmp/docs", "-vh", "--nothing"] secondEmpty
  obtain ⟨_, noUsage, _⟩ := failed_run_leaves_clean_output ["-o", "/tmp/docs", "--nothing", "-h"] secondEmpty
  obtain ⟨_, library, place, turns, name, error, known, loaded, _, _, stopped, _⟩ :=
    (modes _ site).2.2.2 "/tmp/docs" rfl rfl rfl reported
  cases known
  cases Except.ok.inj (load_secondEmpty.symm.trans loaded)
  obtain ⟨rfl, names⟩ := turns_of_stoppedRun_secondEmpty stopped (files ▸ changed)
  obtain ⟨exits, unchanged⟩ := (refused _ unformatted).2.1 (Or.inl ⟨_, rfl⟩)
  exact ⟨failed, silent (by rw [failed]; decide), ⟨place, turns, names, stopped⟩, files ▸ written,
    undocumented_secondEmpty, (ofClass _ page).2.2.1 rfl undocumented_secondEmpty, exits, unchanged,
    helped help, (noUsage unknown).1⟩

end ClassDocs
