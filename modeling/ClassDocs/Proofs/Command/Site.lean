import ClassDocs.Command.Run
import ClassDocs.Proofs.Command.Arguments
import ClassDocs.Proofs.Files.Paths
import ClassDocs.Proofs.Library.Sources
import ClassDocs.Proofs.Library.Tree
import ClassDocs.Proofs.Page.Kinds

namespace ClassDocs

/-- The file of a page. -/
def PageFormat.fileName (format : PageFormat) (name : String) : String :=
  name ++ "." ++ format.extension

theorem PageFormat.fileName_inj {format : PageFormat} {first second : String}
    (same : format.fileName first = format.fileName second) : first = second := by
  have letters := congrArg String.toList same
  simp only [PageFormat.fileName, String.toList_append, List.append_cancel_right_eq] at letters
  exact String.toList_inj.mp letters

theorem PageFormat.isEntryName_fileName (format : PageFormat) {name : String}
    (clean : '/' ∉ name.toList) : IsEntryName (format.fileName name) := by
  have long : 3 ≤ (format.fileName name).length := by
    have dot : ".".length = 1 := rfl
    have extension : 2 ≤ format.extension.length := by cases format <;> decide
    rw [PageFormat.fileName, String.length_append, String.length_append]
    omega
  have noSlash : '/' ∉ (format.fileName name).toList := by
    cases format <;> simp [PageFormat.fileName, PageFormat.extension, clean]
  have differs (short : String) (bound : short.length < 3) : format.fileName name ≠ short := by
    rintro rfl
    omega
  exact ⟨differs "" (by decide), differs "." (by decide), differs ".." (by decide), noSlash⟩

/-- Writing a page puts it directly into the directory and changes nothing else that exists. -/
theorem writePage_eq {files written : FileSystem} {directory name page : String} {format : PageFormat}
    (clean : '/' ∉ name.toList)
    (done : writePage files directory name format page = (written, none)) :
    ∃ place, written.Leads directory place ∧
      written.locate (Path.join directory (format.fileName name)) = .ok (place ++ [format.fileName name]) ∧
      written.node? (place ++ [format.fileName name]) = some (.text page) ∧
      files.ChangedAt written [place ++ [format.fileName name]] := by
  unfold writePage at done
  split at done
  · cases done
  · rename_i made making
    obtain ⟨grown, place, leads⟩ := FileSystem.makeDirectories_eq making
    dsimp only at done
    split at done
    · rename_i result writing
      cases done
      obtain ⟨target, located, changed, holds⟩ := FileSystem.write_eq_ok writing
      have inside := leads.locate_join (format.isEntryName_fileName clean)
      have same : target = place ++ [format.fileName name] := Except.ok.inj (located.symm.trans inside)
      subst same
      exact ⟨place, leads.mono changed.kept, FileSystem.locate_mono changed.kept located, holds,
        grown.trans changed⟩
    · cases done

/-- The path of a page in the output directory. -/
def Library.pagePath (library : Library) (directory name : String) : String :=
  Path.join directory (library.format.fileName name)

/-- The place of a page, given that of the output directory. -/
def Library.pagePlace (library : Library) (place : List String) (name : String) : List String :=
  place ++ [library.format.fileName name]

theorem Library.pagePlace_inj {library : Library} {place : List String} {first second : String}
    (same : library.pagePlace place first = library.pagePlace place second) : first = second :=
  PageFormat.fileName_inj (List.cons.inj (List.append_cancel_left same)).1

/-- A class that a run documents: the files at that moment, and what is documented of it. -/
structure Turn where
  name : String
  files : FileSystem
  entity : Entity

/-- Classes are documented one after the other, and the page of each is written before the next. -/
inductive Turns (library : Library) (directory : String) :
    FileSystem → List Turn → FileSystem → Prop
  | done {files} : Turns library directory files [] files
  | next {files written final name entity turns} :
      library.document files name = .ok entity →
      writePage files directory name library.format (library.format.entityPage entity) = (written, none) →
      Turns library directory written turns final →
      Turns library directory files (⟨name, files, entity⟩ :: turns) final

variable {library : Library} {directory : String} {files final later : FileSystem} {place : List String}
  {turns : List Turn}

theorem turns_of_writePages {names : List String} {entities : List Entity}
    (done : writePages library directory files names = (final, .ok entities)) :
    ∃ turns, Turns library directory files turns final ∧ turns.map (·.name) = names ∧
      turns.map (·.entity) = entities := by
  induction names generalizing files entities with
  | nil =>
    cases done
    exact ⟨[], .done, rfl, rfl⟩
  | cons name rest ih =>
    rw [writePages] at done
    split at done
    · cases done
    · rename_i entity documented
      split at done
      · cases done
      · rename_i written writing
        split at done
        · rename_i last more others
          cases done
          obtain ⟨turns, run, names, documents⟩ := ih others
          exact ⟨_, .next documented writing run, by simp [names], by simp [documents]⟩
        · rename_i failed
          exact absurd done (failed _ _)

namespace Turns

theorem split {first rest : List Turn} (run : Turns library directory files (first ++ rest) final) :
    ∃ middle, Turns library directory files first middle ∧ Turns library directory middle rest final := by
  induction first generalizing files with
  | nil => exact ⟨files, .done, run⟩
  | cons turn first ih =>
    cases run with
    | next documented writing run =>
      obtain ⟨middle, before, after⟩ := ih run
      exact ⟨middle, .next documented writing before, after⟩

theorem documented (run : Turns library directory files turns final) :
    ∀ turn ∈ turns, library.document turn.files turn.name = .ok turn.entity := by
  induction run with
  | done => simp
  | next documented _ _ ih =>
    intro turn member
    rcases List.mem_cons.mp member with rfl | member
    · exact documented
    · exact ih turn member

/-- The pages that were written are all that changed. The place of the directory is known only from
the end of the run, since the first page makes it. -/
theorem changedAt (run : Turns library directory files turns final)
    (clean : ∀ turn ∈ turns, '/' ∉ turn.name.toList) (kept : final.KeepsDirectories later)
    (leads : later.Leads directory place) :
    files.ChangedAt final (turns.map fun turn => library.pagePlace place turn.name) := by
  induction run with
  | done => exact .refl _ _
  | @next files written final name entity turns _ writing _ ih =>
    have rest := ih (fun turn member => clean turn (List.mem_cons_of_mem _ member)) kept
    obtain ⟨here, leadsHere, _, _, changed⟩ := writePage_eq (clean _ (List.mem_cons_self ..)) writing
    have same : here = place := ((leadsHere.mono rest.kept).mono kept).unique leads
    subst here
    exact changed.trans rest

/-- When a class is documented, the pages of the classes before it are all that changed. -/
theorem changedAt_turn {first rest : List Turn} {turn : Turn}
    (run : Turns library directory files (first ++ turn :: rest) final)
    (clean : ∀ other ∈ first ++ turn :: rest, '/' ∉ other.name.toList) (kept : final.KeepsDirectories later)
    (leads : later.Leads directory place) :
    files.ChangedAt turn.files (first.map fun turn => library.pagePlace place turn.name) := by
  obtain ⟨middle, before, after⟩ := run.split
  have rest := after.changedAt (fun other member => clean other (List.mem_append_right _ member)) kept leads
  have changed := before.changedAt (fun other member => clean other (List.mem_append_left _ member))
    (rest.kept.trans kept) leads
  cases after
  exact changed

/-- A page stays to the end if no later page has its name. -/
theorem holds {first rest : List Turn} {turn : Turn}
    (run : Turns library directory files (first ++ turn :: rest) final)
    (clean : ∀ other ∈ first ++ turn :: rest, '/' ∉ other.name.toList) (kept : final.KeepsDirectories later)
    (leads : later.Leads directory place) (last : turn.name ∉ rest.map (·.name)) :
    final.locate (library.pagePath directory turn.name) =
        .ok (library.pagePlace place turn.name) ∧
      final.node? (library.pagePlace place turn.name) =
        some (.text (library.format.entityPage turn.entity)) := by
  obtain ⟨middle, before, after⟩ := run.split
  cases after with
  | next documented writing after =>
    have changed := after.changedAt
      (fun other member => clean other (List.mem_append_right _ (List.mem_cons_of_mem _ member))) kept leads
    obtain ⟨here, leadsHere, located, written, _⟩ :=
      writePage_eq (clean _ (List.mem_append_right _ (List.mem_cons_self ..))) writing
    have same : here = place := ((leadsHere.mono changed.kept).mono kept).unique leads
    subst here
    refine ⟨FileSystem.locate_mono changed.kept located, changed.node?_eq ?_ written⟩
    intro again
    obtain ⟨other, inRest, sameFile⟩ := List.mem_map.mp again
    exact last (List.mem_map.mpr ⟨other, inRest, Library.pagePlace_inj sameFile⟩)

/-- Pages of different names all stay to the end. -/
theorem pages (run : Turns library directory files turns final)
    (clean : ∀ turn ∈ turns, '/' ∉ turn.name.toList) (kept : final.KeepsDirectories later)
    (leads : later.Leads directory place) (distinct : (turns.map (·.name)).Nodup) :
    ∀ turn ∈ turns,
      final.locate (library.pagePath directory turn.name) = .ok (library.pagePlace place turn.name) ∧
      final.node? (library.pagePlace place turn.name) =
        some (.text (library.format.entityPage turn.entity)) := by
  intro turn member
  obtain ⟨first, rest, rfl⟩ := List.append_of_mem member
  rw [List.map_append, List.map_cons, List.nodup_append, List.nodup_cons] at distinct
  exact run.holds clean kept leads distinct.2.1.1

end Turns

/-- What a run that wrote a site has done. The classes to display were documented in turn, on files
that differed from those at the start only by the pages before. At the end every page but that of a
class named `menu` and the menu of all of them lie directly in the directory, at one place for each
name, and nothing else was written. -/
structure SiteRun (library : Library) (directory : String) (files final : FileSystem)
    (place : List String) (turns : List Turn) : Prop where
  names : turns.map (·.name) = catalogue library.config.family library.classes
  documented : ∀ turn ∈ turns, library.document turn.files turn.name = .ok turn.entity
  before : ∀ first turn rest, turns = first ++ turn :: rest →
    files.ChangedAt turn.files (first.map fun other => library.pagePlace place other.name)
  found : final.find directory = .ok (place, .directory)
  located : ∀ name ∈ turns.map (·.name) ++ ["menu"],
    final.locate (library.pagePath directory name) = .ok (library.pagePlace place name)
  pages : ∀ turn ∈ turns, turn.name ≠ "menu" →
    final.read (library.pagePath directory turn.name) = .ok (library.format.entityPage turn.entity)
  menu : final.read (library.pagePath directory "menu") =
    .ok (library.format.menuPage (Menu.build library.config.context.resolve (turns.map (·.entity))))
  nothingElse : files.ChangedAt final
    ((turns.map (·.name) ++ ["menu"]).map (library.pagePlace place))

theorem siteRun_of_writeSite (named : directory ≠ "")
    (clean : ∀ name ∈ catalogue library.config.family library.classes, '/' ∉ name.toList)
    (done : writeSite library directory files = (final, none)) :
    ∃ place turns, SiteRun library directory files final place turns := by
  unfold writeSite at done
  split at done
  · cases done
  · rename_i written entities writing
    obtain ⟨turns, run, names, documents⟩ := turns_of_writePages writing
    obtain ⟨place, leads, located, holds, changed⟩ := writePage_eq (by decide) done
    have cleanTurns : ∀ turn ∈ turns, '/' ∉ turn.name.toList := fun turn member =>
      clean turn.name (names ▸ List.mem_map_of_mem member)
    have distinct : (turns.map (·.name)).Nodup := names ▸ nodup_catalogue _ _
    have pages := run.pages cleanTurns changed.kept leads distinct
    refine ⟨place, turns, names, run.documented, ?_, ?_, ?_, ?_, ?_, ?_⟩
    · rintro first turn rest rfl
      exact run.changedAt_turn cleanTurns changed.kept leads
    · exact FileSystem.find_eq_ok_iff.mpr ⟨leads.locate named, leads.2⟩
    · intro name member
      rcases List.mem_append.mp member with displayed | menu
      · obtain ⟨turn, inTurns, rfl⟩ := List.mem_map.mp displayed
        exact FileSystem.locate_mono changed.kept (pages turn inTurns).1
      · rw [List.mem_singleton.mp menu]
        exact located
    · intro turn member other
      obtain ⟨atPage, page⟩ := pages turn member
      refine FileSystem.read_of_node? (FileSystem.locate_mono changed.kept atPage) (changed.node?_eq ?_ page)
      intro menu
      exact other (Library.pagePlace_inj (List.mem_singleton.mp menu))
    · rw [documents]
      exact FileSystem.read_of_node? located holds
    · rw [List.map_append, List.map_map]
      exact (run.changedAt cleanTurns changed.kept leads).trans changed

theorem Library.load_eq_ok {config : Config} {format : PageFormat}
    (loaded : Library.load files config format = .ok library) :
    ∃ tree, SourceTree.scan files config.layout config.root = .ok tree ∧
      library = ⟨config, SourceTree.locate config.layout tree, SourceTree.collect config.layout tree, format⟩ := by
  unfold Library.load at loaded
  split at loaded
  · split at loaded
    · rename_i tree scanned
      cases loaded
      exact ⟨tree, scanned, rfl⟩
    · cases loaded
  · cases loaded

theorem Library.document_congr (same : ∀ path ∈ library.index.values, later.read path = files.read path)
    (name : String) : library.document later name = library.document files name := by
  rw [Library.document, Library.document, Entity.document_congr same]

/-- If no page lies where a class was found, every page shows its class as it was at the start. -/
theorem SiteRun.document_eq {config : Config} {format : PageFormat}
    (site : SiteRun library directory files final place turns)
    (loaded : Library.load files config format = .ok library)
    (apart : ∀ name ∈ catalogue library.config.family library.classes, ∀ path ∈ library.index.values,
      files.locate path ≠ .ok (library.pagePlace place name)) :
    ∀ turn ∈ turns, library.document files turn.name = .ok turn.entity := by
  intro turn member
  obtain ⟨first, rest, split⟩ := List.append_of_mem member
  obtain ⟨tree, scanned, parts⟩ := Library.load_eq_ok loaded
  rw [← site.documented turn member]
  refine (Library.document_congr (fun path indexed => ?_) turn.name).symm
  refine FileSystem.read_eq_of_changedAt (site.before first turn rest split) ?_ ?_
  · rw [parts] at indexed
    exact SourceTree.isFile_of_mem_locate scanned path indexed
  · intro page written
    obtain ⟨other, before, rfl⟩ := List.mem_map.mp written
    refine apart other.name ?_ path indexed
    rw [← site.names, split]
    exact List.mem_map_of_mem (List.mem_append_left _ before)

/-- The menu takes the page of a class named `menu`, and that is the only page that is lost. -/
theorem SiteRun.keeps_pages_iff (site : SiteRun library directory files final place turns) :
    (∀ turn ∈ turns, final.read (library.pagePath directory turn.name) =
        .ok (library.format.entityPage turn.entity)) ↔
      "menu" ∉ catalogue library.config.family library.classes := by
  constructor
  · intro kept displayed
    rw [← site.names] at displayed
    obtain ⟨turn, member, named⟩ := List.mem_map.mp displayed
    have page := kept turn member
    rw [named, site.menu] at page
    exact library.format.entityPage_ne_menuPage turn.entity _ (Except.ok.inj page).symm
  · intro absent turn member
    refine site.pages turn member fun named => absent ?_
    rw [← site.names, ← named]
    exact List.mem_map_of_mem member

theorem nodup_pagePlaces_iff (library : Library) (place : List String) :
    ((catalogue library.config.family library.classes ++ ["menu"]).map (library.pagePlace place)).Nodup ↔
      "menu" ∉ catalogue library.config.family library.classes := by
  have apart (first second : String) :
      library.pagePlace place first ≠ library.pagePlace place second ↔ first ≠ second :=
    not_congr ⟨Library.pagePlace_inj, congrArg _⟩
  rw [List.Nodup, List.pairwise_map, List.Pairwise.iff apart, ← List.Nodup, List.nodup_append]
  simpa [nodup_catalogue] using List.forall_mem_ne'

/-- A run that writes a site and does not fail has found its classes and written all pages. -/
theorem writeSite_of_runArguments {arguments : Arguments} (output : arguments.output = some directory)
    (noClass : arguments.className = none) (noMethods : arguments.methods = false)
    (exits : (runArguments arguments files).exitCode = 0) :
    ∃ format library, PageFormat.ofName arguments.format = .ok format ∧
      Library.load files arguments.config format = .ok library ∧
      writeSite library directory files = ((runArguments arguments files).files, none) := by
  cases known : PageFormat.ofName arguments.format with
  | error error => simp [runArguments, known, Outcome.ofPrint] at exits
  | ok format =>
    cases loaded : Library.load files arguments.config format with
    | error failure => simp [runArguments, known, loaded, Outcome.ofPrint] at exits
    | ok library =>
      have ran : runArguments arguments files = .ofWrite (writeSite library directory files) := by
        simp [runArguments, known, loaded, runLibrary, noMethods, noClass, output]
      refine ⟨format, library, rfl, loaded, ?_⟩
      rw [ran] at exits ⊢
      generalize writeSite library directory files = result at exits ⊢
      obtain ⟨written, failure⟩ := result
      cases failure with
      | none => rfl
      | some failure => cases exits

theorem siteRun_of_run {line : List String} {arguments : Arguments}
    (understood : Arguments.parse? line = some (.document arguments)) (output : arguments.output = some directory)
    (noClass : arguments.className = none) (noMethods : arguments.methods = false)
    (exits : (run line files).exitCode = 0) :
    ∃ format library place turns, PageFormat.ofName arguments.format = .ok format ∧
      Library.load files arguments.config format = .ok library ∧
      (∀ name ∈ catalogue library.config.family library.classes, ∀ c ∈ name.toList, isSeparator c = false) ∧
      SiteRun library directory files (run line files).files place turns := by
  have ran : run line files = runArguments arguments files := by rw [run, understood]
  rw [ran] at exits ⊢
  obtain ⟨format, library, known, loaded, wrote⟩ := writeSite_of_runArguments output noClass noMethods exits
  obtain ⟨tree, _, parts⟩ := Library.load_eq_ok loaded
  have clean : ∀ name ∈ catalogue library.config.family library.classes,
      ∀ c ∈ name.toList, isSeparator c = false := by
    rw [parts]
    exact fun name displayed => catalogue_no_separator displayed
  have named : directory ≠ "" := by
    rintro rfl
    exact Arguments.output_ne_empty understood output
  have oneStep : ∀ name ∈ catalogue library.config.family library.classes, '/' ∉ name.toList :=
    fun name displayed slash => Bool.noConfusion (clean name displayed '/' slash)
  obtain ⟨place, turns, site⟩ := siteRun_of_writeSite named oneStep wrote
  exact ⟨format, library, place, turns, known, loaded, clean, site⟩

/-- A site that was written without a failure has all its pages unless a class is named `menu`. The
names to display are no paths; each of their pages and the menu lie directly in the directory, at
places that are different unless a class is named `menu`; and nothing else was written. If no page lies
where a class was found, the pages show the classes as they were at the start. -/
theorem site_keeps_every_page_iff {line : List String} {arguments : Arguments} {directory : String}
    {files : FileSystem} (understood : Arguments.parse? line = some (.document arguments))
    (output : arguments.output = some directory) (noClass : arguments.className = none)
    (noMethods : arguments.methods = false) (exits : (run line files).exitCode = 0) :
    ∃ format library place turns, PageFormat.ofName arguments.format = .ok format ∧
      Library.load files arguments.config format = .ok library ∧
      SiteRun library directory files (run line files).files place turns ∧
      (∀ name ∈ catalogue library.config.family library.classes, ∀ c ∈ name.toList, isSeparator c = false) ∧
      ((∀ turn ∈ turns, (run line files).files.read (library.pagePath directory turn.name) =
          .ok (library.format.entityPage turn.entity)) ↔
        "menu" ∉ catalogue library.config.family library.classes) ∧
      (((catalogue library.config.family library.classes ++ ["menu"]).map (library.pagePlace place)).Nodup ↔
        "menu" ∉ catalogue library.config.family library.classes) ∧
      ((∀ name ∈ catalogue library.config.family library.classes, ∀ path ∈ library.index.values,
          files.locate path ≠ .ok (library.pagePlace place name)) →
        ∀ turn ∈ turns, library.document files turn.name = .ok turn.entity) := by
  obtain ⟨format, library, place, turns, known, loaded, clean, site⟩ :=
    siteRun_of_run understood output noClass noMethods exits
  exact ⟨format, library, place, turns, known, loaded, site, clean, site.keeps_pages_iff,
    nodup_pagePlaces_iff library place, site.document_eq loaded⟩

/-- One class with one method. The working directory is not the root. -/
def oneClass : FileSystem := ⟨[(["home"], .directory), (["home", "classes"], .directory),
  (["home", "classes", "a.php"], .text "<?php\nclass A \x7b\n\tfunction f() \x7b\x7d\n\x7d\n"),
  (["tmp"], .directory)], ["home"]⟩

/-- All paths are absolute, and the directory of the pages is not below the working directory. -/
theorem site_keeps_every_page_of_oneClass :
    (run ["/home/classes", "-o", "/tmp/docs/api"] oneClass).exitCode = 0 ∧
    ∃ library turns, Library.load oneClass { root := "/home/classes" } .markdown = .ok library ∧
      SiteRun library "/tmp/docs/api" oneClass (run ["/home/classes", "-o", "/tmp/docs/api"] oneClass).files
        ["tmp", "docs", "api"] turns ∧
      catalogue library.config.family library.classes = ["a"] ∧
      ∀ turn ∈ turns, (run ["/home/classes", "-o", "/tmp/docs/api"] oneClass).files.read
        (library.pagePath "/tmp/docs/api" turn.name) = .ok (library.format.entityPage turn.entity) := by
  have understood : Arguments.parse? ["/home/classes", "-o", "/tmp/docs/api"] =
      some (.document ⟨{ root := "/home/classes" }, some "/tmp/docs/api", "markdown", none, false⟩) := by
    decide
  obtain ⟨exits, made⟩ : (run ["/home/classes", "-o", "/tmp/docs/api"] oneClass).exitCode = 0 ∧
      ((run ["/home/classes", "-o", "/tmp/docs/api"] oneClass).files.find "/tmp/docs/api").toOption =
        some (["tmp", "docs", "api"], .directory) := by decide +kernel
  obtain ⟨format, library, place, turns, known, loaded, site, _, kept, _⟩ :=
    site_keeps_every_page_iff understood rfl rfl rfl exits
  cases known
  have names : (Library.load oneClass { root := "/home/classes" } .markdown).toOption.map
      (fun library => catalogue library.config.family library.classes) = some ["a"] := by decide +kernel
  rw [loaded] at names
  have displayed : catalogue library.config.family library.classes = ["a"] := Option.some.inj names
  rw [site.found] at made
  cases (Prod.mk.inj (Option.some.inj made)).1
  refine ⟨exits, library, turns, loaded, site, displayed, kept.mpr ?_⟩
  rw [displayed]
  decide

/-- A class named `menu`. -/
def classNamedMenu : FileSystem := ⟨[(["classes"], .directory),
  (["classes", "menu.php"], .text "<?php\nclass Menu \x7b\x7d\n")], []⟩

/-- The class is displayed and documented, but in the place of its page there is the menu. -/
theorem site_loses_page_of_classNamedMenu :
    (run ["-o", "out"] classNamedMenu).exitCode = 0 ∧
    ∃ library entity, Library.load classNamedMenu {} .markdown = .ok library ∧
      "menu" ∈ catalogue library.config.family library.classes ∧
      library.document classNamedMenu "menu" = .ok entity ∧
      library.format.entityPage entity = "# Menu\n\n" ∧
      library.pagePath "out" "menu" = "out/menu.md" ∧
      (run ["-o", "out"] classNamedMenu).files.read "out/menu.md" =
        .ok "## Unknown\n\n### Base\n\n* [Menu](/guide/api/Menu)\n\n" := by
  obtain ⟨displayed, documented⟩ : (Library.load classNamedMenu {} .markdown).toOption.map
        (fun library => catalogue library.config.family library.classes) = some ["menu"] ∧
      (Library.load classNamedMenu {} .markdown).toOption.map
        (fun library => (library.document classNamedMenu "menu").toOption) =
          some (some ⟨"Menu", "", TagMap.empty, []⟩) := by decide +kernel
  obtain ⟨exits, written⟩ : (run ["-o", "out"] classNamedMenu).exitCode = 0 ∧
      ((run ["-o", "out"] classNamedMenu).files.read "out/menu.md").toOption =
        some "## Unknown\n\n### Base\n\n* [Menu](/guide/api/Menu)\n\n" := by decide +kernel
  cases loaded : Library.load classNamedMenu {} .markdown with
  | error failure =>
    rw [loaded] at displayed
    cases displayed
  | ok library =>
    rw [loaded] at displayed documented
    have named : catalogue library.config.family library.classes = ["menu"] := Option.some.inj displayed
    have markdown : library.format = .markdown := by
      obtain ⟨tree, _, rfl⟩ := Library.load_eq_ok loaded
      rfl
    refine ⟨exits, library, _, rfl, ?_, eq_ok_of_toOption (Option.some.inj documented), ?_, ?_,
      eq_ok_of_toOption written⟩
    · rw [named]
      decide
    · rw [markdown]
      decide
    · rw [Library.pagePath, markdown]
      decide

end ClassDocs
