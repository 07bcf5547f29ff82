import ClassDocs.Proofs.Command.Site
import ClassDocs.Proofs.Files.NewDirectories

namespace ClassDocs

variable {library : Library} {directory name : String} {files written final : FileSystem} {place : List String}
  {turns : List Turn} {failure : Failure}

/-- A page of a class adds no directories but those on the way to its own. -/
theorem writePage_makesOnly {format : PageFormat} {page : String}
    (done : writePage files directory name format page = (written, none)) : files.MakesOnly written directory := by
  have made := files.makeDirectories_makesOnly directory
  unfold writePage at done
  split at done
  · cases done
  · rename_i result making
    rw [making] at made
    dsimp only at done
    split at done
    · rename_i last writing
      cases done
      obtain ⟨_, _, changed, _⟩ := FileSystem.write_eq_ok writing
      exact FileSystem.MakesOnlyFrom.trans made (FileSystem.write_makesOnlyFrom writing _ _) changed.kept
    · cases done

namespace Turns

theorem keepsDirectories (run : Turns library directory files turns final)
    (clean : ∀ turn ∈ turns, '/' ∉ turn.name.toList) : files.KeepsDirectories final := by
  induction run with
  | done => exact .refl _
  | next _ writing _ ih =>
    obtain ⟨_, _, _, _, changed⟩ := writePage_eq (clean _ (List.mem_cons_self ..)) writing
    exact changed.kept.trans (ih fun turn member => clean turn (List.mem_cons_of_mem _ member))

theorem makesOnly (run : Turns library directory files turns final)
    (clean : ∀ turn ∈ turns, '/' ∉ turn.name.toList) : files.MakesOnly final directory := by
  induction run with
  | done => exact .refl _ _
  | next _ writing run ih =>
    have cleanRest := fun turn member => clean turn (List.mem_cons_of_mem _ member)
    obtain ⟨_, _, _, _, changed⟩ := writePage_eq (clean _ (List.mem_cons_self ..)) writing
    exact (writePage_makesOnly writing).trans (ih cleanRest) changed.kept (run.keepsDirectories cleanRest)

/-- The first page makes the directory, and it stays. -/
theorem leads (run : Turns library directory files turns final) (any : turns ≠ [])
    (clean : ∀ turn ∈ turns, '/' ∉ turn.name.toList) : ∃ place, final.Leads directory place := by
  cases run with
  | done => exact absurd rfl any
  | next _ writing run =>
    obtain ⟨place, leads, _⟩ := writePage_eq (clean _ (List.mem_cons_self ..)) writing
    exact ⟨place, leads.mono (run.keepsDirectories fun turn member => clean turn (List.mem_cons_of_mem _ member))⟩

end Turns

/-- Pages are written up to the class that cannot be documented, or to the page that cannot be written. -/
theorem turns_of_writePages_error {names : List String}
    (failed : writePages library directory files names = (final, .error failure)) :
    ∃ turns name rest, names = turns.map (·.name) ++ name :: rest ∧
      ((Turns library directory files turns final ∧ library.document final name = .error failure) ∨
        ∃ before page, writePage before directory name library.format page = (final, some failure)) := by
  induction names generalizing files with
  | nil => cases failed
  | cons name rest ih =>
    rw [writePages] at failed
    split at failed
    · rename_i undocumented
      cases failed
      exact ⟨[], name, rest, rfl, Or.inl ⟨.done, undocumented⟩⟩
    · rename_i entity documented
      split at failed
      · rename_i refused
        cases failed
        exact ⟨[], name, rest, rfl, Or.inr ⟨_, _, refused⟩⟩
      · rename_i written writing
        split at failed
        · cases failed
        · obtain ⟨turns, last, others, names, stopped⟩ := ih failed
          refine ⟨⟨name, files, entity⟩ :: turns, last, others, by rw [names]; rfl, stopped.imp ?_ id⟩
          rintro ⟨run, undocumented⟩
          exact ⟨.next documented writing run, undocumented⟩

/-- What a run has left that stopped at a class which it could not document. The classes before it were
documented in turn, on files that differed from those at the start only by the pages before. Their pages
are complete and lie directly in the directory; besides them only directories on the way to that one
are new, and if no class came before then nothing is. -/
structure StoppedRun (library : Library) (directory : String) (files final : FileSystem) (place : List String)
    (turns : List Turn) (name : String) : Prop where
  names : turns.map (·.name) ++ [name] <+: catalogue library.config.family library.classes
  documented : ∀ turn ∈ turns, library.document turn.files turn.name = .ok turn.entity
  before : ∀ first turn rest, turns = first ++ turn :: rest →
    files.ChangedAt turn.files (first.map fun other => library.pagePlace place other.name)
  untouched : turns = [] → final = files
  found : turns ≠ [] → final.find directory = .ok (place, .directory)
  pages : ∀ turn ∈ turns,
    final.locate (library.pagePath directory turn.name) = .ok (library.pagePlace place turn.name) ∧
    final.node? (library.pagePlace place turn.name) = some (.text (library.format.entityPage turn.entity))
  nothingElse : ∀ other, other ∉ turns.map (fun turn => library.pagePlace place turn.name) →
    final.node? other = files.node? other ∨
      files.node? other = none ∧ final.node? other = some .directory ∧
        final.OnTheWay directory other

theorem StoppedRun.mem_catalogue (stopped : StoppedRun library directory files final place turns name) :
    name ∈ catalogue library.config.family library.classes :=
  stopped.names.subset (List.mem_append_right _ (List.mem_singleton_self name))

/-- The classes before the one that stopped the run are all those before it in the catalogue. -/
theorem StoppedRun.names_eq (stopped : StoppedRun library directory files final place turns name) :
    turns.map (·.name) = (catalogue library.config.family library.classes).takeWhile (· ≠ name) := by
  obtain ⟨rest, whole⟩ := stopped.names
  have distinct := nodup_catalogue library.config.family library.classes
  rw [← whole, List.append_assoc] at distinct
  have others : ∀ other ∈ turns.map (·.name), other ≠ name := fun other member same =>
    (List.nodup_append.mp distinct).2.2 other member name (by simp) same
  rw [← whole, List.append_assoc, List.takeWhile_append_of_pos (by simpa using others)]
  simp

/-- A menu in the directory was there before: the page of a class of that name is none. -/
theorem StoppedRun.menu_of_node? (stopped : StoppedRun library directory files final place turns name) {menu : Menu}
    (here : final.node? (library.pagePlace place "menu") = some (.text (library.format.menuPage menu))) :
    files.node? (library.pagePlace place "menu") = some (.text (library.format.menuPage menu)) := by
  have apart : library.pagePlace place "menu" ∉ turns.map fun turn => library.pagePlace place turn.name := by
    intro written
    obtain ⟨turn, member, same⟩ := List.mem_map.mp written
    have page := (stopped.pages turn member).2
    rw [same, here] at page
    exact library.format.entityPage_ne_menuPage turn.entity menu (FileNode.text.inj (Option.some.inj page)).symm
  rcases stopped.nothingElse _ apart with same | ⟨_, made, _⟩
  · exact same.symm.trans here
  · rw [made] at here
    cases here

theorem stoppedRun_of_none (start : [name] <+: catalogue library.config.family library.classes) :
    StoppedRun library directory files files place [] name where
  names := start
  documented := by simp
  before := by simp
  untouched := fun _ => rfl
  found := absurd rfl
  pages := by simp
  nothingElse := fun _ _ => Or.inl rfl

theorem stoppedRun_of_turns {rest : List String} (named : directory ≠ "")
    (clean : ∀ name ∈ catalogue library.config.family library.classes, '/' ∉ name.toList)
    (run : Turns library directory files turns final)
    (names : catalogue library.config.family library.classes = turns.map (·.name) ++ name :: rest) :
    ∃ place, StoppedRun library directory files final place turns name := by
  have start : turns.map (·.name) ++ [name] <+: catalogue library.config.family library.classes :=
    ⟨rest, by simp [names]⟩
  have distinct : (turns.map (·.name) ++ name :: rest).Nodup := names ▸ nodup_catalogue _ _
  have cleanTurns : ∀ turn ∈ turns, '/' ∉ turn.name.toList := by
    intro turn member
    refine clean turn.name ?_
    rw [names]
    exact List.mem_append_left _ (List.mem_map_of_mem member)
  have kept := FileSystem.KeepsDirectories.refl final
  by_cases first : turns = []
  · -- no page has made the directory, so it may have no place
    subst first
    cases run
    exact ⟨[], stoppedRun_of_none start⟩
  · obtain ⟨place, leads⟩ := run.leads first cleanTurns
    exact ⟨place, {
      names := start
      documented := run.documented
      before := by
        rintro before turn after rfl
        exact run.changedAt_turn cleanTurns kept leads
      untouched := fun none => absurd none first
      found := fun _ => FileSystem.find_eq_ok_iff.mpr ⟨leads.locate named, leads.2⟩
      pages := run.pages cleanTurns kept leads (List.nodup_append.mp distinct).1
      nothingElse := (run.makesOnly cleanTurns).elsewhere (run.changedAt cleanTurns kept leads) }⟩

end ClassDocs
