import ClassDocs.Files.System
import ClassDocs.Proofs.Except

namespace ClassDocs

/-- The pieces of a path that count when its directory is made. -/
def Path.steps (path : String) : List String :=
  (Path.pieces path).filter (!·.isEmpty)

namespace FileSystem

theorem find?_setEntry (place other : List String) (node : FileNode)
    (entries : List (List String × FileNode)) :
    ((setEntry place node entries).find? fun entry => entry.1 == other).map (·.2) =
      if other = place then some node else (entries.find? fun entry => entry.1 == other).map (·.2) := by
  induction entries with
  | nil =>
    by_cases same : other = place
    · simp [setEntry, same]
    · simp [setEntry, same, Ne.symm same]
  | cons entry rest ih =>
    by_cases here : entry.1 = place
    · by_cases same : other = place
      · simp [setEntry, here, same]
      · simp [setEntry, here, same, Ne.symm same]
    · by_cases found : entry.1 = other
      · have apart : other ≠ place := found ▸ here
        simp [setEntry, found, apart]
      · simpa [setEntry, here, found] using ih

theorem node?_set {files : FileSystem} {place : List String} (node : FileNode) (below : place ≠ [])
    (other : List String) :
    (files.set place node).node? other = if other = place then some node else files.node? other := by
  by_cases top : other = []
  · simp [node?, top, Ne.symm below]
  · simp only [node?, set, List.isEmpty_iff, top, if_false]
    exact find?_setEntry place other node files.entries

/-- No directory is lost, and the working directory is the same. -/
structure KeepsDirectories (before after : FileSystem) : Prop where
  base_eq : after.base = before.base
  directory : ∀ place, before.node? place = some .directory → after.node? place = some .directory

namespace KeepsDirectories

variable {before middle after : FileSystem}

theorem refl (files : FileSystem) : files.KeepsDirectories files :=
  ⟨rfl, fun _ directory => directory⟩

theorem trans (first : before.KeepsDirectories middle) (second : middle.KeepsDirectories after) :
    before.KeepsDirectories after :=
  ⟨second.base_eq.trans first.base_eq, fun place here => second.directory place (first.directory place here)⟩

theorem start_eq (kept : before.KeepsDirectories after) (path : String) : after.start path = before.start path := by
  rw [start, start, kept.base_eq]

end KeepsDirectories

/-- The files differ at most at the given places, apart from directories that were made where nothing
was, and no directory is lost. -/
structure ChangedAt (before after : FileSystem) (places : List (List String)) : Prop where
  kept : before.KeepsDirectories after
  elsewhere : ∀ place, place ∉ places → after.node? place = before.node? place ∨
    before.node? place = none ∧ after.node? place = some .directory

namespace ChangedAt

variable {before middle after : FileSystem} {places others : List (List String)}

theorem refl (files : FileSystem) (places : List (List String)) : files.ChangedAt files places :=
  ⟨.refl files, fun _ _ => Or.inl rfl⟩

theorem mono (changed : before.ChangedAt after places) (more : places ⊆ others) :
    before.ChangedAt after others :=
  ⟨changed.kept, fun place outside => changed.elsewhere place fun member => outside (more member)⟩

theorem trans (first : before.ChangedAt middle places) (second : middle.ChangedAt after others) :
    before.ChangedAt after (places ++ others) := by
  refine ⟨first.kept.trans second.kept, fun place outside => ?_⟩
  rw [List.mem_append, not_or] at outside
  rcases first.elsewhere place outside.1 with same | ⟨absent, made⟩
  · rw [← same]
    exact second.elsewhere place outside.2
  · exact Or.inr ⟨absent, second.kept.directory place made⟩

/-- What stands elsewhere stays. -/
theorem node?_eq (changed : before.ChangedAt after places) {place : List String} {node : FileNode}
    (outside : place ∉ places) (here : before.node? place = some node) :
    after.node? place = some node := by
  rcases changed.elsewhere place outside with same | ⟨absent, _⟩
  · exact same.trans here
  · simp [absent] at here

/-- A file is put where no directory is. -/
theorem set (files : FileSystem) {place : List String} (node : FileNode)
    (free : files.node? place ≠ some .directory) : files.ChangedAt (files.set place node) [place] := by
  have below : place ≠ [] := by
    rintro rfl
    exact free rfl
  refine ⟨⟨rfl, fun other directory => ?_⟩, fun other outside => ?_⟩
  · rw [node?_set node below, if_neg]
    · exact directory
    · rintro rfl
      exact free directory
  · rw [node?_set node below, if_neg (by simpa using outside)]
    exact Or.inl rfl

/-- A directory is made where nothing is. -/
theorem make (files : FileSystem) {place : List String} (absent : files.node? place = none) :
    files.ChangedAt (files.set place .directory) [] := by
  have changed := set files .directory (by simp [absent] : files.node? place ≠ some .directory)
  have below : place ≠ [] := by
    rintro rfl
    cases absent
  refine ⟨changed.kept, fun other _ => ?_⟩
  by_cases same : other = place
  · subst same
    exact Or.inr ⟨absent, by rw [node?_set _ below, if_pos rfl]⟩
  · exact changed.elsewhere other (by simpa using same)

end ChangedAt

variable {files later made written : FileSystem} {start place target : List String}

/-- Where one piece of a path leads from a directory. -/
def pieceFrom (place : List String) (piece : String) : List String :=
  if piece = "" ∨ piece = "." then place
  else if piece = ".." then place.dropLast
  else place ++ [piece]

theorem follow_cons_eq_ok {piece : String} {rest : List String} :
    files.follow place (piece :: rest) = .ok target ↔
      files.node? place = some .directory ∧ files.follow (pieceFrom place piece) rest = .ok target := by
  rw [follow]
  cases here : files.node? place with
  | none => simp
  | some node =>
    cases node with
    | text _ | binary => simp
    | directory =>
      simp only [pieceFrom, true_and]
      split
      · exact Iff.rfl
      · split <;> exact Iff.rfl

theorem follow_append_eq_ok {first second : List String} :
    files.follow place (first ++ second) = .ok target ↔
      ∃ middle, files.follow place first = .ok middle ∧ files.follow middle second = .ok target := by
  induction first generalizing place with
  | nil =>
    constructor
    · intro leads
      exact ⟨place, rfl, leads⟩
    · rintro ⟨middle, same, leads⟩
      cases same
      exact leads
  | cons piece rest ih =>
    simp only [List.cons_append, follow_cons_eq_ok, ih]
    constructor
    · rintro ⟨directory, middle, leads, on⟩
      exact ⟨middle, ⟨directory, leads⟩, on⟩
    · rintro ⟨middle, ⟨directory, leads⟩, on⟩
      exact ⟨directory, middle, leads, on⟩

/-- A path that leads somewhere leads there as long as no directory is lost. -/
theorem follow_mono (kept : files.KeepsDirectories later) {pieces : List String}
    (leads : files.follow place pieces = .ok target) : later.follow place pieces = .ok target := by
  induction pieces generalizing place with
  | nil => exact leads
  | cons piece rest ih =>
    obtain ⟨directory, leads⟩ := follow_cons_eq_ok.mp leads
    exact follow_cons_eq_ok.mpr ⟨kept.directory place directory, ih leads⟩

theorem locate_mono (kept : files.KeepsDirectories later) {path : String}
    (leads : files.locate path = .ok target) : later.locate path = .ok target := by
  unfold locate at leads ⊢
  split at leads
  · cases leads
  · rename_i filled
    rw [if_neg filled, kept.start_eq]
    exact follow_mono kept leads

theorem find_eq_ok_iff {path : String} {node : FileNode} :
    files.find path = .ok (place, node) ↔ files.locate path = .ok place ∧ files.node? place = some node := by
  constructor
  · intro found
    obtain ⟨target, located, found⟩ := bind_eq_ok_iff.mp found
    split at found
    · rename_i other here
      cases found
      exact ⟨located, here⟩
    · cases found
  · rintro ⟨located, here⟩
    refine bind_eq_ok_iff.mpr ⟨place, located, ?_⟩
    simp only [here]
    rfl

/-- Empty pieces do not matter on the way to a directory. -/
theorem follow_of_filter {pieces : List String}
    (leads : files.follow place (pieces.filter (!·.isEmpty)) = .ok target)
    (directory : files.node? target = some .directory) : files.follow place pieces = .ok target := by
  induction pieces generalizing place with
  | nil => exact leads
  | cons piece rest ih =>
    by_cases empty : piece = ""
    · subst empty
      have here : files.node? place = some .directory := by
        cases more : rest.filter (!·.isEmpty) with
        | nil =>
          rw [List.filter_cons_of_neg (by simp), more] at leads
          cases leads
          exact directory
        | cons next others =>
          rw [List.filter_cons_of_neg (by simp), more] at leads
          exact (follow_cons_eq_ok.mp leads).1
      exact follow_cons_eq_ok.mpr ⟨here, ih leads⟩
    · rw [List.filter_cons_of_pos (by simpa using empty)] at leads
      obtain ⟨here, leads⟩ := follow_cons_eq_ok.mp leads
      exact follow_cons_eq_ok.mpr ⟨here, ih leads⟩

/-- The pieces of a path lead from a place to a directory. -/
def LeadsFrom (files : FileSystem) (start pieces place : List String) : Prop :=
  files.follow start pieces = .ok place ∧ files.node? place = some .directory

/-- A path leads to a directory. -/
def Leads (files : FileSystem) (path : String) (place : List String) : Prop :=
  files.LeadsFrom (files.start path) (Path.steps path) place

theorem LeadsFrom.mono {pieces : List String} (leads : files.LeadsFrom start pieces place)
    (kept : files.KeepsDirectories later) : later.LeadsFrom start pieces place :=
  ⟨follow_mono kept leads.1, kept.directory place leads.2⟩

theorem Leads.mono {path : String} (leads : files.Leads path place) (kept : files.KeepsDirectories later) :
    later.Leads path place := by
  rw [Leads, kept.start_eq]
  exact LeadsFrom.mono leads kept

theorem Leads.unique {path : String} {other : List String} (leads : files.Leads path place)
    (second : files.Leads path other) : place = other :=
  Except.ok.inj (leads.1.symm.trans second.1)

theorem leads_of_leadsToDirectory {pieces : List String} (leads : files.leadsToDirectory start pieces = true) :
    ∃ place, files.LeadsFrom start pieces place := by
  unfold leadsToDirectory at leads
  split at leads
  · rename_i place followed
    exact ⟨place, followed, by simpa using leads⟩
  · cases leads

theorem makeDirectory_eq_ok {pieces : List String} (done : files.makeDirectory start pieces = .ok made) :
    files.ChangedAt made [] ∧ ∃ place, made.LeadsFrom start pieces place := by
  obtain ⟨place, followed, done⟩ := bind_eq_ok_iff.mp done
  split at done
  · cases done
  · rename_i absent
    cases done
    have below : place ≠ [] := by
      rintro rfl
      cases absent
    have changed := ChangedAt.make files absent
    exact ⟨changed, place, follow_mono changed.kept followed, by rw [node?_set _ below, if_pos rfl]⟩

theorem ensureDirectory_changedAt (files : FileSystem) (start pieces : List String) :
    files.ChangedAt (files.ensureDirectory start pieces).1 [] := by
  unfold ensureDirectory
  split
  · rename_i made done
    exact (makeDirectory_eq_ok done).1
  · split
    · exact ChangedAt.refl files []
    · exact ChangedAt.refl files []

theorem leads_of_ensureDirectory {pieces : List String}
    (done : files.ensureDirectory start pieces = (made, none)) :
    ∃ place, made.LeadsFrom start pieces place := by
  unfold ensureDirectory at done
  split at done
  · rename_i result making
    cases done
    exact (makeDirectory_eq_ok making).2
  · split at done
    · rename_i leads
      cases done
      exact leads_of_leadsToDirectory leads
    · cases done

theorem makeAll_changedAt (files : FileSystem) (start above : List String) :
    files.ChangedAt (files.makeAll start above).1 [] := by
  induction above with
  | nil => exact ChangedAt.refl files []
  | cons piece above ih =>
    rw [makeAll]
    split
    · split
      · rename_i made done
        rw [done] at ih
        exact ih.trans (ensureDirectory_changedAt made start _)
      · exact ih
    · exact ensureDirectory_changedAt files start _

/-- Making a directory changes nothing that exists, and if it succeeds the path leads to one. -/
theorem makeDirectories_eq {path : String} (done : files.makeDirectories path = (made, none)) :
    files.ChangedAt made [] ∧ ∃ place, made.Leads path place := by
  -- all is made from where the path began before, and that is the same afterwards
  have leads (changed : files.ChangedAt made [])
      (reached : ∃ place, made.LeadsFrom (files.start path) (Path.steps path) place) :
      ∃ place, made.Leads path place := by
    rw [← changed.kept.start_eq path] at reached
    exact reached
  unfold makeDirectories at done
  dsimp only at done
  split at done
  · have grown := makeAll_changedAt files (files.start path) (Path.stepsAbove path).reverse
    split at done
    · rename_i middle all
      rw [all] at grown
      have changed := ensureDirectory_changedAt middle (files.start path) (Path.steps path)
      rw [Path.steps, done] at changed
      have whole := grown.trans changed
      exact ⟨whole, leads whole (leads_of_ensureDirectory done)⟩
    · rename_i failed
      exact absurd done (failed made)
  · have changed := ensureDirectory_changedAt files (files.start path) (Path.steps path)
    rw [Path.steps, done] at changed
    exact ⟨changed, leads changed (leads_of_ensureDirectory done)⟩

theorem write_eq_ok {path content : String} (done : files.write path content = .ok written) :
    ∃ place, files.locate path = .ok place ∧ files.ChangedAt written [place] ∧
      written.node? place = some (.text content) := by
  obtain ⟨place, located, done⟩ := bind_eq_ok_iff.mp done
  split at done
  · cases done
  · rename_i free
    cases done
    have below : place ≠ [] := by
      rintro rfl
      exact free rfl
    exact ⟨place, located, ChangedAt.set files _ free, by rw [node?_set _ below, if_pos rfl]⟩

theorem read_of_node? {path content : String} (located : files.locate path = .ok place)
    (here : files.node? place = some (.text content)) : files.read path = .ok content := by
  refine bind_eq_ok_iff.mpr ⟨_, find_eq_ok_iff.mpr ⟨located, here⟩, rfl⟩

/-- A file reads the same after changes that do not touch its place. -/
theorem read_eq_of_changedAt {places : List (List String)} (changed : files.ChangedAt later places)
    {path : String} (file : files.isFile path = true)
    (outside : ∀ place ∈ places, files.locate path ≠ .ok place) : later.read path = files.read path := by
  cases found : files.find path with
  | error error => simp [isFile, found] at file
  | ok result =>
    obtain ⟨place, node⟩ := result
    obtain ⟨located, here⟩ := find_eq_ok_iff.mp found
    have stays := changed.node?_eq (fun member => outside place member located) here
    have again := find_eq_ok_iff.mpr ⟨locate_mono changed.kept located, stays⟩
    rw [read, read, again, found]

end FileSystem

end ClassDocs
