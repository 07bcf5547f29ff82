import ClassDocs.Proofs.Files.Paths

namespace ClassDocs

namespace Path

/-- A piece of a path that does not lead on. -/
def stays (piece : String) : Bool :=
  piece.isEmpty || piece == "."

theorem text_ofPiece (piece : List Char) : (PathPart.ofPiece piece).text = String.ofList piece := by
  unfold PathPart.ofPiece
  split <;> rfl

theorem ofPiece_eq_here_iff {piece : List Char} : PathPart.ofPiece piece = .here ↔ String.ofList piece = "." := by
  constructor
  · intro here
    rw [← text_ofPiece, here]
    rfl
  · intro dot
    have letters : piece = ['.'] := by simpa using congrArg String.toList dot
    rw [letters]
    rfl

theorem ofPiece_ne_root (piece : List Char) : PathPart.ofPiece piece ≠ .root := by
  unfold PathPart.ofPiece
  split <;> simp

theorem texts_filter (others : List (List Char)) :
    (((others.filter (!·.isEmpty)).map PathPart.ofPiece).filter (· ≠ .here)).map PathPart.text =
      (others.map String.ofList).filter (!stays ·) := by
  have texts : PathPart.text ∘ PathPart.ofPiece = String.ofList := funext text_ofPiece
  rw [List.filter_map, List.map_map, texts, List.filter_filter, List.filter_map]
  congr 1
  refine List.filter_congr fun piece _ => ?_
  have empty : (String.ofList piece).isEmpty = piece.isEmpty := by
    rw [Bool.eq_iff_iff, String.isEmpty_iff, List.isEmpty_iff]
    simp
  rw [Bool.eq_iff_iff]
  simp only [stays, empty, ofPiece_eq_here_iff, Function.comp_apply, ne_eq, Bool.and_eq_true, Bool.not_eq_true',
    decide_eq_true_eq, Bool.or_eq_false_iff, beq_eq_false_iff_ne]
  exact and_comm

/-- The steps of a path, as they are written: of its pieces those that lead on. A step in place counts
only where it comes first. -/
theorem texts_parts (path : String) :
    ∃ first rest, pieces path = first :: rest ∧
      (((parts path).filter (· ≠ .root)).map PathPart.text = first :: rest.filter (!stays ·) ∨
        ((parts path).filter (· ≠ .root)).map PathPart.text = (first :: rest).filter (!stays ·)) := by
  have noRoot (steps : List (List Char)) :
      (((steps.filter (!·.isEmpty)).map PathPart.ofPiece).filter (· ≠ .here)).filter (· ≠ .root) =
        ((steps.filter (!·.isEmpty)).map PathPart.ofPiece).filter (· ≠ .here) := by
    rw [List.filter_eq_self]
    intro part member
    obtain ⟨piece, _, rfl⟩ := List.mem_map.mp (List.mem_filter.mp member).1
    simpa using ofPiece_ne_root piece
  cases split : splitAtChar '/' path.toList with
  | nil => exact absurd split (splitAtChar_ne_nil '/' path.toList)
  | cons letters others =>
    refine ⟨String.ofList letters, others.map String.ofList, by rw [pieces, split]; rfl, ?_⟩
    rw [parts, split]
    cases letters with
    | nil =>
      refine Or.inr ?_
      dsimp only
      split
      · rename_i empty
        rw [String.isEmpty_iff] at empty
        subst empty
        cases split
        rfl
      · rw [List.filter_cons_of_neg (by simp), noRoot, texts_filter, List.filter_cons_of_neg (by decide)]
    | cons c more =>
      refine Or.inl ?_
      dsimp only
      rw [List.filter_cons_of_pos (by simpa using ofPiece_ne_root (c :: more)), noRoot, List.map_cons, text_ofPiece,
        texts_filter]

end Path

namespace FileSystem

variable {files later made written before middle after : FileSystem} {pieces others start place target : List String}

/-- A place on the way that the pieces lead from another one: the first of them lead there. -/
def OnTheWayFrom (files : FileSystem) (start pieces place : List String) : Prop :=
  ∃ front, front <+: pieces ∧ files.follow start front = .ok place

/-- A place on the way along a path. -/
def OnTheWay (files : FileSystem) (path : String) (place : List String) : Prop :=
  files.OnTheWayFrom (files.start path) (Path.pieces path) place

theorem onTheWayFrom_cons_iff {piece : String} : files.OnTheWayFrom start (piece :: pieces) place ↔
    place = start ∨
      files.node? start = some .directory ∧ files.OnTheWayFrom (pieceFrom start piece) pieces place := by
  constructor
  · rintro ⟨front, within, leads⟩
    cases front with
    | nil =>
      cases leads
      exact Or.inl rfl
    | cons first front =>
      obtain ⟨rfl, behind⟩ := List.cons_prefix_cons.mp within
      obtain ⟨directory, leads⟩ := follow_cons_eq_ok.mp leads
      exact Or.inr ⟨directory, front, behind, leads⟩
  · rintro (rfl | ⟨directory, front, within, leads⟩)
    · exact ⟨[], List.nil_prefix, rfl⟩
    · exact ⟨piece :: front, List.cons_prefix_cons.mpr ⟨rfl, within⟩, follow_cons_eq_ok.mpr ⟨directory, leads⟩⟩

namespace OnTheWayFrom

theorem mono (way : files.OnTheWayFrom start pieces place) (kept : files.KeepsDirectories later) :
    later.OnTheWayFrom start pieces place := by
  obtain ⟨front, within, leads⟩ := way
  exact ⟨front, within, follow_mono kept leads⟩

theorem of_prefix (way : files.OnTheWayFrom start pieces place) (more : pieces <+: others) :
    files.OnTheWayFrom start others place := by
  obtain ⟨front, within, leads⟩ := way
  exact ⟨front, within.trans more, leads⟩

theorem eq_or_directory (way : files.OnTheWayFrom start pieces place) :
    place = start ∨ files.node? start = some .directory := by
  obtain ⟨front, _, leads⟩ := way
  cases front with
  | nil =>
    cases leads
    exact Or.inl rfl
  | cons piece front => exact Or.inr (follow_cons_eq_ok.mp leads).1

/-- Pieces that do not lead on can be put in. -/
theorem of_filter {kept : String → Bool} (dropped : ∀ piece, kept piece = false → Path.stays piece = true)
    (way : files.OnTheWayFrom start (pieces.filter kept) place) : files.OnTheWayFrom start pieces place := by
  induction pieces generalizing start with
  | nil => exact way
  | cons piece rest ih =>
    rw [onTheWayFrom_cons_iff]
    by_cases stands : kept piece = true
    · rw [List.filter_cons_of_pos stands, onTheWayFrom_cons_iff] at way
      exact way.imp_right fun ⟨directory, way⟩ => ⟨directory, ih way⟩
    · rw [List.filter_cons_of_neg stands] at way
      have stays := dropped piece (Bool.eq_false_iff.mpr stands)
      rw [Path.stays, Bool.or_eq_true, String.isEmpty_iff, beq_iff_eq] at stays
      have here : pieceFrom start piece = start := if_pos stays
      rw [here]
      exact way.eq_or_directory.imp_right fun directory => ⟨directory, ih way⟩

theorem of_filter_tail {kept : String → Bool} (dropped : ∀ piece, kept piece = false → Path.stays piece = true)
    {first : String} (way : files.OnTheWayFrom start (first :: pieces.filter kept) place) :
    files.OnTheWayFrom start (first :: pieces) place := by
  rw [onTheWayFrom_cons_iff] at way ⊢
  exact way.imp_right fun ⟨directory, way⟩ => ⟨directory, way.of_filter dropped⟩

theorem of_steps {path : String} (way : files.OnTheWayFrom start (Path.steps path) place) :
    files.OnTheWayFrom start (Path.pieces path) place := by
  refine way.of_filter fun piece => ?_
  simp +contextual [Path.stays]

theorem of_stepsAbove {path : String} (way : files.OnTheWayFrom start (Path.stepsAbove path) place) :
    files.OnTheWayFrom start (Path.pieces path) place := by
  have way := way.of_prefix (List.dropLast_prefix _)
  obtain ⟨first, rest, whole, texts | texts⟩ := Path.texts_parts path
  · rw [texts] at way
    rw [whole]
    exact way.of_filter_tail fun piece => by simp
  · rw [texts] at way
    rw [whole]
    exact way.of_filter fun piece => by simp

end OnTheWayFrom

/-- Every directory that was not there before lies on the way that the pieces lead. -/
def MakesOnlyFrom (before after : FileSystem) (start pieces : List String) : Prop :=
  ∀ place, before.node? place ≠ some .directory → after.node? place = some .directory →
    after.OnTheWayFrom start pieces place

/-- Every directory that was not there before lies on the way along a path. -/
def MakesOnly (before after : FileSystem) (path : String) : Prop :=
  before.MakesOnlyFrom after (before.start path) (Path.pieces path)

namespace MakesOnlyFrom

theorem refl (files : FileSystem) (start pieces : List String) : files.MakesOnlyFrom files start pieces :=
  fun _ absent here => absurd here absent

theorem mono (makes : before.MakesOnlyFrom after start pieces)
    (ways : ∀ place, after.OnTheWayFrom start pieces place → after.OnTheWayFrom start others place) :
    before.MakesOnlyFrom after start others :=
  fun place absent here => ways place (makes place absent here)

theorem trans (first : before.MakesOnlyFrom middle start pieces) (second : middle.MakesOnlyFrom after start pieces)
    (kept : middle.KeepsDirectories after) : before.MakesOnlyFrom after start pieces := by
  intro place absent here
  by_cases already : middle.node? place = some .directory
  · exact (first place absent already).mono kept
  · exact second place already here

end MakesOnlyFrom

namespace MakesOnly

variable {path : String}

theorem refl (files : FileSystem) (path : String) : files.MakesOnly files path :=
  MakesOnlyFrom.refl files _ _

theorem trans (first : before.MakesOnly middle path) (second : middle.MakesOnly after path)
    (keptFirst : before.KeepsDirectories middle) (kept : middle.KeepsDirectories after) :
    before.MakesOnly after path := by
  rw [MakesOnly, keptFirst.start_eq] at second
  exact MakesOnlyFrom.trans first second kept

/-- Besides the places that changed, only directories on the way are new. -/
theorem elsewhere (makes : before.MakesOnly after path) {places : List (List String)}
    (changed : before.ChangedAt after places) : ∀ place, place ∉ places →
      after.node? place = before.node? place ∨
        before.node? place = none ∧ after.node? place = some .directory ∧ after.OnTheWay path place := by
  intro place outside
  rcases changed.elsewhere place outside with same | ⟨absent, made⟩
  · exact Or.inl same
  · refine Or.inr ⟨absent, made, ?_⟩
    rw [OnTheWay, changed.kept.start_eq]
    exact makes place (by simp [absent]) made

end MakesOnly

theorem ensureDirectory_makesOnlyFrom (files : FileSystem) (start pieces : List String) :
    files.MakesOnlyFrom (files.ensureDirectory start pieces).1 start pieces := by
  unfold ensureDirectory
  split
  · rename_i made done
    have kept := (makeDirectory_eq_ok done).1.kept
    obtain ⟨target, leads, done⟩ := bind_eq_ok_iff.mp done
    split at done
    · cases done
    · rename_i absent
      cases done
      have below : target ≠ [] := by
        rintro rfl
        cases absent
      intro place other here
      by_cases same : place = target
      · exact ⟨pieces, List.prefix_rfl, same ▸ follow_mono kept leads⟩
      · rw [node?_set _ below, if_neg same] at here
        exact absurd here other
  · split
    · exact .refl files start pieces
    · exact .refl files start pieces

theorem makeAll_makesOnlyFrom (files : FileSystem) (start above : List String) :
    files.MakesOnlyFrom (files.makeAll start above).1 start above.reverse := by
  induction above with
  | nil => exact .refl files start []
  | cons piece above ih =>
    have shorter : above.reverse <+: (piece :: above).reverse := by
      rw [List.reverse_cons]
      exact List.prefix_append _ _
    have higher := ih.mono fun place way => way.of_prefix shorter
    rw [makeAll]
    split
    · split
      · rename_i made done
        rw [done] at higher
        exact higher.trans (ensureDirectory_makesOnlyFrom made start _) (ensureDirectory_changedAt made start _).kept
      · exact higher
    · exact ensureDirectory_makesOnlyFrom files start _

/-- Making a directory makes those on the way to it, and no others. -/
theorem makeDirectories_makesOnly (files : FileSystem) (path : String) :
    files.MakesOnly (files.makeDirectories path).1 path := by
  -- the directory itself is made by all pieces that are not empty, those above it by the steps that count
  have last (made : FileSystem) : made.MakesOnlyFrom (made.ensureDirectory (files.start path) (Path.steps path)).1
      (files.start path) (Path.pieces path) :=
    (ensureDirectory_makesOnlyFrom made _ _).mono fun place way => way.of_steps
  have above : files.MakesOnlyFrom (files.makeAll (files.start path) (Path.stepsAbove path).reverse).1
      (files.start path) (Path.pieces path) := by
    refine (makeAll_makesOnlyFrom files _ _).mono fun place way => ?_
    rw [List.reverse_reverse] at way
    exact way.of_stepsAbove
  unfold MakesOnly makeDirectories
  dsimp only
  split
  · split
    · rename_i middle done
      rw [done] at above
      exact above.trans (last middle) (ensureDirectory_changedAt middle _ _).kept
    · exact above
  · exact last files

theorem write_makesOnlyFrom {path content : String} (done : files.write path content = .ok written)
    (start pieces : List String) : files.MakesOnlyFrom written start pieces := by
  obtain ⟨place, _, done⟩ := bind_eq_ok_iff.mp done
  split at done
  · cases done
  · rename_i free
    cases done
    have below : place ≠ [] := by
      rintro rfl
      exact free rfl
    intro other absent here
    rw [node?_set _ below] at here
    split at here
    · cases here
    · exact absurd here absent

end FileSystem

end ClassDocs
