import ClassDocs.Proofs.Files.Changes
import ClassDocs.Proofs.Text.Lines

namespace ClassDocs

/-- A name that a directory entry can have: it is one piece of a path, and no step in place or up. -/
structure IsEntryName (name : String) : Prop where
  named : name ≠ ""
  notHere : name ≠ "."
  notUp : name ≠ ".."
  noSlash : '/' ∉ name.toList

namespace Path

theorem head?_pieces_of_isAbsolute {path : String} (absolute : isAbsolute path = true) :
    (pieces path).head? = some "" := by
  rw [isAbsolute, beq_iff_eq] at absolute
  obtain ⟨rest, letters⟩ := List.head?_eq_some_iff.mp absolute
  rw [pieces, letters, splitAtChar, if_pos rfl]
  rfl

/-- The pieces of a path with one more step: those of the path, less an empty one at its end, and the
step. -/
theorem pieces_join (directory : String) {step : String} (clean : '/' ∉ step.toList) :
    ∃ front, pieces (join directory step) = front ++ [step] ∧
      (pieces directory = front ∨ pieces directory = front ++ [""]) := by
  have single : (splitAtChar '/' step.toList).map String.ofList = [step] := by
    rw [splitAtChar_of_not_mem clean, List.map_singleton, String.ofList_toList]
  unfold join
  split
  · rename_i ends
    rw [Bool.or_eq_true, String.isEmpty_iff, beq_iff_eq] at ends
    rcases ends with rfl | slash
    · exact ⟨[], by simpa [pieces] using single, Or.inr rfl⟩
    · obtain ⟨before, whole⟩ := List.getLast?_eq_some_iff.mp slash
      refine ⟨(splitAtChar '/' before).map String.ofList, ?_, Or.inr ?_⟩
      · rw [pieces, String.toList_append, whole, List.append_assoc, List.singleton_append,
          splitAtChar_append_separator, List.map_append, single]
      · rw [pieces, whole, splitAtChar_append_separator, List.map_append]
        rfl
  · refine ⟨pieces directory, ?_, Or.inl rfl⟩
    have slash : (directory ++ "/" ++ step).toList = directory.toList ++ '/' :: step.toList := by simp
    rw [pieces, slash, splitAtChar_append_separator, List.map_append, single]
    rfl

/-- A step behind a path does not change whether it begins at the root. -/
theorem isAbsolute_join (directory : String) {step : String} (clean : '/' ∉ step.toList) :
    isAbsolute (join directory step) = isAbsolute directory := by
  by_cases empty : directory = ""
  · subst empty
    have relative : isAbsolute step = false := by
      rw [isAbsolute, beq_eq_false_iff_ne]
      exact fun slash => clean (List.mem_of_head? slash)
    rw [join, if_pos (by simp), String.empty_append, relative]
    rfl
  · have filled : directory.toList ≠ [] := by simpa using empty
    obtain ⟨c, rest, letters⟩ := List.exists_cons_of_ne_nil filled
    unfold join
    split <;> simp [isAbsolute, letters]

end Path

namespace FileSystem

variable {files : FileSystem} {place target : List String}

theorem pieceFrom_of_isEntryName {name : String} (ordinary : IsEntryName name) (place : List String) :
    pieceFrom place name = place ++ [name] := by
  have moves : ¬ (name = "" ∨ name = ".") := fun stays => stays.elim ordinary.named ordinary.notHere
  rw [pieceFrom, if_neg moves, if_neg ordinary.notUp]

theorem Leads.locate {directory : String} (leads : files.Leads directory place) (filled : directory ≠ "") :
    files.locate directory = .ok place := by
  rw [FileSystem.locate, if_neg (by simpa using filled)]
  exact follow_of_filter leads.1 leads.2

/-- A step inside a directory is found directly in the place that the directory has. -/
theorem Leads.locate_join {directory step : String} (leads : files.Leads directory place)
    (ordinary : IsEntryName step) : files.locate (Path.join directory step) = .ok (place ++ [step]) := by
  obtain ⟨front, pieces, ends⟩ := Path.pieces_join directory ordinary.noSlash
  have kept : Path.steps directory = front.filter (!·.isEmpty) := by
    rcases ends with same | same
    · rw [Path.steps, same]
    · rw [Path.steps, same, List.filter_append]
      exact List.append_nil _
  have start : files.start (Path.join directory step) = files.start directory := by
    rw [FileSystem.start, FileSystem.start, Path.isAbsolute_join directory ordinary.noSlash]
  have filled : Path.join directory step ≠ "" := by
    intro empty
    rw [empty] at pieces
    have last : [] ++ [""] = front ++ [step] := pieces
    exact ordinary.named (List.cons.inj (List.append_inj' last rfl).2).1.symm
  obtain ⟨followed, here⟩ := leads
  rw [kept] at followed
  rw [FileSystem.locate, if_neg (by simpa using filled), start, pieces]
  refine follow_append_eq_ok.mpr ⟨place, follow_of_filter followed here, ?_⟩
  rw [follow_cons_eq_ok, pieceFrom_of_isEntryName ordinary]
  exact ⟨here, rfl⟩

end FileSystem

section Ordinary

theorem not_mem_of_mem_splitAtChar {separator : Char} {text piece : List Char}
    (member : piece ∈ splitAtChar separator text) : separator ∉ piece := by
  induction text generalizing piece with
  | nil =>
    rw [splitAtChar, List.mem_singleton] at member
    simp [member]
  | cons c rest ih =>
    rw [splitAtChar] at member
    split at member
    · rcases List.mem_cons.mp member with rfl | later
      · simp
      · exact ih later
    · rename_i other
      split at member
      · rename_i none
        exact absurd none (splitAtChar_ne_nil separator rest)
      · rename_i first others split
        rcases List.mem_cons.mp member with rfl | later
        · have clean := ih (split ▸ List.mem_cons_self ..)
          simp only [List.mem_cons, not_or]
          exact ⟨fun same => other (by simp [same]), clean⟩
        · exact ih (split ▸ List.mem_cons_of_mem _ later)

namespace Path

/-- A path from the working directory whose steps are all names. Slashes may be doubled or stand at
the end. -/
structure Ordinary (path : String) : Prop where
  relative : (pieces path).head? ≠ some ""
  named : ∀ piece ∈ pieces path, piece ≠ "." ∧ piece ≠ ".."

theorem ofPiece_of_ne {piece : List Char} (named : String.ofList piece ≠ "." ∧ String.ofList piece ≠ "..") :
    PathPart.ofPiece piece = .name (String.ofList piece) := by
  unfold PathPart.ofPiece
  split
  · exact absurd rfl named.1
  · exact absurd rfl named.2
  · rfl

/-- Of the pieces of a path, those that are not empty count, as names. -/
theorem filter_ofPiece {others : List (List Char)}
    (named : ∀ piece ∈ others, String.ofList piece ≠ "." ∧ String.ofList piece ≠ "..") :
    ((others.filter (!·.isEmpty)).map PathPart.ofPiece).filter (· ≠ .here) =
      ((others.map String.ofList).filter (!·.isEmpty)).map .name := by
  induction others with
  | nil => rfl
  | cons piece others ih =>
    have later := ih fun other member => named other (List.mem_cons_of_mem _ member)
    by_cases empty : piece = []
    · subst empty
      simpa using later
    · have kept : String.ofList piece ≠ "" := by
        intro same
        exact empty (by simpa using congrArg String.toList same)
      rw [List.filter_cons_of_pos (by simpa using empty), List.map_cons,
        ofPiece_of_ne (named piece (List.mem_cons_self ..)), List.filter_cons_of_pos (by simp), later,
        List.map_cons, List.filter_cons_of_pos (by simpa using kept), List.map_cons]

namespace Ordinary

variable {path : String}

theorem isAbsolute_eq (ordinary : Ordinary path) : isAbsolute path = false := by
  rw [Bool.eq_false_iff]
  exact fun absolute => ordinary.relative (head?_pieces_of_isAbsolute absolute)

theorem ne_empty (ordinary : Ordinary path) : path ≠ "" := by
  rintro rfl
  exact ordinary.relative rfl

theorem isEntryName (ordinary : Ordinary path) : ∀ step ∈ steps path, IsEntryName step := by
  intro step member
  obtain ⟨piece, filled⟩ := List.mem_filter.mp member
  refine ⟨by simpa using filled, (ordinary.named step piece).1, (ordinary.named step piece).2, ?_⟩
  obtain ⟨letters, split, rfl⟩ := List.mem_map.mp piece
  rw [String.toList_ofList]
  exact not_mem_of_mem_splitAtChar split

theorem pieces_eq (ordinary : Ordinary path) :
    ∃ first rest, pieces path = first :: rest ∧ first ≠ "" ∧ steps path = first :: rest.filter (!·.isEmpty) := by
  cases whole : pieces path with
  | nil => exact absurd (List.map_eq_nil_iff.mp whole) (splitAtChar_ne_nil '/' path.toList)
  | cons first rest =>
    have filled : first ≠ "" := by
      rintro rfl
      exact ordinary.relative (by rw [whole]; rfl)
    refine ⟨first, rest, rfl, filled, ?_⟩
    rw [steps, whole, List.filter_cons_of_pos (by simpa using filled)]

theorem parts_eq (ordinary : Ordinary path) : parts path = (steps path).map .name := by
  obtain ⟨first, rest, whole, filled, steps⟩ := ordinary.pieces_eq
  have named := ordinary.named
  rw [whole] at named
  obtain ⟨letters, others, split, rfl, rfl⟩ := List.map_eq_cons_iff.mp whole
  have first := ofPiece_of_ne (named (String.ofList letters) (List.mem_cons_self ..))
  have rest := filter_ofPiece fun piece member =>
    named (String.ofList piece) (List.mem_cons_of_mem _ (List.mem_map_of_mem member))
  rw [parts, split, steps, List.map_cons, ← rest, ← first]
  cases letters with
  | nil => exact absurd rfl filled
  | cons c more => rfl

end Ordinary

end Path

end Ordinary

section Names

namespace Path

variable {place names : List String}

theorem pieces_intercalate (nonempty : names ≠ []) (clean : ∀ name ∈ names, '/' ∉ name.toList) :
    pieces ("/".intercalate names) = names := by
  induction names with
  | nil => exact absurd rfl nonempty
  | cons name rest ih =>
    have first := clean name (List.mem_cons_self ..)
    cases rest with
    | nil =>
      rw [String.intercalate_singleton, pieces, splitAtChar_of_not_mem first, List.map_singleton,
        String.ofList_toList]
    | cons next rest =>
      have later := ih (by simp) fun other member => clean other (List.mem_cons_of_mem _ member)
      have letters : ("/".intercalate (name :: next :: rest)).toList =
          name.toList ++ '/' :: ("/".intercalate (next :: rest)).toList := by
        simp [String.intercalate_cons_cons]
      rw [pieces, letters, splitAtChar_append first, List.map_cons, String.ofList_toList, ← pieces, later]

theorem pieces_append_slash (path : String) : pieces (path ++ "/") = pieces path ++ [""] := by
  have letters : (path ++ "/").toList = path.toList ++ '/' :: [] := by simp
  rw [pieces, letters, splitAtChar_append_separator, List.map_append, ← pieces]
  rfl

theorem steps_append_slash (path : String) : steps (path ++ "/") = steps path := by
  rw [steps, pieces_append_slash, List.filter_append, ← steps]
  exact List.append_nil _

theorem Ordinary.append_slash {path : String} (ordinary : Ordinary path) : Ordinary (path ++ "/") := by
  refine ⟨?_, ?_⟩
  · obtain ⟨first, rest, whole, _⟩ := ordinary.pieces_eq
    have relative := ordinary.relative
    rw [whole] at relative
    rw [pieces_append_slash, whole]
    exact relative
  · rw [pieces_append_slash]
    intro piece member
    rcases List.mem_append.mp member with inside | last
    · exact ordinary.named piece inside
    · rw [List.mem_singleton.mp last]
      decide

variable (nonempty : names ≠ []) (ordinary : ∀ name ∈ names, IsEntryName name)

include nonempty ordinary

theorem pieces_names : pieces ("/".intercalate names) = names :=
  pieces_intercalate nonempty fun name member => (ordinary name member).noSlash

theorem steps_names : steps ("/".intercalate names) = names := by
  rw [steps, pieces_names nonempty ordinary, List.filter_eq_self]
  intro name member
  simpa using (ordinary name member).named

theorem ordinary_names : Ordinary ("/".intercalate names) := by
  refine ⟨?_, ?_⟩
  · rw [pieces_names nonempty ordinary]
    intro first
    exact (ordinary "" (List.mem_of_head? first)).named rfl
  · rw [pieces_names nonempty ordinary]
    exact fun name member => ⟨(ordinary name member).notHere, (ordinary name member).notUp⟩

theorem ordinary_names_slash : Ordinary ("/".intercalate names ++ "/") :=
  (ordinary_names nonempty ordinary).append_slash

/-- The path of some names does not end with a slash, so a step behind it needs one. -/
theorem join_names (step : String) :
    join ("/".intercalate names) step = "/".intercalate names ++ "/" ++ step := by
  have pieces := pieces_names nonempty ordinary
  rw [join, if_neg]
  rw [Bool.or_eq_true, String.isEmpty_iff, beq_iff_eq]
  rintro (empty | slash)
  · rw [empty] at pieces
    exact (ordinary "" (pieces ▸ List.mem_singleton_self _)).named rfl
  · obtain ⟨before, whole⟩ := List.getLast?_eq_some_iff.mp slash
    have ended : "/".intercalate names = String.ofList before ++ "/" := by
      rw [← String.toList_inj, whole]
      simp
    rw [ended, pieces_append_slash] at pieces
    exact (ordinary "" (pieces ▸ List.mem_append_right _ (List.mem_singleton_self _))).named rfl

end Path

end Names

namespace Path

theorem join_append_slash (path step : String) : join (path ++ "/") step = path ++ "/" ++ step := by
  rw [join, if_pos]
  simp

theorem relative?_append (directory names : List PathPart) :
    relative? directory (directory ++ names) = some names := by
  induction directory with
  | nil => rfl
  | cons step directory ih => rw [List.cons_append, relative?, if_pos rfl, ih]

end Path

end ClassDocs
