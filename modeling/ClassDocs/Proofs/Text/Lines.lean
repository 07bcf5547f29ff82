import ClassDocs.Text.Lines

namespace ClassDocs

/-- A text that can stand as one line, because no break of either kind is in it. -/
def OneLine (text : List Char) : Prop :=
  ∀ c ∈ text, c ≠ '\n' ∧ c ≠ '\r'

instance (text : List Char) : Decidable (OneLine text) :=
  List.decidableBAll (fun c => c ≠ '\n' ∧ c ≠ '\r') text

theorem oneLine_iff {text : List Char} : OneLine text ↔ '\n' ∉ text ∧ '\r' ∉ text := by
  constructor
  · intro single
    exact ⟨fun feed => (single _ feed).1 rfl, fun back => (single _ back).2 rfl⟩
  · rintro ⟨noFeed, noReturn⟩ c member
    exact ⟨fun feed => noFeed (feed ▸ member), fun back => noReturn (back ▸ member)⟩

theorem not_oneLine_iff {text : List Char} : ¬ OneLine text ↔ '\n' ∈ text ∨ '\r' ∈ text := by
  rw [oneLine_iff, Decidable.not_and_iff_not_or_not, Decidable.not_not, Decidable.not_not]

theorem OneLine.tail {c : Char} {text : List Char} (single : OneLine (c :: text)) : OneLine text :=
  fun d member => single d (List.mem_cons_of_mem c member)

theorem OneLine.append {first second : List Char} (left : OneLine first) (right : OneLine second) :
    OneLine (first ++ second) := by
  intro c member
  rcases List.mem_append.mp member with before | after
  · exact left c before
  · exact right c after

theorem splitAtChar_append {separator : Char} {piece : List Char} (clean : separator ∉ piece)
    (rest : List Char) :
    splitAtChar separator (piece ++ separator :: rest) = piece :: splitAtChar separator rest := by
  induction piece with
  | nil => simp [splitAtChar]
  | cons c piece ih =>
    have different := List.ne_of_not_mem_cons clean
    have later := List.not_mem_of_not_mem_cons clean
    simp only [List.cons_append, splitAtChar, if_neg (Ne.symm different), ih later]

theorem splitAtChar_of_not_mem {separator : Char} {piece : List Char} (clean : separator ∉ piece) :
    splitAtChar separator piece = [piece] := by
  induction piece with
  | nil => rfl
  | cons c piece ih =>
    have different := List.ne_of_not_mem_cons clean
    have later := List.not_mem_of_not_mem_cons clean
    simp only [splitAtChar, if_neg (Ne.symm different), ih later]

theorem splitAtChar_ne_nil (separator : Char) (text : List Char) : splitAtChar separator text ≠ [] := by
  cases text with
  | nil => simp [splitAtChar]
  | cons c rest =>
    rw [splitAtChar]
    split
    · simp
    · split
      · simp
      · simp

theorem splitAtChar_append_separator (separator : Char) (first rest : List Char) :
    splitAtChar separator (first ++ separator :: rest) =
      splitAtChar separator first ++ splitAtChar separator rest := by
  induction first with
  | nil => simp [splitAtChar]
  | cons c first ih =>
    by_cases here : c = separator
    · simp only [List.cons_append, splitAtChar, here, if_true, ih]
    · obtain ⟨piece, more, pieces⟩ := List.exists_cons_of_ne_nil (splitAtChar_ne_nil separator first)
      simp only [List.cons_append, splitAtChar, here, if_false, ih, pieces]

/-- Splitting at line feeds gives back the lines that were joined with them. Carriage returns inside
the lines do no harm. -/
theorem splitAtChar_joinLines_of_not_mem {text : List (List Char)} (nonempty : text ≠ [])
    (clean : ∀ line ∈ text, '\n' ∉ line) : splitAtChar '\n' (joinLines text) = text := by
  fun_induction joinLines text with
  | case1 => exact absurd rfl nonempty
  | case2 line => exact splitAtChar_of_not_mem (clean line (List.mem_cons_self ..))
  | case3 line more more_ne ih =>
    rw [splitAtChar_append (clean line (List.mem_cons_self ..)),
      ih more_ne fun other member => clean other (List.mem_cons_of_mem _ member)]

theorem splitAtChar_joinLines {text : List (List Char)} (nonempty : text ≠ [])
    (single : ∀ line ∈ text, OneLine line) : splitAtChar '\n' (joinLines text) = text :=
  splitAtChar_joinLines_of_not_mem nonempty fun line member feed => (single line member _ feed).1 rfl

theorem mem_and_ne_of_mem_lines {text line : List Char} (member : line ∈ lines text) {c : Char}
    (inside : c ∈ line) : c ∈ text ∧ c ≠ '\n' := by
  fun_induction lines text generalizing line with
  | case1 => cases member
  | case2 rest ih =>
    rcases List.mem_cons.mp member with rfl | later
    · cases inside
    · obtain ⟨inRest, noFeed⟩ := ih later inside
      exact ⟨List.mem_cons_of_mem _ (List.mem_cons_of_mem _ inRest), noFeed⟩
  | case3 rest ih =>
    rcases List.mem_cons.mp member with rfl | later
    · cases inside
    · obtain ⟨inRest, noFeed⟩ := ih later inside
      exact ⟨List.mem_cons_of_mem _ inRest, noFeed⟩
  | case4 d rest _ noFeed none ih =>
    rw [List.mem_singleton.mp member, List.mem_singleton] at inside
    rw [inside]
    exact ⟨List.mem_cons_self .., noFeed⟩
  | case5 d rest _ noFeed first more split ih =>
    rw [split] at ih
    rcases List.mem_cons.mp member with rfl | later
    · rcases List.mem_cons.mp inside with rfl | inFirst
      · exact ⟨List.mem_cons_self .., noFeed⟩
      · obtain ⟨inRest, different⟩ := ih (List.mem_cons_self ..) inFirst
        exact ⟨List.mem_cons_of_mem _ inRest, different⟩
    · obtain ⟨inRest, different⟩ := ih (List.mem_cons_of_mem _ later) inside
      exact ⟨List.mem_cons_of_mem _ inRest, different⟩

theorem not_mem_of_mem_lines {text line : List Char} (member : line ∈ lines text) : '\n' ∉ line :=
  fun feed => (mem_and_ne_of_mem_lines member feed).2 rfl

/-- The only breaks that the lines of a text can hold are carriage returns of the text. -/
theorem oneLine_of_mem_lines {text line : List Char} (noReturn : '\r' ∉ text) (member : line ∈ lines text) :
    OneLine line := by
  intro c inside
  obtain ⟨inText, noFeed⟩ := mem_and_ne_of_mem_lines member inside
  refine ⟨noFeed, ?_⟩
  rintro rfl
  exact noReturn inText

theorem mem_joinLines_cons_cons (first second : List Char) (rest : List (List Char)) :
    '\n' ∈ joinLines (first :: second :: rest) := by
  rw [joinLines]
  · exact List.mem_append_right _ (List.mem_cons_self ..)
  · exact List.cons_ne_nil _ _

theorem unifyBreaks_of_not_mem {text : List Char} (clean : '\r' ∉ text) : unifyBreaks text = text := by
  fun_induction unifyBreaks text with
  | case1 => rfl
  | case2 rest ih => simp at clean
  | case3 rest _ ih => simp at clean
  | case4 c rest _ _ ih => rw [ih (List.not_mem_of_not_mem_cons clean)]

theorem not_mem_joinLines {c : Char} {text : List (List Char)} (feed : c ≠ '\n')
    (clean : ∀ line ∈ text, c ∉ line) : c ∉ joinLines text := by
  fun_induction joinLines text with
  | case1 => simp
  | case2 line => exact clean line (List.mem_cons_self ..)
  | case3 line more _ ih =>
    intro member
    rcases List.mem_append.mp member with inLine | inRest
    · exact clean line (List.mem_cons_self ..) inLine
    · rcases List.mem_cons.mp inRest with same | later
      · exact feed same
      · exact ih (fun other inMore => clean other (List.mem_cons_of_mem _ inMore)) later

theorem lines_append {line : List Char} (single : OneLine line) (rest : List Char) :
    lines (line ++ '\n' :: rest) = line :: lines rest := by
  induction line with
  | nil => simp [lines]
  | cons c line ih =>
    obtain ⟨noFeed, noReturn⟩ := single c (List.mem_cons_self ..)
    rw [List.cons_append, lines, ih single.tail]
    · intro tail broken
      exact absurd broken noReturn
    · exact noFeed

theorem lines_of_oneLine {line : List Char} (single : OneLine line) (nonempty : line ≠ []) :
    lines line = [line] := by
  induction line with
  | nil => exact absurd rfl nonempty
  | cons c line ih =>
    obtain ⟨noFeed, noReturn⟩ := single c (List.mem_cons_self ..)
    have rest : lines line = [] ∧ line = [] ∨ lines line = [line] := by
      by_cases empty : line = []
      · exact Or.inl ⟨by rw [empty, lines], empty⟩
      · exact Or.inr (ih single.tail empty)
    rw [lines]
    · rcases rest with ⟨none, empty⟩ | one
      · rw [none, empty]
      · rw [one]
    · intro tail broken
      exact absurd broken noReturn
    · exact noFeed

/-- Reading the lines of joined lines gives them back, whether or not the last of them, which must
not be empty, is ended by a line feed of its own. -/
theorem lines_joinLines_append {text : List (List Char)} {last : List Char}
    (single : ∀ line ∈ text, OneLine line) (lastSingle : OneLine last) (nonempty : last ≠ [])
    (ended : Bool) :
    lines (joinLines (text ++ [last]) ++ if ended then ['\n'] else []) = text ++ [last] := by
  induction text with
  | nil =>
    cases ended with
    | false => simpa [joinLines] using lines_of_oneLine lastSingle nonempty
    | true => simpa [joinLines, lines] using lines_append lastSingle []
  | cons line more ih =>
    have joined : joinLines (line :: (more ++ [last])) = line ++ '\n' :: joinLines (more ++ [last]) := by
      cases more <;> rfl
    rw [List.cons_append, joined, List.append_assoc, List.cons_append,
      lines_append (single line (List.mem_cons_self ..)),
      ih fun other member => single other (List.mem_cons_of_mem _ member)]

theorem after?_eq_some_iff {start text rest : List Char} : after? start text = some rest ↔ text = start ++ rest := by
  induction start generalizing text with
  | nil => simp [after?]
  | cons s start ih =>
    cases text with
    | nil => simp [after?]
    | cons c text =>
      rw [after?]
      split
      · rename_i same
        rw [ih, same, List.cons_append, List.cons.injEq, and_iff_right rfl]
      · rename_i apart
        simp [Ne.symm apart]

theorem occursIn_iff {part text : List Char} : occursIn part text = true ↔ part <:+: text := by
  induction text with
  | nil => simp [occursIn]
  | cons c rest ih => rw [occursIn, Bool.or_eq_true, ih, List.isPrefixOf_iff_prefix, List.infix_cons_iff]

end ClassDocs
