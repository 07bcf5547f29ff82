import ClassDocs.Proofs.Source.BlockComments
import ClassDocs.Proofs.Source.DocBlocks

namespace ClassDocs

namespace Scan

/-- Whether the scanner is inside a doc block. -/
def State.inDoc (state : State) : Bool :=
  match state.place with
  | .docBlock _ => true
  | _ => false

/-- Whether a line belongs to a doc block, which may begin with it. -/
def State.readsDoc (state : State) (line : List Char) : Bool :=
  match state.place with
  | .docBlock _ => true
  | .method .. => false
  | .between => !state.inBlock && opensDoc (trim line)

/-- Doc blocks are read outside of block comments only. -/
def State.DocsOutside (state : State) : Prop :=
  state.inDoc = true → state.inBlock = false

section Steps

variable {path : String} {state next : State} {number : Nat} {line : List Char}

theorem State.place_ne_docBlock (outside : state.inDoc = false) (before : List (List Char)) :
    state.place ≠ .docBlock before := by
  intro place
  simp [State.inDoc, place] at outside

theorem State.readsDoc_of_inDoc (inside : state.inDoc = true) : state.readsDoc line = true := by
  unfold State.inDoc at inside
  unfold State.readsDoc
  cases place : state.place with
  | docBlock => rfl
  | between | method => simp [place] at inside

theorem State.AtCode.readsDoc (code : state.AtCode line) : state.readsDoc line = false := by
  rw [State.readsDoc, code.between, code.noDoc, Bool.and_false]

theorem State.endsDoc_eq (state : State) (line : List Char) :
    state.endsDoc line = (state.readsDoc line && closesBlock line) := by
  unfold State.endsDoc State.readsDoc
  cases state.place with
  | docBlock => rfl
  | method => rfl
  | between => rw [closesBlock_trim]

/-- The scanner counts the braces of all lines but those of doc blocks. An empty line has none. -/
theorem State.counted_eq (state : State) (line : List Char) :
    state.counted line = if state.readsDoc line then ⟨0, 0, state.inBlock⟩ else lineBraces state.inBlock line := by
  unfold State.counted State.readsDoc
  cases state.place with
  | docBlock => rfl
  | method => rfl
  | between =>
    by_cases empty : trim line = []
    · simp [empty, lineBraces_of_trim_eq_nil]
    · simp [empty]

/-- A doc block goes on behind a line exactly if the line belongs to it and does not close it. -/
theorem Step.inDoc_eq (step : Step path state number line next) :
    next.inDoc = (state.readsDoc line && !closesBlock line) := by
  cases step with
  | docGoesOn place opened => simp [State.inDoc, State.readsDoc, place, opened]
  | docEnds place closed => simp [State.inDoc, State.readsDoc, closed]
  | bodyGoesOn place | bodyEnds place => simp [State.inDoc, State.readsDoc, place]
  | docOpens place outside doc opened =>
    rw [closesBlock_trim] at opened
    simp [State.inDoc, State.readsDoc, place, outside, doc, opened]
  | docLine place outside doc closed =>
    rw [closesBlock_trim] at closed
    simp [State.inDoc, place, closed]
  | blank place empty => simp [State.inDoc, State.readsDoc, place, empty, opensDoc]
  | inComment place inside => simp [State.inDoc, State.readsDoc, place, inside]
  | classDeclared code | passes code => simp [State.inDoc, code.between, code.readsDoc]
  | methodComplete reads => simp [State.inDoc, reads.between, reads.readsDoc]
  | methodOpens reads => simp [State.inDoc, reads.readsDoc]

theorem Step.between_of_endsDoc (step : Step path state number line next) (ends : state.endsDoc line = true) :
    next.place = .between := by
  cases step with
  | docEnds => rfl
  | docLine place => exact place
  | docGoesOn place opened | docOpens place _ _ opened => simp [State.endsDoc, place, opened] at ends
  | bodyGoesOn place | bodyEnds place => simp [State.endsDoc, place] at ends
  | blank place | inComment place => exact place
  | classDeclared code | passes code => exact code.between
  | methodComplete reads => exact reads.between
  | methodOpens reads => simp [State.endsDoc_eq, reads.readsDoc] at ends

theorem State.DocsOutside.inBlock_eq (outside : state.DocsOutside) (reads : state.readsDoc line = true) :
    state.inBlock = false := by
  cases inside : state.inDoc with
  | true => exact outside inside
  | false =>
    unfold State.readsDoc at reads
    cases place : state.place with
    | docBlock => exact absurd place (State.place_ne_docBlock inside _)
    | method => simp [place] at reads
    | between =>
      rw [place, Bool.and_eq_true] at reads
      simpa using reads.1

theorem Step.docsOutside (step : Step path state number line next) (outside : state.DocsOutside) :
    next.DocsOutside := by
  intro inside
  rw [step.inDoc_eq, Bool.and_eq_true] at inside
  rw [step.lexical.2, State.counted_eq, if_pos inside.1]
  exact outside.inBlock_eq inside.1

end Steps

theorem after_docsOutside (path : String) (text : List (List Char)) (count : Nat) :
    (after path text count).DocsOutside :=
  after_invariant (fun inside => by cases inside)
    (fun state number line outside => (state.step_spec path number line).docsOutside outside) count

/-- The lines `first` to `last` belong to one doc block, which none of them closes but perhaps the
last. -/
structure DocLines (path : String) (text : List (List Char)) (first last : Nat) : Prop where
  opening : ∃ line, text[first - 1]? = some line ∧ opensDoc (trim line) = true
  unclosed : ∀ number line, first ≤ number → number < last → text[number - 1]? = some line →
    closesBlock line = false
  read : ∀ number line, first ≤ number → number ≤ last → text[number - 1]? = some line →
    (after path text (number - 1)).readsDoc line = true

section Runs

variable {path : String} {text : List (List Char)} {count : Nat} {line : List Char}

theorem docStart_of_inDoc (inside : (after path text (count + 1)).inDoc = true) :
    docStart path text (count + 1) = docStart path text count := by
  rw [docStart]
  cases place : (after path text (count + 1)).place with
  | docBlock => rfl
  | between | method => simp [State.inDoc, place] at inside

theorem docStart_of_not_inDoc (outside : (after path text count).inDoc = false) :
    docStart path text count = count + 1 :=
  docStart_eq (State.place_ne_docBlock outside)

theorem docStart_of_not_readsDoc (reads : (after path text count).readsDoc line = false) :
    docStart path text count = count + 1 := by
  refine docStart_of_not_inDoc (Bool.eq_false_iff.mpr fun inside => ?_)
  rw [State.readsDoc_of_inDoc inside] at reads
  cases reads

/-- A doc block that begins where the scanner has been outside of one begins behind that place. -/
theorem lt_docStart {earlier : Nat} (outside : (after path text earlier).inDoc = false) (order : earlier ≤ count) :
    earlier < docStart path text count := by
  induction order with
  | refl =>
    rw [docStart_of_not_inDoc outside]
    exact Nat.lt_succ_self earlier
  | @step count order ih =>
    cases inside : (after path text (count + 1)).inDoc with
    | true => rwa [docStart_of_inDoc inside]
    | false =>
      rw [docStart_of_not_inDoc inside]
      exact Nat.lt_of_le_of_lt order (by omega)

theorem DocLines.single (here : text[count]? = some line) (doc : opensDoc (trim line) = true)
    (reads : (after path text count).readsDoc line = true) : DocLines path text (count + 1) (count + 1) := by
  refine ⟨⟨line, here, doc⟩, fun number _ lower upper => by omega, fun number other lower upper found => ?_⟩
  cases Nat.le_antisymm upper lower
  cases Option.some.inj (here.symm.trans found)
  exact reads

theorem DocLines.extend {first : Nat} {previous : List Char} (earlier : DocLines path text first (count + 1))
    (before : text[count]? = some previous) (unclosed : closesBlock previous = false)
    (here : text[count + 1]? = some line) (reads : (after path text (count + 1)).readsDoc line = true) :
    DocLines path text first (count + 2) := by
  refine ⟨earlier.opening, fun number other lower upper found => ?_, fun number other lower upper found => ?_⟩
  · by_cases last : number = count + 1
    · subst last
      cases Option.some.inj (before.symm.trans found)
      exact unclosed
    · exact earlier.unclosed number other lower (by omega) found
  · by_cases last : number = count + 2
    · subst last
      cases Option.some.inj (here.symm.trans found)
      exact reads
    · exact earlier.read number other lower (by omega) found

/-- A line of a doc block stands in one that the scanner has read from its first line on. -/
theorem docLines_of_readsDoc (here : text[count]? = some line)
    (reads : (after path text count).readsDoc line = true) :
    DocLines path text (docStart path text count) (count + 1) := by
  induction count generalizing line with
  | zero => exact .single here reads reads
  | succ count ih =>
    cases place : (after path text (count + 1)).place with
    | method => simp [State.readsDoc, place] at reads
    | between =>
      have doc := reads
      rw [State.readsDoc, place, Bool.and_eq_true] at doc
      rw [docStart_eq (by simp [place])]
      exact .single here doc.2 reads
    | docBlock before =>
      -- the doc block was open in front of this line, so the line before belongs to it too
      obtain ⟨bound, _⟩ := List.getElem?_eq_some_iff.mp here
      have previous : text[count]? = some text[count] := List.getElem?_eq_getElem (by omega)
      have step := (after path text count).step_spec path (count + 1) text[count]
      rw [← after_succ previous] at step
      have inside : (after path text (count + 1)).inDoc = true := by rw [State.inDoc, place]
      rw [docStart_of_inDoc inside]
      rw [step.inDoc_eq, Bool.and_eq_true, Bool.not_eq_true'] at inside
      exact (ih previous inside.1).extend previous inside.2 here reads

end Runs

end Scan

end ClassDocs
