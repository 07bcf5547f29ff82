import ClassDocs.Source.Scan

namespace ClassDocs

namespace Scan

/-- The state after the braces of a line were counted. -/
def State.advance (state : State) (braces : LineBraces) : State :=
  { state with depth := state.depth + braces.net, inBlock := braces.inBlock }

/-- Whether a line is read as code: outside doc blocks, methods and block comments, and neither
empty nor the first line of a doc block. -/
structure State.AtCode (state : State) (line : List Char) : Prop where
  between : state.place = .between
  outside : state.inBlock = false
  noDoc : opensDoc (trim line) = false
  visible : trim line ≠ []

/-- Whether a line is read as the declaration of a method. -/
structure State.ReadsMethod (state : State) (line name : List Char) : Prop extends
    state.AtCode line where
  known : state.found.isSome = true
  inside : state.depth = state.classDepth + 1
  declared : methodDeclaration? line = some name

/-- The outline of a method at the line that declares it. -/
def State.outlineAt (state : State) (path : String) (name : List Char) (number : Nat) : MethodOutline :=
  { name := String.ofList name, path := path, comment := state.pending, first := number, last := number }

/-- All that one line can do to the state of the scanner. -/
inductive Step (path : String) (state : State) (number : Nat) (line : List Char) : State → Prop
  | docGoesOn {before} (place : state.place = .docBlock before) (opened : closesBlock line = false) :
      Step path state number line { state with place := .docBlock (line :: before) }
  | docEnds {before} (place : state.place = .docBlock before) (closed : closesBlock line = true) :
      Step path state number line
        { state with
          pending := some (String.ofList (joinLines (line :: before).reverse)), place := .between }
  | bodyGoesOn {method base opened} (place : state.place = .method method base opened)
      (unfinished : opened = true ∨ 0 < (lineBraces state.inBlock line).opens →
        base < state.depth + (lineBraces state.inBlock line).net) :
      Step path state number line
        { state.advance (lineBraces state.inBlock line) with
          place := .method method base (opened || decide (0 < (lineBraces state.inBlock line).opens)) }
  | bodyEnds {method base opened} (place : state.place = .method method base opened)
      (started : opened = true ∨ 0 < (lineBraces state.inBlock line).opens)
      (finished : state.depth + (lineBraces state.inBlock line).net ≤ base) :
      Step path state number line
        (State.addMethod { state.advance (lineBraces state.inBlock line) with place := .between }
          { method with last := number })
  | docOpens (place : state.place = .between) (outside : state.inBlock = false)
      (doc : opensDoc (trim line) = true) (opened : closesBlock (trim line) = false) :
      Step path state number line { state with place := .docBlock [line] }
  | docLine (place : state.place = .between) (outside : state.inBlock = false)
      (doc : opensDoc (trim line) = true) (closed : closesBlock (trim line) = true) :
      Step path state number line { state with pending := some (String.ofList (trim line)) }
  | blank (place : state.place = .between) (empty : trim line = []) : Step path state number line state
  | inComment (place : state.place = .between) (inside : state.inBlock = true) (visible : trim line ≠ []) :
      Step path state number line (state.advance (lineBraces true line))
  | classDeclared {name parent} (code : state.AtCode line) (unknown : state.found = none)
      (declared : classDeclaration? line = some (name, parent)) :
      Step path state number line
        { state.advance (lineBraces false line) with
          found := some {
            name := String.ofList name
            path := path
            comment := state.pending
            parent := parent.map String.ofList
            methods := [] }
          classDepth := state.depth
          pending := none }
  | methodComplete {name} (reads : state.ReadsMethod line name)
      (complete : (lineBraces false line).opens = 0 ∧ (trim line).getLast? = some ';' ∨
        0 < (lineBraces false line).opens ∧ (lineBraces false line).net ≤ 0) :
      Step path state number line
        (State.addMethod { state.advance (lineBraces false line) with pending := none }
          (state.outlineAt path name number))
  | methodOpens {name} (reads : state.ReadsMethod line name)
      (bodied : (lineBraces false line).opens = 0 → (trim line).getLast? ≠ some ';')
      (unfinished : 0 < (lineBraces false line).opens → 0 < (lineBraces false line).net) :
      Step path state number line
        { state.advance (lineBraces false line) with
          pending := none
          place := .method (state.outlineAt path name number) state.depth
            (decide (0 < (lineBraces false line).opens)) }
  | passes (code : state.AtCode line)
      (noClass : state.found = none → classDeclaration? line = none)
      (noMethod : ∀ name, ¬ state.ReadsMethod line name) :
      Step path state number line
        { state.advance (lineBraces false line) with
          pending := if isCommentLine (trim line) then state.pending else none }

theorem State.continueMethod_spec (path : String) (state : State) (number : Nat) (line : List Char)
    {method : MethodOutline} {base : Int} {opened : Bool}
    (place : state.place = .method method base opened) :
    Step path state number line (state.continueMethod method base opened number line) := by
  unfold State.continueMethod State.settleMethod
  by_cases done : (opened || decide (0 < (lineBraces state.inBlock line).opens)) = true ∧
      state.depth + (lineBraces state.inBlock line).net ≤ base
  · rw [if_pos (by simpa using done)]
    exact .bodyEnds place (by simpa using done.1) done.2
  · rw [if_neg (by simpa using done)]
    refine .bodyGoesOn place fun started => ?_
    exact Int.not_le.mp fun finished => done ⟨by simpa using started, finished⟩

theorem State.declareMethod_spec (path : String) (state : State) (number : Nat) {line name : List Char}
    (reads : state.ReadsMethod line name) :
    Step path state number line
      (state.declareMethod path name number line (lineBraces false line)) := by
  unfold State.declareMethod State.settleMethod
  split
  · rename_i bodiless
    exact .methodComplete reads (Or.inl (by simpa using bodiless))
  · rename_i bodied
    have withBody : (lineBraces false line).opens = 0 → (trim line).getLast? ≠ some ';' := by
      intro none semicolon
      exact bodied (by simp [none, semicolon])
    dsimp only
    split
    · rename_i done
      simp only [Bool.and_eq_true, decide_eq_true_eq] at done
      have stays : ({ state with
          pending := none
          depth := state.depth + (lineBraces false line).net
          inBlock := (lineBraces false line).inBlock
          place := .between } : State) =
          { state.advance (lineBraces false line) with pending := none } := by
        rw [State.advance, reads.between]
      rw [stays]
      exact .methodComplete reads (Or.inr ⟨done.1, by omega⟩)
    · rename_i going
      simp only [Bool.and_eq_true, decide_eq_true_eq, not_and] at going
      exact .methodOpens reads withBody fun started => by
        have above := going started
        omega

theorem State.readCode_spec (path : String) (state : State) (number : Nat) {line : List Char}
    (place : state.place = .between) (noDoc : state.inBlock = false → opensDoc (trim line) = false)
    (visible : trim line ≠ []) :
    Step path state number line (state.readCode path number line) := by
  unfold State.readCode
  cases block : state.inBlock with
  | true => exact .inComment place block visible
  | false =>
    have code : state.AtCode line := ⟨place, block, noDoc block, visible⟩
    simp only [Bool.false_eq_true, if_false]
    split
    · rename_i unknown
      have absent : state.found = none := Option.isNone_iff_eq_none.mp unknown
      have noMethod : ∀ name, ¬ state.ReadsMethod line name := by
        intro name reads
        have known := reads.known
        simp [absent] at known
      split
      · rename_i name parent declared
        have step : Step path state number line _ := .classDeclared code absent declared
        simpa only [State.passLine, State.declareClass, State.advance, ite_self] using step
      · rename_i undeclared
        exact .passes code (fun _ => undeclared) noMethod
    · rename_i known
      have noClass : state.found = none → classDeclaration? line = none := by
        intro absent
        simp [absent] at known
      split
      · rename_i inside
        split
        · rename_i name declared
          have reads : state.ReadsMethod line name :=
            ⟨code, Option.isSome_iff_ne_none.mpr (by simpa using known), inside, declared⟩
          exact state.declareMethod_spec path number reads
        · rename_i undeclared
          refine .passes code noClass fun name reads => ?_
          simp [reads.declared] at undeclared
      · rename_i outside
        exact .passes code noClass fun name reads => outside reads.inside

/-- The scanner takes one of the listed steps, and the one whose conditions hold. -/
theorem State.step_spec (path : String) (state : State) (number : Nat) (line : List Char) :
    Step path state number line (state.step path number line) := by
  unfold State.step
  split
  · rename_i before place
    unfold State.continueDoc
    split
    · rename_i closed
      exact .docEnds place closed
    · rename_i opened
      exact .docGoesOn place (by simpa using opened)
  · rename_i method base opened place
    exact state.continueMethod_spec path number line place
  · rename_i place
    split
    · rename_i doc
      simp only [Bool.and_eq_true, Bool.not_eq_true'] at doc
      unfold State.openDoc
      dsimp only
      split
      · rename_i closed
        exact .docLine place doc.1 doc.2 closed
      · rename_i opened
        exact .docOpens place doc.1 doc.2 (by simpa using opened)
    · rename_i noDoc
      split
      · rename_i empty
        exact .blank place (by simpa using empty)
      · rename_i visible
        exact state.readCode_spec path number place (by simpa using noDoc) (by simpa using visible)

end Scan

end ClassDocs
