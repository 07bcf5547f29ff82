import ClassDocs.Proofs.Source.ScanStep
import ClassDocs.Proofs.Text.Words

namespace ClassDocs

namespace Scan

theorem run_append (path : String) (state : State) (number : Nat) (first second : List (List Char)) :
    run path state number (first ++ second) =
      run path (run path state number first) (number + first.length) second := by
  induction first generalizing state number with
  | nil => rfl
  | cons line rest ih =>
    rw [List.cons_append, run, run, ih, List.length_cons, Nat.add_right_comm, Nat.add_assoc]

/-- The lines `first` to `last` of a text, counted from one. -/
def linesOver (text : List (List Char)) (first last : Nat) : List (List Char) :=
  (text.drop (first - 1)).take (last + 1 - first)

theorem linesOver_succ {text : List (List Char)} {first count : Nat} {line : List Char} (positive : 0 < first)
    (order : first ≤ count + 1) (here : text[count]? = some line) :
    linesOver text first (count + 1) = linesOver text first count ++ [line] := by
  have place : first - 1 + (count + 1 - first) = count := by omega
  have longer : count + 1 + 1 - first = (count + 1 - first) + 1 := by omega
  rw [linesOver, longer, List.take_add_one, List.getElem?_drop, place, here, Option.toList_some, linesOver]

theorem linesOver_self {text : List (List Char)} {count : Nat} {line : List Char}
    (here : text[count]? = some line) : linesOver text (count + 1) (count + 1) = [line] := by
  rw [linesOver_succ (Nat.succ_pos count) (Nat.le_refl _) here, linesOver, Nat.sub_self, List.take_zero,
    List.nil_append]

/-- What the scanner knows after the first `count` lines of a text. -/
def after (path : String) (text : List (List Char)) (count : Nat) : State :=
  run path {} 1 (text.take count)

theorem after_succ {path : String} {text : List (List Char)} {count : Nat} {line : List Char}
    (here : text[count]? = some line) :
    after path text (count + 1) = (after path text count).step path (count + 1) line := by
  obtain ⟨bound, _⟩ := List.getElem?_eq_some_iff.mp here
  have length : (text.take count).length = count := List.length_take_of_le (Nat.le_of_lt bound)
  rw [after, List.take_add_one, here, Option.toList_some, run_append, length, Nat.add_comm 1 count]
  rfl

theorem after_of_length_le {path : String} {text : List (List Char)} {count : Nat}
    (past : text.length ≤ count) : after path text count = run path {} 1 text := by
  rw [after, List.take_of_length_le past]

theorem after_succ_of_none {path : String} {text : List (List Char)} {count : Nat}
    (here : text[count]? = none) : after path text (count + 1) = after path text count := by
  have past := List.getElem?_eq_none_iff.mp here
  rw [after_of_length_le (Nat.le_succ_of_le past), ← after_of_length_le past]

theorem scan_eq_ok_iff {name path content : String} {outline : ClassOutline} :
    scan name path content = .ok outline ↔
      ((after path (lines content.toList) (lines content.toList).length).finish
        (lines content.toList).length).found = some outline := by
  rw [after_of_length_le (Nat.le_refl _), scan]
  cases ((run path {} 1 (lines content.toList)).finish (lines content.toList).length).found with
  | none => simp
  | some known => simp

/-- What every step preserves holds all along a run. -/
theorem after_invariant {path : String} {text : List (List Char)} {Holds : State → Prop}
    (start : Holds {})
    (step : ∀ state number line, Holds state → Holds (state.step path number line)) (count : Nat) :
    Holds (after path text count) := by
  induction count with
  | zero => simpa [after, run] using start
  | succ count ih =>
    cases here : text[count]? with
    | some line =>
      rw [after_succ here]
      exact step _ _ _ ih
    | none =>
      rw [after_succ_of_none here]
      exact ih

/-- The braces that the scanner counts on a line. Lines of doc blocks have none for it. -/
def State.counted (state : State) (line : List Char) : LineBraces :=
  match state.place with
  | .docBlock _ => ⟨0, 0, state.inBlock⟩
  | .method .. => lineBraces state.inBlock line
  | .between =>
    if !state.inBlock && opensDoc (trim line) || (trim line).isEmpty then ⟨0, 0, state.inBlock⟩
    else lineBraces state.inBlock line

theorem State.AtCode.counted {state : State} {line : List Char} (code : state.AtCode line) :
    state.counted line = lineBraces false line := by
  simp [State.counted, code.between, code.outside, code.noDoc, code.visible]

@[simp] theorem State.advance_depth (state : State) (braces : LineBraces) :
    (state.advance braces).depth = state.depth + braces.net := rfl

@[simp] theorem State.advance_inBlock (state : State) (braces : LineBraces) :
    (state.advance braces).inBlock = braces.inBlock := rfl

@[simp] theorem State.advance_found (state : State) (braces : LineBraces) :
    (state.advance braces).found = state.found := rfl

@[simp] theorem State.advance_place (state : State) (braces : LineBraces) :
    (state.advance braces).place = state.place := rfl

@[simp] theorem State.addMethod_depth (state : State) (method : MethodOutline) :
    (state.addMethod method).depth = state.depth := rfl

@[simp] theorem State.addMethod_inBlock (state : State) (method : MethodOutline) :
    (state.addMethod method).inBlock = state.inBlock := rfl

@[simp] theorem State.addMethod_place (state : State) (method : MethodOutline) :
    (state.addMethod method).place = state.place := rfl

/-- Depth and block comment flag are those of the braces that the scanner counts. -/
theorem Step.lexical {path : String} {state next : State} {number : Nat} {line : List Char}
    (step : Step path state number line next) :
    next.depth = state.depth + (state.counted line).net ∧ next.inBlock = (state.counted line).inBlock := by
  have uncounted (block : Bool) : (⟨0, 0, block⟩ : LineBraces).net = 0 := rfl
  cases step with
  | docGoesOn place | docEnds place => simp [State.counted, place, uncounted]
  | bodyGoesOn place | bodyEnds place => simp [State.counted, place]
  | docOpens place outside doc | docLine place outside doc =>
    simp [State.counted, place, outside, doc, uncounted]
  | blank place empty => simp [State.counted, place, empty, uncounted]
  | inComment place inside visible => simp [State.counted, place, inside, visible]
  | classDeclared code => simp [code.counted]
  | methodComplete reads | methodOpens reads => simp [reads.toAtCode.counted]
  | passes code => simp [code.counted]

/-- Once a class is found it stays, and so does the nesting at which it was declared. -/
theorem Step.found_isSome {path : String} {state next : State} {number : Nat} {line : List Char}
    (step : Step path state number line next) (known : state.found.isSome = true) :
    next.found.isSome = true ∧ next.classDepth = state.classDepth := by
  cases step with
  | classDeclared _ unknown => simp [unknown] at known
  | bodyEnds | methodComplete => simpa [State.addMethod, State.advance] using known
  | _ => exact ⟨known, rfl⟩

theorem Step.class_declared {path : String} {state next : State} {number : Nat} {line : List Char}
    (step : Step path state number line next) (unknown : state.found = none)
    (known : next.found.isSome = true) : next.classDepth = state.depth := by
  cases step with
  | classDeclared => rfl
  | methodComplete reads => simpa [unknown] using reads.known
  | _ => simp_all [State.addMethod]

end Scan

end ClassDocs
