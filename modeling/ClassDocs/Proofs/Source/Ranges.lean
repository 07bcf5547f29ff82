import ClassDocs.Proofs.Source.RoundTrip
import ClassDocs.Source.Slice

namespace ClassDocs

theorem length_lineRange {text : List Char} {first last : Nat} (positive : 0 < first)
    (ordered : first ≤ last) (bounded : last ≤ (lines text).length) :
    (lineRange text first last).length = last - first + 1 := by
  rw [lineRange, List.length_take, List.length_drop]
  omega

theorem head?_lineRange {text line : List Char} {first last : Nat} (positive : 0 < first)
    (ordered : first ≤ last) (here : (lines text)[first - 1]? = some line) :
    (lineRange text first last).head? = some line := by
  have some : last + 1 - max first 1 ≠ 0 := by omega
  rw [lineRange, List.head?_take, if_neg some, List.head?_drop, here]

/-- A slice that is not empty consists of the lines of its range, each without as many characters as
the first of them has white space in front. -/
theorem splitAtChar_slice {content : String} {first last : Nat} {line : List Char}
    (starts : (lineRange content.toList first last).head? = some line) :
    splitAtChar '\n' (slice content first last).toList =
      (lineRange content.toList first last).map (List.drop (line.takeWhile isBlank).length) := by
  have width : (lineRange content.toList first last).headD [] = line := by
    rw [List.headD_eq_head?_getD, starts, Option.getD_some]
  have nonempty : lineRange content.toList first last ≠ [] := by
    intro empty
    simp [empty] at starts
  have clean : ∀ piece ∈ (lineRange content.toList first last).map
      (List.drop (line.takeWhile isBlank).length), '\n' ∉ piece := by
    intro piece member feed
    obtain ⟨whole, inRange, rfl⟩ := List.mem_map.mp member
    have inText : whole ∈ lines content.toList := List.mem_of_mem_drop (List.mem_of_mem_take inRange)
    exact not_mem_of_mem_lines inText (List.mem_of_mem_drop feed)
  rw [slice, String.toList_ofList, width]
  exact splitAtChar_joinLines_of_not_mem (by simpa using nonempty) clean

theorem drop_length_takeWhile_isBlank (line : List Char) :
    line.drop (line.takeWhile isBlank).length = trimStart line := by
  have dropped := @List.drop_left _ (line.takeWhile isBlank) (line.dropWhile isBlank)
  rwa [List.takeWhile_append_dropWhile] at dropped

namespace Scan

/-- A method as it can be reported after the first `count` lines of a text: its first line declares
it, and its last line has been read. -/
structure Fits (path : String) (text : List (List Char)) (count : Nat) (method : MethodOutline) : Prop where
  own : method.path = path
  positive : 0 < method.first
  ordered : method.first ≤ method.last
  bounded : method.last ≤ count
  declared : ∃ line, text[method.first - 1]? = some line ∧
    methodDeclaration? line = some method.name.toList

theorem Fits.ended {path : String} {text : List (List Char)} {count number : Nat} {method : MethodOutline}
    (fits : Fits path text count method) (later : count ≤ number) :
    Fits path text number { method with last := number } where
  own := fits.own
  positive := fits.positive
  ordered := Nat.le_trans fits.ordered (Nat.le_trans fits.bounded later)
  bounded := Nat.le_refl number
  declared := fits.declared

/-- What holds of every method that is complete and of the one that is open. -/
structure State.Each (Holds : MethodOutline → Prop) (state : State) : Prop where
  complete : ∀ outline, state.found = some outline → ∀ method ∈ outline.methods, Holds method
  opened : ∀ method base opened, state.place = .method method base opened → Holds method

variable {path : String} {text : List (List Char)} {state next : State} {number count : Nat}
  {line : List Char}

theorem State.Each.start (Holds : MethodOutline → Prop) : ({} : State).Each Holds :=
  ⟨fun _ found => (by cases found), fun _ _ _ place => by cases place⟩

theorem State.Each.addMethod {Holds : MethodOutline → Prop} {method : MethodOutline}
    (each : state.Each Holds) (holds : Holds method) : (state.addMethod method).Each Holds := by
  refine ⟨fun outline found other member => ?_, each.opened⟩
  simp only [State.addMethod, Option.map_eq_some_iff] at found
  obtain ⟨before, known, rfl⟩ := found
  rcases List.mem_append.mp member with old | new
  · exact each.complete before known other old
  · rwa [List.mem_singleton.mp new]

/-- Every method of the next state is one of the last, or the open one that the line ended, or the
one that the line declares. -/
theorem Step.each {Before After : MethodOutline → Prop} (step : Step path state number line next)
    (each : state.Each Before) (kept : ∀ method, Before method → After method)
    (ended : ∀ method, Before method → After { method with last := number })
    (declared : ∀ name, state.ReadsMethod line name → After (state.outlineAt path name number)) :
    next.Each After := by
  have complete : ∀ outline, state.found = some outline → ∀ method ∈ outline.methods, After method :=
    fun outline found method member => kept method (each.complete outline found method member)
  have opened : ∀ method base opened, state.place = .method method base opened → After method :=
    fun method base opened place => kept method (each.opened method base opened place)
  cases step with
  | docGoesOn place | docEnds place | docOpens place => exact ⟨complete, fun _ _ _ new => by cases new⟩
  | docLine place | blank place | inComment place => exact ⟨complete, opened⟩
  | bodyGoesOn place =>
    refine ⟨complete, fun method base opened new => ?_⟩
    cases new
    exact opened _ _ _ place
  | bodyEnds place =>
    refine State.Each.addMethod ⟨complete, fun _ _ _ new => by cases new⟩ ?_
    exact ended _ (each.opened _ _ _ place)
  | classDeclared code =>
    refine ⟨fun outline found method member => ?_, opened⟩
    cases found
    cases member
  | methodComplete reads =>
    exact State.Each.addMethod ⟨complete, opened⟩ (declared _ reads)
  | methodOpens reads =>
    refine ⟨complete, fun method base opened new => ?_⟩
    cases new
    exact declared _ reads
  | passes code => exact ⟨complete, opened⟩

/-- Every method that is reported at the end of the text was complete there, or ends with the text. -/
theorem State.Each.finish {Before After : MethodOutline → Prop} (each : state.Each Before)
    (kept : ∀ method, Before method → After method)
    (ended : ∀ method, Before method → After { method with last := number }) {outline : ClassOutline}
    (found : (state.finish number).found = some outline) : ∀ method ∈ outline.methods, After method := by
  have complete : state.Each After :=
    ⟨fun outline found method member => kept method (each.complete outline found method member),
      fun method base opened place => kept method (each.opened method base opened place)⟩
  unfold State.finish at found
  split at found
  · rename_i method base opened place
    exact (complete.addMethod (ended method (each.opened _ _ _ place))).complete _ found
  · exact complete.complete _ found

theorem fits_after (path : String) (text : List (List Char)) (count : Nat) (bounded : count ≤ text.length) :
    (after path text count).Each (Fits path text count) := by
  induction count with
  | zero => exact .start _
  | succ count ih =>
    have here : text[count]? = some text[count] := List.getElem?_eq_getElem (by omega)
    rw [after_succ here]
    refine ((after path text count).step_spec path (count + 1) _).each (ih (by omega)) ?_ ?_ ?_
    · intro method fits
      exact { fits with bounded := Nat.le_succ_of_le fits.bounded }
    · intro method fits
      exact fits.ended (Nat.le_succ count)
    · intro name reads
      refine ⟨rfl, Nat.succ_pos count, Nat.le_refl _, Nat.le_refl _, text[count], here, ?_⟩
      rw [State.outlineAt, String.toList_ofList]
      exact reads.declared

/-- The range of every reported method lies in the text and begins with its declaration, also when
the text ends before the method does. -/
theorem fits_of_scan {name path content : String} {outline : ClassOutline}
    (found : scan name path content = .ok outline) :
    ∀ method ∈ outline.methods,
      Fits path (lines content.toList) (lines content.toList).length method := by
  have each := fits_after path (lines content.toList) _ (Nat.le_refl _)
  exact each.finish (fun _ fits => fits) (fun _ fits => fits.ended (Nat.le_refl _)) (scan_eq_ok_iff.mp found)

/-- The source of a method that fits a text: as many lines as its range has, the first of them its
declaration without the white space in front. -/
theorem Fits.slice {path content : String} {method : MethodOutline}
    (fits : Fits path (lines content.toList) (lines content.toList).length method) :
    ∃ line, (lines content.toList)[method.first - 1]? = some line ∧
      methodDeclaration? line = some method.name.toList ∧
      (splitAtChar '\n' (slice content method.first method.last).toList).length =
        method.last - method.first + 1 ∧
      (splitAtChar '\n' (slice content method.first method.last).toList).head? = some (trimStart line) ∧
      trimStart line ≠ [] := by
  obtain ⟨line, here, declared⟩ := fits.declared
  have starts := head?_lineRange fits.positive fits.ordered here
  have shown := splitAtChar_slice starts
  obtain ⟨c, rest, visible, _⟩ := trimStart_of_methodDeclaration? declared
  refine ⟨line, here, declared, ?_, ?_, by simp [visible]⟩
  · rw [shown, List.length_map, length_lineRange fits.positive fits.ordered fits.bounded]
  · rw [shown, List.head?_map, starts, Option.map_some, drop_length_takeWhile_isBlank]

theorem Fits.slice_ne_empty {path content : String} {method : MethodOutline}
    (fits : Fits path (lines content.toList) (lines content.toList).length method) :
    ClassDocs.slice content method.first method.last ≠ "" := by
  obtain ⟨line, _, _, _, starts, visible⟩ := fits.slice
  intro empty
  rw [empty] at starts
  exact visible (Option.some.inj starts).symm

end Scan

end ClassDocs
