import ClassDocs.Proofs.Source.ClassBody
import ClassDocs.Proofs.Source.Ranges

namespace ClassDocs

namespace Scan

/-- Whether a line ends a doc block, be it one of several lines or one that begins there too. -/
def State.endsDoc (state : State) (line : List Char) : Bool :=
  match state.place with
  | .docBlock _ => closesBlock line
  | .method .. => false
  | .between => !state.inBlock && opensDoc (trim line) && closesBlock (trim line)

/-- The line at which a doc block began that takes in the line after the first `count`. If none was
open it can only begin there. -/
def docStart (path : String) (text : List (List Char)) : Nat → Nat
  | 0 => 1
  | count + 1 =>
    match (after path text (count + 1)).place with
    | .docBlock _ => docStart path text count
    | _ => count + 2

/-- The first and the last line of the doc block that is pending after the first `count` lines, so
that a declaration on the next line takes it. -/
def pendingBlock (path : String) (text : List (List Char)) : Nat → Option (Nat × Nat)
  | 0 => none
  | count + 1 =>
    if text[count]?.any (after path text count).endsDoc then some (docStart path text count, count + 1)
    else if (after path text (count + 1)).pending.isSome then pendingBlock path text count
    else none

/-- What a doc block says: its lines, or without the white space around it the only one. -/
def blockText (text : List (List Char)) (block : Nat × Nat) : String :=
  if block.1 = block.2 then String.ofList (trim (linesOver text block.1 block.2).flatten)
  else String.ofList (joinLines (linesOver text block.1 block.2))

section Steps

variable {path : String} {text : List (List Char)} {state next : State} {number count : Nat}
  {line : List Char}

/-- All that one line can do to the pending doc block: put another one in its place, leave it, or
let it go. -/
theorem Step.pending (step : Step path state number line next) :
    (∃ before, state.place = .docBlock before ∧ state.endsDoc line = true ∧
      next.pending = some (String.ofList (joinLines (line :: before).reverse))) ∨
    (state.place = .between ∧ state.endsDoc line = true ∧ next.pending = some (String.ofList (trim line))) ∨
    state.endsDoc line = false ∧ (next.pending = state.pending ∨ next.pending = none) := by
  cases step with
  | docGoesOn place opened => exact Or.inr (Or.inr ⟨by simp [State.endsDoc, place, opened], Or.inl rfl⟩)
  | docEnds place closed => exact Or.inl ⟨_, place, by simp [State.endsDoc, place, closed], rfl⟩
  | bodyGoesOn place | bodyEnds place =>
    exact Or.inr (Or.inr ⟨by simp [State.endsDoc, place], Or.inl rfl⟩)
  | docOpens place outside doc opened =>
    exact Or.inr (Or.inr ⟨by simp [State.endsDoc, place, opened], Or.inl rfl⟩)
  | docLine place outside doc closed =>
    exact Or.inr (Or.inl ⟨place, by simp [State.endsDoc, place, outside, doc, closed], rfl⟩)
  | blank place empty =>
    exact Or.inr (Or.inr ⟨by simp [State.endsDoc, place, empty, opensDoc], Or.inl rfl⟩)
  | inComment place inside =>
    exact Or.inr (Or.inr ⟨by simp [State.endsDoc, place, inside], Or.inl rfl⟩)
  | classDeclared code | methodComplete code | methodOpens code =>
    exact Or.inr (Or.inr ⟨by simp [State.endsDoc, code.between, code.noDoc], Or.inr rfl⟩)
  | passes code =>
    refine Or.inr (Or.inr ⟨by simp [State.endsDoc, code.between, code.noDoc], ?_⟩)
    by_cases comment : isCommentLine (trim line)
    · exact Or.inl (by simp [comment])
    · exact Or.inr (by simp [comment])

theorem Step.docBlock (step : Step path state number line next) {before : List (List Char)}
    (place : next.place = .docBlock before) :
    (∃ earlier, state.place = .docBlock earlier ∧ before = line :: earlier) ∨
      state.place = .between ∧ before = [line] := by
  cases step with
  | docGoesOn inside =>
    cases place
    exact Or.inl ⟨_, inside, rfl⟩
  | docOpens outside =>
    cases place
    exact Or.inr ⟨outside, rfl⟩
  | docEnds | bodyGoesOn | bodyEnds | methodOpens => cases place
  | docLine outside | blank outside | inComment outside => cases outside.symm.trans place
  | classDeclared code | passes code => cases code.between.symm.trans place
  | methodComplete reads => cases reads.between.symm.trans place

theorem docStart_pos (count : Nat) : 0 < docStart path text count := by
  induction count with
  | zero => exact Nat.one_pos
  | succ count ih =>
    rw [docStart]
    split
    · exact ih
    · exact Nat.succ_pos _

theorem docStart_eq (outside : ∀ before, (after path text count).place ≠ .docBlock before) :
    docStart path text count = count + 1 := by
  cases count with
  | zero => rfl
  | succ count =>
    rw [docStart]
    split
    · rename_i before place
      exact absurd place (outside before)
    · rfl

/-- The lines of the doc block that the scanner is inside of are those since it began. -/
theorem docBlock_after (path : String) {text : List (List Char)} {count : Nat} (bounded : count ≤ text.length)
    {before : List (List Char)} (place : (after path text count).place = .docBlock before) :
    docStart path text count ≤ count ∧ before.reverse = linesOver text (docStart path text count) count := by
  induction count generalizing before with
  | zero => cases place
  | succ count ih =>
    have here : text[count]? = some text[count] := List.getElem?_eq_getElem (by omega)
    rw [docStart, place]
    rw [after_succ here] at place
    -- Only a line of a doc block that stays open, or the first line of one, leaves the scanner in one.
    rcases ((after path text count).step_spec path (count + 1) text[count]).docBlock place with
      ⟨earlier, inside, rfl⟩ | ⟨outside, rfl⟩
    · obtain ⟨order, known⟩ := ih (by omega) inside
      refine ⟨Nat.le_succ_of_le order, ?_⟩
      rw [linesOver_succ (docStart_pos count) (Nat.le_succ_of_le order) here, ← known, List.reverse_cons]
    · rw [docStart_eq (by simp [outside]), linesOver_self here]
      exact ⟨Nat.le_refl _, rfl⟩

/-- Once a class is found, its place and its doc block stay; it takes the one that is pending where it
is declared. -/
theorem Step.header (step : Step path state number line next) {outline : ClassOutline}
    (found : next.found = some outline) :
    (∃ known, state.found = some known ∧ outline.path = known.path ∧ outline.comment = known.comment) ∨
      state.found = none ∧ outline.path = path ∧ outline.comment = state.pending := by
  cases step with
  | classDeclared _ unknown =>
    cases found
    exact Or.inr ⟨unknown, rfl, rfl⟩
  | bodyEnds | methodComplete =>
    obtain ⟨known, before, rfl⟩ := Option.map_eq_some_iff.mp found
    exact Or.inl ⟨known, before, rfl, rfl⟩
  | _ => exact Or.inl ⟨outline, found, rfl, rfl⟩

end Steps

theorem docStart_le (path : String) (text : List (List Char)) (count : Nat) :
    docStart path text count ≤ count + 1 := by
  induction count with
  | zero => exact Nat.le_refl _
  | succ count ih =>
    rw [docStart]
    split
    · exact Nat.le_succ_of_le ih
    · exact Nat.le_refl _

theorem pendingBlock_succ_of_none {path : String} {text : List (List Char)} {count : Nat}
    (here : text[count]? = none) :
    pendingBlock path text (count + 1) =
      if (after path text count).pending.isSome then pendingBlock path text count else none := by
  rw [pendingBlock, here, after_succ_of_none here]
  rfl

theorem pendingBlock_succ {path : String} {text : List (List Char)} {count : Nat} {line : List Char}
    (here : text[count]? = some line) :
    pendingBlock path text (count + 1) =
      if (after path text count).endsDoc line then some (docStart path text count, count + 1)
      else if ((after path text count).step path (count + 1) line).pending.isSome then
        pendingBlock path text count
      else none := by
  rw [pendingBlock, here, after_succ here]
  rfl

theorem pendingBlock_bounds {path : String} {text : List (List Char)} {count : Nat} {block : Nat × Nat}
    (attached : pendingBlock path text count = some block) :
    0 < block.1 ∧ block.1 ≤ block.2 ∧ block.2 ≤ text.length := by
  induction count with
  | zero => cases attached
  | succ count ih =>
    rw [pendingBlock] at attached
    split at attached
    · rename_i ends
      cases attached
      refine ⟨docStart_pos count, docStart_le path text count, Nat.lt_of_not_le fun past => ?_⟩
      rw [List.getElem?_eq_none_iff.mpr past] at ends
      cases ends
    · split at attached
      · exact ih attached
      · cases attached

/-- The pending doc block is the text of the lines at which it began and ended. -/
theorem pending_after (path : String) (text : List (List Char)) (count : Nat) :
    (after path text count).pending = (pendingBlock path text count).map (blockText text) := by
  induction count with
  | zero => rfl
  | succ count ih =>
    cases here : text[count]? with
    | none =>
      rw [after_succ_of_none here, pendingBlock_succ_of_none here, ih]
      cases pendingBlock path text count <;> rfl
    | some line =>
      obtain ⟨bound, _⟩ := List.getElem?_eq_some_iff.mp here
      rw [after_succ here, pendingBlock_succ here]
      rcases ((after path text count).step_spec path (count + 1) line).pending with
        ⟨before, place, ends, pending⟩ | ⟨place, ends, pending⟩ | ⟨goesOn, kept⟩
      · obtain ⟨order, known⟩ := docBlock_after path (Nat.le_of_lt bound) place
        have several : docStart path text count ≠ count + 1 := by omega
        rw [pending, if_pos ends, Option.map_some, blockText, if_neg several,
          linesOver_succ (docStart_pos count) (Nat.le_succ_of_le order) here, ← known, List.reverse_cons]
      · have one : docStart path text count = count + 1 := docStart_eq (by simp [place])
        rw [pending, if_pos ends, Option.map_some, blockText, if_pos one, one, linesOver_self here,
          List.flatten_singleton]
      · rw [if_neg (by simp [goesOn])]
        rcases kept with same | none
        · rw [same, ih]
          cases pendingBlock path text count <;> rfl
        · rw [none]
          rfl

/-- A doc block is one line exactly if it begins and ends on the same one. -/
theorem oneLine_blockText_iff {path : String} {text : List (List Char)} (single : ∀ line ∈ text, OneLine line)
    {count : Nat} {block : Nat × Nat} (attached : pendingBlock path text count = some block) :
    OneLine (blockText text block).toList ↔ block.1 = block.2 := by
  obtain ⟨positive, order, bounded⟩ := pendingBlock_bounds attached
  obtain ⟨first, last⟩ := block
  dsimp only at positive order bounded ⊢
  unfold blockText
  split
  · rename_i same
    refine iff_of_true (fun c member => ?_) same
    rw [String.toList_ofList] at member
    obtain ⟨line, inRange, inside⟩ := List.mem_flatten.mp (mem_of_mem_trim member)
    exact single line (List.mem_of_mem_drop (List.mem_of_mem_take inRange)) c inside
  · rename_i several
    refine iff_of_false (fun unbroken => ?_) several
    have length : 2 ≤ (linesOver text first last).length := by
      rw [linesOver, List.length_take, List.length_drop]
      omega
    rw [String.toList_ofList] at unbroken
    cases range : linesOver text first last with
    | nil => simp [range] at length
    | cons line more =>
      cases more with
      | nil => simp [range] at length
      | cons next rest =>
        rw [range] at unbroken
        exact (unbroken _ (mem_joinLines_cons_cons line next rest)).1 rfl

/-- The class takes the doc block that is pending in front of its declaration. -/
theorem header_after {path : String} {text : List (List Char)} {count : Nat} {outline : ClassOutline}
    (found : (after path text count).found = some outline) :
    outline.path = path ∧ ∃ declared, ClassAt path text declared ∧
      outline.comment = (after path text declared).pending := by
  induction count generalizing outline with
  | zero => cases found
  | succ count ih =>
    cases here : text[count]? with
    | none =>
      rw [after_succ_of_none here] at found
      exact ih found
    | some line =>
      have known := found
      rw [after_succ here] at found
      rcases ((after path text count).step_spec path (count + 1) line).header found with
        ⟨earlier, before, samePath, sameComment⟩ | ⟨unknown, own, comment⟩
      · rw [samePath, sameComment]
        exact ih before
      · exact ⟨own, count, ⟨unknown, by rw [known]; rfl⟩, comment⟩

theorem State.header_finish {state : State} {number : Nat} {outline : ClassOutline}
    (found : (state.finish number).found = some outline) :
    ∃ known, state.found = some known ∧ outline.path = known.path ∧ outline.comment = known.comment := by
  unfold State.finish at found
  split at found
  · obtain ⟨known, before, rfl⟩ := Option.map_eq_some_iff.mp found
    exact ⟨known, before, rfl, rfl⟩
  · exact ⟨outline, found, rfl, rfl⟩

/-- A reported class comes with the doc block in front of its declaration. -/
theorem class_comment_of_scan {name path content : String} {outline : ClassOutline}
    (found : scan name path content = .ok outline) :
    outline.path = path ∧ ∃ declared, ClassAt path (lines content.toList) declared ∧
      outline.comment = (pendingBlock path (lines content.toList) declared).map
        (blockText (lines content.toList)) := by
  obtain ⟨known, before, samePath, sameComment⟩ := State.header_finish (scan_eq_ok_iff.mp found)
  rw [samePath, sameComment]
  obtain ⟨own, declared, atClass, comment⟩ := header_after before
  exact ⟨own, declared, atClass, comment.trans (pending_after path _ declared)⟩

theorem comments_after (path : String) (text : List (List Char)) (count : Nat) :
    (after path text count).Each fun method =>
      method.comment = (after path text (method.first - 1)).pending := by
  induction count with
  | zero => exact .start _
  | succ count ih =>
    cases here : text[count]? with
    | none =>
      rw [after_succ_of_none here]
      exact ih
    | some line =>
      rw [after_succ here]
      exact ((after path text count).step_spec path (count + 1) line).each ih (fun _ comment => comment)
        (fun _ comment => comment) fun _ _ => rfl

/-- A reported method comes with the doc block in front of its declaration. -/
theorem method_comment_of_scan {name path content : String} {outline : ClassOutline}
    (found : scan name path content = .ok outline) :
    ∀ method ∈ outline.methods,
      method.comment = (pendingBlock path (lines content.toList) (method.first - 1)).map
        (blockText (lines content.toList)) := by
  have each := comments_after path (lines content.toList) (lines content.toList).length
  intro method member
  rw [← pending_after]
  exact each.finish (fun _ comment => comment) (fun _ comment => comment) (scan_eq_ok_iff.mp found) method member

end Scan

end ClassDocs
