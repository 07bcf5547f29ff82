import ClassDocs.Proofs.Source.DocLines
import ClassDocs.Proofs.Source.MethodOrder
import Mathlib.Data.List.Nodup

namespace ClassDocs

namespace Scan

/-- The text of a doc block over some lines. A block on one line says what is left of it without the
white space around it, a longer one says its lines. -/
inductive BlockOver (text : List (List Char)) : Nat × Nat → String → Prop
  | oneLine {number : Nat} {line : List Char} (here : text[number - 1]? = some line)
      (opens : opensDoc (trim line) = true) (closes : closesBlock (trim line) = true) :
      BlockOver text (number, number) (String.ofList (trim line))
  | moreLines {first last : Nat} {opening closing : List Char} (order : first < last)
      (atFirst : text[first - 1]? = some opening) (opens : opensDoc (trim opening) = true)
      (atLast : text[last - 1]? = some closing) (closes : closesBlock closing = true)
      (unclosed : ∀ number line, first ≤ number → number < last → text[number - 1]? = some line →
        closesBlock line = false) :
      BlockOver text (first, last) (String.ofList (joinLines (linesOver text first last)))

/-- A line that does not part a doc block from the declaration behind it. -/
def Transparent (path : String) (text : List (List Char)) (number : Nat) : Prop :=
  ∀ line, text[number - 1]? = some line →
    trim line = [] ∨ isCommentLine (trim line) = true ∨ (after path text (number - 1)).inBlock = true

/-- A doc block as the declaration on the line of a number takes it: in front of the declaration, with
nothing but empty lines and comments in between, and apart from all methods. -/
structure Attached (path : String) (text : List (List Char)) (methods : List MethodOutline) (block : Nat × Nat)
    (number : Nat) (comment : String) : Prop where
  written : BlockOver text block comment
  positive : 0 < block.1
  before : block.2 < number
  adjoins : ∀ between, block.2 < between → between < number → Transparent path text between
  apart : ∀ method ∈ methods, block.2 < method.first ∨ method.last < block.1

/-- The declarations of a class that is declared on the line of a number: its own and those of its
methods, each with its line and its doc block. -/
def declarations (number : Nat) (outline : ClassOutline) : List (Nat × Option String) :=
  (number, outline.comment) :: outline.methods.map fun method => (method.first, method.comment)

section Steps

variable {path : String} {state next : State} {number : Nat} {line : List Char}

/-- Inside a method no doc block is pending. -/
def State.Unburdened (state : State) : Prop :=
  ∀ method base opened, state.place = .method method base opened → state.pending = none

theorem Step.unburdened (step : Step path state number line next) (unburdened : state.Unburdened) :
    next.Unburdened := by
  intro method base opened place
  cases step with
  | bodyGoesOn inside => exact unburdened _ _ _ inside
  | methodOpens => rfl
  | docGoesOn | docEnds | docOpens | bodyEnds => cases place
  | docLine between | blank between | inComment between => cases between.symm.trans place
  | classDeclared code | passes code => cases code.between.symm.trans place
  | methodComplete reads => cases reads.between.symm.trans place

/-- A line outside of doc blocks over which a doc block stays pending is empty or a comment. -/
theorem Step.transparent (step : Step path state number line next) (unburdened : state.Unburdened)
    (code : state.readsDoc line = false) (pending : next.pending.isSome = true) :
    trim line = [] ∨ isCommentLine (trim line) = true ∨ state.inBlock = true := by
  cases step with
  | blank _ empty => exact Or.inl empty
  | inComment _ inside => exact Or.inr (Or.inr inside)
  | passes =>
    refine Or.inr (Or.inl ?_)
    by_contra solid
    simp [solid] at pending
  | docGoesOn place | docEnds place => simp [State.readsDoc, place] at code
  | docOpens place outside doc | docLine place outside doc => simp [State.readsDoc, place, outside, doc] at code
  | bodyGoesOn place | bodyEnds place =>
    have none : state.pending = none := unburdened _ _ _ place
    simp [State.addMethod, State.advance, none] at pending
  | classDeclared | methodComplete | methodOpens => cases pending

theorem Step.takes_of_class (step : Step path state number line next) (unknown : state.found = none)
    (known : next.found.isSome = true) : state.AtCode line ∧ next.pending = none := by
  cases step with
  | classDeclared code => exact ⟨code, rfl⟩
  | methodComplete reads | methodOpens reads => simpa [unknown] using reads.known
  | bodyEnds => simp [State.addMethod, unknown] at known
  | _ => simp [unknown] at known

theorem Step.takes_of_method (step : Step path state number line next) {name : List Char}
    (reads : state.ReadsMethod line name) : next.pending = none := by
  cases step with
  | classDeclared | methodComplete | methodOpens => rfl
  | passes _ _ noMethod => exact absurd reads (noMethod name)
  | docGoesOn place | docEnds place | bodyGoesOn place | bodyEnds place => cases place.symm.trans reads.between
  | docOpens _ _ doc | docLine _ _ doc => simp [reads.noDoc] at doc
  | blank _ empty => exact absurd empty reads.visible
  | inComment _ inside => simp [reads.outside] at inside

theorem Step.complete_grows (step : Step path state number line next) : state.complete <+: next.complete := by
  have added (other : State) (method : MethodOutline) : other.complete <+: (other.addMethod method).complete := by
    unfold State.complete State.addMethod
    cases other.found with
    | none => exact List.nil_prefix
    | some outline => exact List.prefix_append ..
  cases step with
  | bodyEnds => exact added { state.advance _ with place := .between } _
  | methodComplete => exact added { state.advance _ with pending := none } _
  | classDeclared _ unknown =>
    rw [State.complete, unknown]
    exact List.nil_prefix
  | _ => exact List.prefix_rfl

end Steps

section Runs

variable {path : String} {text : List (List Char)} {count : Nat} {line : List Char}

theorem after_unburdened (path : String) (text : List (List Char)) (count : Nat) :
    (after path text count).Unburdened :=
  after_invariant (fun _ _ _ place => by cases place)
    (fun state number line unburdened => (state.step_spec path number line).unburdened unburdened) count

theorem complete_after_grows {first second : Nat} (order : first ≤ second) :
    (after path text first).complete <+: (after path text second).complete := by
  induction order with
  | refl => exact List.prefix_rfl
  | @step second _ ih =>
    cases here : text[second]? with
    | none => rwa [after_succ_of_none here]
    | some line =>
      rw [after_succ here]
      exact ih.trans ((after path text second).step_spec path _ line).complete_grows

theorem blockOver_of_endsDoc (here : text[count]? = some line) (ends : (after path text count).endsDoc line = true) :
    BlockOver text (docStart path text count, count + 1)
      (blockText text (docStart path text count, count + 1)) := by
  rw [State.endsDoc_eq, Bool.and_eq_true] at ends
  obtain ⟨reads, closes⟩ := ends
  obtain ⟨⟨opening, atFirst, opens⟩, unclosed, _⟩ := docLines_of_readsDoc here reads
  have order := docStart_le path text count
  unfold blockText
  dsimp only
  split
  · rename_i single
    rw [single] at atFirst ⊢
    cases Option.some.inj (here.symm.trans atFirst)
    rw [linesOver_self here, List.flatten_singleton]
    exact BlockOver.oneLine here opens (by rwa [closesBlock_trim])
  · rename_i several
    exact .moreLines (by omega) atFirst opens here closes unclosed

/-- Where the pending doc block stands and what it says. -/
theorem pendingBlock_written {block : Nat × Nat} (attached : pendingBlock path text count = some block) :
    BlockOver text block (blockText text block) ∧ DocLines path text block.1 block.2 ∧ block.2 ≤ count := by
  induction count with
  | zero => cases attached
  | succ count ih =>
    rw [pendingBlock] at attached
    split at attached
    · rename_i ends
      cases attached
      cases here : text[count]? with
      | none => simp [here] at ends
      | some line =>
        rw [here, Option.any_some] at ends
        have written := blockOver_of_endsDoc here ends
        rw [State.endsDoc_eq, Bool.and_eq_true] at ends
        exact ⟨written, docLines_of_readsDoc here ends.1, Nat.le_refl _⟩
    · split at attached
      · obtain ⟨written, read, bound⟩ := ih attached
        exact ⟨written, read, Nat.le_succ_of_le bound⟩
      · cases attached

/-- Between the pending doc block and a doc block that has begun since then, or the next line if there
is none, stand empty lines and comments only. -/
theorem transparent_of_pendingBlock {block : Nat × Nat} (bounded : count ≤ text.length)
    (attached : pendingBlock path text count = some block) {between : Nat} (behind : block.2 < between)
    (inFront : between < docStart path text count) : Transparent path text between := by
  induction count with
  | zero => cases attached
  | succ count ih =>
    have here : text[count]? = some text[count] := List.getElem?_eq_getElem (by omega)
    have step := (after path text count).step_spec path (count + 1) text[count]
    have goesOn := step.inDoc_eq
    rw [pendingBlock_succ here] at attached
    rw [← after_succ here] at step goesOn attached
    split at attached
    · cases attached
      have start := docStart_le path text (count + 1)
      omega
    rename_i ends
    rw [State.endsDoc_eq] at ends
    split at attached
    · rename_i pending
      cases reads : (after path text count).readsDoc text[count] with
      -- a doc block that stays open may yet take the place of the pending one
      | true =>
        have inside : (after path text (count + 1)).inDoc = true := by simpa [goesOn, reads] using ends
        rw [docStart_of_inDoc inside] at inFront
        exact ih (by omega) attached inFront
      | false =>
        have start := docStart_of_not_readsDoc reads
        by_cases newest : between = count + 1
        · subst newest
          intro line found
          cases Option.some.inj (here.symm.trans found)
          exact step.transparent (after_unburdened path text count) reads pending
        · have next := docStart_le path text (count + 1)
          exact ih (by omega) attached (by omega)
    · cases attached

/-- Where no doc block is pending and none is open, each doc block that is pending later begins behind
that place. -/
theorem lt_pendingBlock {earlier : Nat} {block : Nat × Nat} (outside : (after path text earlier).inDoc = false)
    (taken : (after path text earlier).pending = none) (order : earlier ≤ count)
    (attached : pendingBlock path text count = some block) : earlier < block.1 := by
  induction order with
  | refl =>
    rw [pending_after, attached] at taken
    cases taken
  | @step count order ih =>
    rw [pendingBlock] at attached
    split at attached
    · cases attached
      exact lt_docStart outside order
    · split at attached
      · exact ih attached
      · cases attached

end Runs

/-- The line after the first `count` declares the class or a method: it is read as code and takes the
pending doc block. -/
structure DeclarationAt (path : String) (text : List (List Char)) (count : Nat) : Prop where
  code : ∃ line, text[count]? = some line ∧ (after path text count).AtCode line
  taken : (after path text (count + 1)).pending = none

/-- The first and the last line of the doc block that a declaration on the line of a number takes. -/
def blockOf (path : String) (text : List (List Char)) (number : Nat) : Nat × Nat :=
  (pendingBlock path text (number - 1)).getD (0, 0)

section Declarations

variable {path : String} {text : List (List Char)} {count : Nat}

theorem blockOf_of_pendingBlock {block : Nat × Nat} (pending : pendingBlock path text count = some block) :
    blockOf path text (count + 1) = block := by
  rw [blockOf, Nat.add_sub_cancel, pending, Option.getD_some]

theorem ClassAt.declarationAt (atClass : ClassAt path text count) : DeclarationAt path text count := by
  obtain ⟨unknown, known⟩ := atClass
  cases here : text[count]? with
  | none =>
    rw [after_succ_of_none here, unknown] at known
    cases known
  | some line =>
    have step := (after path text count).step_spec path (count + 1) line
    rw [← after_succ here] at step
    obtain ⟨code, taken⟩ := step.takes_of_class unknown known
    exact ⟨⟨line, here, code⟩, taken⟩

theorem DeclaresMethod.declarationAt {number : Nat} (declares : DeclaresMethod path text number) :
    ∃ count, number = count + 1 ∧ DeclarationAt path text count := by
  obtain ⟨count, line, name, rfl, here, reads⟩ := declares
  have step := (after path text count).step_spec path (count + 1) line
  rw [← after_succ here] at step
  exact ⟨count, rfl, ⟨line, here, reads.toAtCode⟩, step.takes_of_method reads⟩

theorem DeclarationAt.outside (declares : DeclarationAt path text count) :
    (after path text (count + 1)).inDoc = false := by
  obtain ⟨line, here, code⟩ := declares.code
  rw [after_succ here, ((after path text count).step_spec path (count + 1) line).inDoc_eq, code.readsDoc,
    Bool.false_and]

theorem DeclarationAt.attached (declares : DeclarationAt path text count) {block : Nat × Nat}
    (pending : pendingBlock path text count = some block) {methods : List MethodOutline}
    (apart : ∀ method ∈ methods, block.2 < method.first ∨ method.last < block.1) :
    Attached path text methods block (count + 1) (blockText text block) := by
  obtain ⟨line, here, code⟩ := declares.code
  obtain ⟨bounded, _⟩ := List.getElem?_eq_some_iff.mp here
  obtain ⟨written, _, bound⟩ := pendingBlock_written pending
  have start : docStart path text count = count + 1 := docStart_of_not_readsDoc code.readsDoc
  refine ⟨written, (pendingBlock_bounds pending).1, Nat.lt_succ_of_le bound, fun between behind inFront => ?_, apart⟩
  exact transparent_of_pendingBlock (Nat.le_of_lt bounded) pending behind (by rwa [start])

end Declarations

section Reported

variable {name path content : String} {outline : ClassOutline} {method : MethodOutline}

theorem complete_grows_to_methods (found : scan name path content = .ok outline) {count : Nat}
    (bounded : count ≤ (lines content.toList).length) :
    (after path (lines content.toList) count).complete <+: outline.methods := by
  refine (complete_after_grows bounded).trans ?_
  rcases State.methods_finish (after_anchored path _ _) (scan_eq_ok_iff.mp found) with same | ⟨method, _, last⟩
  · rw [same]
    exact List.prefix_append ..
  · rw [last]
    exact List.prefix_append ..

theorem eq_of_first_eq (found : scan name path content = .ok outline) {other : MethodOutline}
    (member : method ∈ outline.methods) (otherMember : other ∈ outline.methods) (same : method.first = other.first) :
    method = other := by
  have different : (outline.methods.map (·.first)).Nodup := by
    rw [List.Nodup, List.pairwise_map]
    refine List.Pairwise.imp_of_mem (fun member _ before => ?_) (inOrder_of_scan found)
    exact Nat.ne_of_lt (Nat.lt_of_le_of_lt (fits_of_scan found _ member).ordered before)
  exact List.inj_on_of_nodup_map different member otherMember same

/-- No line of a reported method is read as one of a doc block. Where a doc block is read no method is
open, so those declared before it are complete, and they stay as they are. -/
theorem not_readsDoc_of_mem (found : scan name path content = .ok outline) (member : method ∈ outline.methods)
    {number : Nat} {line : List Char} (lower : method.first ≤ number) (upper : number ≤ method.last)
    (here : (lines content.toList)[number - 1]? = some line) :
    (after path (lines content.toList) (number - 1)).readsDoc line = false := by
  have declares := (mem_first_iff found method.first).mp ⟨method, member, rfl⟩
  by_cases first : method.first = number
  · obtain ⟨i, other, name, same, atFirst, reads⟩ := declares
    have index : number - 1 = i := by omega
    rw [index] at here ⊢
    cases Option.some.inj (here.symm.trans atFirst)
    exact reads.readsDoc
  refine Bool.eq_false_iff.mpr fun doc => ?_
  have bounded := (fits_of_scan found method member).bounded
  have none : (after path (lines content.toList) (number - 1)).running = [] := by
    unfold State.running
    split
    · rename_i place
      simp [State.readsDoc, place] at doc
    · rfl
  have started := (mem_starts_after (number - 1) method.first).mpr ⟨by omega, declares⟩
  rw [State.starts_eq, State.met, none, List.append_nil] at started
  obtain ⟨other, complete, same⟩ := List.mem_map.mp started
  have fits := (fits_after path _ _ (by omega)).met other (List.mem_append_left _ complete)
  have reported := (complete_grows_to_methods found (by omega)).subset complete
  rw [eq_of_first_eq found member reported same.symm] at upper first
  have ended := fits.bounded
  have positive := fits.positive
  have ordered := fits.ordered
  omega

theorem apart_of_docLines (found : scan name path content = .ok outline) {first last : Nat}
    (read : DocLines path (lines content.toList) first last) (order : first ≤ last)
    (bounded : last ≤ (lines content.toList).length) (positive : 0 < first) (member : method ∈ outline.methods) :
    last < method.first ∨ method.last < first := by
  by_contra overlap
  have range := (fits_of_scan found method member).ordered
  -- the first line that both would share
  have here : (lines content.toList)[max first method.first - 1]? = some (lines content.toList)[max first method.first - 1] :=
    List.getElem?_eq_getElem (by omega)
  have doc := read.read _ _ (Nat.le_max_left ..) (by omega) here
  rw [not_readsDoc_of_mem found member (Nat.le_max_right ..) (by omega) here] at doc
  cases doc

/-- Each reported declaration is one that the scanner has read, with the doc block that was pending. -/
theorem declarationAt_of_mem (found : scan name path content = .ok outline) {declared : Nat}
    (atClass : ClassAt path (lines content.toList) declared) {declaration : Nat × Option String}
    (member : declaration ∈ declarations (declared + 1) outline) :
    ∃ count, declaration.1 = count + 1 ∧ DeclarationAt path (lines content.toList) count ∧
      declaration.2 = (pendingBlock path (lines content.toList) count).map (blockText (lines content.toList)) := by
  rcases List.mem_cons.mp member with rfl | ofMethod
  · obtain ⟨_, other, atOther, comment⟩ := class_comment_of_scan found
    cases atClass.unique atOther
    exact ⟨declared, rfl, atClass.declarationAt, comment⟩
  · obtain ⟨method, inside, rfl⟩ := List.mem_map.mp ofMethod
    obtain ⟨count, first, declares⟩ := ((mem_first_iff found method.first).mp ⟨method, inside, rfl⟩).declarationAt
    have comment := method_comment_of_scan found method inside
    rw [first, Nat.add_sub_cancel] at comment
    exact ⟨count, first, declares, comment⟩

theorem declarations_inOrder (found : scan name path content = .ok outline) {declared : Nat}
    (atClass : ClassAt path (lines content.toList) declared) :
    (declarations (declared + 1) outline).Pairwise fun earlier later => earlier.1 < later.1 := by
  refine List.pairwise_cons.mpr ⟨fun later member => ?_, List.pairwise_map.mpr ?_⟩
  · obtain ⟨method, inside, rfl⟩ := List.mem_map.mp member
    obtain ⟨other, atOther, before⟩ := classAt_of_scan found
    cases atClass.unique atOther
    exact before method inside
  · refine List.Pairwise.imp_of_mem (fun member _ before => ?_) (inOrder_of_scan found)
    exact Nat.lt_of_le_of_lt (fits_of_scan found _ member).ordered before

theorem attached_of_mem (found : scan name path content = .ok outline) {declared : Nat}
    (atClass : ClassAt path (lines content.toList) declared) {declaration : Nat × Option String}
    (member : declaration ∈ declarations (declared + 1) outline) {comment : String}
    (commented : declaration.2 = some comment) :
    Attached path (lines content.toList) outline.methods (blockOf path (lines content.toList) declaration.1)
      declaration.1 comment := by
  obtain ⟨count, number, declares, taken⟩ := declarationAt_of_mem found atClass member
  obtain ⟨block, pending, rfl⟩ := Option.map_eq_some_iff.mp (taken.symm.trans commented)
  obtain ⟨_, read, _⟩ := pendingBlock_written pending
  obtain ⟨positive, order, bounded⟩ := pendingBlock_bounds pending
  rw [number, blockOf_of_pendingBlock pending]
  exact declares.attached pending fun method inside => apart_of_docLines found read order bounded positive inside

/-- The block of the earlier declaration ends in front of it, that of the later one begins behind it. -/
theorem blockOf_inOrder (found : scan name path content = .ok outline) {declared : Nat}
    (atClass : ClassAt path (lines content.toList) declared) {earlier later : Nat × Option String}
    (member : earlier ∈ declarations (declared + 1) outline) (laterMember : later ∈ declarations (declared + 1) outline)
    (order : earlier.1 < later.1) (commented : earlier.2.isSome = true) (laterCommented : later.2.isSome = true) :
    (blockOf path (lines content.toList) earlier.1).2 < (blockOf path (lines content.toList) later.1).1 := by
  obtain ⟨count, number, declares, taken⟩ := declarationAt_of_mem found atClass member
  obtain ⟨next, nextNumber, _, nextTaken⟩ := declarationAt_of_mem found atClass laterMember
  rw [taken, Option.isSome_map] at commented
  rw [nextTaken, Option.isSome_map] at laterCommented
  obtain ⟨block, pending⟩ := Option.isSome_iff_exists.mp commented
  obtain ⟨nextBlock, nextPending⟩ := Option.isSome_iff_exists.mp laterCommented
  have ends := (pendingBlock_written pending).2.2
  have begins := lt_pendingBlock declares.outside declares.taken (by omega) nextPending
  rw [number, nextNumber, blockOf_of_pendingBlock pending, blockOf_of_pendingBlock nextPending]
  omega

/-- A declaration takes the doc block that adjoins it, and no doc block is taken twice: the blocks of
different declarations are apart, and all of them are apart from the methods, so that nothing in a
body or in front of other code reaches a later declaration. -/
theorem doc_blocks_adjoin_their_declarations (found : scan name path content = .ok outline) :
    ∃ declared, ClassAt path (lines content.toList) declared ∧ ∃ block : Nat → Nat × Nat,
      (∀ declaration ∈ declarations (declared + 1) outline, ∀ comment, declaration.2 = some comment →
        Attached path (lines content.toList) outline.methods (block declaration.1) declaration.1 comment) ∧
      (declarations (declared + 1) outline).Pairwise fun earlier later =>
        earlier.2.isSome = true → later.2.isSome = true → (block earlier.1).2 < (block later.1).1 := by
  obtain ⟨declared, atClass, _⟩ := classAt_of_scan found
  refine ⟨declared, atClass, blockOf path (lines content.toList), fun declaration member comment commented => ?_, ?_⟩
  · exact attached_of_mem found atClass member commented
  · refine List.Pairwise.imp_of_mem (fun member laterMember order => ?_) (declarations_inOrder found atClass)
    exact blockOf_inOrder found atClass member laterMember order

/-- A class whose doc block has comments behind it, with a method that has a doc block in its body, one
behind a doc block and code, and one with a doc block on one line. -/
def strayBlocks : String :=
  "/**\n * A.\n */\n* /*\n/** */\nclass A \x7b\nfunction f() \x7b\n/** b */\n\x7d\n/** c */\n;\nfunction g();\n/** H. */\n\n# d\nfunction h();\n"

theorem doc_blocks_adjoin_their_declarations_of_strayBlocks :
    ∃ outline, scan "a" "a.php" strayBlocks = .ok outline ∧
      outline.comment = some "/**\n * A.\n */" ∧
      outline.methods.map (fun method => (method.name, method.comment)) =
        [("f", none), ("g", none), ("h", some "/** H. */")] ∧
      ∃ declared, ClassAt "a.php" (lines strayBlocks.toList) declared ∧ ∃ block : Nat → Nat × Nat,
        Attached "a.php" (lines strayBlocks.toList) outline.methods (block (declared + 1)) (declared + 1)
          "/**\n * A.\n */" ∧
        Attached "a.php" (lines strayBlocks.toList) outline.methods (block 16) 16 "/** H. */" := by
  have text : lines strayBlocks.toList = ["/**".toList, " * A.".toList, " */".toList, "* /*".toList,
      "/** */".toList, "class A \x7b".toList, "function f() \x7b".toList, "/** b */".toList, "\x7d".toList,
      "/** c */".toList, ";".toList, "function g();".toList, "/** H. */".toList, [], "# d".toList,
      "function h();".toList] := by decide +kernel
  have found : scan "a" "a.php" strayBlocks = .ok ⟨"A", "a.php", some "/**\n * A.\n */", none,
      [⟨"f", "a.php", none, 7, 9⟩, ⟨"g", "a.php", none, 12, 12⟩, ⟨"h", "a.php", some "/** H. */", 16, 16⟩]⟩ :=
    scan_eq_ok_iff.mpr (by rw [text]; decide +kernel)
  obtain ⟨declared, atClass, block, attached, _⟩ := doc_blocks_adjoin_their_declarations found
  refine ⟨_, found, rfl, rfl, declared, atClass, block, ?_, ?_⟩
  · exact attached _ (List.mem_cons_self ..) _ rfl
  · exact attached (16, some "/** H. */") (by simp [declarations]) _ rfl

end Reported

end Scan

end ClassDocs
