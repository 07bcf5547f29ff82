import ClassDocs.Proofs.Source.Attachment

namespace ClassDocs

namespace Scan

/-- The line after the first `first` opens a doc block, and no line from there on to the one after the
first `count` closes it, that one not included. -/
structure DocOpen (text : List (List Char)) (first count : Nat) : Prop where
  order : first ≤ count
  opens : ∃ line, text[first]? = some line ∧ opensDoc (trim line) = true
  unclosed : ∀ earlier line, first ≤ earlier → earlier < count → text[earlier]? = some line →
    closesBlock line = false

/-- After the first `count` lines no doc block is open, and the flag says whether a block comment is.
The lines outside of doc blocks open and close block comments; a doc block is passed over as a whole. -/
inductive BlockFlag (text : List (List Char)) : Nat → Bool → Prop
  | start : BlockFlag text 0 false
  | line {count : Nat} {inBlock : Bool} {line : List Char} (before : BlockFlag text count inBlock)
      (here : text[count]? = some line) (noDoc : inBlock = false → opensDoc (trim line) = false) :
      BlockFlag text (count + 1) (lineBraces inBlock line).inBlock
  | docBlock {first last : Nat} {line : List Char} (before : BlockFlag text first false)
      (block : DocOpen text first last) (here : text[last]? = some line) (closes : closesBlock line = true) :
      BlockFlag text (last + 1) false

/-- The line after the first `count` belongs to a doc block, which begins outside of block comments. -/
def InDocBlock (text : List (List Char)) (count : Nat) : Prop :=
  ∃ first, BlockFlag text first false ∧ DocOpen text first count

/-- The line after the first `count` belongs to no doc block and does not begin inside a block
comment. -/
def Visible (text : List (List Char)) (count : Nat) : Prop :=
  ¬ InDocBlock text count ∧ ¬ BlockFlag text count true

/-- The line after the first `count` is the first visible one that declares a class. -/
structure FirstClass (text : List (List Char)) (count : Nat) (name : List Char) (parent : Option (List Char)) :
    Prop where
  visible : Visible text count
  declares : ∃ line, text[count]? = some line ∧ classDeclaration? line = some (name, parent)
  earlier : ∀ before line, before < count → text[before]? = some line → Visible text before →
    classDeclaration? line = none

/-- The name and the parent of the class that was found. -/
def State.heading (state : State) : Option (String × Option String) :=
  state.found.map fun outline => (outline.name, outline.parent)

section Steps

variable {path : String} {state next : State} {number : Nat} {line : List Char}

theorem State.heading_addMethod (state : State) (method : MethodOutline) :
    (state.addMethod method).heading = state.heading := by
  rw [State.heading, State.addMethod, Option.map_map]
  rfl

theorem State.heading_finish (state : State) (number : Nat) : (state.finish number).heading = state.heading := by
  unfold State.finish
  split
  · exact state.heading_addMethod _
  · rfl

theorem Step.heading_of_some (step : Step path state number line next) {heading : String × Option String}
    (known : state.heading = some heading) : next.heading = some heading := by
  cases step with
  | classDeclared _ unknown => simp [State.heading, unknown] at known
  | bodyEnds | methodComplete => rwa [State.heading_addMethod]
  | _ => exact known

theorem Step.heading_of_code (step : Step path state number line next) (unknown : state.found = none)
    (code : state.AtCode line) :
    next.heading = (classDeclaration? line).map fun declared =>
      (String.ofList declared.1, declared.2.map String.ofList) := by
  cases step with
  | classDeclared _ _ declared => rw [declared]; rfl
  | passes _ noClass => simp [State.heading, unknown, noClass unknown]
  | methodComplete reads | methodOpens reads => simpa [unknown] using reads.known
  | docGoesOn place | docEnds place | bodyGoesOn place | bodyEnds place => cases place.symm.trans code.between
  | docOpens _ _ doc | docLine _ _ doc => simp [code.noDoc] at doc
  | blank _ empty => exact absurd empty code.visible
  | inComment _ inside => simp [code.outside] at inside

end Steps

theorem trim_ne_nil_of_classDeclaration? {line name : List Char} {parent : Option (List Char)}
    (declared : classDeclaration? line = some (name, parent)) : trim line ≠ [] := by
  intro empty
  have skipped : skipModifiers ["abstract", "final"] [] = [] := skipModifiers_eq_self rfl
  rw [classDeclaration?, trimStart_eq_nil empty, skipped] at declared
  cases declared

section Runs

variable {path : String} {text : List (List Char)} {count : Nat} {line : List Char}

theorem found_eq_none_of_le {first : Nat} (order : first ≤ count) (unknown : (after path text count).found = none) :
    (after path text first).found = none := by
  refine Option.not_isSome_iff_eq_none.mp fun known => ?_
  have later := (found_isSome_mono order known).1
  simp [unknown] at later

/-- In front of the class there are no methods, so the scanner is inside a doc block or nowhere. -/
theorem between_of_unknown (unknown : (after path text count).found = none)
    (outside : (after path text count).inDoc = false) : (after path text count).place = .between := by
  cases place : (after path text count).place with
  | between => rfl
  | docBlock before => exact absurd place (State.place_ne_docBlock outside before)
  | method method base opened =>
    have known := after_anchored path text count method base opened place
    simp [unknown] at known

theorem inBlock_after_succ (here : text[count]? = some line) :
    (after path text (count + 1)).inBlock =
      if (after path text count).readsDoc line then (after path text count).inBlock
      else (lineBraces (after path text count).inBlock line).inBlock := by
  rw [after_succ here, ((after path text count).step_spec path (count + 1) line).lexical.2, State.counted_eq]
  split <;> rfl

theorem inDoc_after_succ (here : text[count]? = some line) :
    (after path text (count + 1)).inDoc = ((after path text count).readsDoc line && !closesBlock line) := by
  rw [after_succ here, ((after path text count).step_spec path (count + 1) line).inDoc_eq]

theorem DocOpen.succ {first : Nat} (block : DocOpen text first count) (here : text[count]? = some line)
    (unclosed : closesBlock line = false) : DocOpen text first (count + 1) := by
  refine ⟨Nat.le_succ_of_le block.order, block.opens, fun earlier other lower upper found => ?_⟩
  by_cases last : earlier = count
  · subst last
    cases Option.some.inj (here.symm.trans found)
    exact unclosed
  · exact block.unclosed earlier other lower (by omega) found

/-- From the line that opens a doc block on the scanner reads it to its end. -/
theorem DocOpen.readsDoc {first : Nat} (block : DocOpen text first count)
    (between : (after path text first).place = .between) (outside : (after path text first).inBlock = false)
    (here : text[count]? = some line) : (after path text count).readsDoc line = true := by
  obtain ⟨order, ⟨opening, atFirst, opens⟩, unclosed⟩ := block
  induction order generalizing line with
  | refl =>
    cases Option.some.inj (here.symm.trans atFirst)
    rw [State.readsDoc, between, outside, opens]
    rfl
  | @step count order ih =>
    obtain ⟨bound, _⟩ := List.getElem?_eq_some_iff.mp here
    have previous : text[count]? = some text[count] := List.getElem?_eq_getElem (by omega)
    have reads := ih previous fun earlier other lower upper => unclosed earlier other lower (by omega)
    have stays := unclosed count _ order (Nat.lt_succ_self count) previous
    refine State.readsDoc_of_inDoc ?_
    rw [inDoc_after_succ previous, reads, stays]
    rfl

/-- As long as no class was found, the scanner keeps the flag of block comments. -/
theorem BlockFlag.scanner {inBlock : Bool} (flag : BlockFlag text count inBlock)
    (unknown : (after path text count).found = none) :
    (after path text count).place = .between ∧ (after path text count).inBlock = inBlock := by
  induction flag with
  | start => exact ⟨rfl, rfl⟩
  | @line count inBlock line _ here noDoc ih =>
    obtain ⟨between, same⟩ := ih (found_eq_none_of_le (Nat.le_succ _) unknown)
    have code : (after path text count).readsDoc line = false := by
      rw [State.readsDoc, between, same]
      cases inBlock with
      | true => rfl
      | false => exact noDoc rfl
    refine ⟨between_of_unknown unknown ?_, ?_⟩
    · rw [inDoc_after_succ here, code, Bool.false_and]
    · rw [inBlock_after_succ here, code, same]
      rfl
  | @docBlock first last line _ block here closes ih =>
    -- the scanner is at the opening line what it is behind the block, whose lines it does not count
    obtain ⟨between, outside⟩ := ih (found_eq_none_of_le (Nat.le_succ_of_le block.order) unknown)
    have reads := block.readsDoc between outside here
    refine ⟨between_of_unknown unknown ?_, ?_⟩
    · rw [inDoc_after_succ here, closes, Bool.not_true, Bool.and_false]
    · rw [inBlock_after_succ here, if_pos reads]
      exact (after_docsOutside path text last).inBlock_eq reads

/-- As long as no class was found, what the scanner is inside of is what the lines say: a doc block, or
else a block comment if its flag is set. -/
theorem covered_after (unknown : (after path text count).found = none) (bounded : count ≤ text.length) :
    ((after path text count).inDoc = true → InDocBlock text count) ∧
      ((after path text count).inDoc = false → BlockFlag text count (after path text count).inBlock) := by
  induction count with
  | zero =>
    refine ⟨fun inside => ?_, fun _ => BlockFlag.start⟩
    cases inside
  | succ count ih =>
    have here : text[count]? = some text[count] := List.getElem?_eq_getElem (by omega)
    have before := found_eq_none_of_le (Nat.le_succ count) unknown
    obtain ⟨inside, outside⟩ := ih before (by omega)
    rw [inDoc_after_succ here, inBlock_after_succ here]
    cases reads : (after path text count).readsDoc text[count] with
    | false =>
      refine ⟨fun goesOn => by simp at goesOn, fun _ => ?_⟩
      cases covered : (after path text count).inDoc with
      | true => simp [State.readsDoc_of_inDoc covered] at reads
      | false =>
        refine .line (outside covered) here fun clear => ?_
        simpa [State.readsDoc, between_of_unknown before covered, clear] using reads
    | true =>
      obtain ⟨first, flag, block⟩ : InDocBlock text count := by
        cases covered : (after path text count).inDoc with
        | true => exact inside covered
        | false =>
          -- the doc block begins with this line
          have clear := (after_docsOutside path text count).inBlock_eq reads
          rw [State.readsDoc, between_of_unknown before covered, Bool.and_eq_true] at reads
          refine ⟨count, clear ▸ outside covered, Nat.le_refl _, ⟨_, here, reads.2⟩, ?_⟩
          intro earlier _ lower upper
          omega
      rw [if_pos rfl, (after_docsOutside path text count).inBlock_eq reads]
      cases closes : closesBlock text[count] with
      | true => exact ⟨fun goesOn => by simp at goesOn, fun _ => .docBlock flag block here closes⟩
      | false => exact ⟨fun _ => ⟨first, flag, block.succ here closes⟩, fun ended => by simp at ended⟩

/-- In front of the class the visible lines are those that the scanner reads as code, except for empty
ones. -/
theorem visible_iff_atCode (unknown : (after path text count).found = none) (here : text[count]? = some line)
    (solid : trim line ≠ []) : Visible text count ↔ (after path text count).AtCode line := by
  obtain ⟨bound, _⟩ := List.getElem?_eq_some_iff.mp here
  obtain ⟨inside, outside⟩ := covered_after unknown (Nat.le_of_lt bound)
  constructor
  · rintro ⟨noDoc, noBlock⟩
    have clear : (after path text count).inDoc = false := Bool.eq_false_iff.mpr fun covered => noDoc (inside covered)
    have flag := outside clear
    have code : (after path text count).inBlock = false := by
      refine Bool.eq_false_iff.mpr fun covered => noBlock ?_
      rwa [covered] at flag
    refine ⟨between_of_unknown unknown clear, code, Bool.eq_false_iff.mpr fun opens => noDoc ?_, solid⟩
    refine ⟨count, code ▸ flag, Nat.le_refl _, ⟨line, here, opens⟩, fun earlier _ lower upper => ?_⟩
    omega
  · intro code
    refine ⟨?_, fun flag => ?_⟩
    · rintro ⟨first, flag, block⟩
      obtain ⟨between, clear⟩ := flag.scanner (found_eq_none_of_le block.order unknown)
      have reads := block.readsDoc between clear here
      rw [code.readsDoc] at reads
      cases reads
    · have covered := (flag.scanner unknown).2
      rw [code.outside] at covered
      cases covered

theorem found_of_visible (path : String) {name : List Char} {parent : Option (List Char)}
    (visible : Visible text count) (here : text[count]? = some line) (declares : classDeclaration? line = some (name, parent)) :
    (after path text (count + 1)).found.isSome = true := by
  cases known : (after path text count).found with
  | some outline => exact (found_isSome_mono (Nat.le_succ count) (by rw [known]; rfl)).1
  | none =>
    have code := (visible_iff_atCode known here (trim_ne_nil_of_classDeclaration? declares)).mp visible
    have heading := ((after path text count).step_spec path (count + 1) line).heading_of_code known code
    rw [← after_succ here, declares] at heading
    simpa [State.heading] using congrArg Option.isSome heading

theorem ClassAt.firstClass (atClass : ClassAt path text count) :
    ∃ name parent, FirstClass text count name parent ∧
      (after path text (count + 1)).heading = some (String.ofList name, parent.map String.ofList) := by
  obtain ⟨line, here, code⟩ := atClass.declarationAt.code
  have heading := ((after path text count).step_spec path (count + 1) line).heading_of_code atClass.1 code
  rw [← after_succ here] at heading
  cases declares : classDeclaration? line with
  | none =>
    have known := atClass.2
    rw [declares, Option.map_none, State.heading, Option.map_eq_none_iff] at heading
    simp [heading] at known
  | some declared =>
    obtain ⟨name, parent⟩ := declared
    rw [declares] at heading
    refine ⟨name, parent, ⟨(visible_iff_atCode atClass.1 here code.visible).mpr code, ⟨line, here, declares⟩, ?_⟩,
      heading⟩
    -- an earlier one would have been found, and what is found stays
    intro before other order found visible
    refine Option.eq_none_iff_forall_ne_some.mpr fun ⟨_, _⟩ declared => ?_
    have known := (found_isSome_mono order (found_of_visible path visible found declared)).1
    simp [atClass.1] at known

theorem heading_after_mono {first : Nat} (order : first ≤ count) {heading : String × Option String}
    (known : (after path text first).heading = some heading) : (after path text count).heading = some heading := by
  induction order with
  | refl => exact known
  | @step count _ ih =>
    cases here : text[count]? with
    | none => rwa [after_succ_of_none here]
    | some line =>
      rw [after_succ here]
      exact ((after path text count).step_spec path _ line).heading_of_some ih

end Runs

section Reported

variable {name path content : String} {outline : ClassOutline}

theorem heading_of_scan (found : scan name path content = .ok outline) :
    (after path (lines content.toList) (lines content.toList).length).heading =
      some (outline.name, outline.parent) := by
  rw [← State.heading_finish _ (lines content.toList).length, State.heading, scan_eq_ok_iff.mp found]
  rfl

/-- A class that was found after some lines is the one that is reported, whatever follows. -/
theorem scan_of_heading (name : String) {count : Nat} {heading : String × Option String}
    (known : (after path (lines content.toList) count).heading = some heading) :
    ∃ outline, scan name path content = .ok outline ∧ outline.name = heading.1 ∧ outline.parent = heading.2 := by
  have atEnd : (after path (lines content.toList) (lines content.toList).length).heading = some heading := by
    rcases Nat.le_total count (lines content.toList).length with order | past
    · exact heading_after_mono order known
    · rwa [after_of_length_le (Nat.le_refl _), ← after_of_length_le past]
  rw [← State.heading_finish _ (lines content.toList).length] at atEnd
  obtain ⟨outline, found, rfl⟩ := Option.map_eq_some_iff.mp atEnd
  exact ⟨outline, scan_eq_ok_iff.mpr found, rfl, rfl⟩

theorem scan_eq_error_iff {error : DocError} : scan name path content = .error error ↔
    (after path (lines content.toList) (lines content.toList).length).heading = none ∧
      error = .emptyEntity name path := by
  cases scanned : scan name path content with
  | ok outline => simp [heading_of_scan scanned]
  | error other =>
    have unknown : (after path (lines content.toList) (lines content.toList).length).heading = none := by
      refine Option.eq_none_iff_forall_ne_some.mpr fun heading known => ?_
      obtain ⟨outline, found, _⟩ := scan_of_heading name known
      cases found.symm.trans scanned
    have empty : other = .emptyEntity name path := by
      unfold scan at scanned
      dsimp only at scanned
      split at scanned
      · cases scanned
      · exact (Except.error.inj scanned).symm
    rw [unknown, empty, Except.error.injEq]
    exact ⟨fun same => ⟨rfl, same.symm⟩, fun same => same.2.symm⟩

/-- Scanning fails exactly if no visible line declares a class, and then in one way only. Otherwise
name and parent are those of the first such line, whatever lines follow it. -/
theorem scan_finds_first_visible_class (name path content : String) :
    (scan name path content = .error (.emptyEntity name path) ↔
      ∀ count line, (lines content.toList)[count]? = some line → Visible (lines content.toList) count →
        classDeclaration? line = none) ∧
    (∀ error, scan name path content = .error error → error = .emptyEntity name path) ∧
    ∀ outline, scan name path content = .ok outline →
      ∃ count declared parent, FirstClass (lines content.toList) count declared parent ∧
        outline.name = String.ofList declared ∧ outline.parent = parent.map String.ofList ∧
        ∀ other : String, (lines other.toList).take (count + 1) = (lines content.toList).take (count + 1) →
          ∃ found, scan name path other = .ok found ∧ found.name = outline.name ∧ found.parent = outline.parent := by
  refine ⟨?_, fun error failed => (scan_eq_error_iff.mp failed).2, fun outline scanned => ?_⟩
  · rw [scan_eq_error_iff, State.heading, Option.map_eq_none_iff, and_iff_left rfl]
    constructor
    · intro unknown count line here visible
      obtain ⟨bound, _⟩ := List.getElem?_eq_some_iff.mp here
      refine Option.eq_none_iff_forall_ne_some.mpr fun ⟨_, _⟩ declares => ?_
      have known := (found_isSome_mono bound (found_of_visible path visible here declares)).1
      simp [unknown] at known
    · intro undeclared
      refine Option.not_isSome_iff_eq_none.mp fun known => ?_
      obtain ⟨count, _, atClass, _⟩ := classAt_of_found known
      obtain ⟨declared, parent, first, _⟩ := atClass.firstClass
      obtain ⟨line, here, declares⟩ := first.declares
      rw [undeclared count line here first.visible] at declares
      cases declares
  · have atEnd := heading_of_scan scanned
    have known : (after path (lines content.toList) (lines content.toList).length).found.isSome = true := by
      obtain ⟨_, found, _⟩ := Option.map_eq_some_iff.mp atEnd
      rw [found]
      rfl
    obtain ⟨count, order, atClass, _⟩ := classAt_of_found known
    obtain ⟨declared, parent, first, heading⟩ := atClass.firstClass
    obtain ⟨sameName, sameParent⟩ := Prod.mk.inj (Option.some.inj (atEnd.symm.trans (heading_after_mono order heading)))
    refine ⟨count, declared, parent, first, sameName, sameParent, fun other same => ?_⟩
    rw [after, ← same, ← after] at heading
    rw [sameName, sameParent]
    exact scan_of_heading name heading

end Reported

/-- Classes inside a doc block, behind its end, inside a block comment and behind its end. -/
def hiddenClasses : String :=
  "/** class A\n * class B\n */ class C \x7b\x7d\n$a = '/*'; /* class D\nclass E */ class F \x7b\x7d\n"

/-- The same lines with two classes behind them. -/
def classBehindHidden : String :=
  hiddenClasses ++ "final class G extends H \x7b\nclass I \x7b\x7d\n\x7d\n"

theorem scan_finds_first_visible_class_of_hiddenClasses :
    (∀ count line, (lines hiddenClasses.toList)[count]? = some line → Visible (lines hiddenClasses.toList) count →
      classDeclaration? line = none) ∧
    ∃ count, FirstClass (lines classBehindHidden.toList) count "G".toList (some "H".toList) := by
  have empty : scan "a" "a.php" hiddenClasses = .error (.emptyEntity "a" "a.php") :=
    scan_eq_error_iff.mpr ⟨by decide +kernel, rfl⟩
  have found : scan "a" "a.php" classBehindHidden = .ok ⟨"G", "a.php", none, some "H", []⟩ :=
    scan_eq_ok_iff.mpr (by decide +kernel)
  obtain ⟨count, declared, parent, first, sameName, sameParent, _⟩ :=
    (scan_finds_first_visible_class "a" "a.php" classBehindHidden).2.2 _ found
  refine ⟨(scan_finds_first_visible_class "a" "a.php" hiddenClasses).1.mp empty, count, ?_⟩
  obtain ⟨base, rfl, sameBase⟩ := Option.map_eq_some_iff.mp sameParent.symm
  have nameLetters : declared = "G".toList := String.ofList_inj.mp sameName.symm
  have baseLetters : base = "H".toList := String.ofList_inj.mp sameBase
  rwa [nameLetters, baseLetters] at first

end Scan

end ClassDocs
