import ClassDocs.Proofs.Source.ScanRun

namespace ClassDocs

namespace Scan

/-- The first lines of the methods that were declared so far, the open one included. -/
def State.starts (state : State) : List Nat :=
  (state.found.elim [] fun outline => outline.methods.map (·.first)) ++
    match state.place with
    | .method method _ _ => [method.first]
    | _ => []

/-- A method is open only where a class was found to which it can be added. -/
def State.Anchored (state : State) : Prop :=
  ∀ method base opened, state.place = .method method base opened → state.found.isSome = true

theorem Step.anchored {path : String} {state next : State} {number : Nat} {line : List Char}
    (step : Step path state number line next) (anchored : state.Anchored) : next.Anchored := by
  intro method base opened place
  cases step with
  | bodyGoesOn old => exact anchored _ _ _ old
  | classDeclared => rfl
  | methodOpens reads => exact reads.known
  | docGoesOn | docEnds | docOpens => cases place
  | docLine old | inComment old => exact anchored _ _ _ place
  | blank => exact anchored _ _ _ place
  | bodyEnds => cases place
  | methodComplete reads => simp [reads.between] at place
  | passes code => simp [code.between] at place

theorem State.starts_addMethod {state : State} (known : state.found.isSome = true)
    (place : state.place = .between) (method : MethodOutline) :
    (state.addMethod method).starts = state.starts ++ [method.first] := by
  obtain ⟨outline, found⟩ := Option.isSome_iff_exists.mp known
  simp [State.starts, State.addMethod, found, place]

theorem Step.mem_starts {path : String} {state next : State} {number : Nat} {line : List Char}
    (step : Step path state number line next) (anchored : state.Anchored) (start : Nat) :
    start ∈ next.starts ↔
      start ∈ state.starts ∨ start = number ∧ ∃ name, state.ReadsMethod line name := by
  have untouched {next : State} (same : next.starts = state.starts)
      (none : ∀ name, ¬ state.ReadsMethod line name) :
      start ∈ next.starts ↔
        start ∈ state.starts ∨ start = number ∧ ∃ name, state.ReadsMethod line name := by
    simp [same, none]
  cases step with
  | docGoesOn place | docEnds place | bodyGoesOn place =>
    refine untouched (by simp [State.starts, place]) fun _ reads => ?_
    cases place.symm.trans reads.between
  | bodyEnds place =>
    have none : ¬ ∃ name, state.ReadsMethod line name := by
      rintro ⟨_, reads⟩
      cases place.symm.trans reads.between
    rw [State.starts_addMethod (by exact anchored _ _ _ place) rfl]
    simp [State.starts, place, none]
  | docOpens place outside doc | docLine place outside doc =>
    refine untouched (by simp [State.starts, place]) fun _ reads => ?_
    simp [reads.noDoc] at doc
  | blank place empty => exact untouched rfl fun _ reads => reads.visible empty
  | inComment place inside =>
    refine untouched rfl fun _ reads => ?_
    simp [reads.outside] at inside
  | classDeclared code unknown =>
    refine untouched (by simp [State.starts, unknown, code.between]) fun _ reads => ?_
    simpa [unknown] using reads.known
  | methodComplete reads =>
    have declared : ∃ name, state.ReadsMethod line name := ⟨_, reads⟩
    rw [State.starts_addMethod (by exact reads.known) (by exact reads.between)]
    simp [State.starts, reads.between, State.outlineAt, declared]
  | methodOpens reads =>
    have declared : ∃ name, state.ReadsMethod line name := ⟨_, reads⟩
    simp [State.starts, reads.between, State.outlineAt, declared]
  | passes code _ noMethod => exact untouched rfl noMethod

variable {path : String} {text : List (List Char)}

theorem after_anchored (path : String) (text : List (List Char)) (count : Nat) :
    (after path text count).Anchored :=
  after_invariant (fun _ _ _ place => by cases place)
    (fun state number line anchored => (state.step_spec path number line).anchored anchored) count

/-- The line of a number is read as the declaration of a method. -/
def DeclaresMethod (path : String) (text : List (List Char)) (number : Nat) : Prop :=
  ∃ i line name, number = i + 1 ∧ text[i]? = some line ∧ (after path text i).ReadsMethod line name

/-- The methods that the scanner has met are exactly those whose declaration it has read. -/
theorem mem_starts_after (count start : Nat) :
    start ∈ (after path text count).starts ↔ start ≤ count ∧ DeclaresMethod path text start := by
  induction count with
  | zero =>
    have none : (after path text 0).starts = [] := rfl
    rw [none]
    constructor
    · intro member
      cases member
    · rintro ⟨bound, i, _, _, rfl, _⟩
      omega
  | succ count ih =>
    cases here : text[count]? with
    | none =>
      rw [after_succ_of_none here, ih]
      refine and_congr_left fun ⟨i, line, name, same, found, _⟩ => ?_
      obtain ⟨bound, _⟩ := List.getElem?_eq_some_iff.mp found
      have past := List.getElem?_eq_none_iff.mp here
      omega
    | some line =>
      have step := (after path text count).step_spec path (count + 1) line
      rw [after_succ here, step.mem_starts (after_anchored path text count), ih]
      constructor
      · rintro (⟨bound, declares⟩ | ⟨rfl, name, reads⟩)
        · exact ⟨Nat.le_succ_of_le bound, declares⟩
        · exact ⟨Nat.le_refl _, count, line, name, rfl, here, reads⟩
      · rintro ⟨bound, i, other, name, rfl, found, reads⟩
        by_cases last : i = count
        · subst i
          cases Option.some.inj (here.symm.trans found)
          exact Or.inr ⟨rfl, name, reads⟩
        · exact Or.inl ⟨by omega, i, other, name, rfl, found, reads⟩

theorem State.starts_finish {state : State} (anchored : state.Anchored) (number : Nat)
    {outline : ClassOutline} (found : (state.finish number).found = some outline) :
    outline.methods.map (·.first) = state.starts := by
  unfold State.finish at found
  split at found
  · rename_i method base opened place
    obtain ⟨before, known⟩ := Option.isSome_iff_exists.mp (anchored _ _ _ place)
    simp only [State.addMethod, known, Option.map_some, Option.some.injEq] at found
    simp [← found, State.starts, known, place]
  · simp only [State.starts, found, Option.elim_some, List.append_nil]

/-- The first lines of the reported methods are the lines read as declarations. -/
theorem mem_first_iff {name content : String} {outline : ClassOutline}
    (found : scan name path content = .ok outline) (number : Nat) :
    (∃ method ∈ outline.methods, method.first = number) ↔
      DeclaresMethod path (lines content.toList) number := by
  have starts := State.starts_finish (after_anchored _ _ _) _ (scan_eq_ok_iff.mp found)
  rw [← List.mem_map, starts, mem_starts_after]
  refine and_iff_right_of_imp fun ⟨i, line, name, same, here, _⟩ => ?_
  obtain ⟨bound, _⟩ := List.getElem?_eq_some_iff.mp here
  omega

/-- The class is declared on the line after the first `declared` lines. -/
def ClassAt (path : String) (text : List (List Char)) (declared : Nat) : Prop :=
  (after path text declared).found = none ∧ (after path text (declared + 1)).found.isSome = true

/-- The scanner counts an opening brace on the line after the first `count` lines. -/
def OpensBrace (path : String) (text : List (List Char)) (count : Nat) : Prop :=
  ∃ line, text[count]? = some line ∧ 0 < ((after path text count).counted line).opens

/-- The opening brace of the class: the first one from its declaration on. -/
def BodyOpens (path : String) (text : List (List Char)) (declared opened : Nat) : Prop :=
  declared ≤ opened ∧ OpensBrace path text opened ∧
    ∀ count, declared ≤ count → count < opened → ¬ OpensBrace path text count

/-- The line of a number lies in the body of the class. The line with the opening brace of the class
leaves the nesting deeper than it was in front of the declaration, and up to this line the nesting
never comes back to where it was. -/
def InClassBody (path : String) (text : List (List Char)) (number : Nat) : Prop :=
  ∃ declared opened, ClassAt path text declared ∧ BodyOpens path text declared opened ∧
    opened + 1 < number ∧
    ∀ count, opened < count → count < number →
      (after path text declared).depth < (after path text count).depth

/-- Before the line of a number, but after a brace was opened from the declaration of the class on,
the nesting was back where it was in front of the declaration. -/
def BodyClosedBefore (path : String) (text : List (List Char)) (number : Nat) : Prop :=
  ∃ declared opened count, ClassAt path text declared ∧ declared ≤ opened ∧
    OpensBrace path text opened ∧ opened < count ∧ count < number ∧
    (after path text count).depth ≤ (after path text declared).depth

theorem found_isSome_mono {first second : Nat} (order : first ≤ second)
    (known : (after path text first).found.isSome = true) :
    (after path text second).found.isSome = true ∧
      (after path text second).classDepth = (after path text first).classDepth := by
  induction order with
  | refl => exact ⟨known, rfl⟩
  | @step second _ ih =>
    cases here : text[second]? with
    | none =>
      rw [after_succ_of_none here]
      exact ih
    | some line =>
      rw [after_succ here]
      obtain ⟨later, depth⟩ := ((after path text second).step_spec path _ line).found_isSome ih.1
      exact ⟨later, depth.trans ih.2⟩

theorem ClassAt.unique {declared other : Nat} (first : ClassAt path text declared)
    (second : ClassAt path text other) : declared = other := by
  have later {a b : Nat} (atA : ClassAt path text a) (atB : ClassAt path text b) : b ≤ a := by
    refine Nat.not_lt.mp fun order => ?_
    have known := (found_isSome_mono order atA.2).1
    simp [atB.1] at known
  exact Nat.le_antisymm (later second first) (later first second)

theorem classAt_of_found {count : Nat} (known : (after path text count).found.isSome = true) :
    ∃ declared < count, ClassAt path text declared ∧
      (after path text count).classDepth = (after path text declared).depth := by
  induction count with
  | zero => cases known
  | succ count ih =>
    cases earlier : (after path text count).found with
    | some outline =>
      have before : (after path text count).found.isSome = true := by simp [earlier]
      obtain ⟨declared, bound, atClass, depth⟩ := ih before
      exact ⟨declared, by omega, atClass, (found_isSome_mono (Nat.le_succ count) before).2.trans depth⟩
    | none =>
      refine ⟨count, Nat.lt_succ_self count, ⟨earlier, known⟩, ?_⟩
      cases here : text[count]? with
      | none =>
        rw [after_succ_of_none here] at known
        simp [earlier] at known
      | some line =>
        rw [after_succ here] at known ⊢
        exact ((after path text count).step_spec path _ line).class_declared earlier known

theorem depth_succ_le {count : Nat} (none : ¬ OpensBrace path text count) :
    (after path text (count + 1)).depth ≤ (after path text count).depth := by
  cases here : text[count]? with
  | none => exact Int.le_of_eq (congrArg State.depth (after_succ_of_none here))
  | some line =>
    have shut : ((after path text count).counted line).opens = 0 :=
      Nat.eq_zero_of_not_pos fun opens => none ⟨line, here, opens⟩
    rw [after_succ here, ((after path text count).step_spec path _ line).lexical.1, LineBraces.net, shut]
    omega

/-- Without an opening brace the nesting cannot get deeper. -/
theorem bodyOpens_or_depth_le {declared count : Nat} (order : declared ≤ count) :
    (∃ opened < count, BodyOpens path text declared opened) ∨
      (∀ k, declared ≤ k → k < count → ¬ OpensBrace path text k) ∧
        (after path text count).depth ≤ (after path text declared).depth := by
  induction order with
  | refl => exact Or.inr ⟨by omega, Int.le_refl _⟩
  | @step count order ih =>
    rcases ih with ⟨opened, bound, opens⟩ | ⟨none, low⟩
    · exact Or.inl ⟨opened, by omega, opens⟩
    by_cases brace : OpensBrace path text count
    · exact Or.inl ⟨count, Nat.lt_succ_self count, order, brace, none⟩
    · refine Or.inr ⟨fun k lower upper => ?_, Int.le_trans (depth_succ_le brace) low⟩
      by_cases last : k = count
      · rwa [last]
      · exact none k lower (by omega)

theorem bodyOpens_of_deeper {declared count : Nat} (order : declared ≤ count)
    (deeper : (after path text declared).depth < (after path text count).depth) :
    ∃ opened < count, BodyOpens path text declared opened := by
  rcases bodyOpens_or_depth_le order with opens | ⟨_, low⟩
  · exact opens
  · omega

theorem InClassBody.not_closed {number : Nat} (inside : InClassBody path text number) :
    ¬ BodyClosedBefore path text number := by
  rintro ⟨other, brace, count, atOther, from_other, opens, later, bound, low⟩
  obtain ⟨declared, opened, atClass, ⟨_, _, first⟩, _, deeper⟩ := inside
  cases atOther.unique atClass
  have order : opened ≤ brace := Nat.not_lt.mp fun before => first brace from_other before opens
  have above := deeper count (by omega) bound
  omega

theorem DeclaresMethod.inClassBody_iff {number : Nat} (declares : DeclaresMethod path text number) :
    InClassBody path text number ↔ ¬ BodyClosedBefore path text number := by
  refine ⟨InClassBody.not_closed, fun unclosed => ?_⟩
  obtain ⟨i, line, name, rfl, here, reads⟩ := declares
  obtain ⟨declared, before, atClass, depth⟩ := classAt_of_found reads.known
  have deeper : (after path text declared).depth < (after path text i).depth := by
    have inside := reads.inside
    omega
  obtain ⟨opened, bound, opens⟩ := bodyOpens_of_deeper (Nat.le_of_lt before) deeper
  refine ⟨declared, opened, atClass, opens, by omega, fun count lower upper => ?_⟩
  refine Int.not_le.mp fun low => unclosed ?_
  exact ⟨declared, opened, count, atClass, opens.1, opens.2.1, lower, upper, low⟩

/-- When exactly all reported methods lie in the body of the class. The scanner goes by the nesting
alone, so it also takes a method for the class's own that stands one level below it in a later
block. -/
theorem methods_inClassBody_iff {name content : String} {outline : ClassOutline}
    (found : scan name path content = .ok outline) :
    (∀ method ∈ outline.methods, InClassBody path (lines content.toList) method.first) ↔
      ∀ number, DeclaresMethod path (lines content.toList) number →
        ¬ BodyClosedBefore path (lines content.toList) number := by
  constructor
  · intro inside number declares
    obtain ⟨method, member, rfl⟩ := (mem_first_iff found number).mpr declares
    exact (inside method member).not_closed
  · intro unclosed method member
    have declares := (mem_first_iff found method.first).mp ⟨method, member, rfl⟩
    exact declares.inClassBody_iff.mpr (unclosed _ declares)

/-- A class with a method, and a function behind it. -/
def classAndFunction : String :=
  "class A \x7b\n\tfunction f() \x7b\x7d\n\x7d\nfunction g() \x7b\x7d\n"

theorem methods_inClassBody_classAndFunction :
    ∃ outline, scan "a" "a.php" classAndFunction = .ok outline ∧
      ((∀ method ∈ outline.methods, InClassBody "a.php" (lines classAndFunction.toList) method.first) ↔
        ∀ number, DeclaresMethod "a.php" (lines classAndFunction.toList) number →
          ¬ BodyClosedBefore "a.php" (lines classAndFunction.toList) number) := by
  have found : scan "a" "a.php" classAndFunction =
      .ok ⟨"A", "a.php", none, none, [⟨"f", "a.php", none, 2, 2⟩]⟩ :=
    scan_eq_ok_iff.mpr (by decide +kernel)
  exact ⟨_, found, methods_inClassBody_iff found⟩

/-- A class without methods, and a second one with a method. -/
def twoClasses : String :=
  "class A \x7b\n\x7d\nclass B \x7b\n\tfunction f() \x7b\x7d\n\x7d\n"

/-- Of two classes in one text the first is reported, but with the method of the second. -/
theorem scan_twoClasses_outside_body :
    ∃ outline, scan "a" "a.php" twoClasses = .ok outline ∧ outline.name = "A" ∧
      ∃ method ∈ outline.methods, method.name = "f" ∧
        ¬ InClassBody "a.php" (lines twoClasses.toList) method.first := by
  have found : scan "a" "a.php" twoClasses =
      .ok ⟨"A", "a.php", none, none, [⟨"f", "a.php", none, 4, 4⟩]⟩ :=
    scan_eq_ok_iff.mpr (by decide +kernel)
  have opens : OpensBrace "a.php" (lines twoClasses.toList) 0 :=
    ⟨"class A \x7b".toList, by decide +kernel, by decide +kernel⟩
  refine ⟨_, found, rfl, _, List.mem_cons_self .., rfl, fun inside => inside.not_closed ?_⟩
  exact ⟨0, 0, 2, ⟨rfl, by decide +kernel⟩, by decide, opens, by decide, by decide, by decide +kernel⟩

end Scan

end ClassDocs
