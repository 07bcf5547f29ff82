import ClassDocs.Proofs.Source.Ranges
import Mathlib.Order.Bounds.Defs

namespace ClassDocs

/-- The braces of a text and of one that follows it. -/
def LineBraces.followedBy (first second : LineBraces) : LineBraces :=
  ⟨first.opens + second.opens, first.closes + second.closes, second.inBlock⟩

@[simp] theorem LineBraces.followedBy_opens (first second : LineBraces) :
    (first.followedBy second).opens = first.opens + second.opens := rfl

@[simp] theorem LineBraces.followedBy_inBlock (first second : LineBraces) :
    (first.followedBy second).inBlock = second.inBlock := rfl

@[simp] theorem LineBraces.followedBy_net (first second : LineBraces) :
    (first.followedBy second).net = first.net + second.net := by
  simp only [LineBraces.followedBy, LineBraces.net]
  omega

/-- The braces of lines in a row, given whether a block comment is open at their start. A block
comment that one line leaves open goes on in the next. -/
def textBraces : Bool → List (List Char) → LineBraces
  | inBlock, [] => ⟨0, 0, inBlock⟩
  | inBlock, line :: rest =>
    (lineBraces inBlock line).followedBy (textBraces (lineBraces inBlock line).inBlock rest)

theorem textBraces_concat (inBlock : Bool) (text : List (List Char)) (line : List Char) :
    textBraces inBlock (text ++ [line]) =
      (textBraces inBlock text).followedBy (lineBraces (textBraces inBlock text).inBlock line) := by
  induction text generalizing inBlock with
  | nil => simp [textBraces, LineBraces.followedBy]
  | cons first rest ih =>
    rw [List.cons_append, textBraces, ih, textBraces]
    simp only [LineBraces.followedBy, Nat.add_assoc]

namespace Scan

/-- The braces of the lines `first` to `last` of a text, counted from one, read from a start outside
of block comments. -/
def bracesOver (text : List (List Char)) (first last : Nat) : LineBraces :=
  textBraces false (linesOver text first last)

/-- The lines, from `first` on, at whose end a brace has been opened since then and all are closed. -/
def closings (text : List (List Char)) (first : Nat) : Set Nat :=
  {last | first ≤ last ∧ 0 < (bracesOver text first last).opens ∧ (bracesOver text first last).net ≤ 0}

/-- Whether a line that declares a method leaves it without a body. -/
def Bodiless (line : List Char) : Prop :=
  (lineBraces false line).opens = 0 ∧ (trim line).getLast? = some ';'

instance (line : List Char) : Decidable (Bodiless line) :=
  inferInstanceAs (Decidable (_ ∧ _))

theorem mem_closings {text : List (List Char)} {first last : Nat} :
    last ∈ closings text first ↔
      first ≤ last ∧ 0 < (bracesOver text first last).opens ∧ (bracesOver text first last).net ≤ 0 :=
  Iff.rfl

section Braces

variable {text other : List (List Char)} {line : List Char} {first second count last : Nat}

theorem bracesOver_succ (positive : 0 < first) (order : first ≤ count + 1) (here : text[count]? = some line) :
    bracesOver text first (count + 1) =
      (bracesOver text first count).followedBy (lineBraces (bracesOver text first count).inBlock line) := by
  rw [bracesOver, linesOver_succ positive order here, textBraces_concat, bracesOver]

theorem bracesOver_self (here : text[count]? = some line) :
    bracesOver text (count + 1) (count + 1) = lineBraces false line := by
  rw [bracesOver, linesOver_self here]
  simp [textBraces, LineBraces.followedBy]

theorem bracesOver_of_length_le (past : text.length ≤ last) :
    bracesOver text first last = bracesOver text first text.length := by
  have whole {bound : Nat} (past : text.length ≤ bound) :
      linesOver text first bound = text.drop (first - 1) := by
    refine List.take_of_length_le ?_
    rw [List.length_drop]
    omega
  rw [bracesOver, bracesOver, whole past, whole (Nat.le_refl _)]

/-- Where the braces close depends on the lines from the first one on. -/
theorem closings_shift (same : other.drop (second - 1) = text.drop (first - 1)) (offset : Nat) :
    second + offset ∈ closings other second ↔ first + offset ∈ closings text first := by
  have braces : bracesOver other second (second + offset) = bracesOver text first (first + offset) := by
    have length (start : Nat) : start + offset + 1 - start = offset + 1 := by omega
    rw [bracesOver, bracesOver, linesOver, linesOver, same, length, length]
  rw [mem_closings, mem_closings, braces]
  simp only [Nat.le_add_right, true_and]

end Braces

/-- A method that the scanner is inside of after the first `count` lines. Depth and block comment flag
are the balance of its own lines, and its braces have not been closed yet. -/
structure Running (text : List (List Char)) (count : Nat) (state : State) (method : MethodOutline)
    (base : Int) (opened : Bool) : Prop where
  positive : 0 < method.first
  started : method.first ≤ count
  nesting : state.depth = base + (bracesOver text method.first count).net
  block : state.inBlock = (bracesOver text method.first count).inBlock
  brace : opened = decide (0 < (bracesOver text method.first count).opens)
  bodied : ∃ line, text[method.first - 1]? = some line ∧ ¬ Bodiless line
  unclosed : ∀ last ≤ count, last ∉ closings text method.first

/-- A method that ends where it has to: on its own line if that leaves it without a body, else where
its braces close, or with the text if they never do. -/
def EndsExactly (text : List (List Char)) (method : MethodOutline) : Prop :=
  ∃ line, text[method.first - 1]? = some line ∧
    (Bodiless line → method.last = method.first) ∧
    (¬ Bodiless line →
      IsLeast (closings text method.first) method.last ∨
        (∀ last, last ∉ closings text method.first) ∧ method.last = text.length)

/-- What holds of the ranges after the first `count` lines. -/
structure State.RangesExact (text : List (List Char)) (count : Nat) (state : State) : Prop where
  complete : ∀ outline, state.found = some outline → ∀ method ∈ outline.methods, EndsExactly text method
  running : ∀ method base opened, state.place = .method method base opened →
    Running text count state method base opened

theorem State.mem_methods_addMethod {state : State} {method other : MethodOutline} {outline : ClassOutline}
    (found : (state.addMethod method).found = some outline) (member : other ∈ outline.methods) :
    other = method ∨ ∃ before, state.found = some before ∧ other ∈ before.methods := by
  simp only [State.addMethod, Option.map_eq_some_iff] at found
  obtain ⟨before, known, rfl⟩ := found
  rcases List.mem_append.mp member with old | new
  · exact Or.inr ⟨before, known, old⟩
  · exact Or.inl (List.mem_singleton.mp new)

section Steps

variable {path : String} {text : List (List Char)} {state next : State} {count : Nat} {line : List Char}
  {method : MethodOutline} {base : Int} {opened : Bool}

theorem Running.bracesOver_next (running : Running text count state method base opened)
    (here : text[count]? = some line) :
    bracesOver text method.first (count + 1) =
      (bracesOver text method.first count).followedBy (lineBraces state.inBlock line) := by
  rw [bracesOver_succ running.positive (Nat.le_succ_of_le running.started) here, running.block]

theorem Running.mem_closings_next (running : Running text count state method base opened)
    (here : text[count]? = some line) :
    count + 1 ∈ closings text method.first ↔
      (opened = true ∨ 0 < (lineBraces state.inBlock line).opens) ∧
        state.depth + (lineBraces state.inBlock line).net ≤ base := by
  have nesting := running.nesting
  have started := running.started
  rw [mem_closings, running.bracesOver_next here]
  simp only [LineBraces.followedBy_opens, LineBraces.followedBy_net, running.brace, decide_eq_true_eq]
  omega

theorem Running.goesOn (running : Running text count state method base opened)
    (here : text[count]? = some line)
    (unfinished : opened = true ∨ 0 < (lineBraces state.inBlock line).opens →
      base < state.depth + (lineBraces state.inBlock line).net) :
    Running text (count + 1)
      { state.advance (lineBraces state.inBlock line) with
        place := .method method base (opened || decide (0 < (lineBraces state.inBlock line).opens)) }
      method base (opened || decide (0 < (lineBraces state.inBlock line).opens)) := by
  have braces := running.bracesOver_next here
  have nesting := running.nesting
  refine ⟨running.positive, Nat.le_succ_of_le running.started, ?_, ?_, ?_, running.bodied, ?_⟩
  · rw [braces, LineBraces.followedBy_net, State.advance_depth]
    omega
  · rw [braces, LineBraces.followedBy_inBlock, State.advance_inBlock]
  · rw [braces, LineBraces.followedBy_opens, running.brace, Bool.eq_iff_iff]
    simp only [Bool.or_eq_true, decide_eq_true_eq]
    omega
  · intro last bound closing
    by_cases newest : last = count + 1
    · subst last
      obtain ⟨started, finished⟩ := (running.mem_closings_next here).mp closing
      have above := unfinished started
      omega
    · exact running.unclosed last (by omega) closing

theorem Running.ends (running : Running text count state method base opened)
    (here : text[count]? = some line)
    (started : opened = true ∨ 0 < (lineBraces state.inBlock line).opens)
    (finished : state.depth + (lineBraces state.inBlock line).net ≤ base) :
    EndsExactly text { method with last := count + 1 } := by
  obtain ⟨first, declared, bodied⟩ := running.bodied
  have closing := (running.mem_closings_next here).mpr ⟨started, finished⟩
  refine ⟨first, declared, fun bodiless => absurd bodiless bodied, fun _ => Or.inl ⟨closing, ?_⟩⟩
  intro last closes
  refine Nat.not_lt.mp fun earlier => ?_
  exact running.unclosed last (Nat.le_of_lt_succ earlier) closes

/-- A method that is still open when the text ends has no closing line at all. -/
theorem Running.endsWithText (running : Running text text.length state method base opened) :
    EndsExactly text { method with last := text.length } := by
  obtain ⟨first, declared, bodied⟩ := running.bodied
  refine ⟨first, declared, fun bodiless => absurd bodiless bodied, fun _ => Or.inr ⟨?_, rfl⟩⟩
  intro last closing
  by_cases past : text.length ≤ last
  · rw [mem_closings, bracesOver_of_length_le past] at closing
    exact running.unclosed text.length (Nat.le_refl _) ⟨running.started, closing.2⟩
  · exact running.unclosed last (Nat.le_of_not_le past) closing

theorem mem_closings_declaration (here : text[count]? = some line) {last : Nat} (bound : last ≤ count + 1) :
    last ∈ closings text (count + 1) ↔
      last = count + 1 ∧ 0 < (lineBraces false line).opens ∧ (lineBraces false line).net ≤ 0 := by
  constructor
  · intro closing
    have same : last = count + 1 := Nat.le_antisymm bound closing.1
    rw [same, mem_closings, bracesOver_self here] at closing
    exact ⟨same, closing.2⟩
  · rintro ⟨rfl, braces⟩
    rw [mem_closings, bracesOver_self here]
    exact ⟨Nat.le_refl _, braces⟩

theorem endsExactly_declaration {name : List Char} (here : text[count]? = some line)
    (complete : Bodiless line ∨ 0 < (lineBraces false line).opens ∧ (lineBraces false line).net ≤ 0) :
    EndsExactly text (state.outlineAt path name (count + 1)) := by
  refine ⟨line, here, fun _ => rfl, fun bodied => Or.inl ⟨?_, fun last closing => closing.1⟩⟩
  exact (mem_closings_declaration here (Nat.le_refl _)).mpr ⟨rfl, complete.resolve_left bodied⟩

theorem running_declaration {name : List Char} (here : text[count]? = some line)
    (bodied : (lineBraces false line).opens = 0 → (trim line).getLast? ≠ some ';')
    (unfinished : 0 < (lineBraces false line).opens → 0 < (lineBraces false line).net)
    (same : next.depth = state.depth + (lineBraces false line).net)
    (block : next.inBlock = (lineBraces false line).inBlock) :
    Running text (count + 1) next (state.outlineAt path name (count + 1)) state.depth
      (decide (0 < (lineBraces false line).opens)) := by
  have braces := bracesOver_self here
  refine ⟨Nat.succ_pos count, Nat.le_refl _, ?_, ?_, ?_, ⟨line, here, fun none => bodied none.1 none.2⟩, ?_⟩
  · rw [State.outlineAt, braces, same]
  · rw [State.outlineAt, braces, block]
  · rw [State.outlineAt, braces]
  · intro last bound closing
    obtain ⟨_, opens, closed⟩ := (mem_closings_declaration here bound).mp closing
    have above := unfinished opens
    omega

theorem Step.rangesExact (step : Step path state (count + 1) line next) (here : text[count]? = some line)
    (exact : state.RangesExact text count) : next.RangesExact text (count + 1) := by
  cases step with
  | docGoesOn place | docEnds place | docOpens place =>
    exact ⟨exact.complete, fun _ _ _ new => by cases new⟩
  | docLine place | inComment place | blank place =>
    exact ⟨exact.complete, fun _ _ _ old => by cases place.symm.trans old⟩
  | bodyGoesOn place unfinished =>
    refine ⟨exact.complete, fun method base opened new => ?_⟩
    cases new
    exact (exact.running _ _ _ place).goesOn here unfinished
  | bodyEnds place started finished =>
    refine ⟨fun outline found method member => ?_, fun _ _ _ new => by cases new⟩
    rcases State.mem_methods_addMethod found member with rfl | ⟨before, known, old⟩
    · exact (exact.running _ _ _ place).ends here started finished
    · exact exact.complete before known method old
  | classDeclared code =>
    refine ⟨fun outline found method member => ?_, fun _ _ _ old => by cases code.between.symm.trans old⟩
    cases found
    cases member
  | methodComplete reads complete =>
    refine ⟨fun outline found method member => ?_, fun _ _ _ old => by cases reads.between.symm.trans old⟩
    rcases State.mem_methods_addMethod found member with rfl | ⟨before, known, old⟩
    · exact endsExactly_declaration here complete
    · exact exact.complete before known method old
  | methodOpens reads bodied unfinished =>
    refine ⟨exact.complete, fun method base opened new => ?_⟩
    cases new
    exact running_declaration here bodied unfinished rfl rfl
  | passes code =>
    exact ⟨exact.complete, fun _ _ _ old => by cases code.between.symm.trans old⟩

end Steps

theorem rangesExact_after (path : String) (text : List (List Char)) (count : Nat) (bounded : count ≤ text.length) :
    (after path text count).RangesExact text count := by
  induction count with
  | zero => exact ⟨fun _ found => (by cases found), fun _ _ _ place => by cases place⟩
  | succ count ih =>
    have here : text[count]? = some text[count] := List.getElem?_eq_getElem (by omega)
    rw [after_succ here]
    exact ((after path text count).step_spec path (count + 1) _).rangesExact here (ih (by omega))

theorem endsExactly_of_scan {name path content : String} {outline : ClassOutline}
    (found : scan name path content = .ok outline) :
    ∀ method ∈ outline.methods, EndsExactly (lines content.toList) method := by
  have exact := rangesExact_after path (lines content.toList) _ (Nat.le_refl _)
  have complete := scan_eq_ok_iff.mp found
  unfold State.finish at complete
  intro method member
  split at complete
  · rename_i unfinished base opened place
    rcases State.mem_methods_addMethod complete member with rfl | ⟨before, known, old⟩
    · exact (exact.running _ _ _ place).endsWithText
    · exact exact.complete before known method old
  · exact exact.complete _ complete method member

/-- Of two methods whose texts agree from their declarations on, the first is not the longer one. -/
theorem EndsExactly.extent_le {path otherPath : String} {text other : List (List Char)}
    {method second : MethodOutline} (ends : EndsExactly text method) (secondEnds : EndsExactly other second)
    (fits : Fits path text text.length method) (secondFits : Fits otherPath other other.length second)
    (same : other.drop (second.first - 1) = text.drop (method.first - 1)) :
    method.last + second.first ≤ second.last + method.first := by
  obtain ⟨line, here, bodiless, bodied⟩ := ends
  obtain ⟨secondLine, secondHere, secondBodiless, secondBodied⟩ := secondEnds
  have ordered := fits.ordered
  have secondOrdered := secondFits.ordered
  have sameLine : secondLine = line := by
    have head := congrArg List.head? same
    rw [List.head?_drop, List.head?_drop, here, secondHere] at head
    exact Option.some.inj head
  subst secondLine
  by_cases body : Bodiless line
  · have last := bodiless body
    omega
  -- the end of each method, as a distance from its declaration
  obtain ⟨extent, reach⟩ := Nat.exists_eq_add_of_le ordered
  obtain ⟨secondExtent, secondReach⟩ := Nat.exists_eq_add_of_le secondOrdered
  rcases bodied body with ⟨closing, least⟩ | ⟨none, last⟩
  · rcases secondBodied body with ⟨secondClosing, _⟩ | ⟨secondNone, _⟩
    · have bound := least ((closings_shift same secondExtent).mp (secondReach ▸ secondClosing))
      omega
    · exact absurd ((closings_shift same extent).mpr (reach ▸ closing)) (secondNone _)
  · rcases secondBodied body with ⟨secondClosing, _⟩ | ⟨_, secondLast⟩
    · exact absurd ((closings_shift same secondExtent).mp (secondReach ▸ secondClosing)) (none _)
    · have length := congrArg List.length same
      rw [List.length_drop, List.length_drop] at length
      have positive := fits.positive
      have secondPositive := secondFits.positive
      omega

/-- A method without a body is its declaration line. Any other method ends on the first line at whose
end the braces opened since its declaration are closed, or with the text if there is no such line. The
lines in front of the declaration have no part in that, whatever is open there. -/
theorem method_ends_where_braces_close {name path content : String} {outline : ClassOutline}
    (found : scan name path content = .ok outline) {method : MethodOutline} (member : method ∈ outline.methods) :
    0 < method.first ∧
      (∃ line, (lines content.toList)[method.first - 1]? = some line ∧
        (Bodiless line → method.last = method.first) ∧
        (¬ Bodiless line →
          IsLeast (closings (lines content.toList) method.first) method.last ∨
            (∀ last, last ∉ closings (lines content.toList) method.first) ∧
              method.last = (lines content.toList).length)) ∧
      ∀ {otherName otherPath otherContent : String} {otherOutline : ClassOutline},
        scan otherName otherPath otherContent = .ok otherOutline → ∀ other ∈ otherOutline.methods,
        (lines otherContent.toList).drop (other.first - 1) = (lines content.toList).drop (method.first - 1) →
        other.last + method.first = method.last + other.first := by
  have fits := fits_of_scan found method member
  have ends := endsExactly_of_scan found method member
  refine ⟨fits.positive, ends, ?_⟩
  intro otherName otherPath otherContent otherOutline otherFound other otherMember same
  have otherFits := fits_of_scan otherFound other otherMember
  have otherEnds := endsExactly_of_scan otherFound other otherMember
  have upper := ends.extent_le otherEnds fits otherFits same
  have lower := otherEnds.extent_le ends otherFits fits same.symm
  omega

/-- A class with a method whose comment and string hide braces, and one that never ends. -/
def hiddenBraces : String :=
  "class A \x7b\n\tfunction f()\n\t\x7b /* \x7d\n\t\x7d */ $s = '\x7d';\n\t\x7d\n\tfunction g() \x7b\n"

theorem method_ends_where_braces_close_of_hiddenBraces :
    ∃ outline, scan "a" "a.php" hiddenBraces = .ok outline ∧
      (∃ method ∈ outline.methods, method.name = "f" ∧ method.first = 2 ∧
        IsLeast (closings (lines hiddenBraces.toList) 2) 5) ∧
      (∃ method ∈ outline.methods, method.name = "g" ∧ method.last = 6 ∧
        ∀ last, last ∉ closings (lines hiddenBraces.toList) 6) ∧
      ∃ shifted, scan "a" "a.php" ("\x7b\x7b\n" ++ hiddenBraces) = .ok shifted ∧
        ∃ method ∈ shifted.methods, method.first = 3 ∧ method.last + 2 = 5 + 3 := by
  have found : scan "a" "a.php" hiddenBraces = .ok ⟨"A", "a.php", none, none,
      [⟨"f", "a.php", none, 2, 5⟩, ⟨"g", "a.php", none, 6, 6⟩]⟩ := scan_eq_ok_iff.mpr (by decide +kernel)
  have shifted : scan "a" "a.php" ("\x7b\x7b\n" ++ hiddenBraces) = .ok ⟨"A", "a.php", none, none,
      [⟨"f", "a.php", none, 3, 6⟩, ⟨"g", "a.php", none, 7, 7⟩]⟩ := scan_eq_ok_iff.mpr (by decide +kernel)
  have same : (lines ("\x7b\x7b\n" ++ hiddenBraces).toList).drop 2 = (lines hiddenBraces.toList).drop 1 := by
    decide +kernel
  obtain ⟨_, ⟨line, here, _, bodied⟩, alike⟩ := method_ends_where_braces_close found (List.mem_cons_self ..)
  obtain ⟨_, ⟨lastLine, lastHere, _, lastBodied⟩, _⟩ :=
    method_ends_where_braces_close found (List.mem_cons_of_mem _ (List.mem_cons_self ..))
  cases Option.some.inj (here.symm.trans (show _ = some "\tfunction f()".toList by decide +kernel))
  cases Option.some.inj (lastHere.symm.trans (show _ = some "\tfunction g() \x7b".toList by decide +kernel))
  refine ⟨_, found, ⟨_, List.mem_cons_self .., rfl, rfl, ?_⟩,
    ⟨_, List.mem_cons_of_mem _ (List.mem_cons_self ..), rfl, rfl, ?_⟩,
    _, shifted, _, List.mem_cons_self .., rfl, alike shifted _ (List.mem_cons_self ..) same⟩
  · rcases bodied (by decide +kernel) with least | ⟨_, last⟩
    · exact least
    · exact absurd last (by decide +kernel)
  · rcases lastBodied (by decide +kernel) with ⟨closing, _⟩ | ⟨none, _⟩
    · exact absurd closing.2 (by decide +kernel)
    · exact none

end Scan

end ClassDocs
