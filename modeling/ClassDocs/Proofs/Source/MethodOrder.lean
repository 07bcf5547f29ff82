import ClassDocs.Proofs.Source.DocBlocks
import ClassDocs.Proofs.Source.MethodEnds

namespace ClassDocs

namespace Scan

def State.complete (state : State) : List MethodOutline :=
  state.found.elim [] (·.methods)

/-- The method that the scanner is inside of, if it is inside of one. -/
def State.running (state : State) : List MethodOutline :=
  match state.place with
  | .method method _ _ => [method]
  | _ => []

/-- All methods that were declared so far, in the order of their declarations. -/
def State.met (state : State) : List MethodOutline :=
  state.complete ++ state.running

theorem State.starts_eq (state : State) : state.starts = state.met.map (·.first) := by
  rw [State.met, List.map_append, State.starts]
  unfold State.complete State.running
  congr 1
  · cases state.found <;> rfl
  · cases state.place <;> rfl

def InOrder (methods : List MethodOutline) : Prop :=
  methods.Pairwise fun earlier later => earlier.last < later.first

/-- A method that goes on where the text ends: its declaration does not leave it without a body, and
no line closes its braces. -/
def Unterminated (text : List (List Char)) (method : MethodOutline) : Prop :=
  (∀ line, text[method.first - 1]? = some line → ¬ Bodiless line) ∧
    ∀ last, last ∉ closings text method.first

section Steps

variable {path : String} {state next : State} {number : Nat} {line : List Char}

theorem State.complete_addMethod (known : state.found.isSome = true) (method : MethodOutline) :
    (state.addMethod method).complete = state.complete ++ [method] := by
  obtain ⟨outline, found⟩ := Option.isSome_iff_exists.mp known
  simp [State.complete, State.addMethod, found]

theorem State.running_of_between (place : state.place = .between) : state.running = [] := by
  rw [State.running, place]

theorem State.running_of_method {method : MethodOutline} {base : Int} {opened : Bool}
    (place : state.place = .method method base opened) : state.running = [method] := by
  rw [State.running, place]

/-- All that one line can do to the methods met so far: leave them, end the one that is open, or add
the one that it declares. -/
theorem Step.met (step : Step path state number line next) (anchored : state.Anchored) :
    next.met = state.met ∨
      (∃ method, state.running = [method] ∧ next.met = state.complete ++ [{ method with last := number }]) ∨
      ∃ name, state.ReadsMethod line name ∧ next.met = state.met ++ [state.outlineAt path name number] := by
  cases step with
  | docGoesOn place | docEnds place | docOpens place | bodyGoesOn place =>
    exact Or.inl (by simp [State.met, State.running, State.complete, place])
  | docLine | blank | inComment | passes => exact Or.inl rfl
  | bodyEnds place =>
    refine Or.inr (Or.inl ⟨_, State.running_of_method place, ?_⟩)
    rw [State.met, State.complete_addMethod (by exact anchored _ _ _ place), State.running_of_between rfl,
      List.append_nil]
    rfl
  | classDeclared code unknown =>
    exact Or.inl (by simp [State.met, State.running, State.complete, unknown, code.between])
  | methodComplete reads =>
    refine Or.inr (Or.inr ⟨_, reads, ?_⟩)
    rw [State.met, State.complete_addMethod (by exact reads.known),
      State.running_of_between (by exact reads.between), State.met, State.running_of_between reads.between,
      List.append_nil, List.append_nil]
    rfl
  | methodOpens reads =>
    refine Or.inr (Or.inr ⟨_, reads, ?_⟩)
    rw [State.met, State.running_of_method rfl, State.met, State.running_of_between reads.between, List.append_nil]
    rfl

theorem State.Each.met {Holds : MethodOutline → Prop} (each : state.Each Holds) :
    ∀ method ∈ state.met, Holds method := by
  intro method member
  rcases List.mem_append.mp member with complete | running
  · unfold State.complete at complete
    cases found : state.found with
    | none => simp [found] at complete
    | some outline =>
      rw [found] at complete
      exact each.complete outline found method complete
  · unfold State.running at running
    split at running
    · rename_i opened base started place
      cases List.mem_singleton.mp running
      exact each.opened _ _ _ place
    · cases running

theorem State.inOrder_ended {method : MethodOutline} (running : state.running = [method])
    (ordered : InOrder state.met) : InOrder (state.complete ++ [{ method with last := number }]) := by
  unfold InOrder State.met at *
  rw [running, List.pairwise_append] at ordered
  rw [List.pairwise_append]
  obtain ⟨complete, _, before⟩ := ordered
  -- the open method is the last one, so where it ends has no part in the order
  refine ⟨complete, List.pairwise_singleton .., fun earlier member later last => ?_⟩
  cases List.mem_singleton.mp last
  exact before earlier member method (List.mem_singleton_self method)

theorem Step.inOrder (step : Step path state number line next) (anchored : state.Anchored)
    (ended : ∀ method ∈ state.met, method.last < number) (ordered : InOrder state.met) :
    InOrder next.met := by
  rcases step.met anchored with same | ⟨method, running, closed⟩ | ⟨name, _, declared⟩
  · rwa [same]
  · rw [closed]
    exact State.inOrder_ended running ordered
  · rw [declared]
    refine List.pairwise_append.mpr ⟨ordered, List.pairwise_singleton .., fun earlier member later last => ?_⟩
    cases List.mem_singleton.mp last
    exact ended earlier member

theorem State.methods_finish (anchored : state.Anchored) {outline : ClassOutline}
    (found : (state.finish number).found = some outline) :
    outline.methods = state.met ∨
      ∃ method, state.running = [method] ∧ outline.methods = state.complete ++ [{ method with last := number }] := by
  unfold State.finish at found
  split at found
  · rename_i method base opened place
    have added := State.complete_addMethod (anchored _ _ _ place) { method with last := number }
    rw [State.complete, found] at added
    exact Or.inr ⟨method, State.running_of_method place, added⟩
  · rename_i outside
    have none : state.running = [] := by
      unfold State.running
      split
      · rename_i place
        exact absurd place (outside _ _ _)
      · rfl
    refine Or.inl ?_
    rw [State.met, none, List.append_nil, State.complete, found]
    rfl

end Steps

theorem inOrder_after (path : String) (text : List (List Char)) (count : Nat) (bounded : count ≤ text.length) :
    InOrder (after path text count).met := by
  induction count with
  | zero => exact List.Pairwise.nil
  | succ count ih =>
    have here : text[count]? = some text[count] := List.getElem?_eq_getElem (by omega)
    have fits := (fits_after path text count (by omega)).met
    rw [after_succ here]
    refine ((after path text count).step_spec path (count + 1) _).inOrder (after_anchored path text count) ?_
      (ih (by omega))
    intro method member
    exact Nat.lt_succ_of_le (fits method member).bounded

variable {name path content : String} {outline : ClassOutline}

theorem inOrder_of_scan (found : scan name path content = .ok outline) : InOrder outline.methods := by
  have ordered := inOrder_after path (lines content.toList) _ (Nat.le_refl _)
  rcases State.methods_finish (after_anchored path _ _) (scan_eq_ok_iff.mp found) with same | ⟨method, running, last⟩
  · rwa [same]
  · rw [last]
    exact State.inOrder_ended running ordered

/-- The class is declared in front of all its methods. -/
theorem classAt_of_scan (found : scan name path content = .ok outline) :
    ∃ declared, ClassAt path (lines content.toList) declared ∧
      ∀ method ∈ outline.methods, declared + 1 < method.first := by
  obtain ⟨_, declared, atClass, _⟩ := class_comment_of_scan found
  refine ⟨declared, atClass, fun method member => ?_⟩
  obtain ⟨i, line, name, first, _, reads⟩ := (mem_first_iff found method.first).mp ⟨method, member, rfl⟩
  obtain ⟨other, before, atOther, _⟩ := classAt_of_found reads.known
  have same := atClass.unique atOther
  omega

/-- A method that goes on where the text ends takes the rest of the text, so none can stand behind
it. -/
theorem last_of_unterminated (found : scan name path content = .ok outline) {method : MethodOutline}
    (member : method ∈ outline.methods) (unterminated : Unterminated (lines content.toList) method) :
    method.last = (lines content.toList).length := by
  obtain ⟨line, here, _, bodied⟩ := endsExactly_of_scan found method member
  rcases bodied (unterminated.1 line here) with ⟨closing, _⟩ | ⟨_, last⟩
  · exact absurd closing (unterminated.2 _)
  · exact last

theorem terminated_of_mem_dropLast (found : scan name path content = .ok outline) {method : MethodOutline}
    (member : method ∈ outline.methods.dropLast) : ¬ Unterminated (lines content.toList) method := by
  intro unterminated
  have ordered := inOrder_of_scan found
  have nonempty : outline.methods ≠ [] := by
    intro none
    simp [none] at member
  rw [← List.dropLast_concat_getLast nonempty, InOrder, List.pairwise_append] at ordered
  have before := ordered.2.2 method member _ (List.mem_singleton_self _)
  have last := last_of_unterminated found (List.dropLast_subset _ member) unterminated
  have fits := fits_of_scan found _ (List.getLast_mem nonempty)
  have inText := fits.ordered
  have bounded := fits.bounded
  omega

/-- The ranges of the reported methods lie in the text and behind the class, one behind the other, and
only the last of them can go on where the text ends. -/
theorem methods_are_ordered_and_disjoint (found : scan name path content = .ok outline) :
    (∀ method ∈ outline.methods, method.path = path ∧ 1 ≤ method.first ∧ method.first ≤ method.last ∧
      method.last ≤ (lines content.toList).length) ∧
    outline.methods.Pairwise (fun earlier later => earlier.first < later.first ∧ earlier.last < later.first) ∧
    (∃ declared, ClassAt path (lines content.toList) declared ∧
      ∀ method ∈ outline.methods, declared + 1 < method.first) ∧
    ∀ method ∈ outline.methods.dropLast, ¬ Unterminated (lines content.toList) method := by
  have fits := fits_of_scan found
  refine ⟨fun method member => ?_, ?_, classAt_of_scan found, fun _ => terminated_of_mem_dropLast found⟩
  · have own := fits method member
    exact ⟨own.own, own.positive, own.ordered, own.bounded⟩
  · refine List.Pairwise.imp_of_mem (fun member _ before => ?_) (inOrder_of_scan found)
    exact ⟨Nat.lt_of_le_of_lt (fits _ member).ordered before, before⟩

/-- A class with a method that has no body, one that closes more braces than it opened, and one that
never ends and so takes in a further declaration. -/
def unevenMethods : String :=
  "class A\n\x7b\n\tabstract function f();\n\tfunction g()\n\t\x7b \x7d \x7d\n\t\x7b\n\tfunction h() \x7b\n\tfunction i() \x7b\x7d\n"

theorem methods_are_ordered_and_disjoint_of_unevenMethods :
    ∃ outline, scan "a" "a.php" unevenMethods = .ok outline ∧
      outline.methods.map (fun method => (method.name, method.first, method.last)) =
        [("f", 3, 3), ("g", 4, 5), ("h", 7, 8)] ∧
      outline.methods.Pairwise (fun earlier later => earlier.first < later.first ∧ earlier.last < later.first) ∧
      ∀ method ∈ outline.methods.dropLast, ¬ Unterminated (lines unevenMethods.toList) method := by
  have found : scan "a" "a.php" unevenMethods = .ok ⟨"A", "a.php", none, none,
      [⟨"f", "a.php", none, 3, 3⟩, ⟨"g", "a.php", none, 4, 5⟩, ⟨"h", "a.php", none, 7, 8⟩]⟩ :=
    scan_eq_ok_iff.mpr (by decide +kernel)
  obtain ⟨_, ordered, _, terminated⟩ := methods_are_ordered_and_disjoint found
  exact ⟨_, found, rfl, ordered, terminated⟩

end Scan

end ClassDocs
