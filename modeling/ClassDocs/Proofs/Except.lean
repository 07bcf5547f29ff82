namespace ClassDocs

variable {ε α β : Type}

theorem bind_eq_ok_iff {result : Except ε α} {next : α → Except ε β} {value : β} :
    result >>= next = .ok value ↔ ∃ first, result = .ok first ∧ next first = .ok value := by
  cases result with
  | ok first =>
    constructor
    · intro done
      exact ⟨first, rfl, done⟩
    · rintro ⟨_, same, done⟩
      cases same
      exact done
  | error error =>
    constructor
    · intro done
      cases done
    · rintro ⟨_, same, _⟩
      cases same

theorem eq_ok_of_toOption {result : Except ε α} {value : α} (same : result.toOption = some value) :
    result = .ok value := by
  cases result with
  | ok other => exact congrArg Except.ok (Option.some.inj same)
  | error error => cases same

theorem toOption_map (result : Except ε α) (f : α → β) : (result.map f).toOption = result.toOption.map f := by
  cases result <;> rfl

theorem toOption_bind (result : Except ε α) (next : α → Except ε β) :
    (result >>= next).toOption = result.toOption.bind fun value => (next value).toOption := by
  cases result <;> rfl

/-- A step for every element succeeds if each of them does, and then the results are theirs. -/
theorem mapM_eq_ok_iff {f : α → Except ε β} {list : List α} {results : List β} :
    list.mapM f = .ok results ↔ list.map f = results.map .ok := by
  induction list generalizing results with
  | nil =>
    cases results with
    | nil => exact ⟨fun _ => rfl, fun _ => rfl⟩
    | cons result results => exact ⟨fun done => (by cases done), fun same => (by cases same)⟩
  | cons a rest ih =>
    rw [List.mapM_cons]
    constructor
    · intro done
      obtain ⟨first, atFirst, done⟩ := bind_eq_ok_iff.mp done
      obtain ⟨later, atRest, done⟩ := bind_eq_ok_iff.mp done
      cases done
      rw [List.map_cons, List.map_cons, atFirst, ih.mp atRest]
    · intro same
      cases results with
      | nil => cases same
      | cons result results =>
        obtain ⟨atFirst, atRest⟩ := List.cons.inj same
        rw [atFirst, ih.mpr atRest]
        rfl

theorem mapM_succeeds_iff {f : α → Except ε β} {list : List α} :
    (∃ results, list.mapM f = .ok results) ↔ ∀ a ∈ list, ∃ b, f a = .ok b := by
  constructor
  · rintro ⟨results, done⟩ a member
    have inResults := List.mem_map_of_mem (f := f) member
    rw [mapM_eq_ok_iff.mp done] at inResults
    obtain ⟨b, _, same⟩ := List.mem_map.mp inResults
    exact ⟨b, same.symm⟩
  · intro each
    induction list with
    | nil => exact ⟨[], rfl⟩
    | cons a rest ih =>
      obtain ⟨b, first⟩ := each a (List.mem_cons_self ..)
      obtain ⟨results, later⟩ := ih fun other member => each other (List.mem_cons_of_mem _ member)
      exact ⟨b :: results, by rw [List.mapM_cons, first, later]; rfl⟩

theorem mem_iff_of_mapM_eq_ok {f : α → Except ε β} {list : List α} {results : List β}
    (done : list.mapM f = .ok results) {result : β} : result ∈ results ↔ ∃ a ∈ list, f a = .ok result := by
  rw [← List.mem_map, mapM_eq_ok_iff.mp done]
  constructor
  · exact List.mem_map_of_mem
  · intro member
    obtain ⟨other, inResults, same⟩ := List.mem_map.mp member
    cases same
    exact inResults

/-- A step for every element fails with the error of the first element for which it fails. -/
theorem mapM_eq_error_iff {f : α → Except ε β} {list : List α} {error : ε} :
    list.mapM f = .error error ↔ ∃ before a after, list = before ++ a :: after ∧
      (∀ b ∈ before, ∃ result, f b = .ok result) ∧ f a = .error error := by
  constructor
  · intro failed
    induction list with
    | nil => cases failed
    | cons a rest ih =>
      rw [List.mapM_cons] at failed
      cases here : f a with
      | error first =>
        rw [here] at failed
        cases failed
        exact ⟨[], a, rest, rfl, by simp, here⟩
      | ok result =>
        have later : rest.mapM f = .error error := by
          rw [here] at failed
          cases done : rest.mapM f with
          | ok results =>
            rw [done] at failed
            cases failed
          | error other =>
            rw [done] at failed
            cases failed
            rfl
        obtain ⟨before, b, after, whole, fine, atB⟩ := ih later
        refine ⟨a :: before, b, after, by rw [whole, List.cons_append], ?_, atB⟩
        exact List.forall_mem_cons.mpr ⟨⟨result, here⟩, fine⟩
  · rintro ⟨before, a, after, rfl, fine, atA⟩
    obtain ⟨results, done⟩ := mapM_succeeds_iff.mpr fine
    rw [List.mapM_append, done, List.mapM_cons, atA]
    rfl

theorem mapM_congr_left {f g : α → Except ε β} {list : List α} (same : ∀ a ∈ list, f a = g a) :
    list.mapM f = list.mapM g := by
  induction list with
  | nil => rfl
  | cons a rest ih =>
    rw [List.mapM_cons, List.mapM_cons, same a (List.mem_cons_self ..),
      ih fun b member => same b (List.mem_cons_of_mem _ member)]

theorem mapM_append_of_ok {f : α → Except ε β} {first : List α} {results : List β}
    (done : first.mapM f = .ok results) (second : List α) :
    (first ++ second).mapM f = (second.mapM f).map (results ++ ·) := by
  rw [List.mapM_append, done]
  cases second.mapM f <;> rfl

/-- Every error of the result is of a kind. A result without an error is of all kinds. -/
def FailsOnly (kind : ε → Prop) (result : Except ε α) : Prop :=
  ∀ error, result = .error error → kind error

namespace FailsOnly

variable {kind : ε → Prop}

theorem ok (value : α) : FailsOnly kind (.ok value : Except ε α) := by
  intro error failed
  cases failed

theorem bind {result : Except ε α} {next : α → Except ε β} (first : FailsOnly kind result)
    (later : ∀ value, FailsOnly kind (next value)) : FailsOnly kind (result >>= next) := by
  cases result with
  | ok value => exact later value
  | error error =>
    intro other failed
    cases failed
    exact first error rfl

theorem mono {other : ε → Prop} {result : Except ε α} (fails : FailsOnly kind result)
    (weaker : ∀ error, kind error → other error) : FailsOnly other result :=
  fun error failed => weaker error (fails error failed)

theorem eq_error_iff {error : ε} {result : Except ε α} (fails : FailsOnly (· = error) result) :
    result = .error error ↔ ¬ ∃ value, result = .ok value := by
  cases result with
  | ok value => simp
  | error other => simp [fails other rfl]

theorem mapM {f : α → Except ε β} {list : List α} (each : ∀ a ∈ list, FailsOnly kind (f a)) :
    FailsOnly kind (list.mapM f) := by
  induction list with
  | nil => exact ok []
  | cons a rest ih =>
    rw [List.mapM_cons]
    refine (each a (List.mem_cons_self ..)).bind fun first => ?_
    exact (ih fun b member => each b (List.mem_cons_of_mem _ member)).bind fun later => ok (first :: later)

end FailsOnly

end ClassDocs
