import ClassDocs.Json

namespace ClassDocs

namespace Json

/-- The number that a hexadecimal digit stands for. -/
def hexValue (c : Char) : Nat :=
  if c.toNat < 58 then c.toNat - 48 else c.toNat - 87

theorem hexValue_hexDigit : ∀ n < 16, hexValue (hexDigit n) = n := by
  decide

/-- The first character inside a JSON string, with what follows it. There is none in front of the
closing quote. -/
def readChar? : List Char → Option (Char × List Char)
  | '\\' :: 'u' :: _ :: _ :: high :: low :: rest =>
    some (Char.ofNat (16 * hexValue high + hexValue low), rest)
  | '\\' :: 'n' :: rest => some ('\n', rest)
  | '\\' :: 'r' :: rest => some ('\r', rest)
  | '\\' :: 't' :: rest => some ('\t', rest)
  | '\\' :: 'b' :: rest => some (Char.ofNat 8, rest)
  | '\\' :: 'f' :: rest => some (Char.ofNat 12, rest)
  | '\\' :: c :: rest => some (c, rest)
  | '"' :: _ => none
  | c :: rest => some (c, rest)
  | [] => none

theorem readChar?_escapeChar (c : Char) (rest : List Char) :
    readChar? (escapeChar c ++ rest) = some (c, rest) := by
  unfold escapeChar
  split
  · subst_vars; rfl
  split
  · subst_vars; rfl
  split
  · subst_vars; rfl
  split
  · subst_vars; rfl
  split
  · subst_vars; rfl
  split
  · rename_i code
    rw [← Char.ofNat_toNat c, code]
    rfl
  split
  · rename_i code
    rw [← Char.ofNat_toNat c, code]
    rfl
  split
  · rename_i control
    have high := hexValue_hexDigit (c.toNat / 16) (by omega)
    have low := hexValue_hexDigit (c.toNat % 16) (by omega)
    have code : 16 * (c.toNat / 16) + c.toNat % 16 = c.toNat := by omega
    simp only [List.cons_append, List.nil_append, readChar?, high, low, code, Char.ofNat_toNat]
  · rw [List.cons_append, List.nil_append, readChar?]
    all_goals simp_all

/-- Text inside a string ends at its closing quote, whatever is in it. -/
theorem escaped_append_inj {first second rest other : List Char}
    (same : first.flatMap escapeChar ++ '"' :: rest = second.flatMap escapeChar ++ '"' :: other) :
    first = second ∧ rest = other := by
  induction first generalizing second with
  | nil =>
    cases second with
    | nil => exact ⟨rfl, (List.cons.inj same).2⟩
    | cons d second =>
      have read := congrArg readChar? same
      rw [List.flatMap_cons, List.append_assoc, readChar?_escapeChar] at read
      cases read
  | cons c first ih =>
    have read := congrArg readChar? same
    rw [List.flatMap_cons, List.append_assoc, readChar?_escapeChar] at read
    cases second with
    | nil => cases read
    | cons d second =>
      rw [List.flatMap_cons, List.append_assoc, readChar?_escapeChar] at read
      obtain ⟨sameChar, sameRest⟩ := Prod.mk.inj (Option.some.inj read)
      obtain ⟨sameText, sameOther⟩ := ih sameRest
      exact ⟨by rw [sameChar, sameText], sameOther⟩

/-- A text that does not go on with a number in front of it. -/
def Stops (rest : List Char) : Prop :=
  ∀ c ∈ rest.head?, c.isDigit = false

/-- A value can be read off its printed form, and where that form ends, whatever stops it. -/
def Readable {α : Type} (print : α → String) (value : α) : Prop :=
  ∀ other rest rest', Stops rest → Stops rest' →
    (print value).toList ++ rest = (print other).toList ++ rest' → value = other ∧ rest = rest'

theorem readable_quote (text : String) : Readable quote text := by
  intro other rest rest' _ _ same
  have opened : text.toList.flatMap escapeChar ++ '"' :: rest = other.toList.flatMap escapeChar ++ '"' :: rest' := by
    simpa [quote] using same
  obtain ⟨sameText, sameRest⟩ := escaped_append_inj opened
  exact ⟨String.toList_inj.mp sameText, sameRest⟩

theorem takeWhile_number (value : Nat) {rest : List Char} (stops : Stops rest) :
    ((toString value).toList ++ rest).takeWhile Char.isDigit = (toString value).toList := by
  have digits : ∀ c ∈ (toString value).toList, c.isDigit = true := by
    intro c member
    rw [Nat.toString_eq_ofList_toDigits, String.toList_ofList] at member
    exact Nat.isDigit_of_mem_toDigits (by decide) (by decide) member
  have stop : rest.takeWhile Char.isDigit = [] := by
    cases rest with
    | nil => rfl
    | cons c rest => exact List.takeWhile_cons_of_neg (by simp [stops c rfl])
  rw [List.takeWhile_append_of_pos digits, stop, List.append_nil]

theorem readable_number (value : Nat) : Readable (toString : Nat → String) value := by
  intro other rest rest' stops stops' same
  have digits := congrArg (List.takeWhile Char.isDigit) same
  rw [takeWhile_number value stops, takeWhile_number other stops'] at digits
  rw [digits] at same
  have number := congrArg (Nat.ofDigitChars 10 · 0) digits
  simp only [Nat.toString_eq_ofList_toDigits, String.toList_ofList, Nat.ofDigitChars_ten_toDigits] at number
  exact ⟨number, List.append_cancel_left same⟩

theorem stops_cons {c : Char} (noDigit : c.isDigit = false) (rest : List Char) : Stops (c :: rest) := by
  intro d first
  cases first
  exact noDigit

theorem margin_toList (depth : Nat) : (margin depth).toList = '\n' :: List.replicate (2 * depth) ' ' := by
  rw [margin, String.toList_ofList]

/-- What stands after the first element of a sequence: the other elements, each behind a comma, and
the closing bracket. -/
def afterFirst (closing : String) (depth : Nat) (elements : List String) : List Char :=
  elements.flatMap (fun element => ',' :: (margin (depth + 1)).toList ++ element.toList) ++
    (margin depth).toList ++ closing.toList

theorem intercalate_cons {α : Type} (separator first : List α) (rest : List (List α)) :
    separator.intercalate (first :: rest) = first ++ rest.flatMap (separator ++ ·) := by
  induction rest generalizing first with
  | nil => rw [List.intercalate_singleton, List.flatMap_nil, List.append_nil]
  | cons second rest ih => rw [List.intercalate_cons_cons, ih, List.flatMap_cons, List.append_assoc, List.append_assoc]

theorem layout_nil (opening closing : String) (depth : Nat) :
    (layout opening closing depth []).toList = opening.toList ++ closing.toList := by
  simp [layout]

theorem layout_cons (opening closing : String) (depth : Nat) (first : String) (rest : List String) :
    (layout opening closing depth (first :: rest)).toList =
      opening.toList ++ '\n' :: (List.replicate (2 * (depth + 1)) ' ' ++
        (first.toList ++ afterFirst closing depth rest)) := by
  simp [layout, afterFirst, intercalate_cons, List.flatMap_map, margin_toList]

section Sequences

variable {α : Type} {print : α → String} {opening closing : String} {bracket : Char} {depth : Nat}

theorem afterFirst_nil (closing : String) (depth : Nat) :
    afterFirst closing depth [] = '\n' :: (List.replicate (2 * depth) ' ' ++ closing.toList) := by
  simp [afterFirst, margin_toList]

theorem afterFirst_cons (closing : String) (depth : Nat) (element : String) (elements : List String) :
    afterFirst closing depth (element :: elements) =
      ',' :: ((margin (depth + 1)).toList ++ (element.toList ++ afterFirst closing depth elements)) := by
  simp [afterFirst]

theorem stops_afterFirst (closing : String) (depth : Nat) (elements : List String) (rest : List Char) :
    Stops (afterFirst closing depth elements ++ rest) := by
  cases elements with
  | nil =>
    rw [afterFirst_nil, List.cons_append]
    exact stops_cons (by decide) _
  | cons element elements =>
    rw [afterFirst_cons, List.cons_append]
    exact stops_cons (by decide) _

/-- Each element ends at the comma or the line break after it, and these two tell whether another one
follows. -/
theorem elements_append_inj {element other : α} {elements others : List α} {rest rest' : List Char}
    (each : ∀ member ∈ element :: elements, Readable print member)
    (same : (print element).toList ++ (afterFirst closing depth (elements.map print) ++ rest) =
      (print other).toList ++ (afterFirst closing depth (others.map print) ++ rest')) :
    element :: elements = other :: others ∧ rest = rest' := by
  induction elements generalizing element other others with
  | nil =>
    obtain ⟨sameElement, sameRest⟩ := each element (List.mem_cons_self ..) other _ _
      (stops_afterFirst _ _ _ _) (stops_afterFirst _ _ _ _) same
    cases others with
    | nil => exact ⟨by rw [sameElement], List.append_cancel_left sameRest⟩
    | cons next others =>
      rw [List.map_nil, List.map_cons, afterFirst_nil, afterFirst_cons] at sameRest
      exact absurd (List.cons.inj sameRest).1 (by decide)
  | cons next elements ih =>
    obtain ⟨sameElement, sameRest⟩ := each element (List.mem_cons_self ..) other _ _
      (stops_afterFirst _ _ _ _) (stops_afterFirst _ _ _ _) same
    cases others with
    | nil =>
      rw [List.map_nil, List.map_cons, afterFirst_nil, afterFirst_cons] at sameRest
      exact absurd (List.cons.inj sameRest).1 (by decide)
    | cons otherNext others =>
      simp only [List.map_cons, afterFirst_cons, List.cons_append, List.append_assoc] at sameRest
      have behind := List.append_cancel_left (List.cons.inj sameRest).2
      obtain ⟨sameElements, sameEnd⟩ := ih (fun later member => each later (List.mem_cons_of_mem _ member)) behind
      exact ⟨by rw [sameElement, sameElements], sameEnd⟩

/-- A bracketed sequence is readable if its elements are. The empty one is told from the others by the
character after the opening bracket. -/
theorem readable_layout (closes : closing.toList = [bracket]) (visible : bracket ≠ '\n')
    {elements : List α} (each : ∀ element ∈ elements, Readable print element) :
    Readable (fun elements : List α => layout opening closing depth (elements.map print)) elements := by
  intro others rest rest' _ _ same
  cases elements with
  | nil =>
    cases others with
    | nil => exact ⟨rfl, List.append_cancel_left same⟩
    | cons other others =>
      simp only [List.map_nil, List.map_cons, layout_nil, layout_cons, closes, List.append_assoc] at same
      exact absurd (List.cons.inj (List.append_cancel_left same)).1 visible
  | cons element elements =>
    cases others with
    | nil =>
      simp only [List.map_nil, List.map_cons, layout_nil, layout_cons, closes, List.append_assoc] at same
      exact absurd (List.cons.inj (List.append_cancel_left same)).1.symm visible
    | cons other others =>
      simp only [List.map_cons, layout_cons, List.append_assoc, List.cons_append] at same
      have behind := List.append_cancel_left (List.cons.inj (List.append_cancel_left same)).2
      exact elements_append_inj each behind

end Sequences

theorem prettyItems_eq_map (depth : Nat) (items : List Json) :
    prettyItems depth items = items.map (prettyAt depth) := by
  induction items with
  | nil => rfl
  | cons item items ih => rw [prettyItems, ih, List.map_cons]

/-- A member of an object, at a nesting depth. -/
def prettyMember (depth : Nat) (member : String × Json) : String :=
  quote member.1 ++ ": " ++ prettyAt depth member.2

theorem prettyMembers_eq_map (depth : Nat) (members : List (String × Json)) :
    prettyMembers depth members = members.map (prettyMember depth) := by
  induction members with
  | nil => rfl
  | cons member members ih => rw [prettyMembers, ih, List.map_cons, prettyMember]

theorem readable_prettyMember {depth : Nat} {key : String} {value : Json}
    (readable : Readable (prettyAt depth) value) : Readable (prettyMember depth) (key, value) := by
  intro other rest rest' stops stops' same
  have colon : ": ".toList = [':', ' '] := rfl
  simp only [prettyMember, String.toList_append, List.append_assoc, colon, List.cons_append,
    List.nil_append] at same
  obtain ⟨sameKey, behind⟩ := readable_quote key other.1 _ _
    (stops_cons (by decide) _) (stops_cons (by decide) _) same
  have values := (List.cons.inj (List.cons.inj behind).2).2
  obtain ⟨sameValue, sameRest⟩ := readable other.2 rest rest' stops stops' values
  exact ⟨Prod.ext sameKey sameValue, sameRest⟩

/-- The kinds of JSON values, in the order of the constructors. -/
def kind : Json → Nat
  | .null => 0
  | .number _ => 1
  | .string _ => 2
  | .array _ => 3
  | .object _ => 4

/-- The kind of a value whose text begins with a character. -/
def kindOfHead (c : Char) : Nat :=
  if c = 'n' then 0 else if c.isDigit then 1 else if c = '"' then 2 else if c = '[' then 3 else 4

theorem head?_layout {opening : String} {c : Char} (opens : opening.toList = [c]) (closing : String) (depth : Nat)
    (elements : List String) : (layout opening closing depth elements).toList.head? = some c := by
  cases elements with
  | nil => rw [layout_nil, opens, List.singleton_append, List.head?_cons]
  | cons first rest => rw [layout_cons, opens, List.singleton_append, List.head?_cons]

theorem head?_number (value : Nat) : ∃ c, (toString value).toList.head? = some c ∧ c.isDigit = true := by
  rw [Nat.toString_eq_ofList_toDigits, String.toList_ofList]
  obtain ⟨c, rest, digits⟩ := List.exists_cons_of_ne_nil (Nat.toDigits_ne_nil (n := value) (b := 10))
  refine ⟨c, by rw [digits, List.head?_cons], ?_⟩
  exact Nat.isDigit_of_mem_toDigits (b := 10) (n := value) (by decide) (by decide)
    (by rw [digits]; exact List.mem_cons_self ..)

/-- The first character of a value's text tells its kind. -/
theorem head?_prettyAt (depth : Nat) (value : Json) :
    ∃ c, (prettyAt depth value).toList.head? = some c ∧ kindOfHead c = value.kind := by
  have bracket : "[".toList = ['['] := rfl
  have brace : "\x7b".toList = ['\x7b'] := rfl
  cases value with
  | null => exact ⟨'n', by simp [prettyAt], rfl⟩
  | number value =>
    obtain ⟨c, head, digit⟩ := head?_number value
    have letter : c ≠ 'n' := by
      rintro rfl
      exact absurd digit (by decide)
    exact ⟨c, by rw [prettyAt, head], by simp [kindOfHead, kind, letter, digit]⟩
  | string text => exact ⟨'"', by simp [prettyAt, quote], rfl⟩
  | array items => exact ⟨'[', by rw [prettyAt, head?_layout bracket], rfl⟩
  | object members => exact ⟨'\x7b', by rw [prettyAt, head?_layout brace], rfl⟩

theorem kind_eq_of_append {depth : Nat} {first second : Json} {rest rest' : List Char}
    (same : (prettyAt depth first).toList ++ rest = (prettyAt depth second).toList ++ rest') :
    first.kind = second.kind := by
  obtain ⟨c, head, kind⟩ := head?_prettyAt depth first
  obtain ⟨d, head', kind'⟩ := head?_prettyAt depth second
  have heads := congrArg List.head? same
  rw [List.head?_append, List.head?_append, head, head', Option.some_or, Option.some_or] at heads
  rw [← kind, ← kind', Option.some.inj heads]

/-- The values of one kind are readable if what they are made of is. -/
theorem Readable.ofKind {α : Type} {print : α → String} {part : α} {depth : Nat} (make : α → Json)
    (prints : ∀ part, prettyAt depth (make part) = print part)
    (only : ∀ other, (make part).kind = other.kind → ∃ part, other = make part)
    (readable : Readable print part) : Readable (prettyAt depth) (make part) := by
  intro other rest rest' stops stops' same
  obtain ⟨second, rfl⟩ := only other (kind_eq_of_append same)
  rw [prints, prints] at same
  obtain ⟨samePart, sameRest⟩ := readable second rest rest' stops stops' same
  exact ⟨by rw [samePart], sameRest⟩

section Values

variable {depth : Nat}

theorem readable_null : Readable (prettyAt depth) .null := by
  intro other rest rest' _ _ same
  have sameKind := kind_eq_of_append same
  cases other with
  | null => exact ⟨rfl, List.append_cancel_left same⟩
  | _ => cases sameKind

theorem readable_numberValue (value : Nat) : Readable (prettyAt depth) (.number value) := by
  refine Readable.ofKind .number (fun _ => by rw [prettyAt]) (fun other same => ?_) (readable_number value)
  cases other with
  | number second => exact ⟨second, rfl⟩
  | _ => cases same

theorem readable_string (text : String) : Readable (prettyAt depth) (.string text) := by
  refine Readable.ofKind .string (fun _ => by rw [prettyAt]) (fun other same => ?_) (readable_quote text)
  cases other with
  | string second => exact ⟨second, rfl⟩
  | _ => cases same

theorem readable_array {items : List Json} (each : ∀ item ∈ items, Readable (prettyAt (depth + 1)) item) :
    Readable (prettyAt depth) (.array items) := by
  have closes : "]".toList = [']'] := rfl
  refine Readable.ofKind .array (fun _ => by rw [prettyAt, prettyItems_eq_map]) (fun other same => ?_)
    (readable_layout closes (by decide) each)
  cases other with
  | array second => exact ⟨second, rfl⟩
  | _ => cases same

theorem readable_object {members : List (String × Json)}
    (each : ∀ member ∈ members, Readable (prettyAt (depth + 1)) member.2) :
    Readable (prettyAt depth) (.object members) := by
  have closes : "\x7d".toList = ['\x7d'] := rfl
  refine Readable.ofKind .object (fun _ => by rw [prettyAt, prettyMembers_eq_map]) (fun other same => ?_)
    (readable_layout closes (by decide) fun member inside => readable_prettyMember (each member inside))
  cases other with
  | object second => exact ⟨second, rfl⟩
  | _ => cases same

end Values

/-- The text of a value, at whatever depth, determines the value. -/
theorem readable_prettyAt (depth : Nat) : ∀ value : Json, Readable (prettyAt depth) value
  | .null => readable_null
  | .number value => readable_numberValue value
  | .string text => readable_string text
  | .array items => readable_array fun item _ => readable_prettyAt (depth + 1) item
  | .object members => readable_object fun member _ => readable_prettyAt (depth + 1) member.2
termination_by value => sizeOf value
decreasing_by
  · have smaller := List.sizeOf_lt_of_mem ‹item ∈ items›
    simp only [array.sizeOf_spec]
    omega
  · have smaller := List.sizeOf_lt_of_mem ‹member ∈ members›
    have inside : sizeOf member = 1 + sizeOf member.1 + sizeOf member.2 := rfl
    simp only [object.sizeOf_spec]
    omega

theorem pretty_inj {first second : Json} (same : first.pretty = second.pretty) : first = second := by
  have ends : Stops [] := by
    intro c head
    cases head
  refine (readable_prettyAt 0 first second [] [] ends ends ?_).1
  rw [List.append_nil, List.append_nil]
  exact congrArg String.toList same

end Json

end ClassDocs
