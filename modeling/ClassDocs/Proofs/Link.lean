import ClassDocs.Proofs.Text.Lines
import ClassDocs.TagRule

namespace ClassDocs

/-- The entities that stand for characters in escaped text. -/
def markupEntities : List (List Char) :=
  ["&amp;".toList, "&lt;".toList, "&gt;".toList, "&quot;".toList]

/-- Put a text in the place of every occurrence of a character. -/
def replaceChar (c : Char) (replacement text : List Char) : List Char :=
  text.flatMap fun d => if d = c then replacement else [d]

/-- The text that escaped text stands for, read in one pass from the left. -/
def unescapeMarkup : List Char → List Char
  | [] => []
  | '&' :: 'a' :: 'm' :: 'p' :: ';' :: rest => '&' :: unescapeMarkup rest
  | '&' :: 'l' :: 't' :: ';' :: rest => '<' :: unescapeMarkup rest
  | '&' :: 'g' :: 't' :: ';' :: rest => '>' :: unescapeMarkup rest
  | '&' :: 'q' :: 'u' :: 'o' :: 't' :: ';' :: rest => '"' :: unescapeMarkup rest
  | c :: rest => c :: unescapeMarkup rest

/-- The link of a text that is one anchor element and nothing else. The address ends at the first
quote, the text of the link where the next tag begins. -/
def readAnchor? (html : String) : Option Link := do
  let opened ← after? "<a href=\"".toList html.toList
  let inside ← after? "\">".toList (opened.dropWhile (· != '"'))
  if inside.dropWhile (· != '<') = "</a>".toList then
    some ⟨String.ofList (unescapeMarkup (inside.takeWhile (· != '<'))),
      String.ofList (unescapeMarkup (opened.takeWhile (· != '"')))⟩
  else none

section Characters

/-- What escaping makes of a character: an entity, or the character itself if it does no harm. -/
theorem escapeChar_cases (c : Char) :
    escapeChar c ∈ markupEntities ∨ c ≠ '&' ∧ c ≠ '<' ∧ c ≠ '>' ∧ c ≠ '"' ∧ escapeChar c = [c] := by
  unfold escapeChar
  split
  · exact Or.inl (by decide)
  · exact Or.inl (by decide)
  · exact Or.inl (by decide)
  · exact Or.inl (by decide)
  · rename_i noAmpersand noLess noMore noQuote
    exact Or.inr ⟨noAmpersand, noLess, noMore, noQuote, rfl⟩

theorem not_mem_escapeChar (c : Char) : '<' ∉ escapeChar c ∧ '>' ∉ escapeChar c ∧ '"' ∉ escapeChar c := by
  have entities : ∀ entity ∈ markupEntities, '<' ∉ entity ∧ '>' ∉ entity ∧ '"' ∉ entity := by decide
  rcases escapeChar_cases c with entity | ⟨_, noLess, noMore, noQuote, same⟩
  · exact entities _ entity
  · rw [same, List.mem_singleton, List.mem_singleton, List.mem_singleton]
    exact ⟨Ne.symm noLess, Ne.symm noMore, Ne.symm noQuote⟩

/-- An ampersand in what a character becomes is the first letter of an entity. -/
theorem escapeChar_eq_append {c : Char} {before after : List Char}
    (parts : escapeChar c = before ++ '&' :: after) : before = [] ∧ '&' :: after ∈ markupEntities := by
  have entities : ∀ entity ∈ markupEntities, '&' ∉ entity.tail := by decide
  rcases escapeChar_cases c with entity | ⟨noAmpersand, _, _, _, same⟩
  · rw [parts] at entity
    cases before with
    | nil => exact ⟨rfl, entity⟩
    | cons first before => exact absurd (by simp) (entities _ entity)
  · have inside : '&' ∈ escapeChar c := by simp [parts]
    rw [same, List.mem_singleton] at inside
    exact absurd inside.symm noAmpersand

theorem unescapeMarkup_cons {c : Char} (noAmpersand : c ≠ '&') (rest : List Char) :
    unescapeMarkup (c :: rest) = c :: unescapeMarkup rest := by
  rw [unescapeMarkup]
  all_goals simp_all

theorem unescapeMarkup_escapeChar (c : Char) (rest : List Char) :
    unescapeMarkup (escapeChar c ++ rest) = c :: unescapeMarkup rest := by
  unfold escapeChar
  split
  · rfl
  · rfl
  · rfl
  · rfl
  · rename_i noAmpersand _ _ _
    exact unescapeMarkup_cons noAmpersand rest

end Characters

section Texts

variable (text : String)

theorem escapeMarkup_toList : (escapeMarkup text).toList = text.toList.flatMap escapeChar := by
  rw [escapeMarkup, String.toList_ofList]

theorem replaceChar_of_ne {c d : Char} (other : d ≠ c) (replacement : List Char) :
    replaceChar c replacement [d] = [d] := by
  rw [replaceChar, List.flatMap_singleton, if_neg other]

/-- Escaping is four replacements one after the other. Ampersands come first: those that the other
three bring in stay as they are. -/
theorem escapeMarkup_eq_replacements :
    (escapeMarkup text).toList = replaceChar '"' "&quot;".toList (replaceChar '>' "&gt;".toList
      (replaceChar '<' "&lt;".toList (replaceChar '&' "&amp;".toList text.toList))) := by
  have each : escapeChar = fun c => replaceChar '"' "&quot;".toList (replaceChar '>' "&gt;".toList
      (replaceChar '<' "&lt;".toList (replaceChar '&' "&amp;".toList [c]))) := by
    funext c
    unfold escapeChar
    split
    · decide
    · decide
    · decide
    · decide
    · rename_i noAmpersand noLess noMore noQuote
      rw [replaceChar_of_ne noAmpersand, replaceChar_of_ne noLess, replaceChar_of_ne noMore, replaceChar_of_ne noQuote]
  rw [escapeMarkup_toList, each]
  simp only [replaceChar, List.flatMap_assoc, List.flatMap_singleton]

theorem not_mem_escapeMarkup : '<' ∉ (escapeMarkup text).toList ∧ '>' ∉ (escapeMarkup text).toList ∧
    '"' ∉ (escapeMarkup text).toList := by
  simp only [escapeMarkup_toList, List.mem_flatMap, not_exists, not_and]
  exact ⟨fun c _ => (not_mem_escapeChar c).1, fun c _ => (not_mem_escapeChar c).2.1,
    fun c _ => (not_mem_escapeChar c).2.2⟩

theorem ampersand_begins_entity {letters before after : List Char}
    (parts : letters.flatMap escapeChar = before ++ '&' :: after) :
    ∃ entity ∈ markupEntities, entity <+: '&' :: after := by
  induction letters generalizing before with
  | nil => simp at parts
  | cons c letters ih =>
    rw [List.flatMap_cons] at parts
    rcases List.append_eq_append_iff.mp parts with ⟨later, _, behind⟩ | ⟨front, here, behind⟩
    · exact ih behind
    · -- the ampersand stands in what the first letter became, or directly behind that
      cases front with
      | nil =>
        have next : letters.flatMap escapeChar = [] ++ '&' :: after := behind.symm
        exact ih next
      | cons first front =>
        obtain ⟨rfl, whole⟩ := List.cons.inj behind
        exact ⟨_, (escapeChar_eq_append here).2, by rw [whole]; exact List.prefix_append ('&' :: front) _⟩

theorem unescapeMarkup_escapeMarkup : unescapeMarkup (escapeMarkup text).toList = text.toList := by
  rw [escapeMarkup_toList]
  induction text.toList with
  | nil => rfl
  | cons c letters ih => rw [List.flatMap_cons, unescapeMarkup_escapeChar, ih]

end Texts

section Anchors

variable {c : Char} {text rest : List Char}

theorem takeWhile_of_not_mem (clean : c ∉ text) : (text ++ c :: rest).takeWhile (· != c) = text := by
  rw [List.takeWhile_append_of_pos, List.takeWhile_cons_of_neg (by simp), List.append_nil]
  intro d member
  simpa using ne_of_mem_of_not_mem member clean

theorem dropWhile_of_not_mem (clean : c ∉ text) : (text ++ c :: rest).dropWhile (· != c) = c :: rest := by
  rw [List.dropWhile_append_of_pos, List.dropWhile_cons_of_neg (by simp)]
  intro d member
  simpa using ne_of_mem_of_not_mem member clean

theorem readAnchor?_anchor (link : Link) : readAnchor? link.anchor = some link := by
  have opened : after? "<a href=\"".toList link.anchor.toList =
      some ((escapeMarkup link.target).toList ++ '"' :: '>' :: ((escapeMarkup link.text).toList ++ "</a>".toList)) :=
    after?_eq_some_iff.mpr (by simp [Link.anchor])
  obtain ⟨_, _, noQuote⟩ := not_mem_escapeMarkup link.target
  obtain ⟨noTag, _, _⟩ := not_mem_escapeMarkup link.text
  have closing : "</a>".toList = '<' :: "/a>".toList := rfl
  have inside : after? "\">".toList ('"' :: '>' :: ((escapeMarkup link.text).toList ++ "</a>".toList)) =
      some ((escapeMarkup link.text).toList ++ "</a>".toList) := after?_eq_some_iff.mpr (by simp)
  rw [readAnchor?, opened, Option.bind_eq_bind, Option.bind_some, dropWhile_of_not_mem noQuote, inside,
    Option.bind_some, closing, dropWhile_of_not_mem noTag, if_pos rfl, takeWhile_of_not_mem noTag,
    takeWhile_of_not_mem noQuote, unescapeMarkup_escapeMarkup, unescapeMarkup_escapeMarkup, String.ofList_toList,
    String.ofList_toList]

theorem Link.anchor_inj {first second : Link} (same : first.anchor = second.anchor) : first = second := by
  have read := congrArg readAnchor? same
  rw [readAnchor?_anchor, readAnchor?_anchor] at read
  exact Option.some.inj read

end Anchors

namespace TagRule

/-- A name as references have it: one letter or underscore at least, and nothing else. -/
def IsReferenceName (name : String) : Prop :=
  name.toList ≠ [] ∧ ∀ c ∈ name.toList, isReferenceChar c = true

/-- A reference to a member of an entity. -/
def IsReference (value entity member : String) : Prop :=
  value = entity ++ "::" ++ member ∧ IsReferenceName entity ∧ IsReferenceName member

theorem memberReference?_eq_some {value entity member : String} (reference : IsReference value entity member) :
    memberReference? value.toList = some (entity.toList, member.toList) := by
  obtain ⟨rfl, ⟨someEntity, entityLetters⟩, someMember, memberLetters⟩ := reference
  have colon : isReferenceChar ':' = false := by decide
  have letters : (entity ++ "::" ++ member).toList = entity.toList ++ ':' :: ':' :: member.toList := by simp
  have front : (entity.toList ++ ':' :: ':' :: member.toList).takeWhile isReferenceChar = entity.toList := by
    rw [List.takeWhile_append_of_pos entityLetters, List.takeWhile_cons_of_neg (by simp [colon]), List.append_nil]
  have back : (entity.toList ++ ':' :: ':' :: member.toList).dropWhile isReferenceChar =
      ':' :: ':' :: member.toList := by
    rw [List.dropWhile_append_of_pos entityLetters, List.dropWhile_cons_of_neg (by simp [colon])]
  have both : (!entity.toList.isEmpty && !member.toList.isEmpty && member.toList.all isReferenceChar) = true := by
    simp_all
  rw [memberReference?, letters, back, front]
  exact if_pos both

theorem isReference_of_memberReference? {value : String} {entity member : List Char}
    (found : memberReference? value.toList = some (entity, member)) :
    IsReference value (String.ofList entity) (String.ofList member) := by
  unfold memberReference? at found
  dsimp only at found
  split at found
  · rename_i letters behind
    split at found
    · rename_i both
      cases found
      simp only [Bool.and_eq_true, Bool.not_eq_true', List.isEmpty_eq_false_iff, List.all_eq_true] at both
      obtain ⟨⟨someEntity, someMember⟩, memberLetters⟩ := both
      have whole := List.takeWhile_append_dropWhile (p := isReferenceChar) (l := value.toList)
      rw [behind] at whole
      refine ⟨?_, ⟨?_, ?_⟩, ?_, ?_⟩
      · rw [← String.toList_inj]
        simpa using whole.symm
      · rwa [String.toList_ofList]
      · rw [String.toList_ofList]
        exact List.all_eq_true.mp List.all_takeWhile
      · rwa [String.toList_ofList]
      · rwa [String.toList_ofList]
    · cases found
  · cases found

theorem uses_of_not_reference (resolve : Resolver) {value : String}
    (none : ∀ entity member, ¬ IsReference value entity member) : uses resolve value = value := by
  rw [uses]
  cases found : memberReference? value.toList with
  | none => rfl
  | some names => exact absurd (isReference_of_memberReference? found) (none _ _)

theorem readAnchor?_license (resolve : Resolver) {value : String} (address : "://".toList <:+: value.toList) :
    readAnchor? (license resolve value) = some ⟨value, value⟩ := by
  rw [license, if_pos (occursIn_iff.mpr address), readAnchor?_anchor]

theorem readAnchor?_uses (resolve : Resolver) {value entity member : String}
    (reference : IsReference value entity member) :
    readAnchor? (uses resolve value) = some ⟨value, resolve entity (some member)⟩ := by
  rw [uses, memberReference?_eq_some reference]
  dsimp only
  rw [String.ofList_toList, String.ofList_toList, readAnchor?_anchor]

end TagRule

/-- A link can be read back off its anchor, because escaped text holds nothing that ends an attribute
or an element and can itself be read back. What tags show of their values when they link them is one
such anchor. -/
theorem links_are_read_back_from_anchors :
    (∀ text : String,
      (escapeMarkup text).toList = replaceChar '"' "&quot;".toList (replaceChar '>' "&gt;".toList
        (replaceChar '<' "&lt;".toList (replaceChar '&' "&amp;".toList text.toList))) ∧
      ('<' ∉ (escapeMarkup text).toList ∧ '>' ∉ (escapeMarkup text).toList ∧ '"' ∉ (escapeMarkup text).toList) ∧
      (∀ before after, (escapeMarkup text).toList = before ++ '&' :: after →
        ∃ entity ∈ markupEntities, entity <+: '&' :: after) ∧
      unescapeMarkup (escapeMarkup text).toList = text.toList) ∧
    (∀ text target : String, Link.anchor ⟨text, target⟩ =
      "<a href=\"" ++ escapeMarkup target ++ "\">" ++ escapeMarkup text ++ "</a>") ∧
    (∀ first second : Link, first.anchor = second.anchor → first = second) ∧
    ∀ (resolve : Resolver) (value : String),
      readAnchor? (TagRule.throws resolve value) = some ⟨value, resolve value none⟩ ∧
      ("://".toList <:+: value.toList → readAnchor? (TagRule.license resolve value) = some ⟨value, value⟩) ∧
      (¬ "://".toList <:+: value.toList → TagRule.license resolve value = value) ∧
      (∀ entity member, TagRule.IsReference value entity member →
        readAnchor? (TagRule.uses resolve value) = some ⟨value, resolve entity (some member)⟩) ∧
      ((∀ entity member, ¬ TagRule.IsReference value entity member) → TagRule.uses resolve value = value) := by
  refine ⟨fun text => ?_, fun _ _ => rfl, fun _ _ => Link.anchor_inj, fun resolve value => ?_⟩
  · refine ⟨escapeMarkup_eq_replacements text, not_mem_escapeMarkup text, fun before after parts => ?_,
      unescapeMarkup_escapeMarkup text⟩
    rw [escapeMarkup_toList] at parts
    exact ampersand_begins_entity parts
  · refine ⟨readAnchor?_anchor _, TagRule.readAnchor?_license resolve, fun noAddress => ?_,
      fun _ _ => TagRule.readAnchor?_uses resolve, TagRule.uses_of_not_reference resolve⟩
    exact if_neg fun found => noAddress (occursIn_iff.mp found)

/-- A value that would end the attribute and the element if it were shown as it is. -/
def hostileValue : String :=
  "\"></a>&lt;://"

theorem links_are_read_back_from_hostileValue :
    (escapeMarkup hostileValue).toList = "&quot;&gt;&lt;/a&gt;".toList ++ '&' :: "amp;lt;://".toList ∧
    (∃ entity ∈ markupEntities, entity <+: '&' :: "amp;lt;://".toList) ∧
    Link.anchor ⟨hostileValue, "<"⟩ ≠ Link.anchor ⟨hostileValue, "&lt;"⟩ ∧
    readAnchor? (TagRule.license (Route.resolve ⟨"/a&b"⟩) hostileValue) = some ⟨hostileValue, hostileValue⟩ ∧
    TagRule.license (Route.resolve ⟨"/a&b"⟩) "<BSD>" = "<BSD>" ∧
    TagRule.uses (Route.resolve ⟨"/a&b"⟩) hostileValue = hostileValue ∧
    readAnchor? (TagRule.uses (Route.resolve ⟨"/a&b"⟩) "Kohana_Log::ADD") =
      some ⟨"Kohana_Log::ADD", Route.resolve ⟨"/a&b"⟩ "Kohana_Log" (some "ADD")⟩ := by
  have escaped : (escapeMarkup hostileValue).toList = "&quot;&gt;&lt;/a&gt;".toList ++ '&' :: "amp;lt;://".toList := by
    decide
  have address : "://".toList <:+: hostileValue.toList := occursIn_iff.mp (by decide)
  have noAddress : ¬ "://".toList <:+: "<BSD>".toList := fun found => absurd (occursIn_iff.mpr found) (by decide)
  have reference : TagRule.IsReference "Kohana_Log::ADD" "Kohana_Log" "ADD" :=
    ⟨rfl, ⟨by decide, List.all_eq_true.mp (by decide)⟩, by decide, List.all_eq_true.mp (by decide)⟩
  have noReference : ∀ entity member, ¬ TagRule.IsReference hostileValue entity member := by
    intro entity member found
    have absent : TagRule.memberReference? hostileValue.toList = none := by decide
    cases absent.symm.trans (TagRule.memberReference?_eq_some found)
  obtain ⟨texts, _, links, rules⟩ := links_are_read_back_from_anchors
  obtain ⟨_, _, ampersands, _⟩ := texts hostileValue
  obtain ⟨_, linked, _, _, unchanged⟩ := rules (Route.resolve ⟨"/a&b"⟩) hostileValue
  obtain ⟨_, _, unlinked, _⟩ := rules (Route.resolve ⟨"/a&b"⟩) "<BSD>"
  obtain ⟨_, _, _, uses, _⟩ := rules (Route.resolve ⟨"/a&b"⟩) "Kohana_Log::ADD"
  refine ⟨escaped, ampersands _ _ escaped, fun same => ?_, linked address, unlinked noAddress, unchanged noReference,
    uses _ _ reference⟩
  have equal := congrArg Link.target (links _ _ same)
  exact absurd equal (by decide)

end ClassDocs
