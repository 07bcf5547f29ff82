import ClassDocs.Comment
import ClassDocs.Proofs.Text.Words
import Mathlib.Data.List.TakeWhile

namespace ClassDocs

namespace Comment

/-- A tag line with its parts. Only a tag without a text may do without the gap. The gap may hold line
feeds, the text may not. -/
structure TagLine (line name gap text : List Char) : Prop where
  whole : line = '@' :: (name ++ (gap ++ text))
  named : name ≠ []
  solid : ∀ c ∈ name, isBlank c = false
  blank : ∀ c ∈ gap, isBlank c = true
  single : '\n' ∉ text
  flush : ∀ c rest, text = c :: rest → isBlank c = false
  parted : gap = [] → text = []

namespace TagLine

variable {line name gap text : List Char}

/-- The gap begins where the name ends. -/
theorem after_name (written : TagLine line name gap text) (c : Char) (rest : List Char)
    (after : gap ++ text = c :: rest) : isBlank c = true := by
  cases gap with
  | nil =>
    rw [written.parted rfl] at after
    cases after
  | cons first gap =>
    rw [← (List.cons.inj after).1]
    exact written.blank first (List.mem_cons_self ..)

theorem splitTag?_eq (written : TagLine line name gap text) : splitTag? line = some (name, text) := by
  have solid : ∀ c ∈ name, (!isBlank c) = true := fun c member => by rw [written.solid c member]; rfl
  have stops : ∀ c rest, gap ++ text = c :: rest → (!isBlank c) = false := fun c rest after => by
    rw [written.after_name c rest after]; rfl
  obtain ⟨atName, afterName⟩ := longest_run (fun c => !isBlank c) solid stops
  obtain ⟨_, afterGap⟩ := longest_run isBlank written.blank written.flush
  rw [written.whole]
  simp only [splitTag?, atName, afterName, trimStart, afterGap]
  simp [written.named, written.single]

theorem unique (written : TagLine line name gap text) {otherName otherGap otherText : List Char}
    (other : TagLine line otherName otherGap otherText) :
    name = otherName ∧ gap = otherGap ∧ text = otherText := by
  obtain ⟨rfl, rfl⟩ := Prod.mk.inj (Option.some.inj (written.splitTag?_eq.symm.trans other.splitTag?_eq))
  have tails := (List.cons.inj (written.whole.symm.trans other.whole)).2
  exact ⟨rfl, List.append_cancel_right (List.append_cancel_left tails), rfl⟩

end TagLine

theorem tagLine_of_splitTag? {line name text : List Char} (found : splitTag? line = some (name, text)) :
    ∃ gap, TagLine line name gap text := by
  unfold splitTag? at found
  split at found
  · rename_i rest
    dsimp only at found
    split at found
    · cases found
    · rename_i accepted
      rw [Bool.or_eq_true, not_or, List.isEmpty_iff, List.contains_iff_mem] at accepted
      obtain ⟨rfl, rfl⟩ := Prod.mk.inj (Option.some.inj found)
      refine ⟨(rest.dropWhile fun c => !isBlank c).takeWhile isBlank, ?_, accepted.1, fun c member => ?_,
        fun c member => List.mem_takeWhile_imp member, accepted.2, fun c _ begins => isBlank_of_trimStart_eq begins, ?_⟩
      · rw [trimStart, List.takeWhile_append_dropWhile, List.takeWhile_append_dropWhile]
      · simpa using List.mem_takeWhile_imp member
      · intro none
        cases after : rest.dropWhile fun c => !isBlank c with
        | nil => rfl
        | cons c behind =>
          have blank : isBlank c = true := by simpa using eq_false_of_dropWhile_eq_cons after
          rw [after, List.takeWhile_cons_of_pos blank] at none
          cases none
  · cases found

/-- Take a run of characters of one kind off a text and go on behind it. The longest run comes first; when
there is no way to go on, it gives back one character after the other. -/
def takeRun {α : Type} (kind : Char → Bool) : (List Char → List Char → Option α) → List Char → Option α
  | next, [] => next [] []
  | next, c :: rest =>
    if kind c then (takeRun kind (fun run after => next (c :: run) after) rest).or (next [] (c :: rest))
    else next [] (c :: rest)

/-- Where the longest run leads nowhere only if all runs do, the shorter ones have no part in the result. -/
theorem takeRun_eq_longest {α : Type} (kind : Char → Bool) (next : List Char → List Char → Option α)
    (text : List Char)
    (hopeless : next (text.takeWhile kind) (text.dropWhile kind) = none →
      ∀ run after, text = run ++ after → (∀ c ∈ run, kind c = true) → next run after = none) :
    takeRun kind next text = next (text.takeWhile kind) (text.dropWhile kind) := by
  induction text generalizing next with
  | nil => rfl
  | cons c rest ih =>
    rw [takeRun]
    by_cases inside : kind c = true
    · rw [List.takeWhile_cons_of_pos inside, List.dropWhile_cons_of_pos inside] at hopeless ⊢
      have longest := ih (fun run after => next (c :: run) after) fun stuck run after split all => by
        refine hopeless stuck (c :: run) after ?_ (List.forall_mem_cons.mpr ⟨inside, all⟩)
        rw [split, List.cons_append]
      rw [if_pos inside, longest]
      cases found : next (c :: rest.takeWhile kind) (rest.dropWhile kind) with
      | some value => rfl
      | none => exact hopeless found [] (c :: rest) rfl (by simp)
    · rw [if_neg inside, List.takeWhile_cons_of_neg inside, List.dropWhile_cons_of_neg inside]

/-- The end of the tag pattern, `(.*)$`. -/
def matchText? (name : List Char) : List Char → Option (List Char × List Char) :=
  takeRun (fun c => c != '\n') fun text left => if left.isEmpty then some (name, text) else none

/-- The tag pattern behind the name, `(?:\s+(.*))?$`. The group is left out when the text does not match with it. -/
def matchGap? (name after : List Char) : Option (List Char × List Char) :=
  (takeRun isBlank (fun gap behind => if gap.isEmpty then none else matchText? name behind) after).or
    (if after.isEmpty then some (name, []) else none)

/-- The tag pattern `^@(\S+)(?:\s+(.*))?$`, matched by trying its repetitions from the longest run down. -/
def matchTag? : List Char → Option (List Char × List Char)
  | '@' :: rest =>
    takeRun (fun c => !isBlank c) (fun name after => if name.isEmpty then none else matchGap? name after) rest
  | _ => none

theorem matchText?_eq (name behind : List Char) :
    matchText? name behind = if '\n' ∈ behind then none else some (name, behind) := by
  have all : (∀ c ∈ behind, (c != '\n') = true) ↔ '\n' ∉ behind := by
    constructor
    · intro other feed
      simpa using other _ feed
    · intro none c member
      rw [bne_iff_ne]
      rintro rfl
      exact none member
  rw [matchText?, takeRun_eq_longest]
  · by_cases feed : '\n' ∈ behind
    · have left : behind.dropWhile (fun c => c != '\n') ≠ [] := fun none =>
        all.mp (List.dropWhile_eq_nil_iff.mp none) feed
      rw [if_pos feed, if_neg (by simpa using left)]
    · rw [List.takeWhile_eq_self_iff.mpr (all.mpr feed), List.dropWhile_eq_nil_iff.mpr (all.mpr feed), if_neg feed]
      rfl
  · intro stuck run after split inside
    rw [if_neg]
    intro none
    rw [List.isEmpty_iff.mp none, List.append_nil] at split
    rw [split, List.dropWhile_eq_nil_iff.mpr inside] at stuck
    cases stuck

/-- Behind a name that goes on there is no match. -/
theorem matchGap?_of_solid (name rest : List Char) {c : Char} (solid : isBlank c = false) :
    matchGap? name (c :: rest) = none := by
  rw [matchGap?, takeRun, if_neg (by simp [solid])]
  rfl

theorem matchGap?_eq (name : List Char) {after : List Char} (starts : ∀ c rest, after = c :: rest → isBlank c = true) :
    matchGap? name after = if '\n' ∈ trimStart after then none else some (name, trimStart after) := by
  cases after with
  | nil => rfl
  | cons c rest =>
    have gap : (c :: rest).takeWhile isBlank ≠ [] := by
      rw [List.takeWhile_cons_of_pos (starts c rest rfl)]
      exact List.cons_ne_nil _ _
    rw [matchGap?, takeRun_eq_longest, if_neg (by simpa using gap), matchText?_eq]
    · exact Option.or_none
    · -- what a shorter gap leaves over holds the text with its line feed
      intro stuck shorter behind split blank
      rw [if_neg (by simpa using gap), matchText?_eq] at stuck
      have feed : '\n' ∈ (c :: rest).dropWhile isBlank := by
        by_contra none
        rw [if_neg none] at stuck
        cases stuck
      rw [split, List.dropWhile_append_of_pos blank] at feed
      rw [matchText?_eq, if_pos ((List.dropWhile_sublist isBlank).mem feed), ite_self]

/-- Splitting a line finds what the pattern matches. -/
theorem matchTag?_eq_splitTag? (line : List Char) : matchTag? line = splitTag? line := by
  by_cases marked : ∃ rest, line = '@' :: rest
  · obtain ⟨rest, rfl⟩ := marked
    have starts (c : Char) (behind : List Char) (after : (rest.dropWhile fun c => !isBlank c) = c :: behind) :
        isBlank c = true := by
      simpa using eq_false_of_dropWhile_eq_cons after
    rw [matchTag?, takeRun_eq_longest, splitTag?]
    · rw [matchGap?_eq _ starts]
      by_cases nameless : rest.takeWhile (fun c => !isBlank c) = []
      · simp [nameless]
      · simp [nameless]
    · intro stuck run after split solid
      by_cases goesOn : ∃ c behind, after = c :: behind ∧ isBlank c = false
      · obtain ⟨c, behind, rfl, same⟩ := goesOn
        rw [matchGap?_of_solid run behind same, ite_self]
      · have stops (c : Char) (behind : List Char) (same : after = c :: behind) : (!isBlank c) = false := by
          simpa using fun blank => goesOn ⟨c, behind, same, blank⟩
        have longest := longest_run (fun c => !isBlank c) solid stops
        rw [split, longest.1, longest.2] at stuck
        exact stuck
  · cases line with
    | nil => rfl
    | cons c rest =>
      have other : c ≠ '@' := fun same => marked ⟨rest, by rw [same]⟩
      simp [matchTag?, splitTag?, other]

/-- A line is split exactly when it is a tag line, and in the only way in which it is one. The pattern gives
the same. -/
theorem splitTag?_accepts_tag_lines (line : List Char) :
    (∀ name text, splitTag? line = some (name, text) ↔ ∃ gap, TagLine line name gap text) ∧
    (∀ name gap text otherName otherGap otherText,
      TagLine line name gap text → TagLine line otherName otherGap otherText →
        name = otherName ∧ gap = otherGap ∧ text = otherText) ∧
    (splitTag? line = none ↔ ∀ name gap text, ¬ TagLine line name gap text) ∧
    matchTag? line = splitTag? line := by
  have accepts (name text : List Char) : splitTag? line = some (name, text) ↔ ∃ gap, TagLine line name gap text :=
    ⟨tagLine_of_splitTag?, fun ⟨_, written⟩ => written.splitTag?_eq⟩
  refine ⟨accepts, fun _ _ _ _ _ _ written other => written.unique other, ⟨fun refused name gap text written => ?_,
    fun none => ?_⟩, matchTag?_eq_splitTag? line⟩
  · rw [written.splitTag?_eq] at refused
    cases refused
  · cases found : splitTag? line with
    | none => rfl
    | some parts =>
      obtain ⟨gap, written⟩ := tagLine_of_splitTag? found
      exact absurd written (none parts.1 gap parts.2)

/-- A tag with a line feed in its gap and a carriage return in its text. -/
def brokenGap : List Char :=
  ['@', 'a', '\u3000', '\n', ' ', 'b', '\r', ' ', 'c']

theorem splitTag?_accepts_tag_lines_of_brokenGap :
    TagLine brokenGap ['a'] ['\u3000', '\n', ' '] ['b', '\r', ' ', 'c'] ∧
    splitTag? brokenGap = some (['a'], ['b', '\r', ' ', 'c']) ∧
    (∀ name gap text, TagLine brokenGap name gap text →
      ['a'] = name ∧ ['\u3000', '\n', ' '] = gap ∧ ['b', '\r', ' ', 'c'] = text) ∧
    ∀ name gap text, ¬ TagLine (brokenGap ++ ['\n']) name gap text := by
  have written : TagLine brokenGap ['a'] ['\u3000', '\n', ' '] ['b', '\r', ' ', 'c'] :=
    ⟨rfl, by simp, by simp [isBlank], by simp [isBlank], by simp, by rintro _ _ ⟨⟩; rfl, by simp⟩
  obtain ⟨accepts, unique, _⟩ := splitTag?_accepts_tag_lines brokenGap
  obtain ⟨_, _, refuses, _⟩ := splitTag?_accepts_tag_lines (brokenGap ++ ['\n'])
  exact ⟨written, (accepts _ _).mpr ⟨_, written⟩, fun name gap text => unique _ _ _ name gap text written,
    refuses.mp (by decide)⟩

end Comment

end ClassDocs
