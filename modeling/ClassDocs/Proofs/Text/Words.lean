import ClassDocs.Proofs.Text.Lines
import ClassDocs.Text.Blank
import ClassDocs.Text.WordChar

namespace ClassDocs

/-- A run of characters of one kind that does not go on is the longest one. -/
theorem longest_run (kind : Char → Bool) {run after : List Char} (inside : ∀ c ∈ run, kind c = true)
    (stops : ∀ c rest, after = c :: rest → kind c = false) :
    (run ++ after).takeWhile kind = run ∧ (run ++ after).dropWhile kind = after := by
  rw [List.takeWhile_append_of_pos inside, List.dropWhile_append_of_pos inside]
  cases after with
  | nil => exact ⟨List.append_nil run, rfl⟩
  | cons c rest =>
    have outside := stops c rest rfl
    rw [List.takeWhile_cons_of_neg (by simp [outside]), List.dropWhile_cons_of_neg (by simp [outside])]
    exact ⟨List.append_nil run, rfl⟩

theorem eq_false_of_dropWhile_eq_cons {kind : Char → Bool} {text rest : List Char} {c : Char}
    (starts : text.dropWhile kind = c :: rest) : kind c = false := by
  have head := List.head?_dropWhile_not kind text
  rw [starts] at head
  simpa using head

theorem isBlank_of_trimStart_eq {text rest : List Char} {c : Char} (starts : trimStart text = c :: rest) :
    isBlank c = false :=
  eq_false_of_dropWhile_eq_cons starts

/-- Trimming keeps the first character that is not white space. -/
theorem trim_eq_cons {text rest : List Char} {c : Char} (starts : trimStart text = c :: rest) :
    ∃ more, trim text = c :: more := by
  have solid := isBlank_of_trimStart_eq starts
  rw [trim, starts, trimEnd, List.reverse_cons, List.dropWhile_append]
  split
  · exact ⟨[], by simp [solid]⟩
  · exact ⟨(rest.reverse.dropWhile isBlank).reverse, by simp⟩

theorem mem_of_mem_trim {text : List Char} {c : Char} (member : c ∈ trim text) : c ∈ text := by
  have inStart := (List.dropWhile_sublist isBlank).mem (List.mem_reverse.mp member)
  exact (List.dropWhile_sublist isBlank).mem (List.mem_reverse.mp inStart)

theorem trim_append_singleton {c : Char} (solid : isBlank c = false) (text : List Char) :
    trim (text ++ [c]) = trimStart text ++ [c] := by
  have starts : trimStart (text ++ [c]) = trimStart text ++ [c] := by
    unfold trimStart
    rw [List.dropWhile_append]
    split
    · rename_i empty
      simp [List.isEmpty_iff.mp empty, solid]
    · rfl
  rw [trim, starts, trimEnd, List.reverse_append, List.reverse_singleton, List.singleton_append,
    List.dropWhile_cons_of_neg (by simp [solid]), List.reverse_cons, List.reverse_reverse]

/-- The codes of all white space. -/
def blankCodes : List Nat :=
  [9, 10, 11, 12, 13, 32, 133, 160, 5760, 8192, 8193, 8194, 8195, 8196, 8197, 8198, 8199, 8200, 8201, 8202,
    8232, 8233, 8239, 8287, 12288]

theorem toNat_mem_blankCodes {c : Char} (blank : isBlank c = true) : c.toNat ∈ blankCodes := by
  simp only [isBlank, Bool.or_eq_true, decide_eq_true_eq, beq_iff_eq] at blank
  simp only [blankCodes, List.mem_cons, List.not_mem_nil, or_false]
  omega

/-- No character is both white space and part of a name. The white space is enumerated, since the
table of word characters is long. -/
theorem isBlank_eq_false_of_isWord {c : Char} (word : isWord c = true) : isBlank c = false := by
  have apart : ∀ code ∈ blankCodes, isWord (Char.ofNat code) = false := by decide +kernel
  refine Bool.eq_false_iff.mpr fun blank => ?_
  have outside := apart c.toNat (toNat_mem_blankCodes blank)
  rw [Char.ofNat_toNat, word] at outside
  cases outside

/-- A name as a declaration can have it. -/
structure Word where
  letters : List Char
  nonempty : letters ≠ []
  allWord : ∀ c ∈ letters, isWord c = true

namespace Word

theorem not_mem_of_isWord_eq_false (word : Word) {c : Char} (outside : isWord c = false) :
    c ∉ word.letters := by
  intro member
  rw [word.allWord c member] at outside
  cases outside

theorem oneLine (word : Word) : OneLine word.letters := by
  intro c member
  constructor
  · rintro rfl
    exact word.not_mem_of_isWord_eq_false (by decide +kernel) member
  · rintro rfl
    exact word.not_mem_of_isWord_eq_false (by decide +kernel) member

/-- A name is not changed by trimming in front of it. -/
theorem trimStart_append (word : Word) (rest : List Char) :
    trimStart (word.letters ++ rest) = word.letters ++ rest := by
  obtain ⟨letters, nonempty, allWord⟩ := word
  cases letters with
  | nil => exact absurd rfl nonempty
  | cons c letters =>
    have solid := isBlank_eq_false_of_isWord (allWord c (List.mem_cons_self ..))
    exact List.dropWhile_cons_of_neg (by simp [solid])

theorem takeWhile_append (word : Word) {stop : Char} (outside : isWord stop = false) (rest : List Char) :
    (word.letters ++ stop :: rest).takeWhile isWord = word.letters :=
  (longest_run isWord word.allWord (by rintro _ _ ⟨⟩; exact outside)).1

theorem dropWhile_append (word : Word) {stop : Char} (outside : isWord stop = false) (rest : List Char) :
    (word.letters ++ stop :: rest).dropWhile isWord = stop :: rest :=
  (longest_run isWord word.allWord (by rintro _ _ ⟨⟩; exact outside)).2

end Word

end ClassDocs
