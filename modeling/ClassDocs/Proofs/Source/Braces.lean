import ClassDocs.Proofs.Text.Words
import ClassDocs.Source.Braces

namespace ClassDocs

/-- The characters of code that are more than themselves: quotes, comment marks and braces. -/
def codeMarks : List Char :=
  ['"', '\x27', '#', '/', '\x7b', '\x7d']

theorem countBraces_cons {c : Char} (plain : c ∉ codeMarks) (rest : List Char) :
    countBraces .code (c :: rest) = countBraces .code rest := by
  simp only [codeMarks, List.mem_cons, List.not_mem_nil, or_false, not_or] at plain
  obtain ⟨notQuote, notSingle, notHash, notSlash, notOpen, notClose⟩ := plain
  have notApostrophe : c.toNat ≠ 39 := by
    intro code
    exact notSingle (by rw [← Char.ofNat_toNat c, code])
  rw [countBraces]
  · simp [notQuote, notApostrophe]
  · intro _ same
    exact absurd same notSlash
  · intro _ same
    exact absurd same notSlash
  · exact notHash
  · exact notOpen
  · exact notClose

/-- Code on one line in which every character is just itself. -/
def PlainCode (text : List Char) : Prop :=
  ∀ c ∈ text, c ∉ codeMarks ∧ c ≠ '\n' ∧ c ≠ '\r'

instance (text : List Char) : Decidable (PlainCode text) :=
  List.decidableBAll (fun c => c ∉ codeMarks ∧ c ≠ '\n' ∧ c ≠ '\r') text

namespace PlainCode

theorem append {first second : List Char} (left : PlainCode first) (right : PlainCode second) :
    PlainCode (first ++ second) := by
  intro c member
  rcases List.mem_append.mp member with before | after
  · exact left c before
  · exact right c after

theorem oneLine {text : List Char} (plain : PlainCode text) : OneLine text :=
  fun c member => (plain c member).2

theorem countBraces_append {text : List Char} (plain : PlainCode text) (rest : List Char) :
    countBraces .code (text ++ rest) = countBraces .code rest := by
  induction text with
  | nil => rfl
  | cons c text ih =>
    rw [List.cons_append, countBraces_cons (plain c (List.mem_cons_self ..)).1,
      ih fun d member => plain d (List.mem_cons_of_mem _ member)]

theorem lineBraces {line : List Char} (plain : PlainCode line) :
    ClassDocs.lineBraces false line = ⟨0, 0, false⟩ := by
  have counted := plain.countBraces_append []
  rwa [List.append_nil] at counted

end PlainCode

theorem Word.plainCode (word : Word) : PlainCode word.letters := by
  have outside : codeMarks.all (fun c => !isWord c) = true := by decide +kernel
  intro c member
  refine ⟨fun mark => ?_, word.oneLine c member⟩
  have apart := List.all_eq_true.mp outside c mark
  exact word.not_mem_of_isWord_eq_false (by simpa using apart) member

end ClassDocs
