import ClassDocs.Proofs.Source.BlockComments
import Mathlib.Data.List.Induction

namespace ClassDocs

/-- The characters that string literals begin and end with. -/
inductive Quote where
  | single
  | double
  deriving DecidableEq, Repr

def Quote.char : Quote → Char
  | .single => '\x27'
  | .double => '"'

/-- A character of a string literal, or a backslash with the character behind it. -/
inductive LiteralPart (quote : Quote) where
  | plain (c : Char) (inside : c ≠ quote.char) (unescaped : c ≠ '\\')
  | escaped (c : Char)

def LiteralPart.print {quote : Quote} : LiteralPart quote → List Char
  | .plain c _ _ => [c]
  | .escaped c => ['\\', c]

/-- The text between the quotes of a string literal. -/
def printParts {quote : Quote} (parts : List (LiteralPart quote)) : List Char :=
  parts.flatMap LiteralPart.print

/-- A part of a line: a character of code, a whole string literal or a whole block comment. -/
inductive CodeToken where
  | opening
  | closing
  | plain (c : Char) (unmarked : c ∉ codeMarks)
  | slash
  | literal (quote : Quote) (parts : List (LiteralPart quote))
  | comment (text : List Char) (unclosed : ¬ ['*', '/'] <:+: text)

namespace CodeToken

def print : CodeToken → List Char
  | .opening => ['\x7b']
  | .closing => ['\x7d']
  | .plain c _ => [c]
  | .slash => ['/']
  | .literal quote parts => quote.char :: (printParts parts ++ [quote.char])
  | .comment text _ => '/' :: '*' :: (text ++ ['*', '/'])

def isOpening : CodeToken → Bool
  | .opening => true
  | _ => false

def isClosing : CodeToken → Bool
  | .closing => true
  | _ => false

end CodeToken

/-- What is left of a line behind its last token. An open literal may break off behind a backslash. -/
inductive CodeTail where
  | nothing
  | slashes (text : List Char)
  | hash (text : List Char)
  | openComment (text : List Char) (unclosed : ¬ ['*', '/'] <:+: text)
  | openLiteral (quote : Quote) (parts : List (LiteralPart quote)) (backslash : Bool)

namespace CodeTail

def print : CodeTail → List Char
  | .nothing => []
  | .slashes text => '/' :: '/' :: text
  | .hash text => '#' :: text
  | .openComment text _ => '/' :: '*' :: text
  | .openLiteral quote parts backslash => quote.char :: (printParts parts ++ if backslash then ['\\'] else [])

def isOpenComment : CodeTail → Bool
  | .openComment _ _ => true
  | _ => false

end CodeTail

/-- Tokens in front of the rest of a line. -/
def printTokens (tokens : List CodeToken) (rest : List Char) : List Char :=
  tokens.flatMap CodeToken.print ++ rest

/-- A line, taken apart into tokens. A slash of its own is no half of a comment mark. -/
structure CodeLine where
  tokens : List CodeToken
  tail : CodeTail
  parted : ∀ before behind, tokens = before ++ .slash :: behind →
    (printTokens behind tail.print).head? ≠ some '/' ∧ (printTokens behind tail.print).head? ≠ some '*'

def CodeLine.print (line : CodeLine) : List Char :=
  printTokens line.tokens line.tail.print

theorem printParts_cons {quote : Quote} (part : LiteralPart quote) (parts : List (LiteralPart quote)) :
    printParts (part :: parts) = part.print ++ printParts parts :=
  List.flatMap_cons

theorem printTokens_cons (token : CodeToken) (tokens : List CodeToken) (rest : List Char) :
    printTokens (token :: tokens) rest = token.print ++ printTokens tokens rest := by
  rw [printTokens, List.flatMap_cons, List.append_assoc, ← printTokens]

section Blocks

theorem afterBlock?_append {text : List Char} (unclosed : ¬ ['*', '/'] <:+: text) (rest : List Char) :
    afterBlock? (text ++ '*' :: '/' :: rest) = some rest := by
  induction text with
  | nil => rw [List.nil_append, afterBlock?]
  | cons c text ih =>
    rw [List.infix_cons_iff, not_or] at unclosed
    rw [List.cons_append, afterBlock?, ih unclosed.2]
    -- the mark cannot begin here: its second half would be in the text or be the star behind it
    intro tail star slash
    refine unclosed.1 ?_
    cases text with
    | nil => simp at slash
    | cons d text =>
      rw [List.cons_append] at slash
      rw [star, (List.cons.inj slash).1]
      exact ⟨text, rfl⟩

theorem afterBlock?_eq_some_iff {line rest : List Char} :
    afterBlock? line = some rest ↔ ∃ before, line = before ++ '*' :: '/' :: rest ∧ ¬ ['*', '/'] <:+: before := by
  constructor
  · intro found
    fun_induction afterBlock? line with
    | case1 => cases found
    | case2 tail =>
      cases found
      exact ⟨[], rfl, by simp⟩
    | case3 c tail plain ih =>
      obtain ⟨before, rfl, unclosed⟩ := ih found
      refine ⟨c :: before, rfl, fun inside => ?_⟩
      rcases List.infix_cons_iff.mp inside with ⟨more, starts⟩ | later
      · obtain ⟨star, slash⟩ := List.cons.inj starts
        exact plain (more ++ '*' :: '/' :: rest) star.symm (by rw [← slash]; rfl)
      · exact unclosed later
  · rintro ⟨before, rfl, unclosed⟩
    exact afterBlock?_append unclosed rest

theorem afterBlock?_eq_none_iff {line : List Char} : afterBlock? line = none ↔ ¬ ['*', '/'] <:+: line := by
  rw [← occursIn_iff, ← Scan.closesBlock, Scan.closesBlock_eq]
  simp

end Blocks

section Counting

theorem Quote.char_ne_backslash (quote : Quote) : quote.char ≠ '\\' := by
  cases quote with
  | single => decide
  | double => decide

theorem countBraces_quote (quote : Quote) (rest : List Char) :
    countBraces .code (quote.char :: rest) = countBraces (.quoted quote.char) rest := by
  cases quote with
  | single => rw [Quote.char, countBraces] <;> simp
  | double => rw [Quote.char, countBraces] <;> simp

theorem countBraces_parts {quote : Quote} (parts : List (LiteralPart quote)) (rest : List Char) :
    countBraces (.quoted quote.char) (printParts parts ++ rest) = countBraces (.quoted quote.char) rest := by
  induction parts with
  | nil => rfl
  | cons part parts ih =>
    rw [printParts_cons, List.append_assoc]
    cases part with
    | plain c inside unescaped =>
      rw [LiteralPart.print, List.singleton_append, countBraces, if_neg inside, ih]
      · intro same
        exact absurd same unescaped
      · intro _ _ same
        exact absurd same unescaped
    | escaped c => rw [LiteralPart.print, List.cons_append, List.singleton_append, countBraces, ih]

theorem countBraces_closing_quote (quote : Quote) (rest : List Char) :
    countBraces (.quoted quote.char) (quote.char :: rest) = countBraces .code rest := by
  rw [countBraces, if_pos rfl]
  · intro same
    exact absurd same quote.char_ne_backslash
  · intro _ _ same
    exact absurd same quote.char_ne_backslash

theorem countBraces_slash {rest : List Char} (noLine : rest.head? ≠ some '/') (noBlock : rest.head? ≠ some '*') :
    countBraces .code ('/' :: rest) = countBraces .code rest := by
  rw [countBraces]
  · rfl
  · rintro tail _ rfl
    exact noBlock rfl
  · rintro tail _ rfl
    exact noLine rfl
  all_goals simp

/-- A token adds to the count the brace that it is. -/
theorem countBraces_token (token : CodeToken) (rest : List Char)
    (parted : token = .slash → rest.head? ≠ some '/' ∧ rest.head? ≠ some '*') :
    countBraces .code (token.print ++ rest) =
      ⟨(countBraces .code rest).opens + if token.isOpening then 1 else 0,
        (countBraces .code rest).closes + if token.isClosing then 1 else 0, (countBraces .code rest).inBlock⟩ := by
  cases token with
  | opening => rw [CodeToken.print, List.singleton_append, countBraces]; rfl
  | closing => rw [CodeToken.print, List.singleton_append, countBraces]; rfl
  | plain c unmarked => rw [CodeToken.print, List.singleton_append, countBraces_cons unmarked]; rfl
  | slash =>
    obtain ⟨noLine, noBlock⟩ := parted rfl
    rw [CodeToken.print, List.singleton_append, countBraces_slash noLine noBlock]
    rfl
  | literal quote parts =>
    rw [CodeToken.print, List.cons_append, countBraces_quote, List.append_assoc, countBraces_parts,
      List.singleton_append, countBraces_closing_quote]
    rfl
  | comment text unclosed =>
    rw [CodeToken.print, List.cons_append, List.cons_append, countBraces, countBraces_blockComment,
      List.append_assoc, List.cons_append, List.singleton_append, afterBlock?_append unclosed, Option.elim_some]
    rfl

theorem countBraces_tail (tail : CodeTail) : countBraces .code tail.print = ⟨0, 0, tail.isOpenComment⟩ := by
  cases tail with
  | nothing => rfl
  | slashes text => rw [CodeTail.print, countBraces]; rfl
  | hash text => rw [CodeTail.print, countBraces]; rfl
  | openComment text unclosed =>
    rw [CodeTail.print, countBraces, countBraces_blockComment, afterBlock?_eq_none_iff.mpr unclosed]
    rfl
  | openLiteral quote parts backslash =>
    rw [CodeTail.print, countBraces_quote, countBraces_parts]
    cases backslash with
    | false => rw [if_neg Bool.false_ne_true, countBraces]; rfl
    | true => rw [if_pos rfl, countBraces]; rfl

theorem CodeLine.countBraces_print (line : CodeLine) :
    countBraces .code line.print = ⟨line.tokens.countP CodeToken.isOpening, line.tokens.countP CodeToken.isClosing,
      line.tail.isOpenComment⟩ := by
  obtain ⟨tokens, tail, parted⟩ := line
  rw [print]
  dsimp only
  induction tokens with
  | nil => exact countBraces_tail tail
  | cons token tokens ih =>
    have later := ih fun before behind split => parted (token :: before) behind (by rw [split]; rfl)
    have here : token = .slash → (printTokens tokens tail.print).head? ≠ some '/' ∧
        (printTokens tokens tail.print).head? ≠ some '*' := by
      rintro rfl
      exact parted [] tokens rfl
    rw [printTokens_cons, countBraces_token token _ here, later, List.countP_cons, List.countP_cons]

end Counting

section Reading

/-- A text behind a quote goes on to the same quote or to the end of the line. -/
theorem exists_parts (quote : Quote) (text : List Char) :
    ∃ parts : List (LiteralPart quote), (∃ rest, text = printParts parts ++ quote.char :: rest) ∨
      ∃ backslash : Bool, text = printParts parts ++ if backslash then ['\\'] else [] := by
  induction text using List.twoStepInduction with
  | nil => exact ⟨[], Or.inr ⟨false, rfl⟩⟩
  | singleton c =>
    by_cases ends : c = quote.char
    · exact ⟨[], Or.inl ⟨[], by rw [ends]; rfl⟩⟩
    by_cases escape : c = '\\'
    · exact ⟨[], Or.inr ⟨true, by rw [escape]; rfl⟩⟩
    · exact ⟨[.plain c ends escape], Or.inr ⟨false, rfl⟩⟩
  | cons_cons c d text behind next =>
    by_cases ends : c = quote.char
    · exact ⟨[], Or.inl ⟨d :: text, by rw [ends]; rfl⟩⟩
    by_cases escape : c = '\\'
    · obtain ⟨parts, ⟨rest, split⟩ | ⟨backslash, split⟩⟩ := behind
      · exact ⟨.escaped d :: parts, Or.inl ⟨rest, by rw [escape, split]; rfl⟩⟩
      · exact ⟨.escaped d :: parts, Or.inr ⟨backslash, by rw [escape, split]; rfl⟩⟩
    · obtain ⟨parts, ⟨rest, split⟩ | ⟨backslash, split⟩⟩ := next d
      · exact ⟨.plain c ends escape :: parts, Or.inl ⟨rest, by rw [split]; rfl⟩⟩
      · exact ⟨.plain c ends escape :: parts, Or.inr ⟨backslash, by rw [split]; rfl⟩⟩

/-- A text begins with a token, or it is the end of a line as a whole. -/
def HasFront (text : List Char) : Prop :=
  (∃ token behind, text = CodeToken.print token ++ behind ∧
    (token = .slash → behind.head? ≠ some '/' ∧ behind.head? ≠ some '*')) ∨
  ∃ tail : CodeTail, text = tail.print

theorem hasFront_quote (quote : Quote) (rest : List Char) : HasFront (quote.char :: rest) := by
  obtain ⟨parts, ⟨behind, split⟩ | ⟨backslash, split⟩⟩ := exists_parts quote rest
  · refine Or.inl ⟨.literal quote parts, behind, ?_, by simp⟩
    rw [split, CodeToken.print, List.cons_append, List.append_assoc, List.singleton_append]
  · exact Or.inr ⟨.openLiteral quote parts backslash, by rw [split]; rfl⟩

theorem hasFront_comment (rest : List Char) : HasFront ('/' :: '*' :: rest) := by
  cases closed : afterBlock? rest with
  | none => exact Or.inr ⟨.openComment rest (afterBlock?_eq_none_iff.mp closed), rfl⟩
  | some behind =>
    obtain ⟨text, split, unclosed⟩ := afterBlock?_eq_some_iff.mp closed
    refine Or.inl ⟨.comment text unclosed, behind, ?_, by simp⟩
    rw [split, CodeToken.print, List.cons_append, List.cons_append, List.append_assoc]
    rfl

theorem hasFront_slash (rest : List Char) : HasFront ('/' :: rest) := by
  by_cases line : rest.head? = some '/'
  · obtain ⟨text, rfl⟩ := List.head?_eq_some_iff.mp line
    exact Or.inr ⟨.slashes text, rfl⟩
  by_cases block : rest.head? = some '*'
  · obtain ⟨text, rfl⟩ := List.head?_eq_some_iff.mp block
    exact hasFront_comment text
  · exact Or.inl ⟨.slash, rest, rfl, fun _ => ⟨line, block⟩⟩

theorem hasFront (c : Char) (rest : List Char) : HasFront (c :: rest) := by
  by_cases marked : c ∈ codeMarks
  · simp only [codeMarks, List.mem_cons, List.not_mem_nil, or_false] at marked
    rcases marked with rfl | rfl | rfl | rfl | rfl | rfl
    · exact hasFront_quote .double rest
    · exact hasFront_quote .single rest
    · exact Or.inr ⟨.hash rest, rfl⟩
    · exact hasFront_slash rest
    · exact Or.inl ⟨.opening, rest, rfl, by simp⟩
    · exact Or.inl ⟨.closing, rest, rfl, by simp⟩
  · exact Or.inl ⟨.plain c marked, rest, rfl, by simp⟩

theorem CodeToken.length_print_pos (token : CodeToken) : 0 < token.print.length := by
  cases token with
  | opening | closing | plain | slash => exact Nat.one_pos
  | literal | comment => exact Nat.succ_pos _

theorem CodeLine.exists_cons (line : CodeLine) (token : CodeToken)
    (parted : token = .slash → line.print.head? ≠ some '/' ∧ line.print.head? ≠ some '*') :
    ∃ longer : CodeLine, longer.print = token.print ++ line.print := by
  refine ⟨⟨token :: line.tokens, line.tail, fun before behind shown => ?_⟩, printTokens_cons ..⟩
  cases before with
  | nil =>
    obtain ⟨same, rest⟩ := List.cons.inj shown
    rw [← rest]
    exact parted same
  | cons first before => exact line.parted before behind (List.cons.inj shown).2

/-- Every line can be taken apart into tokens. -/
theorem exists_codeLine (text : List Char) : ∃ line : CodeLine, line.print = text := by
  -- a token is taken from the front, which leaves a shorter line
  induction size : text.length using Nat.strongRecOn generalizing text with
  | ind count ih =>
    cases text with
    | nil => exact ⟨⟨[], .nothing, by simp⟩, rfl⟩
    | cons c rest =>
      rcases hasFront c rest with ⟨token, behind, split, parted⟩ | ⟨tail, split⟩
      · have positive := token.length_print_pos
        have whole := congrArg List.length split
        rw [List.length_append] at whole
        obtain ⟨line, rfl⟩ := ih behind.length (by omega) behind rfl
        rw [split]
        exact line.exists_cons token parted
      · exact ⟨⟨[], tail, by simp⟩, split.symm⟩

end Reading

/-- The braces that are counted are the tokens of the line that are braces, and every line consists of
tokens. In a line that begins inside a block comment, only what follows the end of the comment counts. -/
theorem lineBraces_counts_brace_tokens :
    (∀ line : CodeLine, lineBraces false line.print =
      ⟨line.tokens.countP CodeToken.isOpening, line.tokens.countP CodeToken.isClosing, line.tail.isOpenComment⟩) ∧
    (∀ text, ∃ line : CodeLine, line.print = text) ∧
    (∀ line, ¬ ['*', '/'] <:+: line → lineBraces true line = ⟨0, 0, true⟩) ∧
    (∀ line, ['*', '/'] <:+: line → ∃ before rest, line = before ++ '*' :: '/' :: rest ∧
      ¬ ['*', '/'] <:+: before ∧ lineBraces true line = lineBraces false rest) := by
  have inside (line : List Char) :
      lineBraces true line = (afterBlock? line).elim ⟨0, 0, true⟩ (lineBraces false) :=
    countBraces_blockComment line
  refine ⟨CodeLine.countBraces_print, exists_codeLine, fun line unclosed => ?_, fun line closed => ?_⟩
  · rw [inside, afterBlock?_eq_none_iff.mpr unclosed]
    rfl
  · cases found : afterBlock? line with
    | none => exact absurd closed (afterBlock?_eq_none_iff.mp found)
    | some rest =>
      obtain ⟨before, split, first⟩ := afterBlock?_eq_some_iff.mp found
      exact ⟨before, rest, split, first, by rw [inside, found]; rfl⟩

/-- The end of a comment with a brace, then a literal that holds a brace and what looks like comments,
a comment that a slash does not end, and a brace. -/
def commentEnding : List Char :=
  "\x7b **/ '\\'/*\x7b//' /*/ \x7d */ \x7d".toList

theorem lineBraces_counts_brace_tokens_of_commentEnding :
    (¬ ['*', '/'] <:+: "\x7b * / #".toList ∧ lineBraces true "\x7b * / #".toList = ⟨0, 0, true⟩) ∧
    ['*', '/'] <:+: commentEnding ∧
    ∃ before rest, commentEnding = before ++ '*' :: '/' :: rest ∧ ¬ ['*', '/'] <:+: before ∧
      lineBraces true commentEnding = lineBraces false rest := by
  have unclosed : ¬ ['*', '/'] <:+: "\x7b * / #".toList := by
    rw [← occursIn_iff]
    decide +kernel
  have closed : ['*', '/'] <:+: commentEnding := by
    rw [← occursIn_iff]
    decide +kernel
  obtain ⟨_, _, still, behind⟩ := lineBraces_counts_brace_tokens
  exact ⟨⟨unclosed, still _ unclosed⟩, closed, behind _ closed⟩

example : lineBraces true commentEnding = ⟨0, 1, false⟩ := by decide +kernel

end ClassDocs
