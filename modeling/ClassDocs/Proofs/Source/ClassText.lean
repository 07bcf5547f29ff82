import ClassDocs.Proofs.Source.Braces
import ClassDocs.Source.Scan

namespace ClassDocs

/-- The lines of a doc block between its two delimiter lines. -/
structure DocText where
  inner : List (List Char)
  single : ∀ line ∈ inner, OneLine line
  unclosed : ∀ line ∈ inner, ¬ ['*', '/'] <:+: line

def DocText.print (doc : DocText) : List (List Char) :=
  ['/', '*', '*'] :: (doc.inner ++ [[' ', '*', '/']])

/-- A doc block as one text, delimiters included. -/
def DocText.comment (doc : DocText) : String :=
  String.ofList (joinLines doc.print)

/-- The braces of lines that follow a given nesting, which may be inside a block comment: no line
leaves the nesting below zero, and the last one leaves it at zero and outside comments. -/
def Balanced : Int → Bool → List (List Char) → Prop
  | depth, inBlock, [] => depth = 0 ∧ inBlock = false
  | depth, inBlock, line :: rest =>
    0 ≤ depth + (lineBraces inBlock line).net ∧
      Balanced (depth + (lineBraces inBlock line).net) (lineBraces inBlock line).inBlock rest

/-- The lines of a method between the lines of its two braces. -/
structure BodyText where
  inner : List (List Char)
  single : ∀ line ∈ inner, OneLine line
  balanced : Balanced 0 false inner

/-- A method as it is written, with or without a body. -/
structure MethodText where
  doc : Option DocText
  modifiers : List String
  name : Word
  parameters : List Char
  body : Option BodyText
  known : ∀ word ∈ modifiers, word ∈ ["public", "protected", "private", "static", "abstract", "final"]
  plain : ∀ c ∈ parameters, c ∉ ['"', '\x27', '\x7b', '\x7d', '#', '/', ';', '\n', '\r']

namespace MethodText

def docLines (method : MethodText) : List (List Char) :=
  method.doc.elim [] DocText.print

def printModifiers (modifiers : List String) : List Char :=
  modifiers.flatMap fun word => word.toList ++ [' ']

def declaration (method : MethodText) : List Char :=
  '\t' :: (printModifiers method.modifiers ++ ("function ".toList ++
    (method.name.letters ++ '(' :: (method.parameters ++ [')']))))

/-- The declaration with the body, or with a semicolon in its place. -/
def code (method : MethodText) : List (List Char) :=
  match method.body with
  | none => [method.declaration ++ [';']]
  | some body => method.declaration :: ['\t', '\x7b'] :: (body.inner ++ [['\t', '\x7d']])

def print (method : MethodText) : List (List Char) :=
  method.docLines ++ method.code

/-- What is reported of a method whose first printed line has the given number. -/
def outline (method : MethodText) (path : String) (number : Nat) : MethodOutline :=
  { name := String.ofList method.name.letters
    path := path
    comment := method.doc.map DocText.comment
    first := number + method.docLines.length
    last := number + method.docLines.length + (method.code.length - 1) }

/-- What is reported of methods printed one after the other from the line of a number on. -/
def outlines (path : String) : Nat → List MethodText → List MethodOutline
  | _, [] => []
  | number, method :: rest =>
    method.outline path number :: outlines path (number + method.print.length) rest

end MethodText

/-- A class as it is written. -/
structure ClassText where
  doc : Option DocText
  name : Word
  parent : Option Word
  methods : List MethodText

namespace ClassText

def docLines (written : ClassText) : List (List Char) :=
  written.doc.elim [] DocText.print

def extendsClause (written : ClassText) : List Char :=
  written.parent.elim [] fun parent => " extends ".toList ++ parent.letters

def heading (written : ClassText) : List Char :=
  "class ".toList ++ (written.name.letters ++ (written.extendsClause ++ [' ', '\x7b']))

def print (written : ClassText) : List (List Char) :=
  "<?php".toList :: (written.docLines ++ written.heading ::
    (written.methods.flatMap MethodText.print ++ [['\x7d']]))

/-- The text of a class file. Its last line may be ended by a line feed or not. -/
def source (written : ClassText) (ended : Bool) : String :=
  String.ofList (joinLines written.print ++ if ended then ['\n'] else [])

/-- What is reported of a class. -/
def outline (written : ClassText) (path : String) : ClassOutline :=
  { name := String.ofList written.name.letters
    path := path
    comment := written.doc.map DocText.comment
    parent := written.parent.map fun parent => String.ofList parent.letters
    methods := MethodText.outlines path (written.docLines.length + 3) written.methods }

end ClassText

theorem DocText.print_oneLine (doc : DocText) : ∀ line ∈ doc.print, OneLine line := by
  intro line member
  rcases List.mem_cons.mp member with rfl | member
  · decide
  rcases List.mem_append.mp member with inside | last
  · exact doc.single line inside
  · rw [List.mem_singleton.mp last]
    decide

theorem docLines_oneLine (doc : Option DocText) : ∀ line ∈ doc.elim [] DocText.print, OneLine line := by
  cases doc with
  | none => simp
  | some doc => exact doc.print_oneLine

theorem name?_append (word : Word) {stop : Char} (outside : isWord stop = false) (rest : List Char) :
    name? (word.letters ++ stop :: rest) = some (word.letters, stop :: rest) := by
  unfold name?
  rw [word.takeWhile_append outside, word.dropWhile_append outside]
  cases letters : word.letters with
  | nil => exact absurd letters word.nonempty
  | cons c rest => rfl

theorem skipModifiers_eq {modifiers : List String} {text rest : List Char}
    (found : afterWord? modifiers text = some rest) :
    skipModifiers modifiers text = skipModifiers modifiers rest := by
  rw [skipModifiers.eq_def modifiers text]
  split
  · rename_i other same
    cases Option.some.inj (same.symm.trans found)
    rfl
  · rename_i none
    simp [none] at found

theorem skipModifiers_eq_self {modifiers : List String} {text : List Char}
    (none : afterWord? modifiers text = none) : skipModifiers modifiers text = text := by
  rw [skipModifiers]
  split
  · rename_i some
    simp [none] at some
  · rfl

/-- Of a written modifier and the blank after it nothing is left, when no blank follows. -/
theorem afterWord?_modifier {word : String} (known : word ∈ methodModifiers) {rest : List Char}
    (flush : trimStart rest = rest) :
    afterWord? methodModifiers (word.toList ++ ' ' :: rest) = some rest := by
  have reads : afterWord? methodModifiers (word.toList ++ ' ' :: rest) = some (trimStart rest) := by
    simp only [methodModifiers, List.mem_cons, List.not_mem_nil, or_false] at known
    rcases known with rfl | rfl | rfl | rfl | rfl | rfl <;> rfl
  rw [reads, flush]

theorem trimStart_modifier {word : String} (known : word ∈ methodModifiers) (rest : List Char) :
    trimStart (word.toList ++ rest) = word.toList ++ rest := by
  simp only [methodModifiers, List.mem_cons, List.not_mem_nil, or_false] at known
  rcases known with rfl | rfl | rfl | rfl | rfl | rfl <;> rfl

/-- What follows the modifiers of a method, up to the parenthesis, is read as its name. -/
theorem methodDeclaration?_of_skipModifiers {line rest : List Char} {word : Word}
    (skipped : skipModifiers methodModifiers (trimStart line) =
      "function ".toList ++ (word.letters ++ '(' :: rest)) :
    methodDeclaration? line = some word.letters := by
  have keyword : afterWord? ["function"] ("function ".toList ++ (word.letters ++ '(' :: rest)) =
      some (trimStart (word.letters ++ '(' :: rest)) := rfl
  have named := name?_append word (show isWord '(' = false by decide +kernel) rest
  have noReference : '&' ∉ word.letters := word.not_mem_of_isWord_eq_false (by decide +kernel)
  rw [word.trimStart_append] at keyword
  simp only [methodDeclaration?, skipped, keyword, Option.bind_eq_bind, Option.bind_some]
  split
  · rename_i tail same
    cases letters : word.letters with
    | nil => exact absurd letters word.nonempty
    | cons c others =>
      rw [letters, List.cons_append] at same
      rw [letters, (List.cons.inj same).1] at noReference
      exact absurd (List.mem_cons_self ..) noReference
  · rw [named]
    rfl

namespace MethodText

theorem printModifiers_cons (word : String) (modifiers : List String) (rest : List Char) :
    printModifiers (word :: modifiers) ++ rest = word.toList ++ ' ' :: (printModifiers modifiers ++ rest) := by
  simp [printModifiers]

theorem trimStart_printModifiers {modifiers : List String}
    (known : ∀ word ∈ modifiers, word ∈ methodModifiers) {rest : List Char}
    (flush : trimStart rest = rest) :
    trimStart (printModifiers modifiers ++ rest) = printModifiers modifiers ++ rest := by
  cases modifiers with
  | nil => exact flush
  | cons word modifiers =>
    rw [printModifiers_cons, trimStart_modifier (known word (List.mem_cons_self ..))]

theorem skipModifiers_printModifiers {modifiers : List String}
    (known : ∀ word ∈ modifiers, word ∈ methodModifiers) {rest : List Char}
    (flush : trimStart rest = rest) (stop : afterWord? methodModifiers rest = none) :
    skipModifiers methodModifiers (printModifiers modifiers ++ rest) = rest := by
  induction modifiers with
  | nil => exact skipModifiers_eq_self stop
  | cons word modifiers ih =>
    have later : ∀ other ∈ modifiers, other ∈ methodModifiers :=
      fun other member => known other (List.mem_cons_of_mem _ member)
    have skipped := afterWord?_modifier (known word (List.mem_cons_self ..))
      (trimStart_printModifiers later flush)
    rw [printModifiers_cons, skipModifiers_eq skipped, ih later]

/-- A printed declaration is recognised, whatever ends its line. -/
theorem methodDeclaration?_declaration (method : MethodText) (ending : List Char) :
    methodDeclaration? (method.declaration ++ ending) = some method.name.letters := by
  have flush : ∀ named, trimStart ("function ".toList ++ named) = "function ".toList ++ named := fun _ => rfl
  have line : trimStart (method.declaration ++ ending) = trimStart (printModifiers method.modifiers ++
      ("function ".toList ++ (method.name.letters ++ '(' :: (method.parameters ++ ')' :: ending)))) := by
    rw [declaration, List.cons_append, trimStart, List.dropWhile_cons_of_pos (by rfl)]
    simp only [trimStart, List.append_assoc, List.cons_append, List.nil_append]
  apply methodDeclaration?_of_skipModifiers
  rw [line, trimStart_printModifiers method.known (flush _),
    skipModifiers_printModifiers method.known (flush _) rfl]

theorem printModifiers_plainCode {modifiers : List String}
    (known : ∀ word ∈ modifiers, word ∈ methodModifiers) : PlainCode (printModifiers modifiers) := by
  have each : ∀ word ∈ methodModifiers, PlainCode (word.toList ++ [' ']) := by decide
  intro c member
  obtain ⟨word, inside, letter⟩ := List.mem_flatMap.mp member
  exact each word (known word inside) c letter

theorem parameters_plainCode (method : MethodText) : PlainCode method.parameters := by
  intro c member
  have plain := method.plain c member
  simp only [List.mem_cons, List.not_mem_nil, or_false, not_or] at plain
  simp only [codeMarks, List.mem_cons, List.not_mem_nil, or_false, not_or]
  grind

theorem declaration_plainCode (method : MethodText) : PlainCode method.declaration := by
  have tab : PlainCode ['\t'] := by decide
  have keyword : PlainCode "function ".toList := by decide
  have left : PlainCode ['('] := by decide
  have right : PlainCode [')'] := by decide
  exact tab.append ((printModifiers_plainCode method.known).append (keyword.append
    (method.name.plainCode.append (left.append (method.parameters_plainCode.append right)))))

theorem code_oneLine (method : MethodText) : ∀ line ∈ method.code, OneLine line := by
  have declared := method.declaration_plainCode.oneLine
  unfold code
  intro line member
  split at member
  · rw [List.mem_singleton.mp member]
    exact declared.append (by decide)
  · rename_i body _
    simp only [List.mem_cons, List.mem_append, List.not_mem_nil, or_false] at member
    rcases member with rfl | rfl | inside | rfl
    · exact declared
    · decide
    · exact body.single line inside
    · decide

theorem getLast?_trim_declaration (method : MethodText) : (trim method.declaration).getLast? = some ')' := by
  obtain ⟨front, same⟩ : ∃ front, method.declaration = front ++ [')'] :=
    ⟨'\t' :: (printModifiers method.modifiers ++ ("function ".toList ++
      (method.name.letters ++ '(' :: method.parameters))), by
        simp only [declaration, List.cons_append, List.append_assoc]⟩
  rw [same, trim_append_singleton (by rfl), List.getLast?_concat]

end MethodText

namespace ClassText

theorem parent?_extends (parent : Word) {stop : Char} (outside : isWord stop = false) (rest : List Char) :
    parent? (" extends ".toList ++ (parent.letters ++ stop :: rest)) = some parent.letters := by
  have keyword : parent? (" extends ".toList ++ (parent.letters ++ stop :: rest)) =
      (name? (trimStart (parent.letters ++ stop :: rest))).bind fun named => some named.1 := rfl
  rw [keyword, parent.trimStart_append, name?_append parent outside, Option.bind_some]

/-- The printed heading of a class is recognised. -/
theorem classDeclaration?_heading (written : ClassText) :
    classDeclaration? written.heading =
      some (written.name.letters, written.parent.map fun parent => parent.letters) := by
  have blank : isWord ' ' = false := by decide +kernel
  have keyword : ∀ named, classDeclaration? ("class ".toList ++ named) =
      (name? (trimStart named)).bind fun read => some (read.1, parent? read.2) := by
    intro named
    have skipped : skipModifiers ["abstract", "final"] ("class ".toList ++ named) =
        "class ".toList ++ named := skipModifiers_eq_self rfl
    have flush : trimStart ("class ".toList ++ named) = "class ".toList ++ named := rfl
    rw [classDeclaration?, flush, skipped]
    rfl
  delta heading
  rw [keyword, written.name.trimStart_append]
  cases parentCase : written.parent with
  | none =>
    have clause : written.extendsClause = [] := by simp [extendsClause, parentCase]
    rw [clause, List.nil_append, name?_append written.name blank]
    rfl
  | some parent =>
    have clause : written.extendsClause ++ [' ', '\x7b'] =
        " extends ".toList ++ (parent.letters ++ [' ', '\x7b']) := by
      rw [extendsClause, parentCase, Option.elim_some, List.append_assoc]
    have named : name? (written.name.letters ++ (" extends ".toList ++ (parent.letters ++ [' ', '\x7b']))) =
        some (written.name.letters, " extends ".toList ++ (parent.letters ++ [' ', '\x7b'])) :=
      name?_append written.name blank ("extends ".toList ++ (parent.letters ++ [' ', '\x7b']))
    rw [clause, named, Option.bind_some, parent?_extends parent blank ['\x7b'], Option.map_some]

theorem heading_eq (written : ClassText) :
    ∃ front, PlainCode front ∧ written.heading = front ++ ['\x7b'] := by
  have keyword : PlainCode "class ".toList := by decide
  have blank : PlainCode [' '] := by decide
  have clause : PlainCode written.extendsClause := by
    unfold extendsClause
    cases written.parent with
    | none => decide
    | some parent => exact PlainCode.append (by decide) parent.plainCode
  refine ⟨_, keyword.append (written.name.plainCode.append (clause.append blank)), ?_⟩
  delta heading
  simp only [List.append_assoc, List.singleton_append]

theorem lineBraces_heading (written : ClassText) : lineBraces false written.heading = ⟨1, 0, false⟩ := by
  obtain ⟨front, plain, same⟩ := written.heading_eq
  rw [same]
  exact plain.countBraces_append ['\x7b']

theorem heading_oneLine (written : ClassText) : OneLine written.heading := by
  obtain ⟨front, plain, same⟩ := written.heading_eq
  rw [same]
  exact plain.oneLine.append (by decide)

end ClassText

end ClassDocs
