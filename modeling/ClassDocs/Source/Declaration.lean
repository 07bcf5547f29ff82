import ClassDocs.Text.Blank
import ClassDocs.Text.Lines
import ClassDocs.Text.WordChar

namespace ClassDocs

/-- What follows one of the given words and the white space after it, of which there must be some. -/
def afterWord? (words : List String) (text : List Char) : Option (List Char) :=
  words.findSome? fun word =>
    match after? word.toList text with
    | some (c :: rest) => if isBlank c then some (trimStart rest) else none
    | _ => none

theorem length_of_afterWord? {words : List String} {text rest : List Char}
    (found : afterWord? words text = some rest) : rest.length < text.length := by
  obtain ⟨word, _, read⟩ := List.exists_of_findSome?_eq_some found
  split at read
  · rename_i c tail atWord
    split at read
    · have total := length_of_after? atWord
      have shorter := length_trimStart_le tail
      cases Option.some.inj read
      simp only [List.length_cons] at total
      omega
    · simp at read
  · simp at read

/-- What follows the modifiers in front of a declaration. -/
def skipModifiers (modifiers : List String) (text : List Char) : List Char :=
  match _ : afterWord? modifiers text with
  | some rest => skipModifiers modifiers rest
  | none => text
termination_by text.length
decreasing_by apply length_of_afterWord?; assumption

/-- A name at the start of a text, with what follows it. -/
def name? (text : List Char) : Option (List Char × List Char) :=
  match text.takeWhile isWord with
  | [] => none
  | name => some (name, text.dropWhile isWord)

/-- The parent named at the start of a text that continues a class declaration. -/
def parent? (text : List Char) : Option (List Char) :=
  match text with
  | [] => none
  | c :: rest =>
    if isBlank c then do
      let afterExtends ← afterWord? ["extends"] (trimStart rest)
      let (parent, _) ← name? afterExtends
      return parent
    else none

/-- The name and the parent that a line declares, if it declares a class, an interface or a trait. -/
def classDeclaration? (line : List Char) : Option (List Char × Option (List Char)) := do
  let afterModifiers := skipModifiers ["abstract", "final"] (trimStart line)
  let afterKeyword ← afterWord? ["class", "interface", "trait"] afterModifiers
  let (name, rest) ← name? afterKeyword
  return (name, parent? rest)

/-- The modifiers that may stand in front of a method. -/
def methodModifiers : List String :=
  ["public", "protected", "private", "static", "abstract", "final"]

/-- The name that a line declares, if it declares a method. -/
def methodDeclaration? (line : List Char) : Option (List Char) := do
  let afterModifiers := skipModifiers methodModifiers (trimStart line)
  let afterKeyword ← afterWord? ["function"] afterModifiers
  let atName := match afterKeyword with
    | '&' :: rest => trimStart rest
    | rest => rest
  let (name, rest) ← name? atName
  match trimStart rest with
  | '(' :: _ => return name
  | _ => none

end ClassDocs
