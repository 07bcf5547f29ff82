import ClassDocs.Link
import ClassDocs.SortedMap
import ClassDocs.Text.Lines

namespace ClassDocs

/-- How the text of a tag becomes the value that is shown. -/
abbrev TagRule := Resolver → String → String

namespace TagRule

/-- A licence that is an address becomes a link to itself. -/
def license : TagRule := fun _ value =>
  if occursIn "://".toList value.toList then Link.anchor ⟨value, value⟩ else value

/-- Replace every `(c)` by the copyright sign's entity. -/
def markCopyright : List Char → List Char
  | [] => []
  | '(' :: 'c' :: ')' :: rest => "&copy;".toList ++ markCopyright rest
  | c :: rest => c :: markCopyright rest

/-- A copyright notice shows the copyright sign. -/
def copyright : TagRule := fun _ value =>
  String.ofList (markCopyright value.toList)

/-- The thrown type is always linked to its page. -/
def throws : TagRule := fun resolve value =>
  Link.anchor ⟨value, resolve value none⟩

/-- A letter or underscore of a member reference. The long s and the Kelvin sign count, because they
are other cases of `s` and `k`. -/
def isReferenceChar (c : Char) : Bool :=
  c.isAlpha || c == '_' || c.toNat == 383 || c.toNat == 8490

/-- The two names of a reference `Entity::member`. -/
def memberReference? (value : List Char) : Option (List Char × List Char) :=
  let entity := value.takeWhile isReferenceChar
  match value.dropWhile isReferenceChar with
  | ':' :: ':' :: member =>
    if !entity.isEmpty && !member.isEmpty && member.all isReferenceChar then some (entity, member)
    else none
  | _ => none

/-- A reference `Entity::member` is linked to the member on the entity's page. -/
def uses : TagRule := fun resolve value =>
  match memberReference? value.toList with
  | some (entity, member) =>
    Link.anchor ⟨value, resolve (String.ofList entity) (some (String.ofList member))⟩
  | none => value

end TagRule

/-- The rules in use, by tag name. -/
abbrev TagRules := SortedMap TagRule

namespace TagRules

/-- The rules that apply unless others are registered. -/
def standard : TagRules :=
  SortedMap.ofList [("license", TagRule.license), ("copyright", TagRule.copyright),
    ("throws", TagRule.throws), ("uses", TagRule.uses)]

/-- The value shown for a tag. A tag without a rule shows its text. -/
def apply (rules : TagRules) (resolve : Resolver) (name value : String) : String :=
  match rules.get? name with
  | some rule => rule resolve value
  | none => value

/-- The names with a rule, as a one-line listing. -/
def listing (rules : TagRules) : String :=
  "TagTransforms \x7b tags: [" ++
    ", ".intercalate (rules.keys.map fun name => "\"" ++ name ++ "\"") ++ "] \x7d"

end TagRules

end ClassDocs
