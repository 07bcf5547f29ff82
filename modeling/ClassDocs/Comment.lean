import ClassDocs.Error
import ClassDocs.TagMap
import ClassDocs.TagRule
import ClassDocs.Text.Blank

namespace ClassDocs

/-- What a comment is read with: where pages are, how prose is formatted, and the rules for tags. -/
structure CommentContext where
  resolve : Resolver
  format : String → String
  rules : TagRules

/-- What a comment says. -/
structure CommentDoc where
  /-- The formatted prose; empty when there is none. -/
  description : String
  tags : TagMap
  deriving DecidableEq, Repr

namespace Comment

/-- Drop the indentation of a comment line, then a star and one space after it. -/
def stripMarker (line : List Char) : List Char :=
  match trimStart line with
  | '*' :: ' ' :: rest => rest
  | '*' :: rest => rest
  | rest => rest

/-- The name and text of a tag line: an at sign directly followed by the name, then white space and
the text. The text lies on one line. -/
def splitTag? : List Char → Option (List Char × List Char)
  | '@' :: rest =>
    let name := rest.takeWhile fun c => !isBlank c
    let text := trimStart (rest.dropWhile fun c => !isBlank c)
    if name.isEmpty || text.contains '\n' then none else some (name, text)
  | _ => none

/-- One line inside a comment, without its marker. -/
inductive Line where
  | prose (text : List Char)
  | tag (name text : String)
  deriving DecidableEq, Repr

/-- Read one line inside a comment. -/
def Line.read (line : List Char) : Line :=
  let stripped := stripMarker line
  match splitTag? stripped with
  | some (name, text) => .tag (String.ofList name) (String.ofList text)
  | none => .prose stripped

/-- The text of a prose line. -/
def Line.prose? : Line → Option (List Char)
  | .prose text => some text
  | .tag .. => none

/-- The name and shown value of a tag line. -/
def Line.tag? (context : CommentContext) : Line → Option (String × String)
  | .prose _ => none
  | .tag name text => some (name, context.rules.apply context.resolve name text)

/-- The prose of a comment, trimmed and formatted. Empty prose is not formatted. -/
def describe (context : CommentContext) (prose : List (List Char)) : String :=
  let text := trim (joinLines prose)
  if text.isEmpty then "" else context.format (String.ofList text)

/-- Read a comment block with its first and last line, which hold the delimiters and say nothing. -/
def parse (context : CommentContext) (comment : String) : Except DocError CommentDoc :=
  let lines := splitAtChar '\n' (unifyBreaks comment.toList)
  if lines.length < 2 then .error (.malformedComment lines.length)
  else
    let inner := lines.tail.dropLast.map Line.read
    .ok {
      description := describe context (inner.filterMap Line.prose?)
      tags := TagMap.ofPushes (inner.filterMap (Line.tag? context)) }

/-- Read a comment that may be missing. A missing one says nothing. -/
def parse? (context : CommentContext) : Option String → Except DocError CommentDoc
  | some comment => parse context comment
  | none => .ok ⟨"", TagMap.empty⟩

end Comment

end ClassDocs
