import ClassDocs.Comment
import ClassDocs.Source.Outline

namespace ClassDocs

/-- What is documented of a method. -/
structure MethodDoc where
  name : String
  description : String
  tags : TagMap
  /-- The file that declares it. -/
  path : String
  /-- The first and the last line of the declaration, counted from one. -/
  first : Nat
  last : Nat
  /-- The source text, without its indentation, when there is some. -/
  source : Option String
  deriving DecidableEq, Repr

/-- What is documented of a class. -/
structure Entity where
  name : String
  description : String
  tags : TagMap
  /-- The methods, in ascending order of their names. -/
  methods : List MethodDoc
  deriving DecidableEq, Repr

namespace Entity

/-- The names of the methods, in the order of the page. -/
def methodNames (entity : Entity) : List String :=
  entity.methods.map (·.name)

/-- How the source lines of a method are read. -/
abbrev SourceReader := String → Nat → Nat → Except DocError String

/-- The source to show: none if it cannot be read or is empty. -/
def shownSource (read : SourceReader) (method : MethodOutline) : Option String :=
  match read method.path method.first method.last with
  | .ok text => if text.isEmpty then none else some text
  | .error _ => none

/-- Document one method. -/
def documentMethod (read : SourceReader) (context : CommentContext) (method : MethodOutline) :
    Except DocError MethodDoc := do
  let doc ← Comment.parse? context method.comment
  return {
    name := method.name
    description := doc.description
    tags := doc.tags
    path := method.path
    first := method.first
    last := method.last
    source := shownSource read method }

/-- Document a class from its outline. Methods of equal names keep their order. -/
def ofOutline (read : SourceReader) (context : CommentContext) (outline : ClassOutline) :
    Except DocError Entity := do
  let doc ← Comment.parse? context outline.comment
  let methods ← outline.methods.mapM (documentMethod read context)
  return {
    name := outline.name
    description := doc.description
    tags := doc.tags
    methods := methods.mergeSort fun first second => decide (first.name ≤ second.name) }

/-- Document a class without its methods, whose doc blocks are not read. -/
def summaryOfOutline (context : CommentContext) (outline : ClassOutline) :
    Except DocError Entity := do
  let doc ← Comment.parse? context outline.comment
  return { name := outline.name, description := doc.description, tags := doc.tags, methods := [] }

/-- Look a class up and document it. -/
def document (reflect : Reflector) (read : SourceReader) (context : CommentContext)
    (name : String) : Except DocError Entity := do
  ofOutline read context (← reflect name)

/-- Look a class up and document it without its methods. -/
def summarize (reflect : Reflector) (context : CommentContext) (name : String) :
    Except DocError Entity := do
  summaryOfOutline context (← reflect name)

end Entity

end ClassDocs
