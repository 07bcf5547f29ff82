import ClassDocs.Page.Json
import ClassDocs.Page.Markdown

namespace ClassDocs

/-- The formats in which pages are written. -/
inductive PageFormat where
  | markdown
  | json
  deriving DecidableEq, Repr

/-- The format of a name. -/
def PageFormat.ofName (name : String) : Except DocError PageFormat :=
  if name = "markdown" ∨ name = "md" then .ok .markdown
  else if name = "json" then .ok .json
  else .error (.unknownFormat name)

/-- The extension of page files. -/
def PageFormat.extension : PageFormat → String
  | .markdown => "md"
  | .json => "json"

/-- The page of an entity in a format. -/
def PageFormat.entityPage (format : PageFormat) (entity : Entity) : String :=
  match format with
  | .markdown => MarkdownPage.entity entity
  | .json => JsonPage.entity entity

/-- The menu page in a format. -/
def PageFormat.menuPage (format : PageFormat) (menu : Menu) : String :=
  match format with
  | .markdown => MarkdownPage.menu menu
  | .json => JsonPage.menu menu

end ClassDocs
