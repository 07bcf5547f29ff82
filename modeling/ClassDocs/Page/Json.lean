import ClassDocs.Entity
import ClassDocs.Json
import ClassDocs.Menu

namespace ClassDocs

namespace JsonPage

/-- The tags as an object of value lists. -/
def tags (tags : TagMap) : Json :=
  .object (tags.entries.map fun entry => (entry.1, .array (entry.2.map Json.string)))

/-- A method as an object. -/
def method (method : MethodDoc) : Json :=
  .object [
    ("name", .string method.name),
    ("description", .string method.description),
    ("tags", tags method.tags),
    ("range", .object [
      ("path", .string method.path),
      ("start", .number method.first),
      ("end", .number method.last)]),
    ("source", match method.source with
      | some source => .string source
      | none => .null)]

/-- An entity as an object. -/
def entityValue (entity : Entity) : Json :=
  .object [
    ("name", .string entity.name),
    ("description", .string entity.description),
    ("tags", tags entity.tags),
    ("methods", .array (entity.methods.map method))]

/-- A link as an object. -/
def link (link : Link) : Json :=
  .object [("text", .string link.text), ("target", .string link.target)]

/-- A category as an object. -/
def category (category : Category) : Json :=
  .object [("name", .string category.name), ("links", .array (category.links.map link))]

/-- The menu as an object. -/
def menuValue (menu : Menu) : Json :=
  .object [("packages", .object (menu.packages.entries.map fun package =>
    (package.1, .array (package.2.map category))))]

/-- The page of an entity. -/
def entity (entity : Entity) : String :=
  (entityValue entity).pretty ++ "\n"

/-- The menu page. -/
def menu (menu : Menu) : String :=
  (menuValue menu).pretty ++ "\n"

end JsonPage

end ClassDocs
