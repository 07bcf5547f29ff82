import ClassDocs.Entity
import ClassDocs.Menu
import ClassDocs.Text.Lowercase

namespace ClassDocs

namespace MarkdownPage

/-- One entry of the menu. -/
def menuLink (link : Link) : String :=
  "* [" ++ link.text ++ "](" ++ link.target ++ ")\n"

/-- A category with its links. -/
def menuCategory (category : Category) : String :=
  "### " ++ category.name ++ "\n\n" ++ String.join (category.links.map menuLink) ++ "\n"

/-- A package with its categories. -/
def menuPackage (package : String × List Category) : String :=
  "## " ++ package.1 ++ "\n\n" ++ String.join (package.2.map menuCategory)

/-- The menu, with a section for each package. -/
def menu (menu : Menu) : String :=
  String.join (menu.packages.entries.map menuPackage)

/-- The lines of a description; none if it is empty. -/
def descriptionLines (description : String) : List String :=
  if description.isEmpty then []
  else [String.ofList (trimEnd description.toList), ""]

/-- One value of a tag. -/
def tagLine (name value : String) : String :=
  if value.isEmpty then "* **" ++ name ++ "**" else "* **" ++ name ++ "** " ++ value

/-- The lines of the tags; none if there are no tags. -/
def tagLines (tags : TagMap) : List String :=
  if tags.isEmpty then []
  else (tags.entries.flatMap fun entry => entry.2.map (tagLine entry.1)) ++ [""]

/-- The lines of the source; none if there is no source. -/
def sourceLines : Option String → List String
  | some source => ["```php", source, "```", ""]
  | none => []

/-- The entry of a method in the list of methods. -/
def methodEntry (method : MethodDoc) : String :=
  "* [" ++ method.name ++ "](#" ++ lowercase method.name ++ ")"

/-- The section of a method. -/
def methodLines (method : MethodDoc) : List String :=
  ("### " ++ method.name ++ "\n") ::
    (descriptionLines method.description ++ tagLines method.tags ++ sourceLines method.source)

/-- The list of methods and their sections; none if there are no methods. -/
def methodsLines (methods : List MethodDoc) : List String :=
  if methods.isEmpty then []
  else "## Methods\n" :: (methods.map methodEntry ++ "" :: methods.flatMap methodLines)

/-- The page of an entity. -/
def entity (entity : Entity) : String :=
  let lines := ("# " ++ entity.name ++ "\n") ::
    (descriptionLines entity.description ++ tagLines entity.tags ++ methodsLines entity.methods)
  "\n".intercalate lines ++ "\n"

end MarkdownPage

end ClassDocs
