import ClassDocs.Entity
import ClassDocs.Menu
import ClassDocs.Text.Lowercase

namespace ClassDocs

namespace Menu

/-- The places of an entity in the menu: one for every package and category among its tags. Without
a package it is filed under `Unknown` and `Base`, without a category under `Core`. -/
def placesOf (tags : TagMap) : List (String × String) :=
  match tags.get? "package" with
  | none => [("Unknown", "Base")]
  | some packages => packages.flatMap fun package =>
    match tags.get? "category" with
    | some categories => categories.map fun category => (package, category)
    | none => [(package, "Core")]

/-- Add the links of an entity. -/
def addEntity (resolve : Resolver) (menu : Menu) (entity : Entity) : Menu :=
  (placesOf entity.tags).foldl
    (fun menu place => menu.push place.1 place.2 ⟨entity.name, resolve entity.name none⟩) menu

/-- The order in which entities enter the menu: by their names in lower case. -/
def inOrder (entities : List Entity) : List Entity :=
  entities.mergeSort fun first second => decide (lowercase first.name ≤ lowercase second.name)

/-- The menu of some entities. -/
def build (resolve : Resolver) (entities : List Entity) : Menu :=
  (inOrder entities).foldl (addEntity resolve) Menu.empty

end Menu

end ClassDocs
