import ClassDocs.Link
import ClassDocs.SortedMap

namespace ClassDocs

/-- The links of one category. -/
structure Category where
  name : String
  links : List Link
  deriving DecidableEq, Repr

/-- The navigation menu: packages in ascending order, the categories of each in the order in which
they were first seen, the links of each in the order in which they came. -/
structure Menu where
  packages : SortedMap (List Category)

namespace Menu

/-- The menu without links. -/
def empty : Menu := ⟨SortedMap.empty⟩

/-- Add a link to the first category of a name, or a new category at the end. -/
def pushCategory (category : String) (link : Link) : List Category → List Category
  | [] => [⟨category, [link]⟩]
  | first :: rest =>
    if first.name = category then { first with links := first.links ++ [link] } :: rest
    else first :: pushCategory category link rest

/-- Add a link to a category of a package. -/
def push (menu : Menu) (package category : String) (link : Link) : Menu :=
  ⟨menu.packages.alter package fun categories =>
    pushCategory category link (categories.getD [])⟩

/-- The links of a category of a package. -/
def links? (menu : Menu) (package category : String) : Option (List Link) := do
  let categories ← menu.packages.get? package
  let found ← categories.find? fun candidate => candidate.name == category
  return found.links

/-- The packages, in ascending order. -/
def packageNames (menu : Menu) : List String :=
  menu.packages.keys

end Menu

end ClassDocs
