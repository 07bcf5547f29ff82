import ClassDocs.Library.Tree
import ClassDocs.SortedMap

namespace ClassDocs

namespace SourceTree

/-- The file of every entity. Of two files that give the same name the later one counts. -/
def locate (layout : Layout) (tree : SourceTree) : SortedMap String :=
  SortedMap.ofList ((leaves tree).map fun leaf => (layout.entityName leaf.1, leaf.2))

/-- Every entity name, mapped to itself. -/
def collect (layout : Layout) (tree : SourceTree) : SortedMap String :=
  (locate layout tree).mapValues fun name _ => name

end SourceTree

/-- The name that remains when an extension's prefix and the underscore after it are taken away. -/
def extended? (family name : String) : Option String := do
  let rest ← after? family.toList name.toList
  let base ← after? ['_'] rest
  return String.ofList base

/-- The entity names to display. An entity that only extends another one of the map, by having the
family's prefix in front of its name, is left out. -/
def catalogue (family : String) (classes : SortedMap String) : List String :=
  classes.keys.filter fun name =>
    match extended? (lowercase family) name with
    | some base => !classes.contains base
    | none => true

end ClassDocs
