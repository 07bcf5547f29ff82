import ClassDocs.Library.Index
import ClassDocs.Menu.Build

namespace ClassDocs

/-- The methods of every class outside the family of the given prefix, in ascending order, by the
declared name of the class. Of two classes that declare the same name the later one counts. -/
def methodListing (reflect : Reflector) (family : String) (classes : SortedMap String) :
    Except DocError (SortedMap (List String)) := do
  let outlines ← classes.values.mapM reflect
  let shown := outlines.filter fun outline =>
    !(lowercaseAscii family).toList.isPrefixOf (lowercaseAscii outline.name).toList
  return SortedMap.ofList (shown.map fun outline =>
    (outline.name,
      (outline.methods.map (·.name)).mergeSort fun first second => decide (first ≤ second)))

/-- The menu of all entities to display. -/
def libraryMenu (reflect : Reflector) (context : CommentContext) (family : String)
    (classes : SortedMap String) : Except DocError Menu := do
  let entities ← (catalogue family classes).mapM (Entity.summarize reflect context)
  return Menu.build context.resolve entities

end ClassDocs
