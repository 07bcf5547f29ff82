import ClassDocs.Files.System
import ClassDocs.Source.Scan
import ClassDocs.Source.Slice
import ClassDocs.SortedMap
import ClassDocs.Text.Lowercase

namespace ClassDocs

namespace FileSystem

/-- The text of a file, or the error that says which file could not be read. -/
def readSource (files : FileSystem) (path : String) : Except DocError String :=
  match files.read path with
  | .ok content => .ok content
  | .error error => .error (.unreadable path error)

/-- The lines `first` to `last` of a file, without the indentation of the first of them. -/
def extract (files : FileSystem) (path : String) (first last : Nat) : Except DocError String := do
  if path.isEmpty then throw .noFile
  return slice (← files.readSource path) first last

/-- The class that a file declares, under the key of its index entry. -/
def outlineAt (files : FileSystem) (key path : String) : Except DocError ClassOutline := do
  scan key path (← files.readSource path)

end FileSystem

/-- The files of classes that have not been visited, by key. -/
abbrev Unvisited := List (String × String)

/-- Leave a class out of the search from now on. -/
def Unvisited.without (classes : Unvisited) (key : String) : Unvisited :=
  classes.filter fun entry => entry.1 != key

theorem Unvisited.length_without {classes : Unvisited} {key : String} {entry : String × String}
    (found : classes.find? (fun entry => entry.1 == key) = some entry) :
    (classes.without key).length < classes.length := by
  have member := List.mem_of_find?_eq_some found
  have same := List.find?_some found
  exact List.length_filter_lt_length_iff_exists.mpr ⟨entry, member, by simp_all⟩

/-- The ancestors of a class, nearest first. The line ends at a class without a parent, with a parent
outside the index, or with a parent that was visited before. -/
def ancestors (files : FileSystem) (classes : Unvisited) (outline : ClassOutline) :
    Except DocError (List ClassOutline) :=
  match outline.parent with
  | none => .ok []
  | some parent =>
    match _ : classes.find? (fun entry => entry.1 == lowercase parent) with
    | none => .ok []
    | some entry => do
      let base ← files.outlineAt (lowercase parent) entry.2
      let above ← ancestors files (classes.without (lowercase parent)) base
      return base :: above
termination_by classes.length
decreasing_by apply Unvisited.length_without; assumption

/-- The methods of a line of classes. A method hides those of the same name, up to case, in all
classes after its own. -/
def mergeMethods : List ClassOutline → List MethodOutline
  | [] => []
  | outline :: above =>
    let declared := outline.methods.map fun method => lowercase method.name
    outline.methods ++
      (mergeMethods above).filter fun method => !declared.contains (lowercase method.name)

/-- Find a class by its name in any case, with the methods that it inherits. -/
def reflect (files : FileSystem) (index : SortedMap String) : Reflector := fun name => do
  let key := lowercase name
  match index.get? key with
  | none => throw (.unknownEntity name)
  | some path =>
    let outline ← files.outlineAt key path
    let above ← ancestors files (Unvisited.without index.entries key) outline
    return { outline with methods := mergeMethods (outline :: above) }

end ClassDocs
