import ClassDocs.Files.Search
import ClassDocs.Library.Layout

namespace ClassDocs

/-- A file or a directory of class files. Its name is the whole way to it, from the segment on. -/
inductive TreeEntry where
  | file (name path : String)
  | directory (name : String) (entries : List TreeEntry)
  deriving Repr

/-- Class files, nested the way their directories are. -/
abbrev SourceTree := List TreeEntry

namespace SourceTree

mutual

/-- The files of one entry, in order. -/
def leavesOf : TreeEntry → List (String × String)
  | .file name path => [(name, path)]
  | .directory _ entries => leaves entries

/-- The files of a tree, in order, each with its entry name and its path. -/
def leaves : SourceTree → List (String × String)
  | [] => []
  | entry :: rest => leavesOf entry ++ leaves rest

end

/-- Change the first directory of a name, or add one at the end and change that. -/
def changeDirectory (name : String) (change : SourceTree → SourceTree) : SourceTree → SourceTree
  | [] => [.directory name (change [])]
  | .directory other entries :: rest =>
    if other = name then .directory other (change entries) :: rest
    else .directory other entries :: changeDirectory name change rest
  | .file other path :: rest => .file other path :: changeDirectory name change rest

/-- Add a file under the names that lead to it. -/
def insert (above : String) : List String → String → SourceTree → SourceTree
  | [], _, tree => tree
  | [name], path, tree => tree ++ [.file (above ++ "/" ++ name) path]
  | name :: next :: rest, path, tree =>
    changeDirectory (above ++ "/" ++ name) (insert (above ++ "/" ++ name) (next :: rest) path) tree

/-- The pattern of all class files below a directory. -/
def pattern (layout : Layout) (root : String) : List Char :=
  Pattern.escape root.toList ++ "/**/*.".toList ++ layout.extension.toList

/-- Add a found file, unless its path does not begin with the root as it is written. -/
def addFound (layout : Layout) (root : String) (tree : SourceTree) (path : String) : SourceTree :=
  match Path.relative? (Path.parts root) (Path.parts path) with
  | some steps => insert layout.segment (steps.map PathPart.text) path tree
  | none => tree

/-- All class files below a directory. -/
def scan (files : FileSystem) (layout : Layout) (root : String) : Except DocError SourceTree :=
  match files.matching (pattern layout root) with
  | .ok paths => .ok (paths.foldl (addFound layout root) [])
  | .error error => .error (.pattern error)

end SourceTree

end ClassDocs
