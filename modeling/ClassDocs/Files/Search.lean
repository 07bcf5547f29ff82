import ClassDocs.Files.Pattern
import ClassDocs.Files.System

namespace ClassDocs

/-- One component of a search pattern. -/
inductive SearchStep where
  /-- A name without wildcards, which is looked up and not searched for. -/
  | exact (name : String)
  /-- Any directories, possibly none. -/
  | anyDepth
  | like (tokens : List PatternToken)
  deriving DecidableEq, Repr

namespace SearchStep

/-- The characters of a pattern without wildcards. -/
def plainText? : List PatternToken → Option (List Char)
  | [] => some []
  | .char c :: rest => (plainText? rest).map (c :: ·)
  | _ :: _ => none

/-- The step for the pattern of one component. -/
def ofTokens (tokens : List PatternToken) : SearchStep :=
  match plainText? tokens with
  | some name => .exact (String.ofList name)
  | none => if tokens.contains .anyDepth then .anyDepth else .like tokens

/-- Whether a file name fits a step. -/
def fits : SearchStep → String → Bool
  | .exact expected, name => expected == name
  | .anyDepth, _ => true
  | .like tokens, name => Pattern.covers tokens name.toList

/-- Steps that stand for any directories count once when they follow each other. -/
def collapse : List SearchStep → List SearchStep
  | .anyDepth :: .anyDepth :: rest => collapse (.anyDepth :: rest)
  | step :: rest => step :: collapse rest
  | [] => []

/-- The special names that a pattern beginning with a dot can match. -/
def specialNames : SearchStep → List String
  | .like (.char '.' :: rest) =>
    [".", ".."].filter fun name => Pattern.covers (.char '.' :: rest) name.toList
  | _ => []

end SearchStep

namespace FileSystem

/-- The path of an entry below a directory; the working directory adds nothing to it. -/
def pathBelow (directory : String) (names : List String) : String :=
  let tail := "/".intercalate names
  if Path.parts directory = [.here] then tail else Path.join directory tail

/-- The names that lead from a directory to all entries below it, none if it is no directory. -/
def contents (files : FileSystem) (directory : String) : List (List String) :=
  match files.find directory with
  | .ok (place, .directory) => (files.below place).map (·.1)
  | _ => []

/-- Follow the steps of a search from a path. -/
def search (files : FileSystem) : List SearchStep → String → List String
  | [], path => [path]
  | .exact name :: rest, path =>
    let next := if Path.parts path = [.here] then name else Path.join path name
    let passable :=
      if name = "." ∨ name = ".." then files.isDirectory path else files.isPresent next
    if passable then files.search rest next else []
  | [.anyDepth], _ => []
  | .anyDepth :: step :: rest, path =>
    (files.contents path).flatMap fun names =>
      if step.fits (names.getLastD "") then files.search rest (pathBelow path names) else []
  | .like tokens :: rest, path =>
    let listed := (files.contents path).flatMap fun names =>
      match names with
      | [name] =>
        if Pattern.covers tokens name.toList then files.search rest (pathBelow path names) else []
      | _ => []
    let special :=
      if files.isDirectory path then
        (SearchStep.like tokens).specialNames.flatMap fun name =>
          files.search rest (Path.join path name)
      else []
    listed ++ special

/-- The components of a pattern; a slash at its end does not add one. -/
def patternComponents (pattern : List Char) : List (List Char) :=
  match (splitAtChar '/' pattern).reverse with
  | [] :: components => components.reverse
  | components => components.reverse

/-- Where the search for a pattern begins, and what is left of the pattern from there. -/
def searchStart : List Char → String × List Char
  | '/' :: rest => ("/", rest)
  | pattern => (".", pattern)

/-- The files that match a pattern, in ascending order. A pattern that ends in a slash asks for
directories, so no file matches it. -/
def matching (files : FileSystem) (pattern : List Char) : Except PatternError (List String) := do
  let _ ← Pattern.parse pattern
  let (path, rest) := searchStart pattern
  let components ← (patternComponents rest).mapM Pattern.parse
  if pattern.getLast? == some '/' then return []
  let found := files.search (SearchStep.collapse (components.map SearchStep.ofTokens)) path
  return (found.filter files.isFile).mergeSort Path.le

end FileSystem

end ClassDocs
