namespace ClassDocs

/-- Why the file system refused an operation. -/
inductive FileError where
  | noSuchFile
  | fileExists
  | notADirectory
  | isADirectory
  /-- The bytes of the file are no text. -/
  | notText
  deriving DecidableEq, Repr

/-- The wording of a refusal. -/
def FileError.message : FileError → String
  | .noSuchFile => "No such file or directory (os error 2)"
  | .fileExists => "File exists (os error 17)"
  | .notADirectory => "Not a directory (os error 20)"
  | .isADirectory => "Is a directory (os error 21)"
  | .notText => "stream did not contain valid UTF-8"

/-- What is wrong with a file name pattern. -/
inductive PatternFault where
  /-- A bracket opens a character class that is never closed. -/
  | openClass
  /-- Three or more stars stand together. -/
  | tooManyStars
  /-- Two stars share their path component with something else. -/
  | starsNotAlone
  deriving DecidableEq, Repr

/-- A faulty pattern, with the position of the fault counted in characters from zero. -/
structure PatternError where
  position : Nat
  fault : PatternFault
  deriving DecidableEq, Repr

/-- The wording of a fault. -/
def PatternFault.message : PatternFault → String
  | .openClass => "invalid range pattern"
  | .tooManyStars => "wildcards are either regular `*` or recursive `**`"
  | .starsNotAlone => "recursive wildcards must form a single path component"

/-- The wording of a pattern error. -/
def PatternError.message (error : PatternError) : String :=
  "Pattern syntax error near position " ++ toString error.position ++ ": " ++ error.fault.message

/-- Why documentation could not be made. -/
inductive DocError where
  /-- The file of an entity declares no class. -/
  | emptyEntity (name path : String)
  /-- A comment block lacks its opening or closing line. -/
  | malformedComment (lines : Nat)
  /-- A source slice was asked for without a file. -/
  | noFile
  | unknownEntity (name : String)
  | unknownFormat (format : String)
  | pattern (error : PatternError)
  | unreadable (path : String) (error : FileError)
  deriving DecidableEq, Repr

/-- The wording of an error. -/
def DocError.message : DocError → String
  | .emptyEntity name path => "entity `" ++ name ++ "` has no class body in " ++ path
  | .malformedComment lines =>
    "malformed comment: expected at least 2 lines, found " ++ toString lines
  | .noFile => "no source file given"
  | .unknownEntity name => "unknown entity `" ++ name ++ "`"
  | .unknownFormat format => "unknown format: " ++ format ++ ". Use markdown or json"
  | .pattern error => "invalid glob pattern: " ++ error.message
  | .unreadable path error => "failed to read " ++ path ++ ": " ++ error.message

/-- The error and what caused it, outermost first. -/
def DocError.chain (error : DocError) : List String :=
  match error with
  | .pattern cause => [error.message, cause.message]
  | .unreadable _ cause => [error.message, cause.message]
  | _ => [error.message]

end ClassDocs
