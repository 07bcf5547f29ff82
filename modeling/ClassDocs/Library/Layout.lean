import ClassDocs.Text.Lines
import ClassDocs.Text.Lowercase

namespace ClassDocs

/-- Where class files live and how their names are spelled. -/
structure Layout where
  /-- The directory name in front of every entry name. -/
  segment : String := "classes"
  /-- The file extension, without its dot. -/
  extension : String := "php"
  deriving DecidableEq, Repr

/-- A text without `start` in front of it, or the text itself if it does not begin so. -/
def dropStart (start text : List Char) : List Char :=
  (after? start text).getD text

/-- A text without `ending` behind it, or the text itself if it does not end so. -/
def dropEnding (ending text : List Char) : List Char :=
  (dropStart ending.reverse text.reverse).reverse

/-- The entity that a file defines: its entry name without segment and extension, with an underscore
for every separator, in lower case. -/
def Layout.entityName (layout : Layout) (entry : String) : String :=
  let inside := dropStart (layout.segment ++ "/").toList entry.toList
  let stem := dropEnding ("." ++ layout.extension).toList inside
  lowercase (String.ofList (stem.map fun c => if c == '/' || c == '\\' then '_' else c))

end ClassDocs
