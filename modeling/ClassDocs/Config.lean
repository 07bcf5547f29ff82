import ClassDocs.Comment
import ClassDocs.Library.Layout
import ClassDocs.Markup.Html

namespace ClassDocs

/-- The settings of a documentation build. -/
structure Config where
  /-- The directory of the class files. -/
  root : String := "classes"
  layout : Layout := {}
  /-- The prefix of entities that only extend another one. -/
  family : String := "kohana"
  /-- The route under which pages are linked. -/
  route : String := "/guide/api"
  /-- Whether prose is kept as written. -/
  plain : Bool := false
  deriving DecidableEq, Repr

/-- How comments are read under the settings. -/
def Config.context (config : Config) : CommentContext where
  resolve := (Route.ofString config.route).resolve
  format := if config.plain then id else formatMarkup
  rules := TagRules.standard

end ClassDocs
