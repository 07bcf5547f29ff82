namespace ClassDocs

/-- The four characters that would end an attribute or an element are written as entities. -/
def escapeChar : Char → List Char
  | '&' => "&amp;".toList
  | '<' => "&lt;".toList
  | '>' => "&gt;".toList
  | '"' => "&quot;".toList
  | c => [c]

/-- A text in a form that can stand inside an attribute or an element. -/
def escapeMarkup (text : String) : String :=
  String.ofList (text.toList.flatMap escapeChar)

/-- A hyperlink to a documentation page. -/
structure Link where
  text : String
  target : String
  deriving DecidableEq, Repr

/-- The link as an anchor element. -/
def Link.anchor (link : Link) : String :=
  "<a href=\"" ++ escapeMarkup link.target ++ "\">" ++ escapeMarkup link.text ++ "</a>"

/-- Where the page of an entity is, given an optional member on that page. -/
abbrev Resolver := String → Option String → String

/-- The route under which pages are found, without slashes at its end. -/
structure Route where
  base : String
  deriving DecidableEq, Repr

/-- A route as the user writes it; slashes at its end are dropped. -/
def Route.ofString (base : String) : Route :=
  ⟨String.ofList (base.toList.reverse.dropWhile (· == '/')).reverse⟩

/-- The address of an entity's page, or of a member on it. -/
def Route.resolve (route : Route) : Resolver
  | entity, none => route.base ++ "/" ++ entity
  | entity, some member => route.base ++ "/" ++ entity ++ "#" ++ member

end ClassDocs
