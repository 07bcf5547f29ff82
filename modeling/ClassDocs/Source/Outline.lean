import ClassDocs.Error

namespace ClassDocs

/-- A method as a class file declares it. -/
structure MethodOutline where
  name : String
  /-- The file that declares it, which for an inherited method is not the file of the class. -/
  path : String
  /-- The doc block in front of it, delimiters included. -/
  comment : Option String
  /-- The first and the last line of declaration and body, counted from one. -/
  first : Nat
  last : Nat
  deriving DecidableEq, Repr

/-- A class as its file declares it. -/
structure ClassOutline where
  name : String
  path : String
  /-- The doc block in front of it, delimiters included. -/
  comment : Option String
  /-- The parent, as written. -/
  parent : Option String
  /-- The methods in the order of their declarations, then inherited ones. -/
  methods : List MethodOutline
  deriving DecidableEq, Repr

/-- How a class is found by name. -/
abbrev Reflector := String → Except DocError ClassOutline

end ClassDocs
