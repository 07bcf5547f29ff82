namespace ClassDocs

/-- The tags of a comment. Names stand in the order in which they were first seen, each with its
values in the order in which they came. -/
structure TagMap where
  entries : List (String × List String)
  deriving DecidableEq, Repr

namespace TagMap

/-- No tags. -/
def empty : TagMap := ⟨[]⟩

instance : Inhabited TagMap := ⟨empty⟩

/-- Add a value to the first entry of its name, or a new entry at the end. -/
def pushEntry (name value : String) :
    List (String × List String) → List (String × List String)
  | [] => [(name, [value])]
  | (n, values) :: rest =>
    if n = name then (n, values ++ [value]) :: rest
    else (n, values) :: pushEntry name value rest

/-- Add one value under a name. -/
def push (tags : TagMap) (name value : String) : TagMap :=
  ⟨pushEntry name value tags.entries⟩

/-- The tags of a sequence of pushes. -/
def ofPushes (pushes : List (String × String)) : TagMap :=
  pushes.foldl (fun tags entry => tags.push entry.1 entry.2) empty

/-- The values of a name. -/
def get? (tags : TagMap) (name : String) : Option (List String) :=
  (tags.entries.find? fun entry => entry.1 == name).map (·.2)

/-- Whether a name has values. -/
def contains (tags : TagMap) (name : String) : Bool :=
  (tags.get? name).isSome

/-- The number of different names. -/
def size (tags : TagMap) : Nat :=
  tags.entries.length

/-- Whether there are no tags. -/
def isEmpty (tags : TagMap) : Bool :=
  tags.entries.isEmpty

end TagMap

end ClassDocs
