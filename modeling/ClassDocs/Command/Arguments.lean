import ClassDocs.Config

namespace ClassDocs

/-- What to document, and how. -/
structure Arguments where
  config : Config
  output : Option String
  format : String
  /-- The one class to document. -/
  className : Option String
  methods : Bool
  deriving DecidableEq, Repr

/-- What the command line asks for. -/
inductive Request where
  /-- To be told how the program is used. -/
  | help
  | document (arguments : Arguments)
  deriving DecidableEq, Repr

namespace Arguments

/-- A setting that takes a value. -/
inductive Setting where
  | output
  | format
  | family
  | route
  | extension
  | segment
  | className
  deriving DecidableEq, Repr

/-- A setting that takes no value. -/
inductive Switch where
  | plain
  | methods
  | verbose
  | help
  deriving DecidableEq, Repr

/-- One argument, understood. -/
inductive Item where
  | root (path : String)
  | setting (setting : Setting) (value : String)
  | switch (switch : Switch)
  deriving DecidableEq, Repr

/-- What a long name stands for. -/
def longName? (name : String) : Option (Setting ⊕ Switch) :=
  if name = "output" then some (.inl .output)
  else if name = "format" then some (.inl .format)
  else if name = "prefix" then some (.inl .family)
  else if name = "route" then some (.inl .route)
  else if name = "extension" then some (.inl .extension)
  else if name = "segment" then some (.inl .segment)
  else if name = "class" then some (.inl .className)
  else if name = "plain" then some (.inr .plain)
  else if name = "methods" then some (.inr .methods)
  else if name = "verbose" then some (.inr .verbose)
  else if name = "help" then some (.inr .help)
  else none

/-- What a letter stands for. -/
def shortName? (letter : Char) : Option (Setting ⊕ Switch) :=
  if letter = 'o' then some (.inl .output)
  else if letter = 'f' then some (.inl .format)
  else if letter = 'v' then some (.inr .verbose)
  else if letter = 'h' then some (.inr .help)
  else none

/-- Whether an argument can be the value of the setting in front of it. -/
def isValue (argument : String) : Bool :=
  match argument.toList with
  | '-' :: _ :: _ => false
  | _ => true

/-- A long name with the value after its equals sign, if it has one. -/
def splitLong (text : List Char) : String × Option String :=
  let name := text.takeWhile (· != '=')
  match text.drop name.length with
  | _ :: value => (String.ofList name, some (String.ofList value))
  | [] => (String.ofList name, none)

/-- What letters after a dash say. The last of them may be a setting without its value. Letters behind the
one that asks for help are not read. -/
def readLetters : List Char → Option (List Item × Option Setting)
  | [] => some ([], none)
  | letter :: rest =>
    match shortName? letter with
    | some (.inr .help) => some ([.switch .help], none)
    | some (.inr switch) =>
      (readLetters rest).map fun (items, waiting) => (.switch switch :: items, waiting)
    | some (.inl setting) =>
      match rest with
      | [] => some ([], some setting)
      | '=' :: value => some ([.setting setting (String.ofList value)], none)
      | value => some ([.setting setting (String.ofList value)], none)
    | none => none

/-- What one argument says that is no value: items, and perhaps a setting whose value comes next. -/
def readArgument (argument : String) : Option (List Item × Option Setting) :=
  match argument.toList with
  | '-' :: '-' :: long =>
    match splitLong long with
    | (name, value) =>
      match longName? name, value with
      | some (.inl setting), some value => some ([.setting setting value], none)
      | some (.inl setting), none => some ([], some setting)
      | some (.inr switch), none => some ([.switch switch], none)
      | _, _ => none
  | '-' :: letter :: letters => readLetters (letter :: letters)
  | _ => some ([.root argument], none)

/-- Read arguments one after the other, up to one that asks for help. After two dashes all of them are
paths. -/
def readAll : List String → Option (List Item)
  | [] => some []
  | argument :: rest =>
    if argument = "--" then some (rest.map Item.root)
    else match readArgument argument with
      | none => none
      | some (items, none) =>
        if items.contains (.switch .help) then some items else (readAll rest).map (items ++ ·)
      | some (items, some setting) =>
        match rest with
        | [] => none
        | value :: rest =>
          if isValue value then
            (readAll rest).map fun more => items ++ .setting setting value :: more
          else none

/-- The paths that were given. -/
def rootsOf (items : List Item) : List String :=
  items.filterMap fun
    | .root path => some path
    | _ => none

/-- The values that a setting was given. -/
def valuesOf (items : List Item) (setting : Setting) : List String :=
  items.filterMap fun
    | .setting other value => if other = setting then some value else none
    | _ => none

/-- The only element of a list with at most one. -/
def atMostOne {α : Type} : List α → Option (Option α)
  | [] => some none
  | [only] => some (some only)
  | _ => none

/-- A switch that was given at most once. -/
def switchOnce? (items : List Item) (switch : Switch) : Option Bool :=
  match items.count (.switch switch) with
  | 0 => some false
  | 1 => some true
  | _ => none

/-- What the items say together. Only the verbosity may be given more than once, and a path may not be
empty. -/
def ofItems? (items : List Item) : Option Arguments := do
  let root ← atMostOne (rootsOf items)
  let output ← atMostOne (valuesOf items .output)
  let format ← atMostOne (valuesOf items .format)
  let family ← atMostOne (valuesOf items .family)
  let route ← atMostOne (valuesOf items .route)
  let extension ← atMostOne (valuesOf items .extension)
  let segment ← atMostOne (valuesOf items .segment)
  let className ← atMostOne (valuesOf items .className)
  let plain ← switchOnce? items .plain
  let methods ← switchOnce? items .methods
  if root = some "" || output = some "" then none
  let standard : Config := {}
  return {
    config := {
      root := root.getD standard.root
      layout := {
        segment := segment.getD standard.layout.segment
        extension := extension.getD standard.layout.extension }
      family := family.getD standard.family
      route := route.getD standard.route
      plain := plain }
    output := output
    format := format.getD "markdown"
    className := className
    methods := methods }

/-- Understand the command line. One class cannot be asked for together with the methods of all, but a
question for help is answered nevertheless. -/
def parse? (line : List String) : Option Request := do
  let items ← readAll line
  let arguments ← ofItems? items
  if items.contains (.switch .help) then return .help
  if arguments.methods && arguments.className.isSome then none
  return .document arguments

/-- How the program is used. -/
def usage : String :=
  "\n".intercalate [
    "Generate API documentation from doc-commented class files",
    "",
    "Usage: kodoc [OPTIONS] [ROOT]",
    "",
    "Arguments:",
    "  [ROOT]  Directory containing the class files [default: classes]",
    "",
    "Options:",
    "  -o, --output <OUTPUT>        Output directory. If omitted, writes to stdout",
    "  -f, --format <FORMAT>        Output format: markdown (default), json [default: markdown]",
    "      --prefix <PREFIX>        Prefix of extension classes hidden from the menu [default: kohana]",
    "      --route <ROUTE>          Route that entity links are built under [default: /guide/api]",
    "      --extension <EXTENSION>  Class file extension [default: php]",
    "      --segment <SEGMENT>      Root segment stripped from class names [default: classes]",
    "      --plain                  Keep comment bodies as written instead of rendering Markdown",
    "      --class <CLASS>          Document a single class instead of building the menu",
    "      --methods                List the sorted methods of every class",
    "  -v, --verbose...             Increase log verbosity (-v debug, -vv trace)",
    "  -h, --help                   Print help",
    ""]

end Arguments

end ClassDocs
