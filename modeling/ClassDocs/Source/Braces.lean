namespace ClassDocs

/-- What a position inside a line belongs to. -/
inductive Lexical where
  | code
  /-- Inside a string literal that this quote ends. -/
  | quoted (quote : Char)
  | blockComment
  deriving DecidableEq, Repr

/-- The braces of a line that belong to code, and whether a block comment is open at its end. -/
structure LineBraces where
  opens : Nat
  closes : Nat
  inBlock : Bool
  deriving DecidableEq, Repr

/-- How much deeper the line leaves the nesting. -/
def LineBraces.net (braces : LineBraces) : Int :=
  (braces.opens : Int) - braces.closes

/-- Count the braces of code from a position on. Strings end with their line; a `#` or `//` hides
the rest of it; a block comment may stay open. -/
def countBraces : Lexical → List Char → LineBraces
  | .blockComment, [] => ⟨0, 0, true⟩
  | .code, [] => ⟨0, 0, false⟩
  | .quoted _, [] => ⟨0, 0, false⟩
  | .blockComment, '*' :: '/' :: rest => countBraces .code rest
  | .blockComment, _ :: rest => countBraces .blockComment rest
  | .quoted _, ['\\'] => ⟨0, 0, false⟩
  | .quoted quote, '\\' :: _ :: rest => countBraces (.quoted quote) rest
  | .quoted quote, c :: rest => countBraces (if c = quote then .code else .quoted quote) rest
  | .code, '/' :: '*' :: rest => countBraces .blockComment rest
  | .code, '/' :: '/' :: _ => ⟨0, 0, false⟩
  | .code, '#' :: _ => ⟨0, 0, false⟩
  | .code, '\x7b' :: rest =>
    let tail := countBraces .code rest
    { tail with opens := tail.opens + 1 }
  | .code, '\x7d' :: rest =>
    let tail := countBraces .code rest
    { tail with closes := tail.closes + 1 }
  | .code, c :: rest =>
    countBraces (if c = '"' || c.toNat = 39 then .quoted c else .code) rest

/-- Count the braces of a line, given whether a block comment is open at its start. -/
def lineBraces (inBlock : Bool) (line : List Char) : LineBraces :=
  countBraces (if inBlock then .blockComment else .code) line

end ClassDocs
