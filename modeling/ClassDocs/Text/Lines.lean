namespace ClassDocs

/-- The lines of a text. A line ends at a line feed, which may have a carriage return in front of it;
a text that ends in a line feed has no empty line after it. -/
def lines : List Char → List (List Char)
  | [] => []
  | '\r' :: '\n' :: rest => [] :: lines rest
  | '\n' :: rest => [] :: lines rest
  | c :: rest =>
    match lines rest with
    | [] => [[c]]
    | line :: more => (c :: line) :: more

/-- The pieces of a text between the occurrences of a separator; there is one more of them than there
are separators. -/
def splitAtChar (separator : Char) : List Char → List (List Char)
  | [] => [[]]
  | c :: rest =>
    if c = separator then [] :: splitAtChar separator rest
    else match splitAtChar separator rest with
      | [] => [[c]]
      | piece :: more => (c :: piece) :: more

/-- Put lines back together with a line feed between neighbours. -/
def joinLines : List (List Char) → List Char
  | [] => []
  | [line] => line
  | line :: more => line ++ '\n' :: joinLines more

/-- Write every carriage return, with or without a line feed after it, as one line feed. -/
def unifyBreaks : List Char → List Char
  | [] => []
  | '\r' :: '\n' :: rest => '\n' :: unifyBreaks rest
  | '\r' :: rest => '\n' :: unifyBreaks rest
  | c :: rest => c :: unifyBreaks rest

/-- What follows `start` in a text that begins with it. -/
def after? : List Char → List Char → Option (List Char)
  | [], text => some text
  | _ :: _, [] => none
  | s :: start, c :: text => if s = c then after? start text else none

/-- Whether `part` occurs in a text. -/
def occursIn (part : List Char) : List Char → Bool
  | [] => part.isEmpty
  | c :: rest => part.isPrefixOf (c :: rest) || occursIn part rest

theorem length_of_after? {start text rest : List Char} (found : after? start text = some rest) :
    text.length = start.length + rest.length := by
  induction start generalizing text with
  | nil => simp_all [after?]
  | cons s start ih =>
    cases text with
    | nil => simp [after?] at found
    | cons c text =>
      simp only [after?] at found
      split at found
      · simp only [List.length_cons, ih found]; omega
      · simp at found

end ClassDocs
