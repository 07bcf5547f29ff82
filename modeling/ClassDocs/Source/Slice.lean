import ClassDocs.Text.Blank
import ClassDocs.Text.Lines

namespace ClassDocs

/-- The lines `first` to `last`, counted from one. -/
def lineRange (text : List Char) (first last : Nat) : List (List Char) :=
  ((lines text).drop (first - 1)).take (last + 1 - max first 1)

/-- The lines `first` to `last` of a text, with the indentation of the first of them cut from all.
As many characters are cut from every line, whatever they are; a range outside the text is empty. -/
def slice (text : String) (first last : Nat) : String :=
  let range := lineRange text.toList first last
  let width := (range.headD []).takeWhile isBlank |>.length
  String.ofList (joinLines (range.map (List.drop width)))

end ClassDocs
