/-!
# Lines of a text

A line ends at a line feed, and a carriage return right before that line feed belongs to the
line end.  A carriage return anywhere else is an ordinary character.  A text that ends with a
line end has no empty line after it.
-/

namespace EntitySchema
namespace Text

/-- The characters of a finished line, from its reversed characters before the line feed. -/
def finishedLine : List Char -> List Char
  | '\r' :: earlier => earlier.reverse
  | reversed => reversed.reverse

/-- The lines of a text that continues a line whose reversed characters are already known. -/
def linesFrom (reversed : List Char) : List Char -> List (List Char)
  | [] => if reversed.isEmpty then [] else [reversed.reverse]
  | character :: rest =>
      if character = '\n' then
        finishedLine reversed :: linesFrom [] rest
      else
        linesFrom (character :: reversed) rest

/-- The lines of a text. -/
def lines (text : List Char) : List (List Char) :=
  linesFrom [] text

end Text
end EntitySchema
