import EntitySchema.Text.CodePointRanges

/-!
# White space

The characters that trimming removes are those with the Unicode property `White_Space`.  The
zero width space, the byte order mark and the four information separators are not among them.
-/

namespace EntitySchema
namespace Text

/-- The code points with the property `White_Space`. -/
def whiteSpaceRanges : CodePointRanges :=
  [(0x9, 0xD), (0x20, 0x20), (0x85, 0x85), (0xA0, 0xA0), (0x1680, 0x1680), (0x2000, 0x200A),
   (0x2028, 0x2029), (0x202F, 0x202F), (0x205F, 0x205F), (0x3000, 0x3000)]

/-- Whether a character is white space. -/
def isWhiteSpace (character : Char) : Bool :=
  whiteSpaceRanges.contains character

/-- Remove the white space at the start of a text. -/
def trimStart (text : List Char) : List Char :=
  text.dropWhile isWhiteSpace

/-- Remove the white space at the end of a text. -/
def trimEnd (text : List Char) : List Char :=
  (text.reverse.dropWhile isWhiteSpace).reverse

/-- Remove the white space at both ends of a text. -/
def trim (text : List Char) : List Char :=
  trimEnd (trimStart text)

end Text
end EntitySchema
