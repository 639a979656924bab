/-!
# Characters of YAML text

The classes of characters that reading and writing YAML text depend on.
-/

namespace EntitySchema
namespace Yaml

/-- Whether a character ends a line. -/
def isBreak (character : Char) : Bool :=
  character = '\r' || character = '\n' || character = '\u0085' || character = '\u2028' ||
    character = '\u2029'

/-- Whether a character is a space or a tab. -/
def isBlank (character : Char) : Bool :=
  character = ' ' || character = '\t'

/-- Whether a character separates tokens. -/
def isSpacing (character : Char) : Bool :=
  isBlank character || isBreak character

/-- Whether a text is at its end or goes on with a separator. -/
def atSpacing : List Char -> Bool
  | [] => true
  | character :: _ => isSpacing character

/-- Whether a character may occur in names of anchors, tag handles and directives. -/
def isWordCharacter (character : Char) : Bool :=
  character.isAlphanum || character = '_' || character = '-'

/-- Whether a character opens, closes or separates flow collections. -/
def isFlowIndicator (character : Char) : Bool :=
  character = ',' || character = '[' || character = ']' || character = '\x7b' ||
    character = '\x7d'

/-- Whether a character may occur in a document at all. -/
def isAllowed (character : Char) : Bool :=
  let code := character.toNat
  code = 0x09 || code = 0x0A || code = 0x0D || (0x20 <= code && code <= 0x7E) || code = 0x85 ||
    (0xA0 <= code && code <= 0xFFFD) || 0x10000 <= code

/-- Whether a character is written as itself. -/
def isVisible (character : Char) : Bool :=
  let code := character.toNat
  code = 0x0A || (0x20 <= code && code <= 0x7E) ||
    (0xA0 <= code && code <= 0xFFFD && code != 0xFEFF) || 0x10000 <= code

end Yaml
end EntitySchema
