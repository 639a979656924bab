import EntitySchema.Text.CaseMapping.Context
import EntitySchema.Text.CaseMapping.Shifts

/-!
# Upper and lower case forms of a text

The forms are the full ones: a letter may become several characters.  A capital sigma becomes a
final sigma at the end of a word and an ordinary small sigma elsewhere.
-/

namespace EntitySchema
namespace Text

/-- Look a code point up among expansions first and shifts second; a code point in neither table
stays as it is. -/
def otherCase
    (expansions : List (Nat × List Nat))
    (shifts : List CaseShift)
    (character : Char) : List Char :=
  match expansions.lookup character.toNat with
  | some codes => codes.map Char.ofNat
  | none =>
      match shifts.find? fun shift => shift.covers character.toNat with
      | some shift => [Char.ofNat (shift.apply character.toNat)]
      | none => [character]

/-- The upper case form of one character. -/
def upperForm (character : Char) : List Char :=
  if character.toNat < 0x80 then
    [character.toUpper]
  else
    otherCase upperExpansions upperShifts character

/-- The lower case form of one character, wherever it stands. -/
def lowerForm (character : Char) : List Char :=
  if character.toNat < 0x80 then
    [character.toLower]
  else
    otherCase lowerExpansions lowerShifts character

/-- Whether the first character that is not skipped has case. -/
def startsCased (text : List Char) : Bool :=
  match text.dropWhile isCaseIgnorable with
  | [] => false
  | character :: _ => isCased character

/-- The small sigma that stands between the given reversed text and following text. -/
def smallSigma (reversedBefore after : List Char) : Char :=
  if startsCased reversedBefore && !startsCased after then 'ς' else 'σ'

/-- The upper case form of a text. -/
def uppercase (text : List Char) : List Char :=
  text.flatMap upperForm

/-- The lower case form of a text that follows the given reversed text. -/
def lowercaseFrom (reversedBefore : List Char) : List Char -> List Char
  | [] => []
  | character :: rest =>
      if character = 'Σ' then
        smallSigma reversedBefore rest :: lowercaseFrom (character :: reversedBefore) rest
      else
        lowerForm character ++ lowercaseFrom (character :: reversedBefore) rest

/-- The lower case form of a text. -/
def lowercase (text : List Char) : List Char :=
  lowercaseFrom [] text

end Text
end EntitySchema
