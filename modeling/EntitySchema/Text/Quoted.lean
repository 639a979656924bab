import EntitySchema.Text.Printable

/-!
# Texts quoted in messages

A message shows a text between double quotes.  Characters that would not show as themselves are
written with a backslash, by a short name where there is one and by their hexadecimal code
otherwise.
-/

namespace EntitySchema
namespace Text

/-- The code of a character between braces, in lower case hexadecimal digits. -/
def codeEscape (character : Char) : List Char :=
  "\\u\x7b".toList ++ Nat.toDigits 16 character.toNat ++ ['\x7d']

/-- The form of one character inside a quoted text. -/
def quotedForm (character : Char) : List Char :=
  match character with
  | '"' => ['\\', '"']
  | '\\' => ['\\', '\\']
  | '\n' => ['\\', 'n']
  | '\r' => ['\\', 'r']
  | '\t' => ['\\', 't']
  | _ =>
      if character.toNat = 0 then ['\\', '0']
      else if isGraphemeExtend character || !isPrintable character then codeEscape character
      else [character]

/-- A text as a message shows it. -/
def quoted (text : String) : String :=
  String.ofList ('"' :: text.toList.flatMap quotedForm ++ ['"'])

end Text
end EntitySchema
