import EntitySchema.Json

/-!
# Writing JSON text

A value is written either on one line without spaces, or with one item or entry a line and two
spaces a level.
-/

namespace EntitySchema
namespace Json

/-- A code in four lower case hexadecimal digits. -/
def fourHexDigits (code : Nat) : List Char :=
  let digits := Nat.toDigits 16 code
  List.replicate (4 - digits.length) '0' ++ digits

/-- The form of a character inside a string. -/
def stringForm (character : Char) : List Char :=
  match character with
  | '"' => ['\\', '"']
  | '\\' => ['\\', '\\']
  | '\n' => ['\\', 'n']
  | '\r' => ['\\', 'r']
  | '\t' => ['\\', 't']
  | '\x08' => ['\\', 'b']
  | '\x0c' => ['\\', 'f']
  | _ =>
      if character.toNat < 0x20 then '\\' :: 'u' :: fourHexDigits character.toNat
      else [character]

/-- A text as a string of a document. -/
def stringText (text : String) : String :=
  String.ofList ('"' :: text.toList.flatMap stringForm ++ ['"'])

/-- A number of a document. -/
def Number.text : Number -> String
  | natural value => toString value
  | negative magnitude => "-" ++ toString magnitude
  | real value => value.text

mutual

/-- A value on one line. -/
def compact : Json -> String
  | .null => "null"
  | .bool true => "true"
  | .bool false => "false"
  | .number value => value.text
  | .string text => stringText text
  | .array items => "[" ++ compactItems items ++ "]"
  | .object entries => "\x7b" ++ compactEntries entries ++ "\x7d"
  | .unreadable _ => "null"

/-- Items on one line, with commas between them. -/
def compactItems : List Json -> String
  | [] => ""
  | [item] => item.compact
  | item :: rest => item.compact ++ "," ++ compactItems rest

/-- Entries on one line, with commas between them. -/
def compactEntries : List (String × Json) -> String
  | [] => ""
  | [(key, value)] => stringText key ++ ":" ++ value.compact
  | (key, value) :: rest =>
      stringText key ++ ":" ++ value.compact ++ "," ++ compactEntries rest

end

/-- The line end and the spaces in front of a line at a level. -/
def prettyBreak (level : Nat) : String :=
  "\n" ++ String.ofList (List.replicate (2 * level) ' ')

mutual

/-- A value with one item or entry a line, at a level. -/
def prettyAt (level : Nat) : Json -> String
  | .array [] => "[]"
  | .array items => "[" ++ prettyItems (level + 1) items ++ prettyBreak level ++ "]"
  | .object [] => "\x7b\x7d"
  | .object entries =>
      "\x7b" ++ prettyEntries (level + 1) entries ++ prettyBreak level ++ "\x7d"
  | value => value.compact

/-- Items, each on a line of its own. -/
def prettyItems (level : Nat) : List Json -> String
  | [] => ""
  | [item] => prettyBreak level ++ item.prettyAt level
  | item :: rest => prettyBreak level ++ item.prettyAt level ++ "," ++ prettyItems level rest

/-- Entries, each on a line of its own. -/
def prettyEntries (level : Nat) : List (String × Json) -> String
  | [] => ""
  | [(key, value)] => prettyBreak level ++ stringText key ++ ": " ++ value.prettyAt level
  | (key, value) :: rest =>
      prettyBreak level ++ stringText key ++ ": " ++ value.prettyAt level ++ "," ++
        prettyEntries level rest

end

/-- A value with one item or entry a line. -/
def pretty (value : Json) : String :=
  value.prettyAt 0

end Json
end EntitySchema
