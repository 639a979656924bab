import EntitySchema.Yaml.Scalar

/-!
# Tokens of YAML text

Tokens make the structure of a document explicit: collections that the text shows only by
indentation get tokens for their start and end, and keys get a token in front.
-/

namespace EntitySchema
namespace Yaml

/-- A token of YAML text. -/
inductive Token
  /-- A directive for the version of the format. -/
  | version (major minor : Nat)
  /-- A directive that gives a tag handle its meaning. -/
  | tagHandle (handle meaning : String)
  | documentStart
  | documentEnd
  | blockSequenceStart
  | blockMappingStart
  | blockEnd
  | flowSequenceStart
  | flowSequenceEnd
  | flowMappingStart
  | flowMappingEnd
  | blockEntry
  | flowEntry
  | key
  | value
  | alias (name : String)
  | anchor (name : String)
  | tag (handle suffix : String)
  | scalar (style : ScalarStyle) (text : String)
  | streamEnd
  deriving DecidableEq, Repr

/-- An entry of the list of tokens while a text is being read.  Whether a scalar is a key is known
only later, so a place is kept in front of it. -/
inductive TokenEntry
  | token (token : Token)
  | place (number : Nat)

/-- What a kept place turned out to be. -/
structure ResolvedPlace where
  /-- The number of the place. -/
  number : Nat
  /-- Whether the key at the place is the first of a block mapping. -/
  startsMapping : Bool

/-- The tokens of a list of entries: a place that was resolved becomes the tokens of a key, and any
other place becomes nothing. -/
def tokensOfEntries (resolved : List ResolvedPlace) (entries : List TokenEntry) : List Token :=
  entries.flatMap fun
    | .token token => [token]
    | .place number =>
        match resolved.find? fun place => place.number == number with
        | none => []
        | some place => if place.startsMapping then [.blockMappingStart, .key] else [.key]

end Yaml
end EntitySchema
