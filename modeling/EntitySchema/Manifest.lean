import EntitySchema.Json.Printer

/-!
# Manifest

What the generator tells a host before it is asked to generate.
-/

namespace EntitySchema

/-- The self-description of the generator. -/
structure Manifest where
  /-- The version of the generator. -/
  version : String
  /-- The name that is shown to users. -/
  prettyName : String
  /-- Where modules go by default, relative to the data model's source file. -/
  defaultOutput : String
  deriving DecidableEq, Repr

namespace Manifest

/-- The manifest of this generator. -/
def current : Manifest where
  version := "0.1.0"
  prettyName := "Zod Schemas"
  defaultOutput := "zod"

/-- A manifest as a JSON value. -/
def toJson (manifest : Manifest) : Json :=
  .object
    [ ("version", .string manifest.version),
      ("prettyName", .string manifest.prettyName),
      ("defaultOutput", .string manifest.defaultOutput) ]

/-- A manifest as it is printed. -/
def text (manifest : Manifest) : String :=
  manifest.toJson.pretty

end Manifest
end EntitySchema
