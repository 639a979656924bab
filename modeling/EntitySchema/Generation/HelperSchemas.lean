import EntitySchema.Code.Module
import EntitySchema.Generation.FieldSchema

/-!
# Helper schemas

Modules with JSON fields or decimal fields declare a schema that all of those fields share.
-/

namespace EntitySchema
namespace HelperSchemas

/-- A constant that only its own module sees. -/
def internalConstant (name : String) (type : Option String) (value : Code.Expression) :
    Code.Statement :=
  .constant { exported := false, name := name, type := type, value := value }

/-- The types of the values that a JSON document has at its leaves. -/
def literalType (excludeNull : Bool) : String :=
  if excludeNull then "boolean | number | string" else "boolean | number | string | null"

/-- The schema of the values that a JSON document has at its leaves. -/
def literalValidator (excludeNull : Bool) : String :=
  if excludeNull then "z.union([z.string(), z.number(), z.boolean()])"
  else "z.union([z.string(), z.number(), z.boolean(), z.null()])"

/-- The schema of a JSON document in terms of itself. -/
def jsonValidator : String :=
  "z.union([literalSchema, z.array(" ++ jsonSchemaName ++ "), z.record(" ++ jsonSchemaName ++ ")])"

/-- The helper schema of JSON fields, with the types that it needs. -/
def json (excludeNull : Bool) : List Code.Statement :=
  [ .lineComment ["Helper schema for JSON fields"],
    .typeAlias false "Literal" (literalType excludeNull),
    .typeAlias false "Json" "Literal | \x7b [key: string]: Json \x7d | Json[]",
    internalConstant "literalSchema" none (.validator { base := literalValidator excludeNull }),
    internalConstant jsonSchemaName (some "z.ZodSchema<Json>")
      (.lazy (.validator { base := jsonValidator })) ]

/-- The lines of the decimal schema with their levels of indentation. -/
def decimalLines : List (Nat × String) :=
  [ (0, "z"),
    (1, ".instanceof(Decimal)"),
    (1, ".or(z.string())"),
    (1, ".or(z.number())"),
    (1, ".refine((value) => \x7b"),
    (2, "try \x7b"),
    (3, "return new Decimal(value)"),
    (2, "\x7d catch (error) \x7b"),
    (3, "return false"),
    (2, "\x7d"),
    (1, "\x7d)"),
    (1, ".transform((value) => new Decimal(value))") ]

/-- The helper schema of decimal fields: it accepts a decimal, or a text or number that denotes
one, and yields a decimal. -/
def decimal : List Code.Statement :=
  [ .lineComment ["Helper schema for Decimal fields"],
    internalConstant decimalSchemaName none (.verbatim decimalLines) ]

end HelperSchemas
end EntitySchema
