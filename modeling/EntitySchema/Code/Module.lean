import EntitySchema.Code.Expression

/-!
# Generated modules

A module has a file name, a list of imports and a list of statements.
-/

namespace EntitySchema
namespace Code

/-- What an import brings into scope. -/
inductive Binding
  /-- The named exports of the module. -/
  | named (symbols : List String)
  /-- The whole module under one name. -/
  | whole (name : String)
  deriving DecidableEq, Repr

namespace Binding

/-- The names that a binding brings into scope. -/
def symbols : Binding -> List String
  | named symbols => symbols
  | whole name => [name]

/-- Named exports come before a whole module, and each sort is in the order of its names. -/
def order : Binding -> Binding -> Ordering
  | named first, named second => compare first second
  | named _, whole _ => .lt
  | whole _, named _ => .gt
  | whole first, whole second => compare first second

end Binding

/-- An import declaration. -/
structure Import where
  /-- The specifier of the module. -/
  source : String
  /-- What is imported from it. -/
  binding : Binding
  deriving DecidableEq, Repr

namespace Import

/-- The names that an import brings into scope. -/
def symbols (declaration : Import) : List String :=
  declaration.binding.symbols

/-- Imports are ordered by their module, then by what they bind. -/
def order (first second : Import) : Ordering :=
  (compare first.source second.source).then (first.binding.order second.binding)

end Import

/-- An entry of an interface. -/
structure Member where
  /-- The name of the entry. -/
  name : String
  /-- Whether the entry may be absent. -/
  optional : Bool
  /-- The type of the entry. -/
  type : String
  deriving DecidableEq, Repr

/-- A declaration of a constant. -/
structure Constant where
  /-- Whether other modules see the constant. -/
  exported : Bool
  /-- The name of the constant. -/
  name : String
  /-- The type that it is declared with. -/
  type : Option String := none
  /-- Its value. -/
  value : Expression
  /-- The lines of the comment above it. -/
  docs : List String := []
  deriving DecidableEq, Repr

/-- A declaration of an interface; interfaces are always exported. -/
structure Interface where
  /-- The name of the interface. -/
  name : String
  /-- The types that it extends. -/
  bases : List String
  /-- Its own entries. -/
  members : List Member
  deriving DecidableEq, Repr

/-- A statement of a module. -/
inductive Statement
  /-- A comment, each line behind a comment mark. -/
  | lineComment (lines : List String)
  /-- A comment whose lines carry their own marks. -/
  | blockComment (lines : List String)
  /-- A name for a type. -/
  | typeAlias (exported : Bool) (name : String) (type : String)
  | constant (declaration : Constant)
  | interface (declaration : Interface)
  /-- A re-export of everything that a module exports. -/
  | exportAll (source : String)
  deriving DecidableEq, Repr

namespace Statement

/-- The name that a statement declares. -/
def declaredName? : Statement -> Option String
  | typeAlias _ name _ => some name
  | constant declaration => some declaration.name
  | interface declaration => some declaration.name
  | lineComment _ | blockComment _ | exportAll _ => none

/-- Whether a statement declares something that other modules do not see. -/
def isInternal : Statement -> Bool
  | typeAlias exported _ _ => !exported
  | constant declaration => !declaration.exported
  | lineComment _ | blockComment _ | interface _ | exportAll _ => false

/-- Whether a statement is a comment. -/
def isComment : Statement -> Bool
  | lineComment _ | blockComment _ => true
  | typeAlias _ _ _ | constant _ | interface _ | exportAll _ => false

/-- Whether a statement is a re-export. -/
def isExportAll : Statement -> Bool
  | exportAll _ => true
  | lineComment _ | blockComment _ | typeAlias _ _ _ | constant _ | interface _ => false

end Statement

/-- A module. -/
structure Module where
  /-- The name of its file, without the extension. -/
  fileName : String
  /-- What it imports. -/
  imports : List Import := []
  /-- What it declares. -/
  statements : List Statement := []
  deriving DecidableEq, Repr

namespace Module

/-- The names that the statements of a module declare. -/
def declaredNames (unit : Module) : List String :=
  unit.statements.filterMap Statement.declaredName?

end Module
end Code
end EntitySchema
