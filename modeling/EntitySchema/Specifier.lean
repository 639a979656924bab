import EntitySchema.Path

/-!
# Module specifiers

A module names another module by a specifier: a path from its own directory, or a package name
when the path runs through an installed package.
-/

namespace EntitySchema
namespace Specifier

/-- Write every backslash as a slash. -/
def forwardSlashes (path : List Char) : List Char :=
  path.map fun character => if character = '\\' then '/' else character

/-- Keep one slash of every run of slashes. -/
def collapseSlashes : List Char -> List Char
  | [] => []
  | character :: rest =>
      if character = '/' && rest.head? = some '/' then
        collapseSlashes rest
      else
        character :: collapseSlashes rest

/-- The text after the last place where the marker occurs. -/
def afterLast? (marker : List Char) : List Char -> Option (List Char)
  | [] => none
  | character :: rest =>
      match afterLast? marker rest with
      | some after => some after
      | none =>
          if marker.isPrefixOf (character :: rest) then
            some ((character :: rest).drop marker.length)
          else
            none

/-- The directory of installed packages, with the slash after it. -/
def packageDirectory : List Char := "node_modules/".toList

/-- The path below the innermost directory of installed packages, if there is one. -/
def packagePath? (path : List Char) : Option (List Char) :=
  match afterLast? ('/' :: packageDirectory) path with
  | some package => some package
  | none =>
      if packageDirectory.isPrefixOf path then
        some (path.drop packageDirectory.length)
      else
        none

/-- The specifier for the characters of a path. -/
def ofPathChars (path : List Char) : List Char :=
  let plain := collapseSlashes (forwardSlashes path)
  match packagePath? plain with
  | some package => package
  | none =>
      if ['.', '.', '/'].isPrefixOf plain || plain = ['.', '.'] then plain
      else '.' :: '/' :: plain

/-- The specifier for a path: a package path where there is one, else a path that starts in the
current directory or climbs out of it. -/
def ofPath (path : String) : String :=
  String.ofList (ofPathChars path.toList)

end Specifier

/-- Where the data model is read from and where modules are written to. -/
structure FileLayout where
  /-- The data model's source file; configured import paths start in its directory. -/
  schema : String
  /-- The directory that receives the generated modules. -/
  output : String
  /-- The client module that exports enum types. -/
  client : String
  deriving DecidableEq, Repr

namespace FileLayout

/-- The components of the place that a path given relative to the data model's directory leads
to. -/
def schemaTarget (layout : FileLayout) (path : String) : List Path.Component :=
  let directory := (Path.parentComponents? (Path.components layout.schema)).getD []
  Path.normalizeComponents (Path.joinComponents directory (Path.components path))

/-- The specifier of a path given relative to the data model's directory. -/
def schemaSpecifier (layout : FileLayout) (path : String) : String :=
  Specifier.ofPath (Path.relative layout.output (Path.ofComponents (layout.schemaTarget path)))

/-- The specifier of the client module. -/
def clientSpecifier (layout : FileLayout) : String :=
  Specifier.ofPath (Path.relative layout.output layout.client)

end FileLayout
end EntitySchema
