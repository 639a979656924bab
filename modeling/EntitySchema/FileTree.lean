import EntitySchema.FileError
import EntitySchema.Path

/-!
# File trees

A file tree holds directories and files with text.  A path is followed name by name from the
current directory or from the root, and every name but the last has to lead to a directory.
-/

namespace EntitySchema

/-- Where a file or directory stands: the names that lead to it from the root. -/
abbrev Location := List (List Char)

/-- What stands at a location. -/
inductive Node
  | directory
  | file (content : String)
  deriving DecidableEq, Repr

/-- Directories and files.  The root is a directory of every tree. -/
structure FileTree where
  /-- What stands where; the first entry for a location counts. -/
  nodes : List (Location × Node) := []
  /-- The directory where relative paths start. -/
  current : Location := []
  deriving DecidableEq, Repr

namespace FileTree

/-- What stands at a location. -/
def node? (tree : FileTree) (location : Location) : Option Node :=
  if location.isEmpty then some .directory else tree.nodes.lookup location

/-- Whether a directory stands at a location. -/
def hasDirectory (tree : FileTree) (location : Location) : Bool :=
  tree.node? location = some .directory

/-- Put a node at a location. -/
def put (tree : FileTree) (location : Location) (node : Node) : FileTree :=
  { tree with
    nodes := (location, node) :: tree.nodes.filter fun entry => entry.1 != location }

/-! ## Following paths -/

/-- The greatest number of bytes in a name. -/
def nameLimit : Nat := 255

/-- The number of bytes that no path reaches. -/
def pathLimit : Nat := 4096

/-- The number of bytes of a text. -/
def byteLength (text : List Char) : Nat :=
  (String.ofList text).utf8ByteSize

/-- Refuse a path that no tree can hold. -/
def checkPath (path : String) : Except FileError Unit :=
  if path.toList.contains '\x00' then .error .nulCharacter
  else if pathLimit <= path.utf8ByteSize then .error .nameTooLong
  else .ok ()

/-- Follow components from a location; every step starts in a directory. -/
def follow (tree : FileTree) (location : Location) :
    List Path.Component -> Except FileError Location
  | [] => .ok location
  | component :: rest =>
      if !tree.hasDirectory location then .error .notDirectory
      else
        match component with
        | .root => tree.follow [] rest
        | .parent => tree.follow location.dropLast rest
        | .named name =>
            if nameLimit < byteLength name then .error .nameTooLong
            else if (tree.node? (location ++ [name])).isNone then .error .notFound
            else tree.follow (location ++ [name]) rest

/-- Whether a path ends in a slash. -/
def endsInSlash (path : String) : Bool :=
  path.toList.getLast? = some '/'

/-- Whether the last name of a path is a dot, slashes behind it aside. -/
def endsInDot (path : String) : Bool :=
  let trimmed := path.toList.reverse.dropWhile (· = '/')
  trimmed.takeWhile (· != '/') = ['.']

/-! ## Reading and writing -/

/-- The content of the file that a path leads to. -/
def read (tree : FileTree) (path : String) : Except FileError String := do
  checkPath path
  let location ← tree.follow tree.current (Path.components path)
  match tree.node? location with
  | some (.file content) =>
      if endsInSlash path || endsInDot path then .error .notDirectory else .ok content
  | some .directory => .error .isDirectory
  | none => .error .notFound

/-- The location of a name in a directory that components lead to. -/
def locate (tree : FileTree) (directory : List Path.Component) (name : List Char) :
    Except FileError Location := do
  let location ← tree.follow tree.current directory
  if !tree.hasDirectory location then .error .notDirectory
  else if nameLimit < byteLength name then .error .nameTooLong
  else .ok (location ++ [name])

/-- Write a file, in place of one that is already there. -/
def write (tree : FileTree) (path content : String) : Except FileError FileTree := do
  checkPath path
  let components := Path.components path
  match components.getLast? with
  | some (.named name) =>
      let location ← tree.locate components.dropLast name
      if tree.node? location = some .directory || endsInSlash path || endsInDot path then
        .error .isDirectory
      else
        .ok (tree.put location (.file content))
  | _ => .error .isDirectory

/-! ## Making directories -/

/-- Make the directory at the end of reversed components whose other directories exist. -/
def makeDirectory (tree : FileTree) : List Path.Component -> Except FileError FileTree
  | .named name :: earlier => do
      let location ← tree.locate earlier.reverse name
      if (tree.node? location).isSome then .error .alreadyExists
      else .ok (tree.put location .directory)
  | reversed => do
      let _ ← tree.follow tree.current reversed.reverse
      .error .alreadyExists

/-- Whether reversed components lead to a directory. -/
def leadsToDirectory (tree : FileTree) (reversed : List Path.Component) : Bool :=
  match tree.follow tree.current reversed.reverse with
  | .ok location => tree.hasDirectory location
  | .error _ => false

/-- Make the directory at the end of reversed components, unless it is there already. -/
def ensureDirectory (tree : FileTree) (reversed : List Path.Component) :
    FileTree × Option FileError :=
  match tree.makeDirectory reversed with
  | .ok made => (made, none)
  | .error error => (tree, if tree.leadsToDirectory reversed then none else some error)

/-- Make the directory at the end of reversed components and all directories on the way.  The
directories that are made before an error stay. -/
def makeDirectoriesFrom (tree : FileTree) :
    List Path.Component -> FileTree × Option FileError
  | [] => (tree, none)
  | last :: earlier =>
      match tree.makeDirectory (last :: earlier) with
      | .error .notFound =>
          match tree.makeDirectoriesFrom earlier with
          | (made, none) => made.ensureDirectory (last :: earlier)
          | failed => failed
      | _ => tree.ensureDirectory (last :: earlier)

/-- Check that a directory is there for a path that ends in a dot. -/
def requireDirectory (tree : FileTree) (reversed : List Path.Component) :
    FileTree × Option FileError :=
  match tree.follow tree.current reversed.reverse with
  | .ok location => (tree, if tree.hasDirectory location then none else some .notDirectory)
  | .error error => (tree, some error)

/-- Make the directory of a path and all directories on the way.  A path that ends in a dot only
asks for the directories above its last name, and then the last name has to be there. -/
def makeDirectories (tree : FileTree) (path : String) : FileTree × Option FileError :=
  let reversed := (Path.components path).reverse
  match checkPath path with
  | .error error => (tree, some error)
  | .ok () =>
      if endsInDot path then
        match tree.requireDirectory reversed with
        | (_, some .notFound) =>
            match tree.makeDirectoriesFrom (reversed.drop 1) with
            | (made, none) => made.requireDirectory reversed
            | failed => failed
        | settled => settled
      else
        tree.makeDirectoriesFrom reversed

/-! ## Views -/

/-- The files of a tree, in no particular order. -/
def files (tree : FileTree) : List (Location × String) :=
  tree.nodes.filterMap fun entry =>
    match entry.2 with
    | .file content => some (entry.1, content)
    | .directory => none

/-- The files of a tree that another tree does not hold with the same content. -/
def newFiles (before after : FileTree) : List (Location × String) :=
  after.files.filter fun file => before.node? file.1 != some (.file file.2)

end FileTree
end EntitySchema
