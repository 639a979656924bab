/-!
# Paths

A path is a text in which slashes separate names.  Repeated slashes and the names `.` mean
nothing, so a path is read as a list of components: perhaps the root, then names and steps to
the parent directory.
-/

namespace EntitySchema
namespace Path

/-- One component of a path. -/
inductive Component
  | root
  | parent
  | named (name : List Char)
  deriving DecidableEq, Repr

/-- The texts between the slashes of a text that continues a segment whose reversed characters
are known. -/
def segmentsFrom (reversed : List Char) : List Char -> List (List Char)
  | [] => [reversed.reverse]
  | character :: rest =>
      if character = '/' then
        reversed.reverse :: segmentsFrom [] rest
      else
        segmentsFrom (character :: reversed) rest

/-- The texts between the slashes of a text. -/
def segments (text : List Char) : List (List Char) :=
  segmentsFrom [] text

/-- The component that a segment stands for, if it stands for one. -/
def segmentComponent? (segment : List Char) : Option Component :=
  if segment = [] || segment = ['.'] then none
  else if segment = ['.', '.'] then some .parent
  else some (.named segment)

/-- Whether a path starts at the root. -/
def isAbsoluteChars : List Char -> Bool
  | '/' :: _ => true
  | _ => false

/-- Whether a path starts at the root. -/
def isAbsolute (path : String) : Bool :=
  isAbsoluteChars path.toList

/-- The components of a path given by its characters. -/
def componentsOfChars (path : List Char) : List Component :=
  (if isAbsoluteChars path then [.root] else []) ++ (segments path).filterMap segmentComponent?

/-- The components of a path. -/
def components (path : String) : List Component :=
  componentsOfChars path.toList

/-- The text of a component below the root. -/
def Component.text : Component -> List Char
  | root => []
  | parent => ['.', '.']
  | named name => name

/-- The path that consists of the given components. -/
def ofComponents : List Component -> String
  | .root :: rest => String.ofList ('/' :: List.intercalate ['/'] (rest.map Component.text))
  | components => String.ofList (List.intercalate ['/'] (components.map Component.text))

/-! ## Joining and parents -/

/-- The characters of the path reached by following the second path from the first. -/
def joinChars (base path : List Char) : List Char :=
  if isAbsoluteChars path || base.isEmpty then path
  else if base.getLast? = some '/' then base ++ path
  else base ++ '/' :: path

/-- The path reached by following the second path from the first; an absolute second path
replaces the first. -/
def join (base path : String) : String :=
  String.ofList (joinChars base.toList path.toList)

/-- The components of the path reached by following the second path from the first. -/
def joinComponents (base path : List Component) : List Component :=
  if path.head? = some .root then path else base ++ path

/-- The components of the directory that holds a path; the root and the empty path have none. -/
def parentComponents? (components : List Component) : Option (List Component) :=
  match components.getLast? with
  | none => none
  | some .root => none
  | some _ => some components.dropLast

/-! ## Normal forms -/

/-- Follow one component from a directory given by its reversed components.  A step to the
parent undoes a name, does nothing at the root, and is kept anywhere else. -/
def step (reversed : List Component) : Component -> List Component
  | .root => [.root]
  | .named name => .named name :: reversed
  | .parent =>
      match reversed with
      | .named _ :: earlier => earlier
      | .root :: _ => reversed
      | _ => .parent :: reversed

/-- The components of the normal form of a path. -/
def normalizeComponents (components : List Component) : List Component :=
  (components.foldl step []).reverse

/-- The shortest spelling of a path that resolves to the same place by names alone. -/
def normalize (path : String) : String :=
  ofComponents (normalizeComponents (components path))

/-! ## Relative paths -/

/-- Drop the longest common start of two lists. -/
def dropCommon [DecidableEq α] : List α -> List α -> List α × List α
  | first :: source, second :: target =>
      if first = second then dropCommon source target
      else (first :: source, second :: target)
  | source, target => (source, target)

/-- The components that lead from one directory to a path, both in normal form: one step up for
each component left behind, then the components to enter.  Entering the root starts afresh. -/
def relativeComponents (source target : List Component) : List Component :=
  let (behind, ahead) := dropCommon source target
  if ahead.head? = some .root then ahead
  else behind.map (fun _ => .parent) ++ ahead

/-- The path that leads from one directory to another path. -/
def relative (source target : String) : String :=
  ofComponents
    (relativeComponents
      (normalizeComponents (components source))
      (normalizeComponents (components target)))

/-! ## File names -/

/-- The name of the file that a path leads to, if its last component is a name. -/
def fileName? (path : String) : Option (List Char) :=
  match (components path).getLast? with
  | some (.named name) => some name
  | _ => none

/-- The part of a file name after its last dot.  A dot at the very start does not count. -/
def extensionOfName? (name : List Char) : Option (List Char) :=
  let reversedExtension := name.reverse.takeWhile (· != '.')
  let reversedStem := (name.reverse.dropWhile (· != '.')).drop 1
  if reversedStem.isEmpty then none else some reversedExtension.reverse

/-- The extension of the file that a path leads to. -/
def extension? (path : String) : Option String :=
  (fileName? path).bind fun name => (extensionOfName? name).map String.ofList

end Path
end EntitySchema
