/-!
# Sets of names

A set of names is a strictly ascending list, in the order of code points.
-/

namespace EntitySchema
namespace Text

/-- Insert a name into an ascending list that does not hold it. -/
def insertName (name : String) : List String -> List String
  | [] => [name]
  | head :: tail =>
      if name < head then name :: head :: tail
      else if name = head then head :: tail
      else head :: insertName name tail

/-- The distinct names of a list, in ascending order. -/
def nameSet (names : List String) : List String :=
  names.foldr insertName []

end Text
end EntitySchema
