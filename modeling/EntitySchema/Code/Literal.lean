/-!
# String literals

A literal stands between two quotes.  Inside it a backslash precedes every quote of that kind and
every backslash, and every other character stands for itself.
-/

namespace EntitySchema
namespace Code
namespace Literal

/-- The characters between the quotes. -/
def body (quote : Char) : List Char -> List Char
  | [] => []
  | character :: rest =>
      if character = quote || character = '\\' then
        '\\' :: character :: body quote rest
      else
        character :: body quote rest

/-- The literal of a text. -/
def write (quote : Char) (text : List Char) : List Char :=
  quote :: body quote text ++ [quote]

end Literal
end Code
end EntitySchema
