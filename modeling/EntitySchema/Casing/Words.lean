import EntitySchema.Text.CaseMapping
import EntitySchema.Text.Grapheme

/-!
# Words of a name

A name is cut into words at delimiters and where the kind of character changes.  A run of
capitals followed by a small letter gives its last capital to the next word, as in `HTTPServer`.
-/

namespace EntitySchema
namespace Casing

/-- What a grapheme cluster is to the word rules. -/
inductive ClusterKind
  | delimiter
  | upper
  | lower
  | digit
  | other
  deriving DecidableEq

namespace ClusterKind

/-- The kind of a cluster.  It is upper case when it has two distinct case forms and is its own
upper case form, and lower case likewise. -/
def ofCluster (cluster : List Char) : ClusterKind :=
  if cluster = ['_'] || cluster = ['-'] || cluster = [' '] then delimiter
  else if cluster.all Char.isDigit then digit
  else
    let upperCase := Text.uppercase cluster
    let lowerCase := Text.lowercase cluster
    if upperCase = lowerCase then other
    else if cluster = upperCase then upper
    else if cluster = lowerCase then lower
    else other

/-- Whether a word ends after a cluster of the first kind that is followed by clusters of the
other two kinds, where there are any. -/
def cutsBefore : ClusterKind -> Option ClusterKind -> Option ClusterKind -> Bool
  | lower, some upper, _ => true
  | lower, some digit, _ => true
  | upper, some digit, _ => true
  | digit, some lower, _ => true
  | digit, some upper, _ => true
  | upper, some upper, some lower => true
  | _, _, _ => false

end ClusterKind

/-- The words of a list of clusters that continues a word already begun. -/
def wordsFrom (word : List Char) : List (List Char) -> List (List Char)
  | [] => [word]
  | cluster :: rest =>
      match ClusterKind.ofCluster cluster with
      | .delimiter => word :: wordsFrom [] rest
      | kind =>
          let following := (rest.take 2).map ClusterKind.ofCluster
          if kind.cutsBefore following[0]? following[1]? then
            (word ++ cluster) :: wordsFrom [] rest
          else
            wordsFrom (word ++ cluster) rest

/-- The words of a name; a name has at least one word, which may be empty. -/
def words (name : List Char) : List (List Char) :=
  wordsFrom [] (Text.clusters name)

end Casing
end EntitySchema
