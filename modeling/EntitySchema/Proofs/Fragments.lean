import EntitySchema.Code.Module
import EntitySchema.Proofs.Lists
import Mathlib.Data.List.SplitBy

/-!
# Fragments of generated text

Generated text is cut into fragments so that the names in it can be told apart from punctuation
and from text that documentation contributes.  The cut of a fixed text is computed; joining the
fragments gives the text back.
-/

namespace EntitySchema
namespace Code

/-- A piece of a generated text. -/
inductive Fragment
  /-- Punctuation, a word of the language, or the name of a member. -/
  | fixed (text : String)
  /-- A name that has to be bound around the text. -/
  | identifier (name : String)
  /-- Text that documentation contributes. -/
  | directive (text : String)
  deriving DecidableEq, Repr

namespace Fragment

/-- The text of a fragment. -/
def text : Fragment -> String
  | fixed text => text
  | identifier name => name
  | directive text => text

/-- The name of a fragment that has to be bound. -/
def identifier? : Fragment -> Option String
  | identifier name => some name
  | fixed _ | directive _ => none

/-- The text of a fragment that documentation contributes. -/
def directive? : Fragment -> Option String
  | directive text => some text
  | fixed _ | identifier _ => none

/-- The text that fragments spell together. -/
def joined (fragments : List Fragment) : String :=
  String.join (fragments.map text)

/-- The names in a list of fragments. -/
def identifiers (fragments : List Fragment) : List String :=
  fragments.filterMap identifier?

/-- The texts in a list of fragments that documentation contributes. -/
def directives (fragments : List Fragment) : List String :=
  fragments.filterMap directive?

@[simp] theorem joined_nil : joined [] = "" := rfl

@[simp] theorem joined_cons
    (fragment : Fragment)
    (fragments : List Fragment) :
    joined (fragment :: fragments) = fragment.text ++ joined fragments := by
  simp [joined]

@[simp] theorem joined_append
    (first second : List Fragment) :
    joined (first ++ second) = joined first ++ joined second := by
  simp [joined]

@[simp] theorem identifiers_nil : identifiers [] = [] := rfl

@[simp] theorem identifiers_cons
    (fragment : Fragment)
    (fragments : List Fragment) :
    identifiers (fragment :: fragments) = fragment.identifier?.toList ++ identifiers fragments := by
  cases fragment <;> rfl

@[simp] theorem identifiers_append
    (first second : List Fragment) :
    identifiers (first ++ second) = identifiers first ++ identifiers second :=
  List.filterMap_append

@[simp] theorem directives_nil : directives [] = [] := rfl

@[simp] theorem directives_cons
    (fragment : Fragment)
    (fragments : List Fragment) :
    directives (fragment :: fragments) = fragment.directive?.toList ++ directives fragments := by
  cases fragment <;> rfl

@[simp] theorem directives_append
    (first second : List Fragment) :
    directives (first ++ second) = directives first ++ directives second :=
  List.filterMap_append

/-! ## Fixed text -/

/-- Whether a character can stand in a name. -/
def isNameCharacter (character : Char) : Bool :=
  character.isAlphanum || character = '_' || character = '$'

/-- The words of the language that occur in fixed text. -/
def languageWords : List String :=
  ["boolean", "catch", "false", "new", "null", "number", "return", "string", "try", "typeof"]

/-- The names that fixed text binds itself, as parameters of functions, of a handler and of an
index type. -/
def parameterNames : List String :=
  ["error", "key", "v", "value"]

/-- Whether a run of characters is a name that is not bound within fixed text. -/
def isFreeName : List Char -> Bool
  | [] => false
  | first :: rest =>
      isNameCharacter first && !first.isDigit &&
        !(languageWords ++ parameterNames).contains (String.ofList (first :: rest))

/-- The fragments of the runs of a text.  A name behind a dot is that of a member. -/
def ofRuns (behindDot : Bool) : List (List Char) -> List Fragment
  | [] => []
  | run :: rest =>
      (if isFreeName run && !behindDot then identifier (String.ofList run)
        else fixed (String.ofList run)) ::
      ofRuns (run.getLast? = some '.') rest

/-- The fragments of a fixed text: its runs of characters that can and that cannot stand in
names. -/
def ofFixed (text : String) : List Fragment :=
  ofRuns false
    (text.toList.splitBy fun first second => isNameCharacter first == isNameCharacter second)

/-- The runs of a text make up the text again. -/
theorem joined_ofRuns
    (runs : List (List Char))
    (behindDot : Bool) :
    joined (ofRuns behindDot runs) = String.ofList runs.flatten := by
  induction runs generalizing behindDot with
  | nil => rfl
  | cons run rest inductionHypothesis =>
      rw [ofRuns, joined_cons, inductionHypothesis, List.flatten_cons, String.ofList_append]
      split_ifs <;> rfl

/-- The fragments of a fixed text spell the text. -/
@[simp] theorem joined_ofFixed (text : String) : joined (ofFixed text) = text := by
  rw [ofFixed, joined_ofRuns, List.flatten_splitBy, String.ofList_toList]

theorem directives_ofRuns
    (runs : List (List Char))
    (behindDot : Bool) :
    directives (ofRuns behindDot runs) = [] := by
  induction runs generalizing behindDot with
  | nil => rfl
  | cons run rest inductionHypothesis =>
      rw [ofRuns, directives_cons, inductionHypothesis]
      split_ifs <;> rfl

/-- Documentation contributes nothing to a fixed text. -/
@[simp] theorem directives_ofFixed (text : String) : directives (ofFixed text) = [] :=
  directives_ofRuns _ _

example :
    identifiers (ofFixed "z.date().transform((v) => v.toISOString()).pipe(z.string())") =
      ["z", "z"] := by
  decide

/-! ## Names in sight -/

/-- Fixed text does not hide a name: it is one run of characters that can or that cannot stand in
names, and if it could be a free name it is that of a member. -/
def HidesNothing (behindDot : Bool) : Fragment -> Prop
  | fixed text =>
      (∀ first ∈ text.toList, ∀ second ∈ text.toList,
        isNameCharacter first = isNameCharacter second) ∧
        (isFreeName text.toList → behindDot)
  | identifier _ | directive _ => True

/-- All free names of fixed text are fragments of their own. -/
def NamesShown (behindDot : Bool) : List Fragment -> Prop
  | [] => True
  | fragment :: rest =>
      fragment.HidesNothing behindDot ∧ NamesShown (fragment.text.toList.getLast? = some '.') rest

/-- More names may be those of members. -/
theorem NamesShown.behindDot
    {fragments : List Fragment}
    {behindDot : Bool}
    (shown : NamesShown false fragments) :
    NamesShown behindDot fragments := by
  cases fragments with
  | nil => trivial
  | cons fragment rest =>
      refine ⟨?_, shown.2⟩
      cases fragment with
      | fixed text => exact ⟨shown.1.1, fun free => absurd (shown.1.2 free) (by simp)⟩
      | identifier name => trivial
      | directive text => trivial

/-- A name can be put in front of fragments. -/
theorem NamesShown.cons_identifier
    {fragments : List Fragment}
    (shown : NamesShown false fragments)
    (name : String) :
    NamesShown false (identifier name :: fragments) :=
  ⟨trivial, shown.behindDot⟩

/-- Fragments that show their names on their own do so behind others. -/
theorem NamesShown.append
    {first second : List Fragment}
    {behindDot : Bool}
    (shown : NamesShown behindDot first)
    (followed : NamesShown false second) :
    NamesShown behindDot (first ++ second) := by
  induction first generalizing behindDot with
  | nil => exact followed.behindDot
  | cons fragment rest inductionHypothesis => exact ⟨shown.1, inductionHypothesis shown.2⟩

/-- Runs of one kind show their free names: each is a fragment of its own or the name of a
member. -/
theorem namesShown_ofRuns
    {runs : List (List Char)}
    (uniform : ∀ run ∈ runs, ∀ first ∈ run, ∀ second ∈ run,
      isNameCharacter first = isNameCharacter second)
    (behindDot : Bool) :
    NamesShown behindDot (ofRuns behindDot runs) := by
  induction runs generalizing behindDot with
  | nil => trivial
  | cons run rest inductionHypothesis =>
      rw [List.forall_mem_cons] at uniform
      rw [ofRuns]
      split_ifs with free
      · refine ⟨trivial, ?_⟩
        rw [text, String.toList_ofList]
        exact inductionHypothesis uniform.2 _
      · refine ⟨?_, ?_⟩
        · rw [HidesNothing, String.toList_ofList]
          refine ⟨uniform.1, ?_⟩
          intro name
          simpa [name] using free
        · rw [text, String.toList_ofList]
          exact inductionHypothesis uniform.2 _

/-- The fragments of a fixed text show all its free names. -/
theorem namesShown_ofFixed (text : String) : NamesShown false (ofFixed text) := by
  refine namesShown_ofRuns ?_ false
  intro run member
  exact List.eq_of_isChain (List.isChain_of_mem_splitBy member)

end Fragment
end Code
end EntitySchema
