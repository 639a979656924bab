import EntitySchema.FileTree
import Mathlib.Data.List.Basic
import Mathlib.Tactic.SplitIfs

/-!
# Writing into file trees

Links do not exist in a file tree, so where a path leads depends on its names alone, as long as it
leads anywhere.  A file that is written can be read, and it leaves every file in another place as it
was.
-/

namespace EntitySchema

namespace Location

/-- The location that a component leads to, by names alone. -/
def enter (location : Location) : Path.Component -> Location
  | .root => []
  | .parent => location.dropLast
  | .named name => location ++ [name]

/-- The location that a path leads to, by names alone. -/
def resolve (location : Location) (path : String) : Location :=
  (Path.components path).foldl enter location

end Location

namespace FileTree

variable
  {tree after : FileTree}
  {location found place other : Location}
  {node : Node}
  {path text content : String}

/-! ## Nodes -/

@[simp] theorem node?_root : tree.node? [] = some .directory := rfl

@[simp] theorem current_put : (tree.put place node).current = tree.current := rfl

/-- A node below the root can be found where it is put. -/
theorem node?_put_self
    (below : place ≠ []) :
    (tree.put place node).node? place = some node := by
  rw [node?, if_neg (by simpa using below), put, List.lookup_cons_self]

theorem lookup_filter_ne
    (nodes : List (Location × Node))
    (different : other ≠ place) :
    (nodes.filter fun entry => entry.1 != place).lookup other = nodes.lookup other := by
  induction nodes with
  | nil => rfl
  | cons entry rest inductionHypothesis =>
      rw [List.filter_cons]
      split_ifs with kept
      · rw [List.lookup_cons, List.lookup_cons, inductionHypothesis]
      · have same : entry.1 = place := by simpa using kept
        have passed : (other == entry.1) = false := by simpa [same] using different
        rw [List.lookup_cons, passed, inductionHypothesis]

/-- Putting a node changes nothing anywhere else. -/
theorem node?_put_of_ne
    (different : other ≠ place) :
    (tree.put place node).node? other = tree.node? other := by
  have passed : (other == place) = false := by simpa using different
  rw [node?, node?, put, List.lookup_cons, passed, lookup_filter_ne _ different]

/-- What is not a directory is not the root. -/
theorem ne_root_of_not_directory
    (notDirectory : tree.node? place ≠ some .directory) :
    place ≠ [] := by
  rintro rfl
  exact notDirectory node?_root

/-- A file in a place that is no directory leaves all directories as they are. -/
theorem hasDirectory_put_file
    (notDirectory : tree.node? place ≠ some .directory) :
    (tree.put place (.file content)).hasDirectory location = tree.hasDirectory location := by
  by_cases same : location = place
  · subst same
    rw [hasDirectory, hasDirectory, node?_put_self (ne_root_of_not_directory notDirectory)]
    simpa using notDirectory
  · rw [hasDirectory, hasDirectory, node?_put_of_ne same]

/-- What was somewhere before does not vanish. -/
theorem node?_put_ne_none
    (present : tree.node? location ≠ none) :
    (tree.put place node).node? location ≠ none := by
  by_cases same : location = place
  · subst same
    by_cases root : location = []
    · simp [root]
    · simp [node?_put_self root]
  · rwa [node?_put_of_ne same]

/-! ## Following paths -/

/-- A step by name needs a name of admissible length that leads somewhere. -/
def Admits (tree : FileTree) (location : Location) : Path.Component -> Prop
  | .root | .parent => True
  | .named name =>
      byteLength name ≤ nameLimit ∧ tree.node? (location ++ [name]) ≠ none

/-- A step that can be made. -/
theorem follow_cons
    {component : Path.Component}
    {rest : List Path.Component}
    (directory : tree.hasDirectory location)
    (admitted : tree.Admits location component) :
    tree.follow location (component :: rest) = tree.follow (location.enter component) rest := by
  rw [follow.eq_def]
  cases component with
  | root => simp [directory, Location.enter]
  | parent => simp [directory, Location.enter]
  | named name =>
      obtain ⟨short, present⟩ := admitted
      simp [directory, Location.enter, Nat.not_lt.mpr short, present]

/-- On a path that can be followed, every step can be made. -/
theorem of_follow_cons
    {component : Path.Component}
    {rest : List Path.Component}
    (followed : tree.follow location (component :: rest) = .ok found) :
    tree.hasDirectory location ∧ tree.Admits location component := by
  rw [follow.eq_def] at followed
  dsimp only at followed
  split_ifs at followed with missing
  refine ⟨by simpa using missing, ?_⟩
  cases component with
  | root => trivial
  | parent => trivial
  | named name =>
      dsimp only at followed
      split_ifs at followed with long absent
      exact ⟨Nat.not_lt.mp long, by simpa using absent⟩

/-- A path that can be followed leads where its names say. -/
theorem eq_foldl_of_follow
    {components : List Path.Component}
    (followed : tree.follow location components = .ok found) :
    found = components.foldl Location.enter location := by
  induction components generalizing location with
  | nil =>
      cases followed
      rfl
  | cons component rest inductionHypothesis =>
      obtain ⟨directory, admitted⟩ := of_follow_cons followed
      rw [follow_cons directory admitted] at followed
      exact inductionHypothesis followed

/-- A path is followed beyond the end of its first part. -/
theorem follow_append
    {first second : List Path.Component}
    {middle : Location}
    (followed : tree.follow location first = .ok middle) :
    tree.follow location (first ++ second) = tree.follow middle second := by
  induction first generalizing location with
  | nil =>
      cases followed
      rfl
  | cons component rest inductionHypothesis =>
      obtain ⟨directory, admitted⟩ := of_follow_cons followed
      rw [follow_cons directory admitted] at followed
      rw [List.cons_append, follow_cons directory admitted]
      exact inductionHypothesis followed

/-- A file in a place that is no directory leaves every path as it is. -/
theorem follow_put_file
    {components : List Path.Component}
    (notDirectory : tree.node? place ≠ some .directory)
    (followed : tree.follow location components = .ok found) :
    (tree.put place (.file content)).follow location components = .ok found := by
  induction components generalizing location with
  | nil => exact followed
  | cons component rest inductionHypothesis =>
      obtain ⟨directory, admitted⟩ := of_follow_cons followed
      rw [follow_cons directory admitted] at followed
      have still : (tree.put place (.file content)).Admits location component := by
        cases component with
        | root => trivial
        | parent => trivial
        | named name => exact ⟨admitted.1, node?_put_ne_none admitted.2⟩
      rw [follow_cons ((hasDirectory_put_file notDirectory).trans directory) still]
      exact inductionHypothesis followed

/-! ## Reading and writing -/

/-- What it takes to read a file. -/
theorem read_eq_ok_iff :
    tree.read path = .ok text ↔
      checkPath path = .ok () ∧ (endsInSlash path || endsInDot path) = false ∧
        tree.follow tree.current (Path.components path) = .ok (tree.current.resolve path) ∧
        tree.node? (tree.current.resolve path) = some (.file text) := by
  rw [read]
  cases checkPath path with
  | error error => simp [bind, Except.bind]
  | ok =>
      cases followed : tree.follow tree.current (Path.components path) with
      | error error => simp [bind, Except.bind]
      | ok location =>
          obtain rfl : location = tree.current.resolve path := eq_foldl_of_follow followed
          simp only [bind, Except.bind]
          cases tree.node? (tree.current.resolve path) with
          | none => simp
          | some node =>
              cases node with
              | directory => simp
              | file content => cases endsInSlash path || endsInDot path <;> simp

/-- What it takes to find a name in a directory. -/
theorem locate_eq_ok
    {directory : List Path.Component}
    {name : List Char}
    (located : tree.locate directory name = .ok place) :
    ∃ parent, tree.follow tree.current directory = .ok parent ∧ tree.hasDirectory parent ∧
      byteLength name ≤ nameLimit ∧ place = parent ++ [name] := by
  rw [locate] at located
  cases followed : tree.follow tree.current directory with
  | error error => simp [followed, bind, Except.bind] at located
  | ok parent =>
      simp only [followed, bind, Except.bind] at located
      split_ifs at located with missing long
      cases located
      exact ⟨parent, rfl, by simpa using missing, Nat.not_lt.mp long, rfl⟩

/-- A successful write puts a file where its path leads by names, and the path can be followed
there afterwards. -/
theorem write_eq_ok
    (written : tree.write path content = .ok after) :
    checkPath path = .ok () ∧ (endsInSlash path || endsInDot path) = false ∧
      tree.node? (tree.current.resolve path) ≠ some .directory ∧
      after = tree.put (tree.current.resolve path) (.file content) ∧
      after.follow tree.current (Path.components path) = .ok (tree.current.resolve path) := by
  rw [write] at written
  cases checked : checkPath path with
  | error error => simp [checked, bind, Except.bind] at written
  | ok =>
      simp only [checked, bind, Except.bind] at written
      split at written
      case h_2 => cases written
      case h_1 name last =>
        cases located : tree.locate (Path.components path).dropLast name with
        | error error => simp [located] at written
        | ok place =>
            simp only [located] at written
            split_ifs at written with refused
            cases written
            obtain ⟨parent, followed, directory, short, rfl⟩ := locate_eq_ok located
            -- The located place is the one that the whole path names.
            have parts := List.dropLast_append_getLast? _ last
            have place : tree.current.resolve path = parent ++ [name] := by
              rw [Location.resolve, ← parts, List.foldl_append, ← eq_foldl_of_follow followed]
              rfl
            simp only [Bool.or_eq_true, decide_eq_true_eq, not_or, Bool.not_eq_true] at refused
            obtain ⟨⟨notDirectory, noSlash⟩, noDot⟩ := refused
            have admitted :
                (tree.put (parent ++ [name]) (.file content)).Admits parent (.named name) := by
              refine ⟨short, ?_⟩
              rw [node?_put_self (ne_root_of_not_directory notDirectory)]
              exact Option.some_ne_none _
            rw [place]
            refine ⟨rfl, by simp [noSlash, noDot], notDirectory, rfl, ?_⟩
            rw [← parts, follow_append (follow_put_file notDirectory followed),
              follow_cons ((hasDirectory_put_file notDirectory).trans directory) admitted]
            rfl

/-- A file can be read once it is written. -/
theorem read_of_write
    (written : tree.write path content = .ok after) :
    after.read path = .ok content := by
  obtain ⟨checked, plain, notDirectory, rfl, followed⟩ := write_eq_ok written
  rw [read_eq_ok_iff]
  exact ⟨checked, plain, followed, node?_put_self (ne_root_of_not_directory notDirectory)⟩

/-- Writing a file leaves the files in other places as they are. -/
theorem read_write_of_ne
    {otherPath : String}
    (written : tree.write path content = .ok after)
    (different : tree.current.resolve otherPath ≠ tree.current.resolve path)
    (readable : tree.read otherPath = .ok text) :
    after.read otherPath = .ok text := by
  obtain ⟨-, -, notDirectory, rfl, -⟩ := write_eq_ok written
  obtain ⟨checked, plain, followed, present⟩ := read_eq_ok_iff.mp readable
  rw [read_eq_ok_iff]
  refine ⟨checked, plain, follow_put_file notDirectory followed, ?_⟩
  rwa [current_put, node?_put_of_ne different]

theorem current_write
    (written : tree.write path content = .ok after) :
    after.current = tree.current := by
  obtain ⟨-, -, -, rfl, -⟩ := write_eq_ok written
  rfl

/-! ## Making directories -/

theorem current_makeDirectory
    {reversed : List Path.Component}
    (made : tree.makeDirectory reversed = .ok after) :
    after.current = tree.current := by
  rw [makeDirectory.eq_def] at made
  split at made
  · simp only [bind, Except.bind] at made
    split at made
    · cases made
    · split_ifs at made
      cases made
      rfl
  · simp only [bind, Except.bind] at made
    split at made <;> cases made

theorem current_ensureDirectory (reversed : List Path.Component) :
    (tree.ensureDirectory reversed).1.current = tree.current := by
  rw [ensureDirectory]
  split
  · next made => exact current_makeDirectory made
  · rfl

theorem current_makeDirectoriesFrom (reversed : List Path.Component) :
    (tree.makeDirectoriesFrom reversed).1.current = tree.current := by
  induction reversed with
  | nil => rfl
  | cons last earlier inductionHypothesis =>
      rw [makeDirectoriesFrom]
      split
      · split
        · next made above =>
            rw [above] at inductionHypothesis
            exact (current_ensureDirectory _).trans inductionHypothesis
        · exact inductionHypothesis
      · exact current_ensureDirectory _

theorem requireDirectory_fst (reversed : List Path.Component) :
    (tree.requireDirectory reversed).1 = tree := by
  rw [requireDirectory]
  split <;> rfl

/-- Making directories does not leave the current one. -/
theorem current_makeDirectories :
    (tree.makeDirectories path).1.current = tree.current := by
  rw [makeDirectories]
  split
  · rfl
  · split_ifs
    · split
      · split
        · next made above =>
            have kept := @current_makeDirectoriesFrom tree ((Path.components path).reverse.drop 1)
            rw [requireDirectory_fst]
            rwa [above] at kept
        · exact current_makeDirectoriesFrom _
      · rw [requireDirectory_fst]
    · exact current_makeDirectoriesFrom _

end FileTree
end EntitySchema
