import EntitySchema.Proofs.FileTrees

/-!
# Made directories

Making the directory of a path puts directories along the path, and only where nothing stood
before.  When this succeeds, the path leads through directories from its first component to its
last.
-/

namespace EntitySchema

namespace Location

/-- The locations that components lead through, the start not among them. -/
def stations (location : Location) : List Path.Component -> List Location
  | [] => []
  | component :: rest => location.enter component :: (location.enter component).stations rest

theorem stations_append
    (location : Location)
    (first second : List Path.Component) :
    location.stations (first ++ second) =
      location.stations first ++ (first.foldl enter location).stations second := by
  induction first generalizing location with
  | nil => rfl
  | cons component rest inductionHypothesis =>
      rw [List.cons_append, stations, inductionHypothesis]
      rfl

end Location

namespace FileTree

variable
  {tree before middle after : FileTree}
  {location found : Location}
  {places : List Location}
  {reversed : List Path.Component}
  {path : String}

/-! ## Trees with more directories -/

/-- A tree gains directories in some of the given places, where nothing stood before. -/
def Gains (before after : FileTree) (places : List Location) : Prop :=
  ∀ location,
    after.node? location = before.node? location ∨
      location ∈ places ∧ before.node? location = none ∧ after.node? location = some .directory

namespace Gains

theorem refl (tree : FileTree) (places : List Location) : Gains tree tree places :=
  fun _ => .inl rfl

theorem trans
    (first : Gains before middle places)
    (second : Gains middle after places) :
    Gains before after places := by
  intro location
  rcases second location with same | ⟨listed, absent, made⟩
  · rw [same]
    exact first location
  · rcases first location with same | ⟨-, -, early⟩
    · exact .inr ⟨listed, same ▸ absent, made⟩
    · rw [early] at absent
      cases absent

theorem mono
    {more : List Location}
    (gains : Gains before after places)
    (included : places ⊆ more) :
    Gains before after more :=
  fun location => (gains location).imp_right fun made => ⟨included made.1, made.2⟩

theorem node?_ne_none
    (gains : Gains before after places)
    (present : before.node? location ≠ none) :
    after.node? location ≠ none := by
  rcases gains location with same | ⟨-, absent, -⟩
  · rwa [same]
  · exact absurd absent present

theorem hasDirectory
    (gains : Gains before after places)
    (directory : before.hasDirectory location) :
    after.hasDirectory location := by
  rw [FileTree.hasDirectory, decide_eq_true_eq] at directory ⊢
  rcases gains location with same | ⟨-, -, made⟩
  · rw [same, directory]
  · exact made

/-- More directories leave every path as it is. -/
theorem follow
    {components : List Path.Component}
    (gains : Gains before after places)
    (followed : before.follow location components = .ok found) :
    after.follow location components = .ok found := by
  induction components generalizing location with
  | nil => exact followed
  | cons component rest inductionHypothesis =>
      obtain ⟨directory, admitted⟩ := of_follow_cons followed
      rw [follow_cons directory admitted] at followed
      have still : after.Admits location component := by
        cases component with
        | root => trivial
        | parent => trivial
        | named name => exact ⟨admitted.1, gains.node?_ne_none admitted.2⟩
      rw [follow_cons (gains.hasDirectory directory) still]
      exact inductionHypothesis followed

end Gains

theorem gains_put
    {place : Location}
    (absent : tree.node? place = none) :
    Gains tree (tree.put place .directory) [place] := by
  intro location
  by_cases same : location = place
  · subst same
    have below : location ≠ [] := by
      rintro rfl
      cases absent
    exact .inr ⟨List.mem_singleton_self _, absent, node?_put_self below⟩
  · exact .inl (node?_put_of_ne same)

/-! ## One directory -/

theorem leadsToDirectory_iff :
    tree.leadsToDirectory reversed ↔
      ∃ location, tree.follow tree.current reversed.reverse = .ok location ∧
        tree.hasDirectory location := by
  rw [leadsToDirectory]
  cases tree.follow tree.current reversed.reverse <;> simp

/-- A directory is made under a new name in a directory that is already there. -/
theorem makeDirectory_eq_ok
    (made : tree.makeDirectory reversed = .ok after) :
    ∃ name earlier parent,
      reversed = .named name :: earlier ∧
      tree.follow tree.current earlier.reverse = .ok parent ∧
      tree.hasDirectory parent ∧ byteLength name ≤ nameLimit ∧
      tree.node? (parent ++ [name]) = none ∧
      after = tree.put (parent ++ [name]) .directory := by
  rw [makeDirectory.eq_def] at made
  split at made
  · next name earlier =>
    simp only [bind, Except.bind] at made
    split at made
    · cases made
    · next place located =>
      split_ifs at made with taken
      cases made
      obtain ⟨parent, followed, directory, short, rfl⟩ := locate_eq_ok located
      exact ⟨name, earlier, parent, rfl, followed, directory, short, by simpa using taken, rfl⟩
  · simp only [bind, Except.bind] at made
    split at made <;> cases made

theorem gains_makeDirectory
    (made : tree.makeDirectory reversed = .ok after) :
    Gains tree after [reversed.reverse.foldl Location.enter tree.current] := by
  obtain ⟨name, earlier, parent, rfl, followed, -, -, absent, rfl⟩ := makeDirectory_eq_ok made
  rw [List.reverse_cons, List.foldl_append, ← eq_foldl_of_follow followed]
  exact gains_put absent

/-- A directory that is made can be reached. -/
theorem leadsToDirectory_makeDirectory
    (made : tree.makeDirectory reversed = .ok after) :
    after.leadsToDirectory reversed := by
  have gains := gains_makeDirectory made
  obtain ⟨name, earlier, parent, rfl, followed, directory, short, absent, rfl⟩ :=
    makeDirectory_eq_ok made
  have below : parent ++ [name] ≠ [] := by simp
  have present := @node?_put_self tree (parent ++ [name]) .directory below
  have admitted :
      (tree.put (parent ++ [name]) .directory).Admits parent (.named name) :=
    ⟨short, by simp [present]⟩
  rw [leadsToDirectory_iff, List.reverse_cons, current_put, follow_append (gains.follow followed),
    follow_cons (gains.hasDirectory directory) admitted]
  exact ⟨_, rfl, by simp [FileTree.hasDirectory, Location.enter, present]⟩

theorem gains_ensureDirectory (reversed : List Path.Component) :
    Gains tree (tree.ensureDirectory reversed).1
      [reversed.reverse.foldl Location.enter tree.current] := by
  rw [ensureDirectory]
  split
  · next made => exact gains_makeDirectory made
  · exact .refl _ _

theorem leadsToDirectory_ensureDirectory
    (settled : tree.ensureDirectory reversed = (after, none)) :
    after.leadsToDirectory reversed := by
  rw [ensureDirectory] at settled
  split at settled
  · next made =>
    cases settled
    exact leadsToDirectory_makeDirectory made
  · split_ifs at settled with present
    · cases settled
      exact present
    · cases settled

theorem leadsToDirectory_of_requireDirectory
    (settled : tree.requireDirectory reversed = (after, none)) :
    after.leadsToDirectory reversed := by
  rw [requireDirectory] at settled
  rw [leadsToDirectory_iff]
  split at settled
  · next location followed =>
    split_ifs at settled with present
    · cases settled
      exact ⟨location, followed, present⟩
    · cases settled
  · cases settled

/-! ## All directories of a path -/

/-- Whether or not all directories can be made, those that are made lie along the path. -/
theorem gains_makeDirectoriesFrom (reversed : List Path.Component) :
    Gains tree (tree.makeDirectoriesFrom reversed).1 (tree.current.stations reversed.reverse) := by
  induction reversed with
  | nil => exact .refl _ _
  | cons last earlier inductionHypothesis =>
      have parts := tree.current.stations_append earlier.reverse [last]
      rw [← List.reverse_cons] at parts
      -- The last directory is made at the last station, all others at earlier ones.
      have lastStation :
          [(last :: earlier).reverse.foldl Location.enter tree.current] ⊆
            tree.current.stations (last :: earlier).reverse := by
        rw [parts, List.reverse_cons, List.foldl_append]
        exact List.subset_append_right _ _
      have above : Gains tree (tree.makeDirectoriesFrom earlier).1
          (tree.current.stations (last :: earlier).reverse) := by
        rw [parts]
        exact inductionHypothesis.mono (List.subset_append_left _ _)
      rw [makeDirectoriesFrom]
      split
      · split
        · next made settled =>
          have kept := @current_makeDirectoriesFrom tree earlier
          rw [settled] at above kept
          have final := @gains_ensureDirectory made (last :: earlier)
          rw [kept] at final
          exact above.trans (final.mono lastStation)
        · exact above
      · exact (gains_ensureDirectory _).mono lastStation

/-- The last directory is the last to be settled. -/
theorem leadsToDirectory_makeDirectoriesFrom
    {last : Path.Component}
    {earlier : List Path.Component}
    (settled : tree.makeDirectoriesFrom (last :: earlier) = (after, none)) :
    after.leadsToDirectory (last :: earlier) := by
  rw [makeDirectoriesFrom] at settled
  split at settled
  · split at settled
    · exact leadsToDirectory_ensureDirectory settled
    · next failed =>
      exact absurd settled (failed after)
  · exact leadsToDirectory_ensureDirectory settled

theorem gains_makeDirectories :
    Gains tree (tree.makeDirectories path).1 (tree.current.stations (Path.components path)) := by
  have whole := @gains_makeDirectoriesFrom tree (Path.components path).reverse
  rw [List.reverse_reverse] at whole
  have above : Gains tree (tree.makeDirectoriesFrom ((Path.components path).reverse.drop 1)).1
      (tree.current.stations (Path.components path)) := by
    have parts := tree.current.stations_append
      ((Path.components path).reverse.drop 1).reverse
      ((Path.components path).reverse.take 1).reverse
    rw [← List.reverse_append, List.take_append_drop, List.reverse_reverse] at parts
    rw [parts]
    exact (gains_makeDirectoriesFrom _).mono (List.subset_append_left _ _)
  rw [makeDirectories]
  split
  · exact .refl _ _
  · split_ifs
    · split
      · split
        · next made settled =>
          rw [settled] at above
          rwa [requireDirectory_fst]
        · exact above
      · rw [requireDirectory_fst]
        exact .refl _ _
    · exact whole

/-- A path that leads to a directory starts in one. -/
theorem hasDirectory_of_follow
    {components : List Path.Component}
    (followed : tree.follow location components = .ok found)
    (directory : tree.hasDirectory found) :
    tree.hasDirectory location := by
  cases components with
  | nil =>
      cases followed
      exact directory
  | cons component rest => exact (of_follow_cons followed).1

/-- A path that leads to a directory leads through directories. -/
theorem hasDirectory_stations
    {components : List Path.Component}
    (followed : tree.follow location components = .ok found)
    (directory : tree.hasDirectory found) :
    ∀ station ∈ location.stations components, tree.hasDirectory station := by
  induction components generalizing location with
  | nil =>
      intro station member
      cases member
  | cons component rest inductionHypothesis =>
      obtain ⟨start, admitted⟩ := of_follow_cons followed
      rw [follow_cons start admitted] at followed
      rw [Location.stations, List.forall_mem_cons]
      exact ⟨hasDirectory_of_follow followed directory, inductionHypothesis followed⟩

/-- Once the directories of a path are made, the path leads through directories. -/
theorem hasDirectory_makeDirectories
    (made : tree.makeDirectories path = (after, none)) :
    ∀ station ∈ tree.current.stations (Path.components path), after.hasDirectory station := by
  have kept := @current_makeDirectories tree path
  rw [made] at kept
  rcases nonempty : (Path.components path).reverse with _ | ⟨last, earlier⟩
  · rw [List.reverse_eq_nil_iff.mp nonempty]
    intro station member
    cases member
  · have leads : after.leadsToDirectory (Path.components path).reverse := by
      rw [makeDirectories] at made
      split at made
      · cases made
      · split_ifs at made
        · split at made
          · split at made
            · exact leadsToDirectory_of_requireDirectory made
            · next failed => exact absurd made (failed after)
          · exact leadsToDirectory_of_requireDirectory made
        · rw [nonempty] at made ⊢
          exact leadsToDirectory_makeDirectoriesFrom made
    obtain ⟨directoryPlace, followed, directory⟩ := leadsToDirectory_iff.mp leads
    rw [List.reverse_reverse, kept] at followed
    exact hasDirectory_stations followed directory

/-- Making the directory of a path succeeds only where nothing but directories stands along the
path, and then there are directories all along the path and nothing else has changed. -/
theorem node?_makeDirectories
    (made : tree.makeDirectories path = (after, none)) :
    (∀ station ∈ tree.current.stations (Path.components path),
      tree.node? station = none ∨ tree.node? station = some .directory) ∧
    ∀ location,
      after.node? location =
        if location ∈ tree.current.stations (Path.components path) then some .directory
        else tree.node? location := by
  have gains := @gains_makeDirectories tree path
  rw [made] at gains
  have directories := hasDirectory_makeDirectories made
  simp only [FileTree.hasDirectory, decide_eq_true_eq] at directories
  refine ⟨fun station member => ?_, fun location => ?_⟩
  · rcases gains station with same | ⟨-, absent, -⟩
    · exact .inr (same.symm.trans (directories station member))
    · exact .inl absent
  · split_ifs with member
    · exact directories location member
    · exact (gains location).resolve_right fun made => member made.1

end FileTree
end EntitySchema
