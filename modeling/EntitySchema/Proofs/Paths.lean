import EntitySchema.Proofs.FileTrees
import EntitySchema.Proofs.Lists
import Mathlib.Data.List.Induction

/-!
# Components of paths

A path can be read back from its components.  Joining paths appends their components, and the
normal form of an absolute path spells the location that its components lead to from the root.
The path from one location to another climbs to what they have in common and descends from there.
-/

namespace EntitySchema
namespace Path

/-! ## Segments -/

theorem segmentsFrom_eq_splitOnPPrepend (reversed text : List Char) :
    segmentsFrom reversed text = List.splitOnPPrepend (· == '/') text reversed := by
  induction text generalizing reversed with
  | nil => rfl
  | cons character rest inductionHypothesis =>
      rw [segmentsFrom, List.splitOnPPrepend, inductionHypothesis, inductionHypothesis]
      simp only [beq_iff_eq]

theorem segments_eq_splitOn (text : List Char) : segments text = text.splitOn '/' :=
  segmentsFrom_eq_splitOnPPrepend [] text

/-- A slash separates segments. -/
theorem segments_append_slash (first second : List Char) :
    segments (first ++ '/' :: second) = segments first ++ segments second := by
  simp only [segments_eq_splitOn, List.splitOn_append_cons_self]

theorem segments_of_plain
    {name : List Char}
    (plain : '/' ∉ name) :
    segments name = [name] := by
  rw [segments_eq_splitOn, List.splitOn_eq_singleton plain]

/-- Segments that are joined by slashes can be read back. -/
theorem segments_intercalate
    {names : List (List Char)}
    (plain : ∀ name ∈ names, '/' ∉ name)
    (nonempty : names ≠ []) :
    segments (List.intercalate ['/'] names) = names := by
  rw [segments_eq_splitOn, List.splitOn_intercalate '/' plain nonempty]

theorem plain_of_mem_segmentsFrom
    {reversed text segment : List Char}
    (plain : '/' ∉ reversed)
    (member : segment ∈ segmentsFrom reversed text) :
    '/' ∉ segment := by
  induction text generalizing reversed with
  | nil =>
      rw [segmentsFrom, List.mem_singleton] at member
      rwa [member, List.mem_reverse]
  | cons character rest inductionHypothesis =>
      rw [segmentsFrom] at member
      split_ifs at member with slash
      · rcases List.mem_cons.mp member with rfl | later
        · rwa [List.mem_reverse]
        · exact inductionHypothesis List.not_mem_nil later
      · refine inductionHypothesis ?_ member
        rw [List.mem_cons, not_or]
        exact ⟨Ne.symm slash, plain⟩

/-- No segment holds a slash. -/
theorem plain_of_mem_segments
    {text segment : List Char}
    (member : segment ∈ segments text) :
    '/' ∉ segment :=
  plain_of_mem_segmentsFrom List.not_mem_nil member

/-! ## Steps -/

/-- A component below the root whose text is one segment that stands for it. -/
def Component.IsStep (component : Component) : Prop :=
  '/' ∉ component.text ∧ segmentComponent? component.text = some component

theorem isStep_parent : Component.parent.IsStep := by
  refine ⟨?_, rfl⟩
  decide

theorem Component.IsStep.ne_root
    {component : Component}
    (step : component.IsStep) :
    component ≠ .root := by
  rintro rfl
  cases step.2

theorem Component.IsStep.text_ne_nil
    {component : Component}
    (step : component.IsStep) :
    component.text ≠ [] := by
  intro empty
  have read := step.2
  rw [empty] at read
  cases read

theorem text_of_segmentComponent?
    {segment : List Char}
    {component : Component}
    (read : segmentComponent? segment = some component) :
    component.text = segment := by
  rw [segmentComponent?] at read
  split_ifs at read with nothing parent
  · cases read
    exact parent.symm
  · cases read
    rfl

theorem isStep_of_segmentComponent?
    {segment : List Char}
    {component : Component}
    (plain : '/' ∉ segment)
    (read : segmentComponent? segment = some component) :
    component.IsStep := by
  rw [Component.IsStep, text_of_segmentComponent? read]
  exact ⟨plain, read⟩

/-- The components below the root of a text. -/
def stepsOfChars (text : List Char) : List Component :=
  (segments text).filterMap segmentComponent?

theorem isStep_of_mem_stepsOfChars
    {text : List Char}
    {component : Component}
    (member : component ∈ stepsOfChars text) :
    component.IsStep := by
  obtain ⟨segment, known, read⟩ := List.mem_filterMap.mp member
  exact isStep_of_segmentComponent? (plain_of_mem_segments known) read

@[simp] theorem stepsOfChars_nil : stepsOfChars [] = [] := rfl

theorem stepsOfChars_append_slash (first second : List Char) :
    stepsOfChars (first ++ '/' :: second) = stepsOfChars first ++ stepsOfChars second := by
  rw [stepsOfChars, segments_append_slash, List.filterMap_append]
  rfl

/-- The text of steps: their texts, joined by slashes. -/
def textOfSteps (steps : List Component) : List Char :=
  List.intercalate ['/'] (steps.map Component.text)

@[simp] theorem textOfSteps_singleton (component : Component) :
    textOfSteps [component] = component.text :=
  List.intercalate_singleton

theorem textOfSteps_cons
    (component : Component)
    {steps : List Component}
    (nonempty : steps ≠ []) :
    textOfSteps (component :: steps) = component.text ++ '/' :: textOfSteps steps := by
  rw [textOfSteps, List.map_cons, List.intercalate_singleton_cons '/' _ (by simpa using nonempty)]
  rfl

/-- Steps can be read back from their text. -/
theorem stepsOfChars_textOfSteps
    {steps : List Component}
    (proper : ∀ component ∈ steps, component.IsStep) :
    stepsOfChars (textOfSteps steps) = steps := by
  rcases steps.eq_nil_or_concat with rfl | ⟨front, last, shape⟩
  · rfl
  · have nonempty : steps.map Component.text ≠ [] := by simp [shape]
    have plain : ∀ name ∈ steps.map Component.text, '/' ∉ name := by
      rw [List.forall_mem_map]
      exact fun component member => (proper component member).1
    rw [stepsOfChars, textOfSteps, segments_intercalate plain nonempty, List.filterMap_map]
    have read : ∀ component ∈ steps,
        (segmentComponent? ∘ Component.text) component = some component :=
      fun component member => (proper component member).2
    rw [List.filterMap_congr read, List.filterMap_some]

/-! ## Absolute and relative texts -/

theorem isAbsoluteChars_of_plain
    {name : List Char}
    (plain : '/' ∉ name) :
    isAbsoluteChars name = false := by
  cases name with
  | nil => rfl
  | cons character rest =>
      rw [List.mem_cons, not_or] at plain
      rw [isAbsoluteChars.eq_def]
      split
      · next same => exact absurd (List.cons.inj same).1.symm plain.1
      · rfl

/-- Whether a path is absolute shows in its first character. -/
theorem isAbsoluteChars_append
    {first : List Char}
    (nonempty : first ≠ [])
    (second : List Char) :
    isAbsoluteChars (first ++ second) = isAbsoluteChars first := by
  cases first with
  | nil => exact absurd rfl nonempty
  | cons character rest =>
      rw [List.cons_append, isAbsoluteChars.eq_def, isAbsoluteChars.eq_def]
      by_cases slash : character = '/'
      · subst slash
        rfl
      · simp [slash]

theorem isAbsoluteChars_textOfSteps
    {steps : List Component}
    (proper : ∀ component ∈ steps, component.IsStep) :
    isAbsoluteChars (textOfSteps steps) = false := by
  cases steps with
  | nil => rfl
  | cons first rest =>
      have step := proper first List.mem_cons_self
      rcases eq_or_ne rest [] with rfl | nonempty
      · rw [textOfSteps_singleton, isAbsoluteChars_of_plain step.1]
      · rw [textOfSteps_cons first nonempty, isAbsoluteChars_append step.text_ne_nil,
          isAbsoluteChars_of_plain step.1]

theorem componentsOfChars_of_absolute
    {text : List Char}
    (absolute : isAbsoluteChars text = true) :
    componentsOfChars text = .root :: stepsOfChars text := by
  rw [componentsOfChars, if_pos absolute]
  rfl

theorem componentsOfChars_of_relative
    {text : List Char}
    (relative : isAbsoluteChars text = false) :
    componentsOfChars text = stepsOfChars text := by
  rw [componentsOfChars, relative]
  rfl

theorem head?_componentsOfChars (text : List Char) :
    (componentsOfChars text).head? = some .root ↔ isAbsoluteChars text = true := by
  cases absolute : isAbsoluteChars text with
  | true => simp [componentsOfChars_of_absolute absolute]
  | false =>
      rw [componentsOfChars_of_relative absolute]
      simp only [Bool.false_eq_true, iff_false]
      intro first
      exact (isStep_of_mem_stepsOfChars (List.mem_of_head? first)).ne_root rfl

theorem isAbsolute_iff_head? (path : String) :
    isAbsolute path ↔ (components path).head? = some .root :=
  (head?_componentsOfChars path.toList).symm

/-! ## Reading a path back -/

/-- The components of some path: perhaps the root, then steps. -/
def IsPath (components : List Component) : Prop :=
  ∃ steps, (∀ component ∈ steps, Component.IsStep component) ∧
    (components = steps ∨ components = .root :: steps)

theorem ofComponents_of_steps
    {steps : List Component}
    (proper : ∀ component ∈ steps, component.IsStep) :
    ofComponents steps = String.ofList (textOfSteps steps) := by
  cases steps with
  | nil => rfl
  | cons first rest =>
      cases first with
      | root => exact absurd rfl (proper .root List.mem_cons_self).ne_root
      | parent => rfl
      | named name => rfl

theorem ofComponents_root_cons (steps : List Component) :
    ofComponents (.root :: steps) = String.ofList ('/' :: textOfSteps steps) :=
  rfl

/-- A path can be read back from its components. -/
theorem components_ofComponents
    {list : List Component}
    (path : IsPath list) :
    components (ofComponents list) = list := by
  obtain ⟨steps, proper, rfl | rfl⟩ := path
  · rw [components, ofComponents_of_steps proper, String.toList_ofList,
      componentsOfChars_of_relative (isAbsoluteChars_textOfSteps proper),
      stepsOfChars_textOfSteps proper]
  · rw [components, ofComponents_root_cons, String.toList_ofList,
      componentsOfChars_of_absolute rfl]
    have below := stepsOfChars_append_slash [] (textOfSteps steps)
    rw [List.nil_append, stepsOfChars_nil, List.nil_append] at below
    rw [below, stepsOfChars_textOfSteps proper]

/-! ## Joined paths -/

/-- Following one path after another appends its components, unless it starts at the root. -/
theorem components_join (base path : String) :
    components (join base path) = joinComponents (components base) (components path) := by
  rw [components, components, components, join, String.toList_ofList, joinComponents, joinChars]
  cases absolute : isAbsoluteChars path.toList with
  | true =>
      rw [if_pos ((head?_componentsOfChars _).mpr absolute)]
      rfl
  | false =>
      have relative : (componentsOfChars path.toList).head? ≠ some .root := by
        rw [Ne, head?_componentsOfChars, absolute]
        exact Bool.false_ne_true
      rw [if_neg relative, Bool.false_or, componentsOfChars_of_relative absolute]
      split_ifs with empty slash
      · rw [List.isEmpty_iff.mp empty, componentsOfChars_of_relative absolute]
        rfl
      · -- The slash at the end of the directory is the one that separates the two paths.
        obtain ⟨front, ends⟩ := List.getLast?_eq_some_iff.mp slash
        have nonempty : base.toList ≠ [] := by simpa using empty
        rw [componentsOfChars, componentsOfChars, isAbsoluteChars_append nonempty,
          List.append_assoc]
        congr 1
        change stepsOfChars _ = stepsOfChars _ ++ _
        rw [ends, List.append_assoc, List.singleton_append, stepsOfChars_append_slash,
          stepsOfChars_append_slash, stepsOfChars_nil, List.append_nil]
      · have nonempty : base.toList ≠ [] := by simpa using empty
        rw [componentsOfChars, componentsOfChars, isAbsoluteChars_append nonempty,
          List.append_assoc]
        congr 1
        exact stepsOfChars_append_slash _ _

/-- A relative path adds its components to those of the directory. -/
theorem components_join_of_relative
    (base : String)
    {path : String}
    (relative : isAbsolute path = false) :
    components (join base path) = components base ++ components path := by
  have notRoot : (components path).head? ≠ some .root := by
    rw [Ne, ← isAbsolute_iff_head?, relative]
    exact Bool.false_ne_true
  rw [components_join, joinComponents, if_neg notRoot]

/-- A file name is one more component after those of its directory. -/
theorem components_join_file
    {base name : String}
    (plain : '/' ∉ name.toList)
    (proper : segmentComponent? name.toList = some (.named name.toList)) :
    components (join base name) = components base ++ [.named name.toList] := by
  have relative : isAbsolute name = false := isAbsoluteChars_of_plain plain
  have file : components name = [.named name.toList] := by
    rw [components, componentsOfChars_of_relative relative, stepsOfChars, segments_of_plain plain,
      List.filterMap_cons, proper]
    rfl
  rw [components_join_of_relative base relative, file]

/-- The path of the directory that holds a path; the root and the empty path have none. -/
def parent? (path : String) : Option String :=
  (parentComponents? (components path)).map ofComponents

/-! ## Locations -/

/-- The components of the absolute path to a location. -/
def placed (location : Location) : List Component :=
  .root :: location.map .named

/-- One step of normalization enters the component from the location that is spelled so far. -/
theorem step_placed (location : Location) (component : Component) :
    step (placed location).reverse component = (placed (location.enter component)).reverse := by
  cases component with
  | root => rfl
  | named name => simp [step, placed, Location.enter]
  | parent =>
      rcases location.eq_nil_or_concat with rfl | ⟨front, last, rfl⟩
      · rfl
      · simp [step, placed, Location.enter]

theorem foldl_step_placed (location : Location) (components : List Component) :
    components.foldl step (placed location).reverse =
      (placed (components.foldl Location.enter location)).reverse := by
  induction components generalizing location with
  | nil => rfl
  | cons component rest inductionHypothesis =>
      rw [List.foldl_cons, List.foldl_cons, step_placed, inductionHypothesis]

/-- The normal form of an absolute path spells the location that its components lead to. -/
theorem normalizeComponents_root_cons (steps : List Component) :
    normalizeComponents (.root :: steps) = placed (steps.foldl Location.enter []) := by
  rw [normalizeComponents, List.foldl_cons]
  have start : step [] .root = (placed []).reverse := rfl
  rw [start, foldl_step_placed, List.reverse_reverse]

theorem components_of_absolute
    {path : String}
    (absolute : isAbsolute path) :
    components path = .root :: stepsOfChars path.toList :=
  componentsOfChars_of_absolute absolute

theorem normalizeComponents_of_absolute
    {path : String}
    (absolute : isAbsolute path) :
    normalizeComponents (components path) = placed (Location.resolve [] path) := by
  rw [Location.resolve, components_of_absolute absolute, normalizeComponents_root_cons]
  rfl

theorem foldl_enter_named (location names : Location) :
    (names.map Component.named).foldl Location.enter location = location ++ names := by
  induction names generalizing location with
  | nil => rw [List.map_nil, List.foldl_nil, List.append_nil]
  | cons name rest inductionHypothesis =>
      rw [List.map_cons, List.foldl_cons, inductionHypothesis, Location.enter, List.append_assoc]
      rfl

/-- As many steps to the parent as there are names leave these names. -/
theorem foldl_enter_parent (location names : Location) :
    (List.replicate names.length Component.parent).foldl Location.enter (location ++ names) =
      location := by
  -- Each step leaves the last name, so the induction takes names from the end.
  induction names using List.reverseRecOn with
  | nil => exact List.append_nil location
  | append_singleton front last inductionHypothesis =>
      rw [List.length_append, List.length_singleton, List.replicate_succ, List.foldl_cons,
        Location.enter, ← List.append_assoc, List.dropLast_concat, inductionHypothesis]

/-! ## Names of locations -/

/-- Every name of a location can be the name of a component. -/
def HasStepNames (location : Location) : Prop :=
  ∀ name ∈ location, (Component.named name).IsStep

theorem HasStepNames.enter
    {location : Location}
    {component : Component}
    (names : HasStepNames location)
    (step : component.IsStep) :
    HasStepNames (location.enter component) := by
  intro name member
  cases component with
  | root => cases member
  | parent => exact names name (List.dropLast_subset _ member)
  | named entered =>
      rcases List.mem_append.mp member with known | new
      · exact names name known
      · rw [List.mem_singleton.mp new]
        exact step

theorem HasStepNames.foldl_enter
    {location : Location}
    {steps : List Component}
    (names : HasStepNames location)
    (proper : ∀ component ∈ steps, component.IsStep) :
    HasStepNames (steps.foldl Location.enter location) := by
  induction steps generalizing location with
  | nil => exact names
  | cons component rest inductionHypothesis =>
      rw [List.forall_mem_cons] at proper
      exact inductionHypothesis (names.enter proper.1) proper.2

theorem hasStepNames_resolve
    {path : String}
    (absolute : isAbsolute path) :
    HasStepNames (Location.resolve [] path) := by
  have start : HasStepNames [] := fun _ member => nomatch member
  rw [Location.resolve, components_of_absolute absolute, List.foldl_cons]
  exact start.foldl_enter fun _ => isStep_of_mem_stepsOfChars

theorem HasStepNames.isStep_of_mem_map
    {location : Location}
    {component : Component}
    (names : HasStepNames location)
    (member : component ∈ location.map Component.named) :
    component.IsStep := by
  obtain ⟨name, known, rfl⟩ := List.mem_map.mp member
  exact names name known

/-- The normal form of an absolute path is read as the location that it spells. -/
theorem components_normalize
    {path : String}
    (absolute : isAbsolute path) :
    components (normalize path) = placed (Location.resolve [] path) := by
  rw [normalize, normalizeComponents_of_absolute absolute]
  exact components_ofComponents
    ⟨_, fun _ => (hasStepNames_resolve absolute).isStep_of_mem_map, .inr rfl⟩

theorem isAbsolute_normalize
    {path : String}
    (absolute : isAbsolute path) :
    isAbsolute (normalize path) := by
  rw [isAbsolute_iff_head?, components_normalize absolute]
  rfl

/-- Normalization does not move an absolute path. -/
theorem resolve_normalize
    {path : String}
    (absolute : isAbsolute path) :
    Location.resolve [] (normalize path) = Location.resolve [] path := by
  rw [Location.resolve, components_normalize absolute, placed, List.foldl_cons]
  exact foldl_enter_named [] _

theorem resolve_join_of_relative
    (base : String)
    {path : String}
    (relative : isAbsolute path = false) :
    Location.resolve [] (join base path) =
      (components path).foldl Location.enter (Location.resolve [] base) := by
  rw [Location.resolve, components_join_of_relative base relative, List.foldl_append]
  rfl

theorem isAbsolute_join
    {base : String}
    (absolute : isAbsolute base)
    (path : String) :
    isAbsolute (join base path) := by
  rw [isAbsolute_iff_head?, components_join, joinComponents]
  split_ifs with again
  · exact again
  · rw [components_of_absolute absolute]
    rfl

/-- Absolute paths to one location have one normal form. -/
theorem normalize_eq_of_resolve_eq
    {first second : String}
    (firstAbsolute : isAbsolute first)
    (secondAbsolute : isAbsolute second)
    (same : Location.resolve [] first = Location.resolve [] second) :
    normalize first = normalize second := by
  rw [normalize, normalize, normalizeComponents_of_absolute firstAbsolute,
    normalizeComponents_of_absolute secondAbsolute, same]

/-! ## From one location to another -/

theorem exists_dropCommon [DecidableEq α] (source target : List α) :
    ∃ common,
      source = common ++ (dropCommon source target).1 ∧
        target = common ++ (dropCommon source target).2 := by
  induction source generalizing target with
  | nil => exact ⟨[], by simp [dropCommon]⟩
  | cons first rest inductionHypothesis =>
      cases target with
      | nil => exact ⟨[], by simp [dropCommon]⟩
      | cons second others =>
          rw [dropCommon]
          split_ifs with same
          · obtain ⟨common, source, target⟩ := inductionHypothesis others
            refine ⟨first :: common, ?_, ?_⟩
            · rw [List.cons_append, ← source]
            · rw [List.cons_append, ← target, same]
          · exact ⟨[], rfl, rfl⟩

/-- Two locations are left and entered below what they have in common. -/
theorem relativeComponents_placed (source target : Location) :
    ∃ common behind ahead,
      source = common ++ behind ∧ target = common ++ ahead ∧
        relativeComponents (placed source) (placed target) =
          List.replicate behind.length .parent ++ ahead.map .named := by
  obtain ⟨common, left, entered⟩ :=
    exists_dropCommon (source.map Component.named) (target.map Component.named)
  obtain ⟨sameSource, behind, rfl, sourceCommon, leaving⟩ := List.map_eq_append_iff.mp left
  obtain ⟨sameTarget, ahead, rfl, targetCommon, entering⟩ := List.map_eq_append_iff.mp entered
  have injective : Function.Injective Component.named := fun _ _ => Component.named.inj
  have same : sameSource = sameTarget :=
    List.map_injective_iff.mpr injective (sourceCommon.trans targetCommon.symm)
  refine ⟨sameSource, behind, ahead, rfl, by rw [same], ?_⟩
  have stripped :
      dropCommon (placed (sameSource ++ behind)) (placed (sameTarget ++ ahead)) =
        (behind.map Component.named, ahead.map Component.named) := by
    rw [placed, placed, dropCommon, if_pos rfl]
    exact Prod.ext leaving.symm entering.symm
  -- Names are entered, never the root, so the path does not start afresh.
  have entersNames : (ahead.map Component.named).head? ≠ some .root := by
    cases ahead <;> simp
  rw [relativeComponents, stripped]
  simp only [if_neg entersNames, List.map_map]
  congr 1
  exact List.map_const'

/-- The path from one absolute path to another consists of steps that lead there. -/
theorem relative_of_absolute
    {source target : String}
    (sourceAbsolute : isAbsolute source)
    (targetAbsolute : isAbsolute target) :
    ∃ steps,
      (∀ component ∈ steps, component.IsStep) ∧
        relative source target = ofComponents steps ∧
          steps.foldl Location.enter (Location.resolve [] source) =
            Location.resolve [] target := by
  obtain ⟨common, behind, ahead, left, entered, shape⟩ :=
    relativeComponents_placed (Location.resolve [] source) (Location.resolve [] target)
  refine ⟨List.replicate behind.length .parent ++ ahead.map .named, ?_, ?_, ?_⟩
  · intro component member
    rcases List.mem_append.mp member with climbing | entering
    · rw [List.eq_of_mem_replicate climbing]
      exact isStep_parent
    · have names := hasStepNames_resolve targetAbsolute
      rw [entered] at names
      have aheadNames : HasStepNames ahead :=
        fun name member => names name (List.mem_append_right _ member)
      exact aheadNames.isStep_of_mem_map entering
  · rw [relative, normalizeComponents_of_absolute sourceAbsolute,
      normalizeComponents_of_absolute targetAbsolute, shape]
  · rw [List.foldl_append, left, foldl_enter_parent, foldl_enter_named, entered]

/-- The path to an absolute path is the path to its normal form. -/
theorem relative_normalize
    {source target : String}
    (absolute : isAbsolute target) :
    relative source (normalize target) = relative source target := by
  rw [relative, relative, normalizeComponents_of_absolute (isAbsolute_normalize absolute),
    resolve_normalize absolute, normalizeComponents_of_absolute absolute]

/-! ## Parents -/

/-- Every absolute path but the root has an absolute parent. -/
theorem exists_parent
    {path : String}
    (absolute : isAbsolute path)
    (below : components path ≠ [.root]) :
    ∃ parent,
      parentComponents? (components path) = some (components parent) ∧
        parent? path = some parent ∧ isAbsolute parent := by
  rw [parent?, components_of_absolute absolute] at *
  rcases (stepsOfChars path.toList).eq_nil_or_concat' with empty | ⟨front, last, shape⟩
  · rw [empty] at below
    exact absurd rfl below
  · have proper : ∀ component ∈ front ++ [last], component.IsStep := by
      rw [← shape]
      exact fun _ => isStep_of_mem_stepsOfChars
    have found : parentComponents? (.root :: (front ++ [last])) = some (.root :: front) := by
      have step := proper last (by simp)
      rw [parentComponents?, ← List.cons_append, List.getLast?_concat, List.dropLast_concat]
      cases last with
      | root => exact absurd rfl step.ne_root
      | parent => rfl
      | named name => rfl
    have read : components (ofComponents (.root :: front)) = .root :: front := by
      refine components_ofComponents ⟨front, ?_, .inr rfl⟩
      exact fun component member => proper component (List.mem_append_left _ member)
    refine ⟨ofComponents (.root :: front), ?_, ?_, ?_⟩
    · rw [shape, read, found]
    · rw [shape, found]
      rfl
    · rw [isAbsolute_iff_head?, read]
      rfl

end Path
end EntitySchema
