import EntitySchema.Proofs.RelativePaths

/-!
# Lexical resolution

The normal form of a path can stand in for the path.  It is absolute when the path is, and it leads
to the same place from every directory: a step to the parent that is left in it undoes whatever that
directory ends with, as the step that it comes from did.
-/

namespace EntitySchema
namespace Path

/-! ## Following a normal form -/

/-- A step that is made on components before they are followed might as well be made after them,
whatever lies below. -/
theorem foldl_step_step
    (outer list : List Component)
    (component : Component) :
    (step list.reverse component).reverse.foldl step outer =
      step (list.foldl step outer) component := by
  cases component with
  | root => rfl
  | named name => simp [step]
  | parent =>
      -- What the step does depends on the last component only, and that is followed last.
      rcases list.eq_nil_or_concat' with rfl | ⟨front, last, rfl⟩
      · rfl
      · cases last <;> simp [step]

/-- To reduce components on top of others and follow the result from a place is to follow the
others from there and then the components. -/
theorem foldl_step_foldl_step
    (outer reversed components : List Component) :
    (components.foldl step reversed).reverse.foldl step outer =
      components.foldl step (reversed.reverse.foldl step outer) := by
  induction components generalizing reversed with
  | nil => rfl
  | cons component rest inductionHypothesis =>
      have first := foldl_step_step outer reversed.reverse component
      rw [List.reverse_reverse] at first
      rw [List.foldl_cons, inductionHypothesis, first, List.foldl_cons]

/-- From every directory the normal form of a path leads where the path leads. -/
theorem normalizeComponents_append_normalizeComponents (base components : List Component) :
    normalizeComponents (base ++ normalizeComponents components) =
      normalizeComponents (base ++ components) := by
  have followed := foldl_step_foldl_step (base.foldl step []) [] components
  rw [normalizeComponents, List.foldl_append, normalizeComponents, followed, normalizeComponents,
    List.foldl_append]
  rfl

/-! ## Absolute and relative normal forms -/

theorem isAbsolute_normalize_eq (path : String) :
    isAbsolute (normalize path) = isAbsolute path := by
  cases absolute : isAbsolute path with
  | true => exact isAbsolute_normalize absolute
  | false =>
      rw [isAbsolute_eq_false_iff, components_normalize_eq]
      exact fun member => root_not_mem_components absolute (normalizeComponents_subset _ member)

/-- A directory and a normal form lead where the directory and the path lead. -/
theorem normalize_join_normalize (base path : String) :
    normalize (join base (normalize path)) = normalize (join base path) := by
  rw [normalize_eq_iff]
  cases absolute : isAbsolute path with
  | true =>
      have again := isAbsolute_normalize absolute
      rw [components_join, components_join, joinComponents, joinComponents,
        if_pos ((isAbsolute_iff_head? _).mp again), if_pos ((isAbsolute_iff_head? _).mp absolute),
        components_normalize_eq, (isNormal_normalizeComponents _).normalizeComponents_eq]
  | false =>
      have again : isAbsolute (normalize path) = false := by
        rw [isAbsolute_normalize_eq, absolute]
      rw [components_join_of_relative base again, components_join_of_relative base absolute,
        components_normalize_eq, normalizeComponents_append_normalizeComponents]

/-! ## Spelling -/

theorem Component.IsStep.text_ne_dot
    {component : Component}
    (step : component.IsStep) :
    component.text ≠ ['.'] := by
  intro dot
  have read := step.2
  rw [dot] at read
  cases read

theorem Component.IsStep.name_ne_dots
    {name : List Char}
    (step : (Component.named name).IsStep) :
    name ≠ ['.', '.'] := by
  rintro rfl
  cases step.2

/-- Steps are spelled without dots that stand for nothing. -/
theorem dot_not_mem_segments_textOfSteps
    {steps : List Component}
    (proper : ∀ component ∈ steps, component.IsStep) :
    ['.'] ∉ segments (textOfSteps steps) := by
  rcases eq_or_ne steps [] with rfl | nonempty
  · decide
  · have plain : ∀ name ∈ steps.map Component.text, '/' ∉ name := by
      rw [List.forall_mem_map]
      exact fun component member => (proper component member).1
    rw [textOfSteps, segments_intercalate plain (by simpa using nonempty)]
    intro member
    obtain ⟨component, known, dot⟩ := List.mem_map.mp member
    exact (proper component known).text_ne_dot dot

theorem IsPath.dot_not_mem_segments
    {list : List Component}
    (path : IsPath list) :
    ['.'] ∉ segments (ofComponents list).toList := by
  obtain ⟨steps, proper, rfl | rfl⟩ := path
  · rw [ofComponents_of_steps proper, String.toList_ofList]
    exact dot_not_mem_segments_textOfSteps proper
  · have below := segments_append_slash [] (textOfSteps steps)
    rw [List.nil_append] at below
    rw [ofComponents_root_cons, String.toList_ofList, below, List.mem_append, not_or]
    exact ⟨by decide, dot_not_mem_segments_textOfSteps proper⟩

/-- A normal form is the root or some steps to the parent, and names behind them. -/
theorem exists_components_normalize (path : String) :
    ∃ (climbs : Nat) (names : Location),
      components (normalize path) =
        (if isAbsolute path then [.root] else List.replicate climbs .parent) ++
          names.map .named := by
  rw [components_normalize_eq]
  cases absolute : isAbsolute path with
  | true => exact ⟨0, _, normalizeComponents_of_absolute absolute⟩
  | false =>
      have below : Component.root ∉ normalizeComponents (components path) :=
        fun member => root_not_mem_components absolute (normalizeComponents_subset _ member)
      generalize normalizeComponents (components path) = form,
        isNormal_normalizeComponents (components path) = normal at below ⊢
      cases normal with
      | absolute location => exact absurd List.mem_cons_self below
      | relative climbs names => exact ⟨climbs, names, rfl⟩

/-- The normal form of a path is the root, for absolute paths only, or else any number of steps to
the parent, followed by names; no name is empty or made of one or two dots, and no segment of its
text is a single dot.  It is its own normal form, it is absolute exactly when the path is, and
following it from any directory leads to the same place as following the path. -/
theorem normal_form_resolves_alike (path : String) :
    (∃ (climbs : Nat) (names : List (List Char)),
      components (normalize path) =
        (if isAbsolute path then [.root] else List.replicate climbs .parent) ++
          names.map .named ∧
      ∀ name ∈ names, name ≠ [] ∧ name ≠ ['.'] ∧ name ≠ ['.', '.'] ∧ '/' ∉ name) ∧
    ['.'] ∉ segments (normalize path).toList ∧
    normalize (normalize path) = normalize path ∧
    (isAbsolute path ↔ isAbsolute (normalize path)) ∧
    ∀ base, normalize (join base (normalize path)) = normalize (join base path) := by
  refine ⟨?_, ?_, ?_, ?_, fun base => normalize_join_normalize base path⟩
  · obtain ⟨climbs, names, shape⟩ := exists_components_normalize path
    refine ⟨climbs, names, shape, fun name member => ?_⟩
    have known : Component.named name ∈ components (normalize path) := by
      rw [shape]
      exact List.mem_append_right _ (List.mem_map_of_mem member)
    have step : (Component.named name).IsStep :=
      (isPath_components _).isStep known (by simp)
    exact ⟨step.text_ne_nil, step.text_ne_dot, step.name_ne_dots, step.1⟩
  · exact (isPath_components path).normalizeComponents.dot_not_mem_segments
  · rw [normalize_eq_iff, components_normalize_eq,
      (isNormal_normalizeComponents _).normalizeComponents_eq]
  · rw [isAbsolute_normalize_eq]

example :
    normalize (join "/repo/prisma" (normalize "./a/../..//src/./zod")) = "/repo/src/zod" := by
  decide

end Path
end EntitySchema
