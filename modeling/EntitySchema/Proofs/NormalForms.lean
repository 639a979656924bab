import EntitySchema.Proofs.Paths

/-!
# Normal forms of paths

In a normal form only names follow the root, and only names follow the steps to the parent that are
left.  Normal forms stay as they are under further normalization.  A path that does not climb out of
the directory where it starts can be normalized without looking at that directory.
-/

namespace EntitySchema
namespace Path

/-! ## Shape -/

/-- Components in normal form: a location below the root, or steps to the parent before names. -/
inductive IsNormal : List Component → Prop
  | absolute (location : Location) : IsNormal (placed location)
  | relative (climbs : Nat) (names : Location) :
      IsNormal (List.replicate climbs .parent ++ names.map .named)

theorem isNormal_nil : IsNormal [] :=
  .relative 0 []

/-- One step of normalization leads from a normal form to a normal form. -/
theorem IsNormal.step
    {list : List Component}
    (normal : IsNormal list)
    (component : Component) :
    IsNormal (Path.step list.reverse component).reverse := by
  cases normal with
  | absolute location =>
      rw [step_placed, List.reverse_reverse]
      exact .absolute _
  | relative climbs names =>
      cases component with
      | root => exact .absolute []
      | named name =>
          have longer : IsNormal
              (List.replicate climbs .parent ++ (names ++ [name]).map .named) :=
            .relative climbs (names ++ [name])
          simpa [Path.step] using longer
      | parent =>
          -- The step undoes the last name, and is kept where no name is left.
          rcases names.eq_nil_or_concat' with rfl | ⟨front, last, rfl⟩
          · have higher := IsNormal.relative (climbs + 1) []
            rw [List.map_nil, List.append_nil] at higher ⊢
            cases climbs with
            | zero => exact higher
            | succ count =>
                rw [List.reverse_replicate, List.replicate_succ]
                simpa [Path.step, ← List.replicate_succ] using higher
          · have shorter := IsNormal.relative climbs front
            simpa [Path.step] using shorter

theorem IsNormal.foldl_step
    {list : List Component}
    (normal : IsNormal list)
    (components : List Component) :
    IsNormal (components.foldl Path.step list.reverse).reverse := by
  induction components generalizing list with
  | nil =>
      rw [List.foldl_nil, List.reverse_reverse]
      exact normal
  | cons component rest inductionHypothesis =>
      rw [List.foldl_cons, ← List.reverse_reverse (Path.step list.reverse component)]
      exact inductionHypothesis (normal.step component)

/-- Normalization leads to a normal form. -/
theorem isNormal_normalizeComponents (components : List Component) :
    IsNormal (normalizeComponents components) :=
  isNormal_nil.foldl_step components

/-! ## Normal forms are kept -/

theorem foldl_step_replicate_parent (climbs more : Nat) :
    (List.replicate more .parent).foldl step (List.replicate climbs .parent) =
      List.replicate (climbs + more) .parent := by
  induction more generalizing climbs with
  | zero => rfl
  | succ count inductionHypothesis =>
      have climbed : step (List.replicate climbs .parent) .parent =
          List.replicate (climbs + 1) .parent := by
        cases climbs <;> rfl
      rw [List.replicate_succ, List.foldl_cons, climbed, inductionHypothesis]
      congr 1
      omega

theorem foldl_step_named (reversed : List Component) (names : Location) :
    (names.map Component.named).foldl step reversed =
      (names.map Component.named).reverse ++ reversed := by
  induction names generalizing reversed with
  | nil => rfl
  | cons name rest inductionHypothesis =>
      rw [List.map_cons, List.foldl_cons, inductionHypothesis, step, List.reverse_cons,
        List.append_assoc]
      rfl

/-- A normal form is its own normal form. -/
theorem IsNormal.normalizeComponents_eq
    {list : List Component}
    (normal : IsNormal list) :
    normalizeComponents list = list := by
  cases normal with
  | absolute location =>
      rw [placed, normalizeComponents_root_cons, foldl_enter_named]
      rfl
  | relative climbs names =>
      have climbed := foldl_step_replicate_parent 0 climbs
      rw [List.replicate_zero, Nat.zero_add] at climbed
      rw [normalizeComponents, List.foldl_append, climbed, foldl_step_named]
      simp

/-! ## Reading a normal form back -/

theorem mem_of_mem_foldl_step
    {reversed components : List Component}
    {component : Component}
    (member : component ∈ components.foldl step reversed) :
    component ∈ reversed ∨ component ∈ components := by
  induction components generalizing reversed with
  | nil => exact .inl member
  | cons first rest inductionHypothesis =>
      rw [List.foldl_cons] at member
      rcases inductionHypothesis member with early | late
      · have origin : component ∈ reversed ∨ component = first := by
          cases first with
          | root => exact .inr (List.mem_singleton.mp early)
          | named name => exact (List.mem_cons.mp early).symm
          | parent =>
              rw [step.eq_def] at early
              dsimp only at early
              split at early
              · exact .inl (List.mem_cons_of_mem _ early)
              · exact .inl early
              · exact (List.mem_cons.mp early).symm
        rcases origin with known | rfl
        · exact .inl known
        · exact .inr List.mem_cons_self
      · exact .inr (List.mem_cons_of_mem _ late)

/-- Normalization brings in no components. -/
theorem normalizeComponents_subset (components : List Component) :
    normalizeComponents components ⊆ components := by
  intro component member
  rw [normalizeComponents, List.mem_reverse] at member
  exact (mem_of_mem_foldl_step member).resolve_left List.not_mem_nil

theorem IsPath.isStep
    {list : List Component}
    (path : IsPath list)
    {component : Component}
    (member : component ∈ list)
    (below : component ≠ .root) :
    component.IsStep := by
  obtain ⟨steps, proper, rfl | rfl⟩ := path
  · exact proper component member
  · exact proper component ((List.mem_cons.mp member).resolve_left below)

theorem isPath_components (path : String) : IsPath (components path) := by
  refine ⟨stepsOfChars path.toList, fun _ => isStep_of_mem_stepsOfChars, ?_⟩
  cases absolute : isAbsoluteChars path.toList with
  | true => exact .inr (componentsOfChars_of_absolute absolute)
  | false => exact .inl (componentsOfChars_of_relative absolute)

theorem IsPath.normalizeComponents
    {list : List Component}
    (path : IsPath list) :
    IsPath (normalizeComponents list) := by
  have isStep : ∀ component ∈ Path.normalizeComponents list, component ≠ .root → component.IsStep :=
    fun component member => path.isStep (normalizeComponents_subset list member)
  generalize Path.normalizeComponents list = form,
    isNormal_normalizeComponents list = normal at isStep ⊢
  cases normal with
  | absolute location =>
      refine ⟨location.map .named, fun component member => ?_, .inr rfl⟩
      refine isStep component (List.mem_cons_of_mem _ member) ?_
      rintro rfl
      simp at member
  | relative climbs names =>
      refine ⟨_, fun component member => ?_, .inl rfl⟩
      refine isStep component member ?_
      rintro rfl
      simp at member

/-- The normal form of a path is read as the normal form of its components. -/
theorem components_normalize_eq (path : String) :
    components (normalize path) = normalizeComponents (components path) :=
  components_ofComponents (isPath_components path).normalizeComponents

/-! ## Paths that stay below their start -/

theorem parent_mem_step
    {reversed : List Component}
    (climbed : Component.parent ∈ reversed)
    {component : Component}
    (below : component ≠ .root) :
    Component.parent ∈ step reversed component := by
  cases component with
  | root => exact absurd rfl below
  | named name => exact List.mem_cons_of_mem _ climbed
  | parent =>
      rw [step.eq_def]
      dsimp only
      split
      · simpa using climbed
      · exact climbed
      · exact List.mem_cons_self

/-- Once a step to the parent is kept, no later step undoes it. -/
theorem parent_mem_foldl_step
    {reversed steps : List Component}
    (climbed : Component.parent ∈ reversed)
    (below : Component.root ∉ steps) :
    Component.parent ∈ steps.foldl step reversed := by
  induction steps generalizing reversed with
  | nil => exact climbed
  | cons component rest inductionHypothesis =>
      rw [List.mem_cons, not_or] at below
      exact inductionHypothesis (parent_mem_step climbed (Ne.symm below.1)) below.2

/-- A step that keeps no step to the parent only looks at what was entered before it. -/
theorem step_append
    {inner : List Component}
    {component : Component}
    (below : component ≠ .root)
    (stays : Component.parent ∉ step inner component)
    (outer : List Component) :
    step (inner ++ outer) component = step inner component ++ outer := by
  cases component with
  | root => exact absurd rfl below
  | named name => rfl
  | parent =>
      cases inner with
      | nil => simp [step] at stays
      | cons first earlier =>
          cases first with
          | root => rfl
          | named name => rfl
          | parent => simp [step] at stays

theorem foldl_step_append
    {inner steps : List Component}
    (below : Component.root ∉ steps)
    (stays : Component.parent ∉ steps.foldl step inner)
    (outer : List Component) :
    steps.foldl step (inner ++ outer) = steps.foldl step inner ++ outer := by
  induction steps generalizing inner with
  | nil => rfl
  | cons component rest inductionHypothesis =>
      rw [List.mem_cons, not_or] at below
      rw [List.foldl_cons] at stays ⊢
      have staysNow : Component.parent ∉ step inner component :=
        fun climbed => stays (parent_mem_foldl_step climbed below.2)
      rw [step_append (Ne.symm below.1) staysNow, inductionHypothesis below.2 stays]
      rfl

/-- Steps that do not climb out of a directory are normalized by themselves. -/
theorem normalizeComponents_append
    (base : List Component)
    {steps : List Component}
    (below : Component.root ∉ steps)
    (stays : Component.parent ∉ normalizeComponents steps) :
    normalizeComponents (base ++ steps) =
      normalizeComponents base ++ normalizeComponents steps := by
  rw [normalizeComponents, List.mem_reverse] at stays
  have folded := foldl_step_append below stays (base.foldl step [])
  rw [List.nil_append] at folded
  rw [normalizeComponents, List.foldl_append, folded, List.reverse_append]
  rfl

end Path
end EntitySchema
