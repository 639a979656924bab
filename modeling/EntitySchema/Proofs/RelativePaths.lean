import EntitySchema.Proofs.Relocation

/-!
# Following relative paths

The path from one directory to another place climbs once for each component that it leaves.  That
leads to the place exactly when every component that it leaves is a name: a step up does not undo a
step up.  Absolute paths have no steps up in their normal forms, so between them it always works.
-/

namespace EntitySchema
namespace Path

/-! ## The longest common start -/

/-- Where two lists differ, their common start ends. -/
theorem ne_of_dropCommon [DecidableEq α]
    {source target behind ahead : List α}
    {first second : α}
    (dropped : dropCommon source target = (first :: behind, second :: ahead)) :
    first ≠ second := by
  induction source generalizing target with
  | nil => simp [dropCommon] at dropped
  | cons head tail inductionHypothesis =>
      cases target with
      | nil => simp [dropCommon] at dropped
      | cons other others =>
          rw [dropCommon] at dropped
          split_ifs at dropped with same
          · exact inductionHypothesis dropped
          · cases dropped
            exact same

/-- Dropping the longest common start of two lists leaves what follows it in each of them. -/
theorem exists_longest_of_dropCommon [DecidableEq α]
    {source target behind ahead : List α}
    (dropped : dropCommon source target = (behind, ahead)) :
    ∃ common,
      source = common ++ behind ∧ target = common ++ ahead ∧
        (∀ start, start <+: source → start <+: target → start <+: common) ∧
          ∀ first ∈ behind.head?, first ∉ ahead.head? := by
  obtain ⟨common, left, right⟩ := exists_dropCommon source target
  rw [dropped] at left right
  have differ : ∀ first ∈ behind.head?, first ∉ ahead.head? := by
    intro first leaves enters
    obtain ⟨_, rfl⟩ := List.head?_eq_some_iff.mp leaves
    obtain ⟨_, rfl⟩ := List.head?_eq_some_iff.mp enters
    exact ne_of_dropCommon dropped rfl
  refine ⟨common, left, right, ?_, differ⟩
  intro start ofSource ofTarget
  rw [left] at ofSource
  rw [right] at ofTarget
  exact List.prefix_of_differ differ ofSource ofTarget

/-! ## Parts of normal forms -/

/-- In a normal form no step to the parent stands behind anything else. -/
theorem IsNormal.parent_not_mem
    {front rest : List Component}
    {component : Component}
    (normal : IsNormal (front ++ component :: rest))
    (other : component ≠ .parent) :
    Component.parent ∉ rest := by
  generalize whole : front ++ component :: rest = list at normal
  cases normal with
  | absolute location =>
      intro member
      have present : Component.parent ∈ placed location := by
        rw [← whole]
        exact List.mem_append_right _ (List.mem_cons_of_mem _ member)
      simp [placed] at present
  | relative climbs names =>
      induction climbs generalizing front with
      | zero =>
          intro member
          have present : Component.parent ∈ names.map Component.named := by
            rw [List.replicate_zero, List.nil_append] at whole
            rw [← whole]
            exact List.mem_append_right _ (List.mem_cons_of_mem _ member)
          simp at present
      | succ count inductionHypothesis =>
          rw [List.replicate_succ, List.cons_append] at whole
          cases front with
          | nil => exact absurd (List.cons.inj whole).1 other
          | cons _ tail => exact inductionHypothesis (List.cons.inj whole).2

/-- The start of a normal form is a normal form. -/
theorem IsNormal.of_append
    {front back : List Component}
    (normal : IsNormal (front ++ back)) :
    IsNormal front := by
  generalize whole : front ++ back = list at normal
  cases normal with
  | absolute location =>
      cases front with
      | nil => exact isNormal_nil
      | cons first rest =>
          obtain ⟨rfl, below⟩ := List.cons.inj whole
          obtain ⟨names, -, -, rfl, -⟩ := List.map_eq_append_iff.mp below.symm
          exact .absolute names
  | relative climbs names =>
      rcases List.append_eq_append_iff.mp whole with ⟨middle, climbing, -⟩ | ⟨middle, rfl, entering⟩
      · obtain ⟨-, frontClimbs, -⟩ := List.append_eq_replicate_iff.mp climbing.symm
        rw [frontClimbs]
        simpa using IsNormal.relative front.length []
      · obtain ⟨entered, -, -, rfl, -⟩ := List.map_eq_append_iff.mp entering
        exact .relative climbs entered

theorem IsNormal.foldl_step_eq
    {list : List Component}
    (normal : IsNormal list) :
    list.foldl Path.step [] = list.reverse := by
  rw [← List.reverse_inj, List.reverse_reverse]
  exact normal.normalizeComponents_eq

/-- A list that has a step to the parent behind a common start, in a normal form, has more of them
than a normal form that goes on otherwise. -/
theorem count_parent_lt
    {common behind ahead : List Component}
    (sourceNormal : IsNormal (common ++ behind))
    (targetNormal : IsNormal (common ++ ahead))
    (differ : ∀ first ∈ behind.head?, first ∉ ahead.head?)
    (climbs : Component.parent ∈ behind) :
    (common ++ ahead).count .parent < (common ++ behind).count .parent := by
  have leaves : behind.head? = some .parent := by
    cases behind with
    | nil => cases climbs
    | cons first rest =>
        by_contra other
        rw [List.head?_cons, Option.some_inj] at other
        exact (List.mem_cons.mp climbs).elim (Ne.symm other) (sourceNormal.parent_not_mem other)
  have entersNames : Component.parent ∉ ahead := by
    cases ahead with
    | nil => exact List.not_mem_nil
    | cons first rest =>
        have other : first ≠ .parent := by
          rintro rfl
          exact differ .parent leaves rfl
        rw [List.mem_cons, not_or]
        exact ⟨Ne.symm other, targetNormal.parent_not_mem other⟩
  rw [List.count_append, List.count_append, List.count_eq_zero.mpr entersNames]
  have climbing := List.count_pos_iff.mpr climbs
  omega

/-! ## Steps after a normal form -/

/-- Steps that do not start afresh undo no step to the parent. -/
theorem count_parent_le_foldl_step
    {reversed steps : List Component}
    (below : Component.root ∉ steps) :
    reversed.count .parent ≤ (steps.foldl step reversed).count .parent := by
  induction steps generalizing reversed with
  | nil => exact Nat.le_refl _
  | cons component rest inductionHypothesis =>
      rw [List.mem_cons, not_or] at below
      refine Nat.le_trans ?_ (inductionHypothesis below.2)
      cases component with
      | root => exact absurd rfl below.1
      | named name => exact List.count_le_count_cons
      | parent =>
          rw [step.eq_def]
          dsimp only
          split
          · rw [List.count_cons_of_ne (by simp)]
          · exact Nat.le_refl _
          · exact List.count_le_count_cons

/-- As many steps to the parent as there are names undo these names. -/
theorem foldl_step_parent_names
    {behind : List Component}
    (outer : List Component)
    (names : ∀ component ∈ behind, ∃ name, component = .named name) :
    (behind.map fun _ => Component.parent).foldl step (behind.reverse ++ outer) = outer := by
  induction behind using List.reverseRecOn with
  | nil => rfl
  | append_singleton front last inductionHypothesis =>
      obtain ⟨name, rfl⟩ := names last (by simp)
      -- The step that is written last may as well be made first, for all of them are alike.
      have climbing : (front ++ [Component.named name]).map (fun _ => Component.parent) =
          .parent :: front.map fun _ => Component.parent := by
        rw [List.map_const', List.map_const', List.length_append]
        rfl
      rw [climbing, List.foldl_cons, List.reverse_concat]
      exact inductionHypothesis fun component member => names component (by simp [member])

/-- Climbing once for each component that is left, and entering the others, leads from one normal
form to another exactly when no step to the parent is left. -/
theorem foldl_step_relative_eq_iff
    {common behind ahead : List Component}
    (sourceNormal : IsNormal (common ++ behind))
    (targetNormal : IsNormal (common ++ ahead))
    (differ : ∀ first ∈ behind.head?, first ∉ ahead.head?)
    (behindBelow : Component.root ∉ behind)
    (aheadBelow : Component.root ∉ ahead) :
    ((behind.map fun _ => Component.parent) ++ ahead).foldl step (common ++ behind).reverse =
        (common ++ ahead).reverse ↔
      Component.parent ∉ behind := by
  constructor
  · intro arrives climbs
    have fewer := count_parent_lt sourceNormal targetNormal differ climbs
    have kept := @count_parent_le_foldl_step (common ++ behind).reverse
      ((behind.map fun _ => Component.parent) ++ ahead) (by simp [aheadBelow])
    rw [arrives, List.count_reverse, List.count_reverse] at kept
    omega
  · intro stays
    have names : ∀ component ∈ behind, ∃ name, component = .named name := by
      intro component member
      cases component with
      | root => exact absurd member behindBelow
      | parent => exact absurd member stays
      | named name => exact ⟨name, rfl⟩
    have entering := targetNormal.foldl_step_eq
    rw [List.foldl_append, targetNormal.of_append.foldl_step_eq] at entering
    rw [List.foldl_append, List.reverse_append, foldl_step_parent_names _ names, entering]

/-! ## Relative paths -/

variable
  {source target : String}
  {behind ahead : List Component}

theorem root_not_mem_of_suffix
    {path : String}
    {common : List Component}
    (relative : isAbsolute path = false)
    (shape : normalizeComponents (components path) = common ++ behind) :
    Component.root ∉ behind := by
  intro member
  refine root_not_mem_components relative (normalizeComponents_subset _ ?_)
  rw [shape]
  exact List.mem_append_right _ member

/-- Behind their longest common start two paths of one kind hold no root. -/
theorem root_not_mem_of_dropCommon
    (alike : isAbsolute source = isAbsolute target)
    (dropped : dropCommon (normalizeComponents (components source))
      (normalizeComponents (components target)) = (behind, ahead)) :
    Component.root ∉ behind ∧ Component.root ∉ ahead := by
  cases absolute : isAbsolute source with
  | true =>
      -- Both normal forms start with the root, and only names follow it.
      rw [normalizeComponents_of_absolute absolute,
        normalizeComponents_of_absolute (alike.symm.trans absolute), placed, placed, dropCommon,
        if_pos rfl] at dropped
      obtain ⟨common, left, entered, -⟩ := exists_longest_of_dropCommon dropped
      have named (names : Location) : Component.root ∉ names.map Component.named := by simp
      exact ⟨fun member => named _ (left ▸ List.mem_append_right _ member),
        fun member => named _ (entered ▸ List.mem_append_right _ member)⟩
  | false =>
      obtain ⟨common, left, entered, -⟩ := exists_longest_of_dropCommon dropped
      exact ⟨root_not_mem_of_suffix absolute left,
        root_not_mem_of_suffix (alike.symm.trans absolute) entered⟩

/-- The components of the path between two paths of one kind. -/
theorem components_relative
    (alike : isAbsolute source = isAbsolute target)
    (dropped : dropCommon (normalizeComponents (components source))
      (normalizeComponents (components target)) = (behind, ahead)) :
    components (relative source target) = (behind.map fun _ => Component.parent) ++ ahead := by
  obtain ⟨-, below⟩ := root_not_mem_of_dropCommon alike dropped
  obtain ⟨common, -, entered, -⟩ := exists_longest_of_dropCommon dropped
  have isStep : ∀ component ∈ (behind.map fun _ => Component.parent) ++ ahead,
      component.IsStep := by
    intro component member
    rcases List.mem_append.mp member with climbing | entering
    · obtain ⟨-, -, rfl⟩ := List.mem_map.mp climbing
      exact isStep_parent
    · have known : component ∈ normalizeComponents (components target) := by
        rw [entered]
        exact List.mem_append_right _ entering
      apply (isPath_components target).isStep (normalizeComponents_subset _ known)
      rintro rfl
      exact below entering
  have staysRelative : ahead.head? ≠ some .root := fun first => below (List.mem_of_head? first)
  rw [relative, relativeComponents, dropped]
  dsimp only
  rw [if_neg staysRelative]
  exact components_ofComponents ⟨_, isStep, .inl rfl⟩

/-- Following the path between two paths of one kind makes its steps from the normal form of the
first. -/
theorem normalizeComponents_join_relative
    (alike : isAbsolute source = isAbsolute target)
    (dropped : dropCommon (normalizeComponents (components source))
      (normalizeComponents (components target)) = (behind, ahead)) :
    normalizeComponents (components (join source (relative source target))) =
      (((behind.map fun _ => Component.parent) ++ ahead).foldl step
        (normalizeComponents (components source)).reverse).reverse := by
  have steps := components_relative alike dropped
  have staysRelative : isAbsolute (relative source target) = false := by
    rw [isAbsolute_eq_false_iff, steps, List.mem_append, not_or]
    exact ⟨by simp, (root_not_mem_of_dropCommon alike dropped).2⟩
  rw [components_join_of_relative source staysRelative, steps, normalizeComponents,
    List.foldl_append, normalizeComponents, List.reverse_reverse]

theorem normalize_eq_iff (first second : String) :
    normalize first = normalize second ↔
      normalizeComponents (components first) = normalizeComponents (components second) := by
  refine ⟨fun same => ?_, fun same => by rw [normalize, same, normalize]⟩
  rw [← components_normalize_eq, same, components_normalize_eq]

/-- Let two paths be both absolute or both relative.  Following the path between them from the first
leads to the second exactly when the first has no step to the parent behind the longest common start
of their normal forms.  Between absolute paths that is always so, and between relative paths it is
so when the first climbs no higher than the second. -/
theorem relative_leads_to_target_iff
    (source target : String)
    (alike : isAbsolute source = isAbsolute target) :
    ∃ common behind ahead,
      components (normalize source) = common ++ behind ∧
      components (normalize target) = common ++ ahead ∧
      (∀ start, start <+: components (normalize source) → start <+: components (normalize target) →
        start <+: common) ∧
      (normalize (join source (relative source target)) = normalize target ↔
        Component.parent ∉ behind) ∧
      (isAbsolute source →
        normalize (join source (relative source target)) = normalize target) ∧
      (isAbsolute source = false →
        (normalize (join source (relative source target)) = normalize target ↔
          (components (normalize source)).count .parent ≤
            (components (normalize target)).count .parent)) := by
  have sourceNormal := isNormal_normalizeComponents (components source)
  have targetNormal := isNormal_normalizeComponents (components target)
  obtain ⟨⟨behind, ahead⟩, dropped⟩ : ∃ parts, dropCommon (normalizeComponents (components source))
    (normalizeComponents (components target)) = parts := ⟨_, rfl⟩
  obtain ⟨behindBelow, aheadBelow⟩ := root_not_mem_of_dropCommon alike dropped
  have followed := normalizeComponents_join_relative alike dropped
  obtain ⟨common, left, entered, longest, differ⟩ := exists_longest_of_dropCommon dropped
  rw [components_normalize_eq, components_normalize_eq]
  rw [left] at sourceNormal followed
  rw [entered] at targetNormal
  have arrives :
      normalize (join source (relative source target)) = normalize target ↔
        Component.parent ∉ behind := by
    rw [normalize_eq_iff, followed, entered, List.reverse_eq_iff,
      foldl_step_relative_eq_iff sourceNormal targetNormal differ behindBelow aheadBelow]
  refine ⟨common, behind, ahead, left, entered, longest, arrives, fun absolute => ?_, fun _ => ?_⟩
  · rw [arrives]
    intro climbs
    have present : Component.parent ∈ normalizeComponents (components source) := by
      rw [left]
      exact List.mem_append_right _ climbs
    rw [normalizeComponents_of_absolute absolute] at present
    simp [placed] at present
  · rw [arrives, left, entered]
    refine ⟨fun stays => ?_, fun lower climbs => ?_⟩
    · rw [List.count_append, List.count_append, List.count_eq_zero.mpr stays]
      omega
    · exact Nat.not_lt.mpr lower (count_parent_lt sourceNormal targetNormal differ climbs)

/-- Paths that leave the directory where they start by different numbers of steps. -/
theorem relative_leads_to_target_iff_climbing :
    isAbsolute "./zod//../../generated" = isAbsolute "../../schema/." ∧
      normalize (join "./zod//../../generated"
          (relative "./zod//../../generated" "../../schema/.")) =
        normalize "../../schema/." ∧
      normalize (join "../../schema/."
          (relative "../../schema/." "./zod//../../generated")) ≠
        normalize "./zod//../../generated" ∧
      normalize (join "/repo/src/../../zod" (relative "/repo/src/../../zod" "/repo//prisma")) =
        normalize "/repo//prisma" := by
  have alike : isAbsolute "./zod//../../generated" = isAbsolute "../../schema/." := by decide
  obtain ⟨-, -, -, -, -, -, -, -, lower⟩ := relative_leads_to_target_iff _ _ alike
  obtain ⟨-, -, -, -, -, -, -, -, higher⟩ := relative_leads_to_target_iff _ _ alike.symm
  obtain ⟨-, -, -, -, -, -, -, absolute, -⟩ :=
    relative_leads_to_target_iff "/repo/src/../../zod" "/repo//prisma" (by decide)
  refine ⟨alike, (lower (by decide)).mpr (by decide), ?_, absolute (by decide)⟩
  rw [Ne, higher (by decide)]
  decide

end Path
end EntitySchema
