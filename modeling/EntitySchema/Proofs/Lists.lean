import Mathlib.Data.List.Chain
import Mathlib.Data.List.Forall2

/-!
# Facts about lists

What the library has no lemma for and several parts of the theory need: where a part of a joined
list stands, how a list divides into runs, and how lists behave that are put together from others.
-/

namespace List

variable {α β : Type*}

/-! ## Parts of a list -/

/-- A part that lacks the item between two lists is in one of them. -/
theorem isInfix_append_cons_iff
    {part : List α}
    {separator : α}
    (nonempty : part ≠ [])
    (absent : separator ∉ part)
    (first second : List α) :
    part <:+: first ++ separator :: second ↔ part <:+: first ∨ part <:+: second := by
  constructor
  · rintro ⟨before, after, whole⟩
    rw [append_assoc] at whole
    rcases append_eq_append_iff.mp whole with ⟨gap, left, right⟩ | ⟨gap, left, right⟩
    · rcases append_eq_append_iff.mp right with ⟨rest, inner, -⟩ | ⟨rest, inner, behind⟩
      · exact .inl ⟨before, rest, by rw [left, inner, append_assoc]⟩
      · -- The part starts in the first list, and it cannot go on over the separator.
        cases rest with
        | nil =>
            rw [append_nil] at inner
            exact .inl ⟨before, [], by rw [append_nil, left, inner]⟩
        | cons head tail =>
            obtain ⟨rfl, -⟩ := cons.inj behind
            exact absurd (inner ▸ mem_append_right _ mem_cons_self) absent
    · cases gap with
      | nil =>
          cases part with
          | nil => exact absurd rfl nonempty
          | cons head tail =>
              obtain ⟨rfl, -⟩ := cons.inj right
              exact absurd mem_cons_self absent
      | cons head tail =>
          obtain ⟨-, rfl⟩ := cons.inj right
          exact .inr ⟨tail, after, append_assoc _ _ _⟩
  · rintro (inFirst | inSecond)
    · exact inFirst.trans (prefix_append _ _).isInfix
    · exact inSecond.trans ((suffix_cons _ _).trans (suffix_append _ _)).isInfix

/-- A list has a part at its end only, when it lacks that part without its last item. -/
theorem forall_occurrence_last_iff
    {part front : List α}
    (last : α) :
    (∀ before after, front ++ [last] = before ++ part ++ after → after = []) ↔
      ¬ part <:+: front := by
  constructor
  · rintro once ⟨before, after, whole⟩
    have ended := once before (after ++ [last]) (by rw [← whole, append_assoc _ after])
    simp at ended
  · intro absent before after whole
    rcases after.eq_nil_or_concat' with rfl | ⟨inner, final, rfl⟩
    · rfl
    · rw [← append_assoc] at whole
      exact absurd ⟨before, inner, (append_inj_left' whole rfl).symm⟩ absent

/-- The last item of a list that goes on behind another item stands behind that one. -/
theorem exists_of_concat_eq
    {list before rest : List α}
    {last other : α}
    (whole : list ++ [last] = before ++ other :: rest)
    (different : last ≠ other) :
    ∃ front, rest = front ++ [last] ∧ list = before ++ other :: front := by
  rcases rest.eq_nil_or_concat' with rfl | ⟨front, final, rfl⟩
  · exact absurd (singleton_inj.mp (append_inj' whole rfl).2) different
  · rw [← cons_append, ← append_assoc] at whole
    obtain ⟨same, final⟩ := append_inj' whole rfl
    rw [singleton_inj.mp final]
    exact ⟨front, rfl, same⟩

/-- A common start behind which two lists differ is the longest one. -/
theorem prefix_of_differ
    {common behind ahead start : List α}
    (differ : ∀ first ∈ behind.head?, first ∉ ahead.head?)
    (ofSource : start <+: common ++ behind)
    (ofTarget : start <+: common ++ ahead) :
    start <+: common := by
  rcases Nat.le_total start.length common.length with short | long
  · exact prefix_of_prefix_length_le ofSource (prefix_append _ _) short
  · obtain ⟨more, rfl⟩ := prefix_of_prefix_length_le (prefix_append _ _) ofSource long
    rw [prefix_append_right_inj] at ofSource ofTarget
    cases more with
    | nil => simp
    | cons first rest =>
        obtain ⟨_, rfl⟩ := ofSource
        obtain ⟨_, rfl⟩ := ofTarget
        exact absurd rfl (differ first rfl)

/-! ## Runs -/

/-- A list starts with a longest run of items that satisfy a predicate. -/
theorem exists_run
    (accepts : α -> Bool)
    (list : List α) :
    ∃ run rest, list = run ++ rest ∧ (∀ item ∈ run, accepts item) ∧
      ∀ item ∈ rest.head?, accepts item = false := by
  refine ⟨list.takeWhile accepts, list.dropWhile accepts, ?_, ?_, ?_⟩
  · exact takeWhile_append_dropWhile.symm
  · exact all_eq_true.mp all_takeWhile
  · intro item member
    have stops := head?_dropWhile_not accepts list
    rw [Option.mem_def.mp member] at stops
    simpa using stops

/-- A list goes on without items of a class up to its end or to the first of them. -/
theorem exists_run_until
    (stops : α -> Bool)
    (list : List α) :
    ∃ run rest, list = run ++ rest ∧ (∀ item ∈ run, stops item = false) ∧
      ∀ item ∈ rest.head?, stops item := by
  obtain ⟨run, rest, rfl, proper, ends⟩ := exists_run (fun item => !stops item) list
  exact ⟨run, rest, rfl, by simpa using proper, by simpa using ends⟩

/-- A list whose last item is in no run of a class goes on after each such run. -/
theorem getLast?_behind_run
    {accepts : α -> Bool}
    {before run after : List α}
    (ends : ∀ item ∈ (before ++ (run ++ after)).getLast?, accepts item = false)
    (nonempty : run ≠ [])
    (accepted : ∀ item ∈ run, accepts item) :
    after ≠ [] ∧ ∀ item ∈ after.getLast?, accepts item = false := by
  have goesOn : after ≠ [] := by
    rintro rfl
    obtain ⟨start, last, rfl⟩ := (eq_nil_or_concat' run).resolve_left nonempty
    have isLast : last ∈ (before ++ (start ++ [last] ++ [])).getLast? := by
      rw [append_nil, ← append_assoc, getLast?_concat]
      rfl
    have refused := ends last isLast
    rw [accepted last (by simp)] at refused
    cases refused
  refine ⟨goesOn, ?_⟩
  rwa [← append_assoc, getLast?_append_of_ne_nil _ goesOn] at ends

/-- Neighbours of one kind make a run of one kind. -/
theorem eq_of_isChain
    {kind : α -> Bool}
    {run : List α}
    (chain : run.IsChain fun first second => kind first == kind second) :
    ∀ first ∈ run, ∀ second ∈ run, kind first = kind second := by
  have neighbours : (run.map kind).IsChain Eq :=
    (isChain_map kind).mpr (chain.imp fun _ _ => eq_of_beq)
  have pairs : (run.map kind).Pairwise Eq := isChain_iff_pairwise.mp neighbours
  intro first firstMember second secondMember
  exact Pairwise.forall_of_forall (fun _ _ => rfl) pairs (mem_map_of_mem firstMember)
    (mem_map_of_mem secondMember)

theorem isChain_take_one
    {relation : α -> α -> Prop}
    (list : List α) :
    (list.take 1).IsChain relation := by
  cases list with
  | nil => exact .nil
  | cons first rest => exact .singleton first

/-! ## Joined lists -/

theorem intercalate_singleton_cons
    (separator : α)
    (part : List α)
    {parts : List (List α)}
    (nonempty : parts ≠ []) :
    intercalate [separator] (part :: parts) =
      part ++ separator :: intercalate [separator] parts := by
  rw [intercalate_cons_of_ne_nil nonempty, append_assoc, singleton_append]

theorem intercalate_concat
    (separator last : List α)
    {parts : List (List α)}
    (nonempty : parts ≠ []) :
    intercalate separator (parts ++ [last]) =
      intercalate separator parts ++ separator ++ last := by
  induction parts with
  | nil => exact absurd rfl nonempty
  | cons part rest inductionHypothesis =>
      cases rest with
      | nil =>
          rw [singleton_append, intercalate_cons_cons, intercalate_singleton,
            intercalate_singleton]
      | cons next later =>
          rw [cons_append, cons_append, intercalate_cons_cons, ← cons_append,
            inductionHypothesis (by simp), intercalate_cons_cons]
          simp only [append_assoc]

/-- The items of a joined list are those of the separator and of the parts. -/
theorem mem_of_mem_intercalate
    {separator : List α}
    {parts : List (List α)}
    {item : α}
    (member : item ∈ intercalate separator parts) :
    item ∈ separator ∨ ∃ part ∈ parts, item ∈ part := by
  induction parts with
  | nil => simp at member
  | cons part rest inductionHypothesis =>
      cases rest with
      | nil =>
          rw [intercalate_singleton] at member
          exact .inr ⟨part, mem_cons_self, member⟩
      | cons next later =>
          rw [intercalate_cons_cons, mem_append, mem_append] at member
          rcases member with (here | between) | behind
          · exact .inr ⟨part, mem_cons_self, here⟩
          · exact .inl between
          · refine (inductionHypothesis behind).imp_right ?_
            rintro ⟨other, known, inside⟩
            exact ⟨other, mem_cons_of_mem _ known, inside⟩

/-- Chains joined by an item that may stand next to any other are a chain. -/
theorem isChain_intercalate
    {relation : α -> α -> Prop}
    {separator : α}
    {parts : List (List α)}
    (before : ∀ item, relation item separator)
    (after : ∀ item, relation separator item)
    (chains : ∀ part ∈ parts, part.IsChain relation) :
    (intercalate [separator] parts).IsChain relation := by
  induction parts with
  | nil => exact .nil
  | cons part rest inductionHypothesis =>
      obtain ⟨first, later⟩ := forall_mem_cons.mp chains
      rcases eq_or_ne rest [] with rfl | nonempty
      · rwa [intercalate_singleton]
      · have behind : (separator :: intercalate [separator] rest).IsChain relation :=
          isChain_cons.mpr ⟨fun item _ => after item, inductionHypothesis later⟩
        rw [intercalate_singleton_cons separator part nonempty]
        refine first.append behind fun item _ next starts => ?_
        rw [← Option.some.inj starts]
        exact before item

/-! ## Images of lists -/

/-- A list is no longer than what its items are written as, when none is written as nothing. -/
theorem length_le_flatMap
    {form : α -> List β}
    (nonempty : ∀ item, 0 < (form item).length)
    (list : List α) :
    list.length ≤ (list.flatMap form).length := by
  induction list with
  | nil => exact Nat.le_refl _
  | cons item rest inductionHypothesis =>
      have positive := nonempty item
      rw [flatMap_cons, length_cons, length_append]
      omega

/-- A partial function lists its values in the order of the arguments that have one. -/
theorem forall₂_filter_filterMap
    (value? : α -> Option β)
    (arguments : List α) :
    Forall₂ (fun argument value => value? argument = some value)
      (arguments.filter fun argument => (value? argument).isSome)
      (arguments.filterMap value?) := by
  induction arguments with
  | nil => exact .nil
  | cons argument rest inductionHypothesis =>
      cases found : value? argument with
      | none => simpa [found] using inductionHypothesis
      | some value => simpa [found] using inductionHypothesis

end List
