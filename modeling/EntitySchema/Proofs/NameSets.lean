import EntitySchema.DataModel
import Mathlib.Data.String.Basic

/-!
# Facts about sets of names

A set of names holds exactly the names that it is made of, strictly ascending and hence each once.
-/

namespace EntitySchema
namespace Text

@[simp] theorem mem_insertName
    {name inserted : String}
    {names : List String} :
    name ∈ insertName inserted names ↔ name = inserted ∨ name ∈ names := by
  induction names with
  | nil => simp [insertName]
  | cons head tail inductionHypothesis =>
      by_cases before : inserted < head
      · simp [insertName, before]
      · by_cases same : inserted = head
        · subst same
          simp [insertName]
        · rw [insertName, if_neg before, if_neg same, List.mem_cons, inductionHypothesis,
            List.mem_cons]
          tauto

/-- Inserting a name keeps a list strictly ascending. -/
theorem insertName_ascending
    (inserted : String)
    {names : List String}
    (ascending : names.Pairwise (· < ·)) :
    (insertName inserted names).Pairwise (· < ·) := by
  induction names with
  | nil => simp [insertName]
  | cons head tail inductionHypothesis =>
      obtain ⟨headBelow, tailAscending⟩ := List.pairwise_cons.mp ascending
      rw [insertName]
      split_ifs with before same
      · refine List.pairwise_cons.mpr ⟨?_, ascending⟩
        intro name member
        rcases List.mem_cons.mp member with rfl | later
        · exact before
        · exact before.trans (headBelow name later)
      · exact ascending
      · refine List.pairwise_cons.mpr ⟨?_, inductionHypothesis tailAscending⟩
        intro name member
        rcases mem_insertName.mp member with rfl | later
        · exact lt_of_le_of_ne (not_lt.mp before) (Ne.symm same)
        · exact headBelow name later

@[simp] theorem mem_nameSet
    {name : String}
    {names : List String} :
    name ∈ nameSet names ↔ name ∈ names := by
  induction names with
  | nil => simp [nameSet]
  | cons head tail inductionHypothesis =>
      change name ∈ insertName head (nameSet tail) ↔ _
      rw [mem_insertName, inductionHypothesis, List.mem_cons]

/-- A set lists each of its names once, in ascending order. -/
theorem nameSet_ascending (names : List String) :
    (nameSet names).Pairwise (· < ·) := by
  induction names with
  | nil => exact List.Pairwise.nil
  | cons head tail inductionHypothesis => exact insertName_ascending head inductionHypothesis

theorem nameSet_nodup (names : List String) : (nameSet names).Nodup :=
  (nameSet_ascending names).imp ne_of_lt

/-- A set of names depends on which names it is made of, not on their order or number. -/
theorem nameSet_congr
    {first second : List String}
    (same : ∀ name, name ∈ first ↔ name ∈ second) :
    nameSet first = nameSet second := by
  have permuted : (nameSet first).Perm (nameSet second) := by
    refine (List.perm_ext_iff_of_nodup (nameSet_nodup first) (nameSet_nodup second)).mpr ?_
    intro name
    rw [mem_nameSet, mem_nameSet, same]
  refine permuted.eq_of_pairwise ?_ (nameSet_ascending first) (nameSet_ascending second)
  intro earlier later _ _ before after
  exact absurd (before.trans after) (lt_irrefl earlier)

end Text

namespace Entity

@[simp] theorem mem_enumNames
    {entity : Entity}
    {name : String} :
    name ∈ entity.enumNames ↔ ∃ field ∈ entity.fields, field.kind.enumName? = some name := by
  simp [enumNames]

/-- The entities other than itself to which the relations of an entity lead. -/
@[simp] theorem mem_foreignTargets
    {entity : Entity}
    {target : String} :
    target ∈ entity.foreignTargets ↔
      (∃ field ∈ entity.fields, field.kind.relationTarget? = some target) ∧
        target ≠ entity.name := by
  simp [foreignTargets]

theorem enumNames_nodup (entity : Entity) : entity.enumNames.Nodup :=
  Text.nameSet_nodup _

end Entity
end EntitySchema
