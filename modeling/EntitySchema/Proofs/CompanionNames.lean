import EntitySchema.Generation.Imports
import Mathlib.Logic.Function.Basic

/-!
# Names of companion types

The two companion types of an entity are named after it by fixed affixes.  No two entities share a
companion type, and the types for input and output are always told apart.
-/

namespace EntitySchema
namespace SchemaNames

theorem toList_affixed (opening entity ending : String) :
    (opening ++ entity ++ ending).toList = opening.toList ++ entity.toList ++ ending.toList := by
  rw [String.toList_append, String.toList_append]

/-- Names between fixed affixes can be read back. -/
theorem affixed_injective (opening ending : String) :
    Function.Injective fun entity => opening ++ entity ++ ending := by
  intro first second same
  have chars := congrArg String.toList same
  simp only [toList_affixed, List.append_left_inj, List.append_right_inj] at chars
  exact String.toList_inj.mp chars

theorem completeInput_injective : Function.Injective completeInput :=
  affixed_injective "Complete" "Input"

theorem completeOutput_injective : Function.Injective completeOutput :=
  affixed_injective "Complete" "Output"

/-- The endings `Input` and `Output` differ in the fourth character from the end. -/
theorem completeInput_ne_completeOutput (first second : String) :
    completeInput first ≠ completeOutput second := by
  intro same
  have chars := congrArg (fun name => name.toList.reverse) same
  simp only [completeInput, completeOutput, toList_affixed, List.reverse_append] at chars
  have input : "Input".toList.reverse = ['t', 'u', 'p', 'n', 'I'] := by decide
  have output : "Output".toList.reverse = ['t', 'u', 'p', 't', 'u', 'O'] := by decide
  rw [input, output] at chars
  simp at chars

/-- Companion types start with a capital that no fixed name of a module starts with. -/
theorem head?_complete (entity ending : String) :
    ("Complete" ++ entity ++ ending).toList.head? = some 'C' := by
  rw [toList_affixed]
  rfl

end SchemaNames
end EntitySchema
