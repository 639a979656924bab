import EntitySchema.Document.Record
import Mathlib.Data.List.Forall2

/-!
# Records that are read by name

A record given by name is read entry by entry.  Each entry goes to the one field of its name, so
what a record is read as depends only on what its fields make of the entries.
-/

namespace EntitySchema
namespace Document
namespace RecordFormat

variable {V D : Type} {format : RecordFormat V D}

theorem readEntries_cons
    {draft filled : D}
    {entry : String × V}
    (read : format.readEntry draft entry = .ok filled)
    (rest : List (String × V)) :
    format.readEntries draft (entry :: rest) = format.readEntries filled rest := by
  unfold readEntries
  rw [List.foldlM_cons, read]
  rfl

/-- The first entry of a record that is read fills a draft from which the other entries go on. -/
theorem exists_of_readEntries_cons
    {draft result : D}
    {entry : String × V}
    {rest : List (String × V)}
    (read : format.readEntries draft (entry :: rest) = .ok result) :
    ∃ filled, format.readEntry draft entry = .ok filled ∧
      format.readEntries filled rest = .ok result := by
  unfold readEntries at read ⊢
  rw [List.foldlM_cons] at read
  cases filled : format.readEntry draft entry with
  | error fault =>
      rw [filled] at read
      cases read
  | ok draft =>
      rw [filled] at read
      exact ⟨draft, rfl, read⟩

/-- A record given by name is read when its entries are and no field is missing. -/
theorem read_named
    [DocumentFormat V]
    {value : V}
    {entries : List (String × V)}
    (named : DocumentFormat.record format.title value = .ok (.named entries))
    {empty draft : D}
    (read : format.readEntries empty entries = .ok draft)
    (complete : format.missingField? draft = none) :
    format.read empty value = .ok draft := by
  unfold RecordFormat.read
  simp only [named, read, complete, bind, Except.bind]

/-- A record given by name is read into the draft that its entries fill. -/
theorem readEntries_of_read
    [DocumentFormat V]
    {value : V}
    {entries : List (String × V)}
    (named : DocumentFormat.record format.title value = .ok (.named entries))
    {empty draft : D}
    (read : format.read empty value = .ok draft) :
    format.readEntries empty entries = .ok draft := by
  unfold RecordFormat.read at read
  simp only [named, bind, Except.bind] at read
  cases filled : format.readEntries empty entries with
  | error fault =>
      rw [filled] at read
      cases read
  | ok found =>
      rw [filled] at read
      dsimp only at read
      split at read
      · cases read
      · exact read

/-- Entries that their fields read alike are read alike. -/
theorem readEntries_of_forall₂
    {entries others : List (String × V)}
    (alike : List.Forall₂
      (fun entry other => other.1 = entry.1 ∧
        ∀ slot ∈ format.slots, slot.name = entry.1 → ∀ draft filled,
          slot.fill entry.2 draft = .ok filled → slot.fill other.2 draft = .ok filled)
      entries others)
    {draft result : D}
    (read : format.readEntries draft entries = .ok result) :
    format.readEntries draft others = .ok result := by
  induction alike generalizing draft with
  | nil => exact read
  | @cons entry other entries others alike _ inductionHypothesis =>
      obtain ⟨sameName, readAlike⟩ := alike
      obtain ⟨filled, first, read⟩ := exists_of_readEntries_cons read
      rw [readEntries_cons ?_ others]
      · exact inductionHypothesis read
      · unfold readEntry at first ⊢
        rw [sameName]
        split at first
        · exact first
        · next slot found =>
            split_ifs at first with isFilled
            have member := List.mem_of_find?_eq_some found
            have slotName : slot.name = entry.1 := by simpa using List.find?_some found
            rw [if_neg isFilled]
            exact readAlike slot member slotName draft filled first

end RecordFormat
end Document
end EntitySchema
