import EntitySchema.Proofs.Formatting
import EntitySchema.Proofs.OneLineTexts

/-!
# Empty lines

A text has an empty line where a line begins and ends at once.  Marks fill their lines when each
line that they end has something on it, in every style.  What they are written as then has no empty
line, and the empty lines of a longer text are those of its rest.
-/

namespace EntitySchema
namespace Code

open Text (OneLine oneLine_append)

/-! ## Where a text has an empty line -/

/-- A text has an empty line behind a start of it: there a line begins and ends at once. -/
structure EmptyLineAfter (before text : List Char) : Prop where
  atStart : EndsAtStart before
  broken : before ++ ['\n'] <+: text

/-- A text all of whose finished lines have something on them. -/
def IsDense (text : List Char) : Prop :=
  ∀ before, ¬ EmptyLineAfter before text

variable
  {before text line : List Char}

theorem endsAtStart_iff : EndsAtStart text ↔ text = [] ∨ text.getLast? = some '\n' :=
  or_congr_right List.getLast?_eq_some_iff.symm

theorem endsAtStart_append_iff
    {second : List Char}
    (nonempty : second ≠ [])
    (first : List Char) :
    EndsAtStart (first ++ second) ↔ EndsAtStart second := by
  rw [endsAtStart_iff, endsAtStart_iff, List.getLast?_append_of_ne_nil first nonempty]
  simp [nonempty]

theorem not_endsAtStart_of_line
    (nonempty : line ≠ [])
    (oneLine : '\n' ∉ line) :
    ¬ EndsAtStart line := by
  rw [endsAtStart_iff, not_or]
  exact ⟨nonempty, fun last => oneLine (List.mem_of_getLast? last)⟩

/-- One more character ends an empty line only if it is a line feed at the start of a line. -/
theorem emptyLineAfter_concat_iff
    {character : Char} :
    EmptyLineAfter before (text ++ [character]) ↔
      EmptyLineAfter before text ∨ before = text ∧ character = '\n' ∧ EndsAtStart text := by
  constructor
  · rintro ⟨atStart, broken⟩
    rcases List.prefix_concat_iff.mp broken with whole | early
    · obtain ⟨rfl, same⟩ := List.append_inj' whole rfl
      cases same
      exact .inr ⟨rfl, rfl, atStart⟩
    · exact .inl ⟨atStart, early⟩
  · rintro (⟨atStart, early⟩ | ⟨rfl, rfl, atStart⟩)
    · exact ⟨atStart, early.trans (List.prefix_append _ _)⟩
    · exact ⟨atStart, List.prefix_rfl⟩

/-- Text that stays on its line ends no line. -/
theorem emptyLineAfter_line_iff
    (oneLine : '\n' ∉ line) :
    EmptyLineAfter before (text ++ line) ↔ EmptyLineAfter before text := by
  induction line using List.reverseRecOn with
  | nil => rw [List.append_nil]
  | append_singleton front last inductionHypothesis =>
      rw [List.mem_append, List.mem_singleton, not_or] at oneLine
      rw [← List.append_assoc, emptyLineAfter_concat_iff, inductionHypothesis oneLine.1]
      simp [Ne.symm oneLine.2]

/-- Behind whole lines, the empty lines of a text are its own. -/
theorem emptyLineAfter_append_iff
    {first : List Char}
    (ended : EndsAtStart first)
    (second : List Char) :
    EmptyLineAfter before (first ++ second) ↔
      EmptyLineAfter before first ∨
        ∃ later, before = first ++ later ∧ EmptyLineAfter later second := by
  constructor
  · rintro ⟨atStart, broken⟩
    rcases List.prefix_or_prefix_of_prefix broken (List.prefix_append _ _) with early | late
    · exact .inl ⟨atStart, early⟩
    · rcases List.prefix_concat_iff.mp late with rfl | inside
      · exact .inl ⟨atStart, List.prefix_rfl⟩
      · obtain ⟨later, rfl⟩ := inside
        rw [List.append_assoc, List.prefix_append_right_inj] at broken
        refine .inr ⟨later, rfl, ?_, broken⟩
        rcases eq_or_ne later [] with rfl | nonempty
        · exact .inl rfl
        · exact (endsAtStart_append_iff nonempty first).mp atStart
  · rintro (⟨atStart, early⟩ | ⟨later, rfl, atStart, broken⟩)
    · exact ⟨atStart, early.trans (List.prefix_append _ _)⟩
    · refine ⟨?_, ?_⟩
      · rcases eq_or_ne later [] with rfl | nonempty
        · rwa [List.append_nil]
        · exact (endsAtStart_append_iff nonempty first).mpr atStart
      · rwa [List.append_assoc, List.prefix_append_right_inj]

theorem emptyLineAfter_lineFeed_iff (rest : List Char) :
    EmptyLineAfter before ('\n' :: rest) ↔
      before = [] ∨ ∃ later, before = '\n' :: later ∧ EmptyLineAfter later rest := by
  have single : EmptyLineAfter before ['\n'] ↔ before = [] := by
    have first : EmptyLineAfter before ([] ++ ['\n']) ↔ _ := emptyLineAfter_concat_iff
    rw [List.nil_append] at first
    rw [first]
    constructor
    · rintro (⟨-, broken⟩ | ⟨empty, -⟩)
      · simp at broken
      · exact empty
    · rintro rfl
      exact .inr ⟨rfl, rfl, .inl rfl⟩
  have ended : EndsAtStart ['\n'] := .inr ⟨[], rfl⟩
  have split : EmptyLineAfter before (['\n'] ++ rest) ↔ _ := emptyLineAfter_append_iff ended rest
  rwa [single] at split

/-! ## Blocks of lines -/

/-- Lines that all have something on them, the last of which is not finished yet. -/
def IsBlock (text : List Char) : Prop :=
  IsDense (text ++ ['\n'])

theorem IsBlock.not_endsAtStart
    (block : IsBlock text) :
    ¬ EndsAtStart text :=
  fun atStart => block text ⟨atStart, List.prefix_rfl⟩

/-- The empty lines of a text behind a block are those behind its last line. -/
theorem IsBlock.emptyLineAfter_iff
    (block : IsBlock text)
    (rest : List Char) :
    EmptyLineAfter before (text ++ '\n' :: rest) ↔
      ∃ later, before = text ++ '\n' :: later ∧ EmptyLineAfter later rest := by
  have split : EmptyLineAfter before (text ++ ['\n'] ++ rest) ↔ _ :=
    emptyLineAfter_append_iff (.inr ⟨text, rfl⟩) rest
  rw [or_iff_right (block before)] at split
  simpa only [List.append_assoc, List.singleton_append] using split

/-! ## Marks that fill lines -/

/-- Whether the line has something on it behind a mark in every style, given whether it has before
the mark.  There is no answer for a text that leaves its line, and none for the end of a line that
may be empty. -/
def Mark.fill? (filled : Bool) : Mark -> Option Bool
  | .text content => if OneLine content then some (filled || content != "") else none
  | .literal content => if OneLine content then some true else none
  | .lineBreak => if filled then some false else none
  | .separator => none
  | .indent _ | .statementEnd | .lastEntryEnd => some filled

/-- Marks fill their lines: they lead from a line that is filled, or not, to one that is, or not,
and every line that they end is filled. -/
def Fills (filled : Bool) (marks : List Mark) (after : Bool) : Prop :=
  marks.foldlM Mark.fill? filled = some after

/-- A style that breaks no line by itself. -/
structure Style.KeepsLines (style : Style) : Prop where
  blank : style.IsBlank
  quote : style.quote ≠ '\n'

/-- What has been written is dense, and so it is with the last line ended if that line is filled. -/
def IsWritten (filled : Bool) (text : List Char) : Prop :=
  IsDense (if filled then text ++ ['\n'] else text)

theorem isWritten_nil : IsWritten false [] := by
  rintro before ⟨-, broken⟩
  simp at broken

theorem IsWritten.isDense
    {filled : Bool}
    (written : IsWritten filled text) :
    IsDense text := by
  cases filled with
  | false => exact written
  | true =>
      intro before empty
      exact written before (emptyLineAfter_concat_iff.mpr (.inl empty))

/-- Something that stays on its line fills it. -/
theorem IsWritten.fill
    {filled : Bool}
    (written : IsWritten filled text)
    (nonempty : line ≠ [])
    (oneLine : '\n' ∉ line) :
    IsWritten true (text ++ line) := by
  intro before empty
  rw [if_pos rfl, emptyLineAfter_concat_iff, emptyLineAfter_line_iff oneLine,
    endsAtStart_append_iff nonempty] at empty
  rcases empty with early | ⟨-, -, atStart⟩
  · exact written.isDense before early
  · exact not_endsAtStart_of_line nonempty oneLine atStart

/-- Anything that stays on its line leaves it filled if it was. -/
theorem IsWritten.extend
    {filled : Bool}
    (written : IsWritten filled text)
    (oneLine : '\n' ∉ line) :
    IsWritten filled (text ++ line) := by
  rcases eq_or_ne line [] with rfl | nonempty
  · rwa [List.append_nil]
  · cases filled with
    | true => exact written.fill nonempty oneLine
    | false =>
        intro before empty
        exact written before ((emptyLineAfter_line_iff oneLine).mp empty)

theorem Literal.lineFeed_not_mem_body
    {quote : Char}
    {content : List Char}
    (oneLine : '\n' ∉ content) :
    '\n' ∉ body quote content := by
  induction content with
  | nil => exact List.not_mem_nil
  | cons character rest inductionHypothesis =>
      rw [List.mem_cons, not_or] at oneLine
      rw [body]
      split_ifs
      · simp [oneLine.1, inductionHypothesis oneLine.2]
      · simp [oneLine.1, inductionHypothesis oneLine.2]

theorem Style.lineFeed_not_mem_indentation
    {style : Style}
    (blank : style.IsBlank)
    (depth : Nat) :
    '\n' ∉ style.indentation depth := by
  intro member
  obtain ⟨_, level, inside⟩ := List.mem_flatten.mp member
  rw [List.eq_of_mem_replicate level] at inside
  exact absurd (blank _ inside) (by decide)

/-- A mark that fills its line keeps what has been written dense. -/
theorem IsWritten.mark
    {style : Style}
    (keeps : style.KeepsLines)
    {filled next : Bool}
    (written : IsWritten filled text)
    {mark : Mark}
    (step : mark.fill? filled = some next) :
    IsWritten next (text ++ mark.chars style) := by
  cases mark with
  | text content =>
      rw [Mark.fill?] at step
      split_ifs at step with oneLine
      cases step
      by_cases empty : content = ""
      · subst empty
        simpa [Mark.chars] using written
      · have nonempty : content.toList ≠ [] := by simpa using empty
        have filledNow : (filled || content != "") = true := by simp [empty]
        rw [filledNow]
        exact written.fill nonempty oneLine
  | literal content =>
      rw [Mark.fill?] at step
      split_ifs at step with oneLine
      cases step
      have body : '\n' ∉ Literal.body style.quote content.toList :=
        Literal.lineFeed_not_mem_body oneLine
      refine written.fill (List.cons_ne_nil _ _) ?_
      simp [Mark.chars, Literal.write, body, Ne.symm keeps.quote]
  | lineBreak =>
      rw [Mark.fill?] at step
      split_ifs at step with broken
      cases step
      rw [broken] at written
      exact written
  | separator => cases step
  | indent depth =>
      cases step
      exact written.extend (Style.lineFeed_not_mem_indentation keeps.blank depth)
  | statementEnd =>
      cases step
      refine written.extend ?_
      rw [Mark.chars]
      split_ifs <;> decide
  | lastEntryEnd =>
      cases step
      refine written.extend ?_
      rw [Mark.chars]
      split_ifs <;> decide

/-- The characters of a list of marks. -/
def charsOf (style : Style) (marks : List Mark) : List Char :=
  marks.flatMap (Mark.chars style)

/-- Marks that fill their lines keep what has been written dense. -/
theorem IsWritten.marks
    {style : Style}
    (keeps : style.KeepsLines)
    {filled after : Bool}
    {marks : List Mark}
    (fills : Fills filled marks after)
    (written : IsWritten filled text) :
    IsWritten after (text ++ charsOf style marks) := by
  induction marks generalizing filled text with
  | nil =>
      cases fills
      simpa [charsOf] using written
  | cons mark rest inductionHypothesis =>
      rw [Fills, List.foldlM_cons] at fills
      obtain ⟨next, step, later⟩ := Option.bind_eq_some_iff.mp fills
      have written := inductionHypothesis later (written.mark keeps step)
      simpa [charsOf] using written

/-- Marks that fill their lines from the first to the last one are a block. -/
theorem Fills.isBlock
    {style : Style}
    (keeps : style.KeepsLines)
    {marks : List Mark}
    (fills : Fills false marks true) :
    IsBlock (charsOf style marks) :=
  isWritten_nil.marks keeps fills

end Code
end EntitySchema
