import EntitySchema.Proofs.PlainScalars

/-!
# Block scalars

A text with line feeds is read back from its literal block.  The text is leading line breaks, lines
with line breaks between them, and trailing line breaks.  The marks in the header tell the
indentation where the first line does not show it, and what becomes of the trailing line breaks.
-/

namespace EntitySchema
namespace Yaml

/-! ## Headers -/

/-- The mark of what happens to the line breaks at the end. -/
def Chomping.mark : Chomping -> List Char
  | strip => ['-']
  | clip => []
  | keep => ['+']

/-- The two marks of a header are read back. -/
theorem readBlockHeader?_marks
    (indented : Bool)
    (chomping : Chomping)
    (rest : List Char)
    (index line column : Nat) :
    ∃ nextIndex,
      readBlockHeader?
          ⟨(if indented then ['2'] else []) ++ chomping.mark ++ '\n' :: rest, index, line, column⟩ =
        some (⟨chomping, if indented then 2 else 0⟩, ⟨rest, nextIndex, line + 1, 0⟩) := by
  cases indented <;> cases chomping <;> exact ⟨_, rfl⟩

/-! ## Empty lines -/

theorem takeWhile_spaces_of_head
    {text : List Char}
    (stops : text.head? ≠ some ' ') :
    text.takeWhile (· == ' ') = [] := by
  cases text with
  | nil => rfl
  | cons first others =>
      have noSpace : first ≠ ' ' := by simpa using stops
      simp [noSpace]

theorem Cursor.advance_zero (cursor : Cursor) : cursor.advance 0 = cursor := rfl

theorem Cursor.sees_eq_false
    {accepts : Char → Bool}
    {rest : List Char}
    (refused : ∀ character ∈ rest.head?, accepts character = false)
    (index line column : Nat) :
    (Cursor.mk rest index line column).sees accepts = false := by
  unfold Cursor.sees
  cases rest with
  | nil => rfl
  | cons first others => exact refused first rfl

/-- Empty lines are passed over, and their line breaks are kept. -/
theorem skipEmptyLines?_breaks
    {breaks : List Char}
    (areBreaks : ∀ character ∈ breaks, isBreak character ∧ isVisible character)
    (indent fuel : Nat)
    (kept : List Char)
    (widest : Nat)
    (rest : List Char)
    (index line : Nat) :
    skipEmptyLines? indent (fuel + breaks.length) kept widest ⟨breaks ++ rest, index, line, 0⟩ =
      skipEmptyLines? indent fuel (kept ++ breaks) widest
        ⟨rest, index + breaks.length, line + breaks.length, 0⟩ := by
  induction breaks generalizing kept index line with
  | nil => simp
  | cons character others inductionHypothesis =>
      rw [List.forall_mem_cons] at areBreaks
      obtain ⟨⟨isBreak, isVisible⟩, areBreaks⟩ := areBreaks
      have noSpaces : (character :: (others ++ rest)).takeWhile (· == ' ') = [] := by
        apply takeWhile_spaces_of_head
        rcases isBreak_visible isBreak isVisible with rfl | rfl | rfl <;> simp
      have noTab : character ≠ '\t' := by
        rcases isBreak_visible isBreak isVisible with rfl | rfl | rfl <;> decide
      rw [List.cons_append, List.length_cons, ← Nat.add_assoc, skipEmptyLines?]
      simp only [noSpaces, List.length_nil, Nat.zero_min, ite_self, Cursor.advance_zero,
        Cursor.sees, List.head?_cons, Option.any_some, isBreak, Nat.max_zero, if_true,
        Cursor.breakText_visible isBreak isVisible, Cursor.skipBreak_visible isBreak isVisible,
        beq_eq_false_iff_ne.2 noTab, Bool.and_false, Bool.false_eq_true, if_false]
      rw [inductionHypothesis areBreaks]
      simp only [List.append_assoc, List.singleton_append, Nat.add_assoc, Nat.add_comm 1]

theorem skipEmptyLines?_entry
    {following : List Char}
    (starts : StartsEntry following)
    (indent fuel : Nat)
    (kept : List Char)
    (widest : Nat)
    (index line : Nat) :
    skipEmptyLines? indent fuel kept widest ⟨following, index, line, 0⟩ =
      some (kept, widest, ⟨following, index, line, 0⟩) := by
  cases fuel with
  | zero => rfl
  | succ fuel =>
      have noSpaces : following.takeWhile (· == ' ') = [] := by
        apply takeWhile_spaces_of_head
        intro head
        cases starts.stops ' ' head
      have noTab : (Cursor.mk following index line 0).sees (· == '\t') = false := by
        apply Cursor.sees_eq_false
        intro character member
        have noSpacing := starts.stops character member
        apply beq_eq_false_iff_ne.2
        rintro rfl
        cases noSpacing
      have noBreak : (Cursor.mk following index line 0).sees isBreak = false := by
        apply Cursor.sees_eq_false
        intro character member
        exact not_isBreak_of_not_isSpacing (starts.stops character member)
      rw [skipEmptyLines?]
      simp only [noSpaces, List.length_nil, Nat.zero_min, ite_self, Cursor.advance_zero, noTab,
        noBreak, Bool.and_false, Bool.false_eq_true, if_false, Nat.max_zero]

/-- The indentation of a line is passed over up to its text.  Where the indentation is not known
yet, the text must not start with a space. -/
theorem skipEmptyLines?_line
    {first : Char}
    (isVisible : Yaml.isVisible first)
    (noBreak : isBreak first = false)
    {indent : Nat}
    (known : indent = 2 ∨ indent = 0 ∧ first ≠ ' ')
    (fuel : Nat)
    (kept : List Char)
    (widest : Nat)
    (rest : List Char)
    (index line : Nat) :
    skipEmptyLines? indent (fuel + 1) kept widest
        ⟨ScalarText.indentation ++ first :: rest, index, line, 0⟩ =
      some (kept, max widest 2, ⟨first :: rest, index + 2, line, 2⟩) := by
  have spaces : ((ScalarText.indentation ++ first :: rest).takeWhile (· == ' ')).length =
      ((first :: rest).takeWhile (· == ' ')).length + 2 :=
    rfl
  have width : (if indent = 0 then
        ((ScalarText.indentation ++ first :: rest).takeWhile (· == ' ')).length
      else
        min ((ScalarText.indentation ++ first :: rest).takeWhile (· == ' ')).length (indent - 0)) =
      2 := by
    rcases known with rfl | ⟨rfl, noSpace⟩
    · rw [spaces, if_neg (by decide)]
      omega
    · rw [spaces, if_pos rfl, takeWhile_spaces_of_head (by simpa using noSpace)]
      rfl
  have noTab : first ≠ '\t' := by
    rintro rfl
    cases isVisible
  have advanced : (Cursor.mk (ScalarText.indentation ++ first :: rest) index line 0).advance 2 =
      ⟨first :: rest, index + 2, line, 2⟩ :=
    rfl
  rw [skipEmptyLines?]
  simp only [width, advanced, Cursor.sees, List.head?_cons, Option.any_some, noBreak,
    beq_eq_false_iff_ne.2 noTab, Bool.and_false, Bool.false_eq_true, if_false]

/-! ## Lines -/

theorem blockLinesFrom_line
    {line : List Char}
    (noBreaks : ∀ character ∈ line, isBreak character = false)
    (rest : List Char) :
    ScalarText.blockLinesFrom false (line ++ rest) =
      line ++ ScalarText.blockLinesFrom false rest := by
  induction line with
  | nil => rfl
  | cons character others inductionHypothesis =>
      rw [List.forall_mem_cons] at noBreaks
      rw [List.cons_append, ScalarText.blockLinesFrom, inductionHypothesis noBreaks.2]
      simp [noBreaks.1]

theorem blockLinesFrom_breaks
    {breaks : List Char}
    (areBreaks : ∀ character ∈ breaks, isBreak character)
    (rest : List Char) :
    ScalarText.blockLinesFrom true (breaks ++ rest) =
      breaks ++ ScalarText.blockLinesFrom true rest := by
  induction breaks with
  | nil => rfl
  | cons character others inductionHypothesis =>
      rw [List.forall_mem_cons] at areBreaks
      rw [List.cons_append, ScalarText.blockLinesFrom, if_pos areBreaks.1,
        inductionHypothesis areBreaks.2, List.cons_append]

theorem blockLinesFrom_cons
    {first : Char}
    (noBreak : isBreak first = false)
    (rest : List Char) :
    ScalarText.blockLinesFrom false (first :: rest) =
      first :: ScalarText.blockLinesFrom false rest := by
  rw [ScalarText.blockLinesFrom]
  simp [noBreak]

/-- Empty lines are written as they are, and the line after them is indented. -/
theorem blockLinesFrom_breaks_line
    {breaks : List Char}
    (areBreaks : ∀ character ∈ breaks, isBreak character)
    {first : Char}
    (noBreak : isBreak first = false)
    (rest : List Char) :
    ScalarText.blockLinesFrom true (breaks ++ first :: rest) =
      breaks ++ (ScalarText.indentation ++ first :: ScalarText.blockLinesFrom false rest) := by
  rw [blockLinesFrom_breaks areBreaks, ScalarText.blockLinesFrom]
  simp [noBreak]

theorem length_le_blockLinesFrom
    (atLineStart : Bool)
    (text : List Char) :
    text.length ≤ (ScalarText.blockLinesFrom atLineStart text).length := by
  induction text generalizing atLineStart with
  | nil => exact Nat.zero_le _
  | cons character others inductionHypothesis =>
      have longer := inductionHypothesis true
      have longerInside := inductionHypothesis false
      rw [ScalarText.blockLinesFrom]
      split_ifs <;> simp only [List.length_append, List.length_cons] <;> omega

/-- A line of a block is read with the empty lines after it. -/
theorem readBlockLines?_line
    {line : List Char}
    (noBreaks : ∀ character ∈ line, isBreak character = false)
    {separator : Char}
    (isBreak : Yaml.isBreak separator)
    (isVisible : Yaml.isVisible separator)
    {rest emptyBreaks : List Char}
    {widest index lineNumber : Nat}
    {following : Cursor}
    (skipped : skipEmptyLines? 2 (rest.length + 1) [] 0
      ⟨rest, index + line.length + 1, lineNumber + 1, 0⟩ = some (emptyBreaks, widest, following))
    (fuel : Nat)
    (lines : BlockLines) :
    ∃ lastIsIndented,
      readBlockLines? true 2 (fuel + 1) lines
          ⟨line ++ separator :: rest, index, lineNumber, 2⟩ =
        readBlockLines? true 2 fuel
          { text := lines.text ++ (lines.lastBreak ++ lines.emptyBreaks) ++ line
            lastBreak := [separator]
            emptyBreaks
            lastIsIndented }
          following := by
  refine ⟨(Cursor.mk (line ++ separator :: rest) index lineNumber 2).sees isBlank, ?_⟩
  have content : (line ++ separator :: rest).takeWhile (fun character => !Yaml.isBreak character) =
      line := by
    rw [List.takeWhile_append_of_pos (by simpa using noBreaks)]
    simp [isBreak]
  rw [readBlockLines?]
  simp only [content, Cursor.advance_append, Cursor.breakText_visible isBreak isVisible,
    Cursor.skipBreak_visible isBreak isVisible, BlockLines.joint, bind, Option.bind]
  simp [skipped]

theorem readBlockLines?_entry
    (literal : Bool)
    (fuel : Nat)
    (lines : BlockLines)
    (following : List Char)
    (index line : Nat) :
    readBlockLines? literal 2 fuel lines ⟨following, index, line, 0⟩ =
      some (lines, ⟨following, index, line, 0⟩) := by
  cases fuel with
  | zero => rfl
  | succ fuel => rfl

theorem skipEmptyLines?_breaks_entry
    {breaks following : List Char}
    (areBreaks : ∀ character ∈ breaks, isBreak character ∧ isVisible character)
    (starts : StartsEntry following)
    {fuel : Nat}
    (enough : breaks.length ≤ fuel)
    (indent index line : Nat) :
    skipEmptyLines? indent fuel [] 0 ⟨breaks ++ following, index, line, 0⟩ =
      some (breaks, 0, ⟨following, index + breaks.length, line + breaks.length, 0⟩) := by
  obtain ⟨fuel, rfl⟩ : ∃ fewer, fuel = fewer + breaks.length := ⟨fuel - breaks.length, by omega⟩
  rw [skipEmptyLines?_breaks areBreaks, skipEmptyLines?_entry starts, List.nil_append]

theorem skipEmptyLines?_breaks_line
    {breaks : List Char}
    {first : Char}
    (areBreaks : ∀ character ∈ breaks, isBreak character ∧ isVisible character)
    (isVisible : Yaml.isVisible first)
    (noBreak : isBreak first = false)
    {indent : Nat}
    (known : indent = 2 ∨ indent = 0 ∧ first ≠ ' ')
    {fuel : Nat}
    (enough : breaks.length < fuel)
    (rest : List Char)
    (index line : Nat) :
    skipEmptyLines? indent fuel [] 0
        ⟨breaks ++ (ScalarText.indentation ++ first :: rest), index, line, 0⟩ =
      some (breaks, 2,
        ⟨first :: rest, index + breaks.length + 2, line + breaks.length, 2⟩) := by
  obtain ⟨fuel, rfl⟩ : ∃ fewer, fuel = fewer + 1 + breaks.length :=
    ⟨fuel - breaks.length - 1, by omega⟩
  rw [skipEmptyLines?_breaks areBreaks, skipEmptyLines?_line isVisible noBreak known,
    List.nil_append]
  rfl

/-- The lines of a block are read back up to the trailing line breaks, which are kept apart.  A
block without trailing line breaks ends with a line feed of its own. -/
theorem readBlockLines?_kept
    {kept trail following more : List Char}
    {first : Char}
    (visible : ∀ character ∈ kept, isVisible character)
    (startsLine : ∀ character ∈ kept.head?, isBreak character = false)
    (endsLine : ∀ character ∈ kept.getLast?, isBreak character = false)
    (nonempty : kept ≠ [])
    (closing : ScalarText.blockLinesFrom false trail = first :: more)
    (areBreaks : ∀ character ∈ first :: more, isBreak character ∧ isVisible character)
    (starts : StartsEntry following)
    {fuel : Nat}
    (enough : kept.length < fuel)
    (lines : BlockLines)
    (index line : Nat) :
    ∃ isIndented nextIndex nextLine,
      readBlockLines? true 2 fuel lines
          ⟨ScalarText.blockLinesFrom false (kept ++ trail) ++ following, index, line, 2⟩ =
        some (
          { text := lines.text ++ (lines.lastBreak ++ lines.emptyBreaks) ++ kept
            lastBreak := [first]
            emptyBreaks := more
            lastIsIndented := isIndented },
          ⟨following, nextIndex, nextLine, 0⟩) := by
  induction size : kept.length using Nat.strongRecOn
    generalizing kept fuel lines index line with
  | _ size inductionHypothesis =>
      obtain ⟨text, rest, rfl, noBreaks, ends⟩ := List.exists_run_until isBreak kept
      obtain ⟨fuel, rfl⟩ : ∃ fewer, fuel = fewer + 1 := ⟨fuel - 1, by omega⟩
      rw [List.append_assoc, blockLinesFrom_line noBreaks, List.append_assoc]
      cases rest with
      | nil =>
          rw [List.forall_mem_cons] at areBreaks
          obtain ⟨⟨isBreak, isVisible⟩, areBreaks⟩ := areBreaks
          have skipped := skipEmptyLines?_breaks_entry areBreaks starts
            (show more.length ≤ (more ++ following).length + 1 by
              rw [List.length_append]; omega)
            2 (index + text.length + 1) (line + 1)
          obtain ⟨isIndented, step⟩ := readBlockLines?_line noBreaks isBreak isVisible skipped fuel
            lines
          rw [List.nil_append, closing, List.cons_append, step, readBlockLines?_entry,
            List.append_nil]
          exact ⟨_, _, _, rfl⟩
      | cons separator others =>
          have isBreak : Yaml.isBreak separator := ends separator rfl
          obtain ⟨breaks, later, rfl, areEmpty, stops⟩ := List.exists_run Yaml.isBreak others
          rw [← List.cons_append] at endsLine
          obtain ⟨laterNonempty, laterEnds⟩ := List.getLast?_behind_run endsLine
            (List.cons_ne_nil _ _) (List.forall_mem_cons.2 ⟨isBreak, areEmpty⟩)
          obtain ⟨next, remaining, rfl⟩ := List.exists_cons_of_ne_nil laterNonempty
          have noBreak := stops next rfl
          have visibleBreaks : ∀ character ∈ breaks,
              Yaml.isBreak character ∧ isVisible character :=
            fun character member =>
              ⟨areEmpty character member, visible character (by simp [member])⟩
          have visibleLater : ∀ character ∈ next :: remaining, isVisible character := by
            intro character member
            apply visible
            simp only [List.mem_append, List.mem_cons] at member ⊢
            tauto
          have written : ScalarText.blockLinesFrom false
                (separator :: (breaks ++ next :: remaining) ++ trail) ++ following =
              separator :: (breaks ++ (ScalarText.indentation ++
                next :: (ScalarText.blockLinesFrom false (remaining ++ trail) ++ following))) := by
            rw [List.cons_append, ScalarText.blockLinesFrom, if_pos isBreak, List.append_assoc,
              List.cons_append, List.cons_append, blockLinesFrom_breaks_line areEmpty noBreak]
            simp
          have longer : breaks.length < (breaks ++ (ScalarText.indentation ++ next ::
              (ScalarText.blockLinesFrom false (remaining ++ trail) ++ following))).length + 1 := by
            rw [List.length_append]
            omega
          have skipped := skipEmptyLines?_breaks_line visibleBreaks (visible next (by simp)) noBreak
            (.inl rfl) longer (ScalarText.blockLinesFrom false (remaining ++ trail) ++ following)
            (index + text.length + 1) (line + 1)
          obtain ⟨isIndented, step⟩ := readBlockLines?_line noBreaks isBreak
            (visible separator (by simp)) skipped fuel lines
          rw [written, step]
          simp only [List.length_append, List.length_cons] at size enough
          have found := inductionHypothesis (remaining.length + 1) (by omega) visibleLater stops
            laterEnds laterNonempty (show (next :: remaining).length < fuel by
              rw [List.length_cons]
              omega)
            { text := lines.text ++ (lines.lastBreak ++ lines.emptyBreaks) ++ text
              lastBreak := [separator]
              emptyBreaks := breaks
              lastIsIndented := isIndented }
            (index + text.length + 1 + breaks.length + 2) (line + 1 + breaks.length) rfl
          rw [List.cons_append, blockLinesFrom_cons noBreak, List.cons_append] at found
          simpa only [List.append_assoc, List.cons_append, List.nil_append] using found

/-! ## Trailing line breaks -/

/-- What becomes of the given trailing line breaks of a text with lines. -/
def Chomping.ofTrail : List Char -> Chomping
  | [] => strip
  | [_] => clip
  | _ => keep

/-- Two or more line breaks at the end are kept. -/
theorem chompingMark_keep
    {text : List Char}
    {last previous : Char}
    {rest : List Char}
    (reversed : text.reverse = last :: previous :: rest)
    (lastIsBreak : isBreak last)
    (previousIsBreak : isBreak previous) :
    ScalarText.chompingMark text = Chomping.keep.mark := by
  unfold ScalarText.chompingMark
  rw [reversed]
  simp [lastIsBreak, previousIsBreak, Chomping.mark]

/-- A text of line breaks only keeps them all. -/
theorem chompingMark_breaks
    {breaks : List Char}
    (nonempty : breaks ≠ [])
    (areBreaks : ∀ character ∈ breaks, isBreak character) :
    ScalarText.chompingMark breaks = Chomping.keep.mark := by
  have reversedBreaks : ∀ character ∈ breaks.reverse, isBreak character := by simpa using areBreaks
  match reversed : breaks.reverse with
  | [] => exact absurd (List.reverse_eq_nil_iff.1 reversed) nonempty
  | [last] =>
      unfold ScalarText.chompingMark
      rw [reversed] at reversedBreaks ⊢
      simp [reversedBreaks last List.mem_cons_self, Chomping.mark]
  | last :: previous :: rest =>
      rw [reversed] at reversedBreaks
      exact chompingMark_keep reversed (reversedBreaks last (by simp))
        (reversedBreaks previous (by simp))

/-- The mark of a text with lines tells how many line breaks trail. -/
theorem chompingMark_trail
    {start trail : List Char}
    {last : Char}
    (noBreak : isBreak last = false)
    (areBreaks : ∀ character ∈ trail, isBreak character) :
    ScalarText.chompingMark (start ++ [last] ++ trail) = (Chomping.ofTrail trail).mark := by
  have reversed : (start ++ [last] ++ trail).reverse = trail.reverse ++ last :: start.reverse := by
    simp
  match trail, areBreaks with
  | [], _ =>
      unfold ScalarText.chompingMark
      rw [reversed]
      cases start.reverse with
      | nil => simp [noBreak, Chomping.ofTrail, Chomping.mark]
      | cons previous others => simp [noBreak, Chomping.ofTrail, Chomping.mark]
  | [first], areBreaks =>
      have isBreak := areBreaks first List.mem_cons_self
      unfold ScalarText.chompingMark
      rw [reversed]
      simp [isBreak, noBreak, Chomping.ofTrail, Chomping.mark]
  | first :: second :: more, areBreaks =>
      have reversedBreaks : ∀ character ∈ (first :: second :: more).reverse,
          isBreak character := by
        intro character member
        exact areBreaks character (List.mem_reverse.1 member)
      match shape : (first :: second :: more).reverse with
      | [] => simp at shape
      | [only] =>
          have length := congrArg List.length shape
          simp at length
      | final :: previous :: rest =>
          rw [shape] at reversedBreaks reversed
          exact chompingMark_keep reversed (reversedBreaks final (by simp))
            (reversedBreaks previous (by simp))

/-- Trailing line breaks are written as they are; without any, a line feed ends the last line. -/
theorem exists_closing
    {trail : List Char}
    (areBreaks : ∀ character ∈ trail, isBreak character ∧ isVisible character) :
    ∃ first more, ScalarText.blockLinesFrom false trail = first :: more ∧
      (∀ character ∈ first :: more, isBreak character ∧ isVisible character) ∧
      (trail = [] ∨ trail = first :: more) := by
  cases trail with
  | nil => exact ⟨'\n', [], rfl, List.forall_mem_singleton.2 ⟨rfl, rfl⟩, .inl rfl⟩
  | cons first more =>
      refine ⟨first, more, ?_, areBreaks, .inr rfl⟩
      have onlyBreaks : ∀ character ∈ more, isBreak character :=
        fun character member => (areBreaks character (List.mem_cons_of_mem _ member)).1
      have written := blockLinesFrom_breaks onlyBreaks []
      rw [List.append_nil, ScalarText.blockLinesFrom] at written
      rw [ScalarText.blockLinesFrom, if_pos (areBreaks first List.mem_cons_self).1, written]
      simp

/-- Every text is lines and then trailing line breaks. -/
theorem exists_trail (text : List Char) :
    ∃ front trail, text = front ++ trail ∧ (∀ character ∈ trail, isBreak character) ∧
      ∀ character ∈ front.getLast?, isBreak character = false := by
  obtain ⟨run, rest, reversed, areBreaks, stops⟩ := List.exists_run isBreak text.reverse
  refine ⟨rest.reverse, run.reverse, ?_, by simpa using areBreaks, ?_⟩
  · rw [← List.reverse_append, ← reversed, List.reverse_reverse]
  · rwa [List.getLast?_reverse]

/-! ## Blocks -/

/-- A block whose header was read is read from its first line with text. -/
theorem readBlock?_lines
    {marks rest emptyBreaks : List Char}
    {chomping : Chomping}
    {indented : Bool}
    {index line column nextIndex widest : Nat}
    {content following : Cursor}
    {lines : BlockLines}
    (header : readBlockHeader? ⟨marks ++ '\n' :: rest, index, line, column⟩ =
      some (⟨chomping, if indented then 2 else 0⟩, ⟨rest, nextIndex, line + 1, 0⟩))
    (skipped : skipEmptyLines? (if indented then 2 else 0) (rest.length + 1) [] 0
      ⟨rest, nextIndex, line + 1, 0⟩ = some (emptyBreaks, widest, content))
    (shown : indented ∨ widest = 2)
    (read : readBlockLines? true 2 (rest.length + 1) { emptyBreaks } content =
      some (lines, following)) :
    readBlock? true 0 ⟨marks ++ '\n' :: rest, index, line, column⟩ =
      some (lines.chomp chomping, following) := by
  unfold readBlock?
  cases indented with
  | true =>
      simp only [header, bind, Option.bind]
      simp at skipped
      simp [skipped, read]
  | false =>
      obtain rfl : widest = 2 := by simpa using shown
      simp only [header, bind, Option.bind]
      simp at skipped
      simp [skipped, read]

theorem indentationMark_eq (text : List Char) :
    ScalarText.indentationMark text =
      if text.head?.any (fun character => ScalarText.isSpace character || isBreak character) then
        ['2']
      else [] :=
  rfl

/-- A text of line breaks only is read back from its block. -/
theorem readBlock?_breaks
    {breaks following : List Char}
    (nonempty : breaks ≠ [])
    (areBreaks : ∀ character ∈ breaks, isBreak character ∧ isVisible character)
    (starts : StartsEntry following)
    (index line column : Nat) :
    ∃ nextIndex nextLine,
      readBlock? true 0
          ⟨ScalarText.indentationMark breaks ++ ScalarText.chompingMark breaks ++
            '\n' :: (ScalarText.blockLinesFrom true breaks ++ following), index, line, column⟩ =
        some (breaks, ⟨following, nextIndex, nextLine, 0⟩) := by
  have onlyBreaks : ∀ character ∈ breaks, isBreak character :=
    fun character member => (areBreaks character member).1
  have indented : ScalarText.indentationMark breaks = if true then ['2'] else [] := by
    obtain ⟨first, others, rfl⟩ := List.exists_cons_of_ne_nil nonempty
    rw [indentationMark_eq]
    simp [onlyBreaks first List.mem_cons_self]
  have written : ScalarText.blockLinesFrom true breaks = breaks := by
    have lines := blockLinesFrom_breaks onlyBreaks []
    rw [List.append_nil, ScalarText.blockLinesFrom] at lines
    simpa using lines
  rw [indented, chompingMark_breaks nonempty onlyBreaks, written]
  obtain ⟨nextIndex, header⟩ := readBlockHeader?_marks true .keep (breaks ++ following) index line
    column
  have skipped := skipEmptyLines?_breaks_entry areBreaks starts
    (show breaks.length ≤ (breaks ++ following).length + 1 by
      rw [List.length_append]
      omega)
    2 nextIndex (line + 1)
  rw [readBlock?_lines header skipped (.inl rfl) (readBlockLines?_entry true _ _ _ _ _)]
  exact ⟨_, _, rfl⟩

/-- The trailing line breaks come back as they are. -/
theorem chomp_ofTrail
    {trail more : List Char}
    {first : Char}
    (shape : trail = [] ∨ trail = first :: more)
    (text : List Char)
    (isIndented : Bool) :
    BlockLines.chomp
        { text, lastBreak := [first], emptyBreaks := more, lastIsIndented := isIndented }
        (Chomping.ofTrail trail) =
      text ++ trail := by
  rcases shape with rfl | rfl
  · exact (List.append_nil text).symm
  · cases more with
    | nil => rfl
    | cons second others => exact List.append_assoc text [first] (second :: others)

/-- A text with lines is read back from its block. -/
theorem readBlock?_kept
    {lead kept trail following : List Char}
    (nonempty : kept ≠ [])
    (leadBreaks : ∀ character ∈ lead, isBreak character)
    (startsLine : ∀ character ∈ kept.head?, isBreak character = false)
    (endsLine : ∀ character ∈ kept.getLast?, isBreak character = false)
    (trailBreaks : ∀ character ∈ trail, isBreak character)
    (visible : ∀ character ∈ lead ++ kept ++ trail, isVisible character)
    (starts : StartsEntry following)
    (index line column : Nat) :
    ∃ nextIndex nextLine,
      readBlock? true 0
          ⟨ScalarText.indentationMark (lead ++ kept ++ trail) ++
            ScalarText.chompingMark (lead ++ kept ++ trail) ++
            '\n' :: (ScalarText.blockLinesFrom true (lead ++ kept ++ trail) ++ following),
            index, line, column⟩ =
        some (lead ++ kept ++ trail, ⟨following, nextIndex, nextLine, 0⟩) := by
  have visibleIn : ∀ {part : List Char}, part ⊆ lead ++ kept ++ trail →
      ∀ character ∈ part, isVisible character :=
    fun included character member => visible character (included member)
  have visibleLead := visibleIn
    (List.Subset.trans (List.subset_append_left lead kept) (List.subset_append_left _ trail))
  have visibleKept := visibleIn
    (List.Subset.trans (List.subset_append_right lead kept) (List.subset_append_left _ trail))
  have visibleTrail := visibleIn (List.subset_append_right (lead ++ kept) trail)
  obtain ⟨first, more, closing, closingBreaks, trailShape⟩ := exists_closing
    fun character member => ⟨trailBreaks character member, visibleTrail character member⟩
  -- The mark of the text tells how its last lines are read.
  have chompingMark : ScalarText.chompingMark (lead ++ kept ++ trail) =
      (Chomping.ofTrail trail).mark := by
    obtain ⟨start, last, rfl⟩ := (List.eq_nil_or_concat' kept).resolve_left nonempty
    rw [← List.append_assoc lead]
    exact chompingMark_trail (endsLine last (by simp)) trailBreaks
  obtain ⟨next, remaining, rfl⟩ := List.exists_cons_of_ne_nil nonempty
  have noBreak := startsLine next rfl
  have written : ScalarText.blockLinesFrom true (lead ++ next :: remaining ++ trail) ++ following =
      lead ++ (ScalarText.indentation ++
        next :: (ScalarText.blockLinesFrom false (remaining ++ trail) ++ following)) := by
    rw [List.append_assoc, List.cons_append, blockLinesFrom_breaks_line leadBreaks noBreak]
    simp
  obtain ⟨indented, mark, known⟩ : ∃ indented : Bool,
      ScalarText.indentationMark (lead ++ next :: remaining ++ trail) =
        (if indented then ['2'] else []) ∧
      ((if indented then 2 else 0) = 2 ∨ (if indented then 2 else 0) = 0 ∧ next ≠ ' ') := by
    refine ⟨_, indentationMark_eq _, ?_⟩
    cases lead with
    | nil =>
        by_cases isSpace : next = ' '
        · exact .inl (by simp [isSpace, ScalarText.isSpace])
        · exact .inr ⟨by simp [isSpace, noBreak, ScalarText.isSpace], isSpace⟩
    | cons separator others => exact .inl (by simp [leadBreaks separator List.mem_cons_self])
  obtain ⟨nextIndex, header⟩ := readBlockHeader?_marks indented (Chomping.ofTrail trail)
    (lead ++ (ScalarText.indentation ++
      next :: (ScalarText.blockLinesFrom false (remaining ++ trail) ++ following)))
    index line column
  have skipped := skipEmptyLines?_breaks_line
    (fun character member => ⟨leadBreaks character member, visibleLead character member⟩)
    (visibleKept next List.mem_cons_self) noBreak known
    (show lead.length < (lead ++ (ScalarText.indentation ++ next ::
        (ScalarText.blockLinesFrom false (remaining ++ trail) ++ following))).length + 1 by
      rw [List.length_append]
      omega)
    (ScalarText.blockLinesFrom false (remaining ++ trail) ++ following) nextIndex (line + 1)
  obtain ⟨isIndented, endIndex, endLine, read⟩ := readBlockLines?_kept visibleKept startsLine
    endsLine nonempty closing closingBreaks starts
    (show (next :: remaining).length < (lead ++ (ScalarText.indentation ++ next ::
        (ScalarText.blockLinesFrom false (remaining ++ trail) ++ following))).length + 1 by
      have longer := length_le_blockLinesFrom false (remaining ++ trail)
      simp only [List.length_append, List.length_cons] at longer ⊢
      omega)
    { emptyBreaks := lead } (nextIndex + lead.length + 2) (line + 1 + lead.length)
  rw [List.cons_append, blockLinesFrom_cons noBreak, List.cons_append] at read
  rw [mark, chompingMark, written, readBlock?_lines header skipped (.inr rfl) read,
    chomp_ofTrail trailShape]
  exact ⟨_, _, rfl⟩

/-- A text is read back from its literal block. -/
theorem readBlock?_block
    {text following : List Char}
    (nonempty : text ≠ [])
    (visible : ∀ character ∈ text, isVisible character)
    (starts : StartsEntry following)
    (index line column : Nat) :
    ∃ nextIndex nextLine,
      readBlock? true 0
          ⟨ScalarText.indentationMark text ++ ScalarText.chompingMark text ++
            '\n' :: (ScalarText.blockLinesFrom true text ++ following), index, line, column⟩ =
        some (text, ⟨following, nextIndex, nextLine, 0⟩) := by
  obtain ⟨front, trail, rfl, trailBreaks, frontEnds⟩ := exists_trail text
  by_cases empty : front = []
  · subst empty
    exact readBlock?_breaks nonempty
      (fun character member => ⟨trailBreaks character member, visible character member⟩) starts
      index line column
  · obtain ⟨lead, kept, rfl, leadBreaks, startsLine⟩ := List.exists_run isBreak front
    have keptNonempty : kept ≠ [] := by
      rintro rfl
      rw [List.append_nil] at empty frontEnds
      obtain ⟨start, last, rfl⟩ := (List.eq_nil_or_concat' lead).resolve_left empty
      have noBreak := frontEnds last (by simp)
      rw [leadBreaks last (by simp)] at noBreak
      cases noBreak
    have endsLine : ∀ character ∈ kept.getLast?, isBreak character = false := by
      rwa [List.getLast?_append_of_ne_nil _ keptNonempty] at frontEnds
    exact readBlock?_kept keptNonempty leadBreaks startsLine endsLine trailBreaks visible starts
      index line column

end Yaml
end EntitySchema
