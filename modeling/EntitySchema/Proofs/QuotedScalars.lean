import EntitySchema.Proofs.PlainScalars

/-!
# Quoted scalars

A text between quotes is read back word by word.  Between double quotes everything but spaces is
part of a word, because line breaks and tabs are escaped there.  Between single quotes line breaks
stand for themselves, and the indentation after them belongs to no word.
-/

namespace EntitySchema
namespace Yaml

/-! ## Words between double quotes -/

theorem paddedHex_two :
    ∀ code : Fin 256, (ScalarText.paddedHex 2 code).length = 2 ∧
      characterOfHex? 2 (ScalarText.paddedHex 2 code) = some (Char.ofNat code) := by
  decide +kernel

theorem toNat_of_hidden
    {character : Char}
    (hidden : isVisible character = false) :
    character.toNat < 0x100 ∨ character.toNat = 0xFEFF ∨ character.toNat = 0xFFFE ∨
      character.toNat = 0xFFFF := by
  unfold isVisible at hidden
  simp only [Bool.or_eq_false_iff, Bool.and_eq_false_iff, decide_eq_false_iff_not,
    bne_eq_false_iff_eq] at hidden
  omega

theorem escapeLetter?_eq_some
    {character letter : Char}
    (escaped : ScalarText.escapeLetter? character = some letter) :
    escapedCharacter? letter = some character ∧ isBreak letter = false ∧
      escapeWidth? letter = none ∧ isAllowed letter := by
  unfold ScalarText.escapeLetter? at escaped
  split at escaped
  case h_14 =>
    split_ifs at escaped with zero
    obtain rfl : character = '\x00' := Char.toNat_inj.1 zero
    obtain rfl := Option.some.inj escaped
    exact ⟨rfl, rfl, rfl, rfl⟩
  all_goals
    obtain rfl := Option.some.inj escaped
    exact ⟨rfl, rfl, rfl, rfl⟩

theorem isSpacing_visible
    {character : Char}
    (isSpacing : Yaml.isSpacing character)
    (isVisible : Yaml.isVisible character) :
    character = ' ' ∨ character = '\n' ∨ character = '\u2028' ∨ character = '\u2029' := by
  unfold Yaml.isSpacing at isSpacing
  rw [Bool.or_eq_true] at isSpacing
  rcases isSpacing with isBlank | isBreak
  · exact .inl (isBlank_visible isBlank isVisible)
  · exact .inr (isBreak_visible isBreak isVisible)

theorem readDoubleQuotedWord?_plain
    {character : Char}
    (noSpacing : isSpacing character = false)
    (noQuote : character ≠ '"')
    (noEscape : character ≠ '\\')
    (fuel : Nat)
    (done rest : List Char)
    (index line column : Nat) :
    readDoubleQuotedWord? (fuel + 1) done ⟨character :: rest, index, line, column⟩ =
      readDoubleQuotedWord? fuel (done ++ [character]) ⟨rest, index + 1, line, column + 1⟩ := by
  rw [readDoubleQuotedWord?]
  split
  · next shape => cases shape
  · next shape => exact absurd (List.cons.inj shape).1 noEscape
  · next shape =>
      obtain ⟨rfl, rfl⟩ := List.cons.inj shape
      simp [noSpacing, noQuote, Cursor.advance_cons]

theorem readDoubleQuotedWord?_letter
    {character letter : Char}
    (escaped : escapedCharacter? letter = some character)
    (noBreak : isBreak letter = false)
    (noWidth : escapeWidth? letter = none)
    (fuel : Nat)
    (done rest : List Char)
    (index line column : Nat) :
    readDoubleQuotedWord? (fuel + 1) done ⟨'\\' :: letter :: rest, index, line, column⟩ =
      readDoubleQuotedWord? fuel (done ++ [character]) ⟨rest, index + 2, line, column + 2⟩ := by
  rw [readDoubleQuotedWord?]
  simp only [noBreak, noWidth, escaped, Bool.false_eq_true, if_false, bind, Option.bind]
  rfl

theorem readDoubleQuotedWord?_code
    {character letter : Char}
    {digits : List Char}
    (width : escapeWidth? letter = some digits.length)
    (noBreak : isBreak letter = false)
    (code : characterOfHex? digits.length digits = some character)
    (fuel : Nat)
    (done rest : List Char)
    (index line column : Nat) :
    readDoubleQuotedWord? (fuel + 1) done
        ⟨'\\' :: letter :: (digits ++ rest), index, line, column⟩ =
      readDoubleQuotedWord? fuel (done ++ [character])
        ⟨rest, index + (2 + digits.length), line, column + (2 + digits.length)⟩ := by
  have passed := Cursor.advance_append ('\\' :: letter :: digits) rest index line column
  rw [List.length_cons, List.length_cons, Nat.add_assoc, Nat.add_comm digits.length] at passed
  rw [readDoubleQuotedWord?]
  simp only [noBreak, width, List.take_left, code, Bool.false_eq_true, if_false, bind, Option.bind]
  exact congrArg _ passed

theorem not_isSpacing_of_unescaped
    {character : Char}
    (noSpace : character ≠ ' ')
    (unescaped : ScalarText.escapeLetter? character = none)
    (isVisible : Yaml.isVisible character) :
    isSpacing character = false := by
  by_contra isSpacing
  rw [Bool.not_eq_false] at isSpacing
  rcases isSpacing_visible isSpacing isVisible with rfl | rfl | rfl | rfl
  · exact noSpace rfl
  all_goals cases unescaped

/-- A character between double quotes is read back. -/
theorem readDoubleQuotedWord?_form
    {character : Char}
    (noSpace : character ≠ ' ')
    (fuel : Nat)
    (done rest : List Char)
    (index line column : Nat) :
    ∃ nextIndex nextColumn, column < nextColumn ∧
      readDoubleQuotedWord? (fuel + 1) done
          ⟨ScalarText.doubleQuotedForm character ++ rest, index, line, column⟩ =
        readDoubleQuotedWord? fuel (done ++ [character]) ⟨rest, nextIndex, line, nextColumn⟩ := by
  unfold ScalarText.doubleQuotedForm
  split
  · next letter escaped =>
      obtain ⟨read, noBreak, noWidth, -⟩ := escapeLetter?_eq_some escaped
      refine ⟨index + 2, column + 2, by omega, ?_⟩
      exact readDoubleQuotedWord?_letter read noBreak noWidth fuel done rest index line column
  · next unescaped =>
      dsimp only
      split_ifs with isVisible small medium
      · have noSpacing := not_isSpacing_of_unescaped noSpace unescaped isVisible
        refine ⟨index + 1, column + 1, by omega, ?_⟩
        refine readDoubleQuotedWord?_plain noSpacing ?_ ?_ fuel done rest index line column
        all_goals
          rintro rfl
          cases unescaped
      · obtain ⟨length, read⟩ := paddedHex_two ⟨character.toNat, by omega⟩
        have width : escapeWidth? 'x' = some (ScalarText.paddedHex 2 character.toNat).length := by
          rw [length]
          rfl
        refine ⟨_, _, ?_, readDoubleQuotedWord?_code width rfl ?_ fuel done rest index line column⟩
        · omega
        · rw [length, read, Char.ofNat_toNat]
      -- Three hidden characters are left that take four digits, and none takes eight.
      · rcases toNat_of_hidden (by simpa using isVisible) with low | code | code | code
        · omega
        all_goals
          have same := Char.ofNat_toNat character
          rw [code] at same ⊢
          subst same
          refine ⟨_, _, ?_, readDoubleQuotedWord?_code rfl rfl ?_ fuel done rest index line column⟩
          · omega
          · rfl
      · rcases toNat_of_hidden (by simpa using isVisible) with low | code | code | code <;> omega

theorem readDoubleQuotedWord?_stop
    {character : Char}
    (stops : character = ' ' ∨ character = '"')
    {fuel : Nat}
    (done rest : List Char)
    (index line column : Nat) :
    readDoubleQuotedWord? fuel done ⟨character :: rest, index, line, column⟩ =
      some ⟨done, ⟨character :: rest, index, line, column⟩, false⟩ := by
  cases fuel with
  | zero => rfl
  | succ fuel => rcases stops with rfl | rfl <;> rfl

/-- A word between double quotes is read back. -/
theorem readDoubleQuotedWord?_word
    {word : List Char}
    (proper : ∀ character ∈ word, character ≠ ' ')
    {fuel : Nat}
    (enough : word.length ≤ fuel)
    {separator : Char}
    (stops : separator = ' ' ∨ separator = '"')
    (done rest : List Char)
    (index line column : Nat) :
    ∃ nextIndex nextColumn, column ≤ nextColumn ∧
      readDoubleQuotedWord? fuel done
          ⟨word.flatMap ScalarText.doubleQuotedForm ++ separator :: rest, index, line, column⟩ =
        some ⟨done ++ word, ⟨separator :: rest, nextIndex, line, nextColumn⟩, false⟩ := by
  induction word generalizing fuel done index column with
  | nil =>
      refine ⟨index, column, Nat.le_refl _, ?_⟩
      rw [List.append_nil]
      exact readDoubleQuotedWord?_stop stops done rest index line column
  | cons character others inductionHypothesis =>
      rw [List.forall_mem_cons] at proper
      rw [List.length_cons] at enough
      obtain ⟨fuel, rfl⟩ : ∃ fewer, fuel = fewer + 1 := ⟨fuel - 1, by omega⟩
      rw [List.flatMap_cons, List.append_assoc]
      obtain ⟨stepIndex, stepColumn, further, step⟩ := readDoubleQuotedWord?_form proper.1 fuel done
        (others.flatMap ScalarText.doubleQuotedForm ++ separator :: rest) index line column
      obtain ⟨nextIndex, nextColumn, furtherStill, found⟩ := inductionHypothesis proper.2
        (Nat.le_of_succ_le_succ enough) (done ++ [character]) stepIndex stepColumn
      refine ⟨nextIndex, nextColumn, by omega, ?_⟩
      rw [step, found, List.append_assoc, List.singleton_append]

/-! ## Quoted scalars -/

/-- The word at a cursor inside quotes. -/
def readQuotedWord? (single : Bool) (length : Nat) (text : List Char) (cursor : Cursor) :
    Option QuotedWord :=
  if single then some (readSingleQuotedWord length text cursor)
  else readDoubleQuotedWord? length text cursor

theorem readQuoted?_inside
    (single : Bool)
    (fuel : Nat)
    (text : List Char)
    {cursor : Cursor}
    (inside : 0 < cursor.column)
    (nonempty : cursor.rest ≠ []) :
    readQuoted? single (fuel + 1) text cursor =
      (readQuotedWord? single (cursor.rest.length + 1) text cursor).bind fun word =>
        if word.cursor.sees (· == if single then '\'' else '"') then
          some (word.text, word.cursor.advance 1)
        else
          (readGap? 0 (cursor.rest.length + 1) { isBroken := word.escapedBreak } word.cursor).bind
            fun found => readQuoted? single fuel (word.text ++ found.1.text) found.2 := by
  have noMark : cursor.atDocumentMark = false := Cursor.atDocumentMark_inside inside
  have noEnd : cursor.rest.isEmpty = false := by simpa using nonempty
  rw [readQuoted?, noMark, noEnd]
  cases single <;> rfl

theorem readQuoted?_close
    (single : Bool)
    {text done start after : List Char}
    {startIndex startLine startColumn index line column : Nat}
    (inside : 0 < startColumn)
    (nonempty : start ≠ [])
    (word : readQuotedWord? single (start.length + 1) done
        ⟨start, startIndex, startLine, startColumn⟩ =
      some ⟨text, ⟨(if single then '\'' else '"') :: after, index, line, column⟩, false⟩)
    (fuel : Nat) :
    readQuoted? single (fuel + 1) done ⟨start, startIndex, startLine, startColumn⟩ =
      some (text, ⟨after, index + 1, line, column + 1⟩) := by
  rw [readQuoted?_inside single fuel done inside nonempty, word]
  simp [Cursor.sees, Cursor.advance_cons]

theorem readQuoted?_gap
    (single : Bool)
    {text done start rest : List Char}
    {startIndex startLine startColumn index line column : Nat}
    {separator : Char}
    {gap : Gap}
    {afterGap : Cursor}
    (inside : 0 < startColumn)
    (nonempty : start ≠ [])
    (word : readQuotedWord? single (start.length + 1) done
        ⟨start, startIndex, startLine, startColumn⟩ =
      some ⟨text, ⟨separator :: rest, index, line, column⟩, false⟩)
    (isSpacing : Yaml.isSpacing separator)
    (gapRead : readGap? 0 (start.length + 1) {} ⟨separator :: rest, index, line, column⟩ =
      some (gap, afterGap))
    (fuel : Nat) :
    readQuoted? single (fuel + 1) done ⟨start, startIndex, startLine, startColumn⟩ =
      readQuoted? single fuel (text ++ gap.text) afterGap := by
  have noQuote : separator ≠ (if single then '\'' else '"') := by
    rintro rfl
    cases single <;> cases isSpacing
  rw [readQuoted?_inside single fuel done inside nonempty, word]
  simp [Cursor.sees, noQuote, gapRead]

/-- After a word, spaces inside quotes are kept. -/
theorem readQuoted?_spaces
    (single : Bool)
    {text done start rest : List Char}
    {startIndex startLine startColumn index line column spaces : Nat}
    (inside : 0 < startColumn)
    (word : readQuotedWord? single (start.length + 1) done
        ⟨start, startIndex, startLine, startColumn⟩ =
      some ⟨text, ⟨' ' :: (List.replicate spaces ' ' ++ rest), index, line, column⟩, false⟩)
    (longer : spaces < start.length)
    (stops : ∀ character ∈ rest.head?, isSpacing character = false)
    (fuel : Nat) :
    readQuoted? single (fuel + 1) done ⟨start, startIndex, startLine, startColumn⟩ =
      readQuoted? single fuel (text ++ List.replicate (spaces + 1) ' ')
        ⟨rest, index + (spaces + 1), line, column + (spaces + 1)⟩ := by
  have nonempty : start ≠ [] := by
    rintro rfl
    simp at longer
  have gapRead := readGap?_spaces_stop (show spaces + 1 ≤ start.length + 1 by omega) stops 0 index
    line column
  exact readQuoted?_gap single inside nonempty word (by decide) gapRead fuel

theorem exists_doubleQuotedForm
    {character : Char}
    (noSpace : character ≠ ' ') :
    ∃ first rest, ScalarText.doubleQuotedForm character = first :: rest ∧
      isSpacing first = false := by
  unfold ScalarText.doubleQuotedForm
  split
  · exact ⟨'\\', _, rfl, rfl⟩
  · next unescaped =>
      dsimp only
      split_ifs with isVisible small medium
      · exact ⟨character, [], rfl, not_isSpacing_of_unescaped noSpace unescaped isVisible⟩
      all_goals exact ⟨'\\', _, rfl, rfl⟩

theorem doubleQuotedForm_length_pos (character : Char) :
    0 < (ScalarText.doubleQuotedForm character).length := by
  unfold ScalarText.doubleQuotedForm
  split
  · simp
  · dsimp only
    split_ifs <;> simp

theorem flatMap_doubleQuotedForm_spaces (spaces : Nat) :
    (List.replicate spaces ' ').flatMap ScalarText.doubleQuotedForm =
      List.replicate spaces ' ' := by
  induction spaces with
  | zero => rfl
  | succ spaces inductionHypothesis =>
      rw [List.replicate_succ, List.flatMap_cons, inductionHypothesis]
      rfl

/-- A text between double quotes is read back. -/
theorem readQuoted?_doubleQuoted
    (text after : List Char)
    {fuel : Nat}
    (enough : text.length < fuel)
    {column : Nat}
    (inside : 0 < column)
    (done : List Char)
    (index line : Nat) :
    ∃ nextIndex nextColumn,
      readQuoted? false fuel done
          ⟨text.flatMap ScalarText.doubleQuotedForm ++ '"' :: after, index, line, column⟩ =
        some (done ++ text, ⟨after, nextIndex, line, nextColumn⟩) := by
  induction size : text.length using Nat.strongRecOn
    generalizing text fuel index column done with
  | _ size inductionHypothesis =>
      obtain ⟨word, rest, rfl, proper, ends⟩ := List.exists_run_until (· == ' ') text
      simp only [beq_eq_false_iff_ne, beq_iff_eq] at proper ends
      obtain ⟨fuel, rfl⟩ : ∃ fewer, fuel = fewer + 1 := ⟨fuel - 1, by omega⟩
      have longEnough : ∀ more : List Char,
          word.length ≤ (word.flatMap ScalarText.doubleQuotedForm ++ more).length + 1 := by
        intro more
        have longer := List.length_le_flatMap doubleQuotedForm_length_pos word
        rw [List.length_append]
        omega
      cases rest with
      | nil =>
          rw [List.append_nil]
          obtain ⟨wordIndex, wordColumn, -, found⟩ := readDoubleQuotedWord?_word proper
            (longEnough ('"' :: after)) (.inr rfl) done after index line column
          refine ⟨wordIndex + 1, wordColumn + 1, ?_⟩
          exact readQuoted?_close false inside (by simp) found fuel
      | cons separator others =>
          obtain rfl : separator = ' ' := ends separator rfl
          obtain ⟨spaces, later, rfl, stops⟩ := exists_spaces others
          -- The spaces make a gap, because what follows them is written without a space in front.
          have laterStops : ∀ character ∈
              (later.flatMap ScalarText.doubleQuotedForm ++ '"' :: after).head?,
              isSpacing character = false := by
            cases later with
            | nil => simp [isSpacing, isBlank, isBreak]
            | cons first remaining =>
                obtain ⟨head, tail, form, noSpacing⟩ := exists_doubleQuotedForm
                  (show first ≠ ' ' by simpa using stops)
                simpa [form] using noSpacing
          rw [List.flatMap_append, List.flatMap_cons, List.flatMap_append,
            flatMap_doubleQuotedForm_spaces, List.append_assoc, List.append_assoc,
            List.append_assoc, show ScalarText.doubleQuotedForm ' ' = [' '] from rfl,
            List.singleton_append]
          obtain ⟨wordIndex, wordColumn, further, found⟩ := readDoubleQuotedWord?_word proper
            (longEnough _) (.inl rfl) done _ index line column
          rw [readQuoted?_spaces false inside found (by simp; omega) laterStops]
          simp only [List.length_append, List.length_cons, List.length_replicate] at size enough
          obtain ⟨nextIndex, nextColumn, remainder⟩ := inductionHypothesis later.length (by omega)
            later (show later.length < fuel by omega)
            (show 0 < wordColumn + (spaces + 1) by omega)
            (done ++ word ++ List.replicate (spaces + 1) ' ') (wordIndex + (spaces + 1)) rfl
          refine ⟨nextIndex, nextColumn, ?_⟩
          rw [remainder]
          simp [List.replicate_succ]

/-! ## Single quotes -/

/-- Line breaks that go on a gap. -/
theorem readGap?_later_breaks
    {breaks : List Char}
    (areBreaks : ∀ character ∈ breaks, isBreak character ∧ isVisible character)
    (indent fuel : Nat)
    {gap : Gap}
    (isBroken : gap.isBroken)
    (rest : List Char)
    (index line : Nat) :
    readGap? indent (fuel + breaks.length) gap ⟨breaks ++ rest, index, line, 0⟩ =
      readGap? indent fuel { gap with laterBreaks := gap.laterBreaks ++ breaks }
        ⟨rest, index + breaks.length, line + breaks.length, 0⟩ := by
  induction breaks generalizing gap index line with
  | nil => simp
  | cons character others inductionHypothesis =>
      rw [List.forall_mem_cons] at areBreaks
      obtain ⟨⟨isBreak, isVisible⟩, areBreaks⟩ := areBreaks
      have later := @inductionHypothesis areBreaks
        { gap with laterBreaks := gap.laterBreaks ++ [character] } isBroken (index + 1) (line + 1)
      rw [List.cons_append, List.length_cons, ← Nat.add_assoc, readGap?_break isBreak isVisible,
        if_pos isBroken, later]
      simp only [List.append_assoc, List.singleton_append, Nat.add_assoc, Nat.add_comm 1]

/-- Line breaks with indentation after them make a gap. -/
theorem readGap?_breaks
    {first : Char}
    {breaks : List Char}
    (areBreaks : ∀ character ∈ first :: breaks, isBreak character ∧ isVisible character)
    {fuel : Nat}
    (enough : breaks.length + 3 ≤ fuel)
    {rest : List Char}
    (stops : ∀ character ∈ rest.head?, isSpacing character = false)
    (indent index line column : Nat) :
    ∃ nextIndex nextLine,
      readGap? indent fuel {}
          ⟨first :: (breaks ++ (ScalarText.indentation ++ rest)), index, line, column⟩ =
        some ({ isBroken := true, firstBreak := [first], laterBreaks := breaks },
          ⟨rest, nextIndex, nextLine, 2⟩) := by
  rw [List.forall_mem_cons] at areBreaks
  obtain ⟨⟨isBreak, isVisible⟩, areBreaks⟩ := areBreaks
  obtain ⟨fuel, rfl⟩ : ∃ fewer, fuel = fewer + 2 + breaks.length + 1 :=
    ⟨fuel - breaks.length - 3, by omega⟩
  have indentation : ScalarText.indentation = List.replicate 2 ' ' := rfl
  rw [readGap?_break isBreak isVisible]
  simp only [Bool.false_eq_true, if_false]
  rw [readGap?_later_breaks areBreaks _ _ rfl, indentation, readGap?_broken_spaces 2 _ _ rfl,
    readGap?_stop stops]
  exact ⟨_, _, rfl⟩

/-- After a word, line breaks other than line feeds are kept inside quotes. -/
theorem readQuoted?_breaks
    (single : Bool)
    {text done start breaks rest : List Char}
    {first : Char}
    {startIndex startLine startColumn index line column : Nat}
    (inside : 0 < startColumn)
    (areBreaks : ∀ character ∈ first :: breaks, isBreak character ∧ isVisible character)
    (noFeed : first ≠ '\n')
    (word : readQuotedWord? single (start.length + 1) done
        ⟨start, startIndex, startLine, startColumn⟩ =
      some
        ⟨text, ⟨first :: (breaks ++ (ScalarText.indentation ++ rest)), index, line, column⟩, false⟩)
    (longer : breaks.length + 2 ≤ start.length)
    (stops : ∀ character ∈ rest.head?, isSpacing character = false)
    (fuel : Nat) :
    ∃ nextIndex nextLine,
      readQuoted? single (fuel + 1) done ⟨start, startIndex, startLine, startColumn⟩ =
        readQuoted? single fuel (text ++ first :: breaks) ⟨rest, nextIndex, nextLine, 2⟩ := by
  have nonempty : start ≠ [] := by
    rintro rfl
    simp at longer
  have isSpacing : isSpacing first := by
    unfold isSpacing
    rw [(areBreaks first List.mem_cons_self).1, Bool.or_true]
  obtain ⟨nextIndex, nextLine, gapRead⟩ := readGap?_breaks areBreaks
    (show breaks.length + 3 ≤ start.length + 1 by omega) stops 0 index line column
  refine ⟨nextIndex, nextLine, ?_⟩
  rw [readQuoted?_gap single inside nonempty word isSpacing gapRead fuel]
  have gapText : Gap.text { isBroken := true, firstBreak := [first], laterBreaks := breaks } =
      first :: breaks := by
    simp [Gap.text, noFeed]
  rw [gapText]

/-- The form of a character between single quotes. -/
def singleQuotedForm (character : Char) : List Char :=
  if character = '\'' then ['\'', '\''] else [character]

theorem singleQuotedFrom_word
    {word : List Char}
    (noBreaks : ∀ character ∈ word, isBreak character = false)
    (rest : List Char) :
    ScalarText.singleQuotedFrom false (word ++ rest) =
      word.flatMap singleQuotedForm ++ ScalarText.singleQuotedFrom false rest := by
  induction word with
  | nil => rfl
  | cons character others inductionHypothesis =>
      rw [List.forall_mem_cons] at noBreaks
      rw [List.cons_append, ScalarText.singleQuotedFrom, inductionHypothesis noBreaks.2]
      simp [noBreaks.1, singleQuotedForm]

theorem singleQuotedFrom_breaks
    {breaks : List Char}
    (areBreaks : ∀ character ∈ breaks, isBreak character)
    {rest : List Char}
    (stops : ∀ character ∈ rest.head?, isBreak character = false) :
    ScalarText.singleQuotedFrom true (breaks ++ rest) =
      breaks ++ (ScalarText.indentation ++ ScalarText.singleQuotedFrom false rest) := by
  induction breaks with
  | nil =>
      cases rest with
      | nil => rfl
      | cons character others =>
          have noBreak := stops character rfl
          rw [List.nil_append, List.nil_append, ScalarText.singleQuotedFrom,
            ScalarText.singleQuotedFrom]
          simp [noBreak]
  | cons character others inductionHypothesis =>
      rw [List.forall_mem_cons] at areBreaks
      rw [List.cons_append, ScalarText.singleQuotedFrom, if_pos areBreaks.1,
        inductionHypothesis areBreaks.2, List.cons_append]

theorem readSingleQuotedWord_form
    {character : Char}
    (noSpacing : isSpacing character = false)
    (fuel : Nat)
    (done rest : List Char)
    (index line column : Nat) :
    ∃ nextIndex nextColumn, column < nextColumn ∧
      readSingleQuotedWord (fuel + 1) done
          ⟨singleQuotedForm character ++ rest, index, line, column⟩ =
        readSingleQuotedWord fuel (done ++ [character]) ⟨rest, nextIndex, line, nextColumn⟩ := by
  unfold singleQuotedForm
  split_ifs with isQuote
  · subst isQuote
    exact ⟨index + 2, column + 2, by omega, rfl⟩
  · refine ⟨index + 1, column + 1, by omega, ?_⟩
    rw [List.singleton_append, readSingleQuotedWord]
    split
    · next shape => cases shape
    · next shape => exact absurd (List.cons.inj shape).1 isQuote
    · next shape =>
        obtain ⟨rfl, rfl⟩ := List.cons.inj shape
        simp [noSpacing, isQuote, Cursor.advance_cons]

theorem readSingleQuotedWord_stop
    {separator : Char}
    {rest : List Char}
    (stops : isSpacing separator ∨ separator = '\'' ∧ rest.head? ≠ some '\'')
    (fuel : Nat)
    (done : List Char)
    (index line column : Nat) :
    readSingleQuotedWord fuel done ⟨separator :: rest, index, line, column⟩ =
      ⟨done, ⟨separator :: rest, index, line, column⟩, false⟩ := by
  cases fuel with
  | zero => rfl
  | succ fuel =>
      rw [readSingleQuotedWord]
      split
      · next shape => cases shape
      · next shape =>
          obtain ⟨rfl, rfl⟩ := List.cons.inj shape
          rcases stops with isSpacing | ⟨-, noQuote⟩
          · cases isSpacing
          · exact absurd rfl noQuote
      · next shape =>
          obtain ⟨rfl, rfl⟩ := List.cons.inj shape
          rw [if_pos]
          rcases stops with isSpacing | ⟨rfl, -⟩
          · simp [isSpacing]
          · rfl

/-- A word between single quotes is read back. -/
theorem readSingleQuotedWord_word
    {word : List Char}
    (proper : ∀ character ∈ word, isSpacing character = false)
    {fuel : Nat}
    (enough : word.length ≤ fuel)
    {separator : Char}
    {rest : List Char}
    (stops : isSpacing separator ∨ separator = '\'' ∧ rest.head? ≠ some '\'')
    (done : List Char)
    (index line column : Nat) :
    ∃ nextIndex nextColumn, column ≤ nextColumn ∧
      readSingleQuotedWord fuel done
          ⟨word.flatMap singleQuotedForm ++ separator :: rest, index, line, column⟩ =
        ⟨done ++ word, ⟨separator :: rest, nextIndex, line, nextColumn⟩, false⟩ := by
  induction word generalizing fuel done index column with
  | nil =>
      refine ⟨index, column, Nat.le_refl _, ?_⟩
      rw [List.append_nil]
      exact readSingleQuotedWord_stop stops fuel done index line column
  | cons character others inductionHypothesis =>
      rw [List.forall_mem_cons] at proper
      rw [List.length_cons] at enough
      obtain ⟨fuel, rfl⟩ : ∃ fewer, fuel = fewer + 1 := ⟨fuel - 1, by omega⟩
      rw [List.flatMap_cons, List.append_assoc]
      obtain ⟨stepIndex, stepColumn, further, step⟩ := readSingleQuotedWord_form proper.1 fuel done
        (others.flatMap singleQuotedForm ++ separator :: rest) index line column
      obtain ⟨nextIndex, nextColumn, furtherStill, found⟩ := inductionHypothesis proper.2
        (Nat.le_of_succ_le_succ enough) (done ++ [character]) stepIndex stepColumn
      refine ⟨nextIndex, nextColumn, by omega, ?_⟩
      rw [step, found, List.append_assoc, List.singleton_append]

theorem hasNeighbours_of_append
    {first second : Char → Bool}
    {before after : List Char}
    (none : ScalarText.hasNeighbours first second (before ++ after) = false) :
    ScalarText.hasNeighbours first second after = false := by
  induction before with
  | nil => exact none
  | cons character others inductionHypothesis =>
      apply inductionHypothesis
      cases shape : others ++ after with
      | nil => rfl
      | cons next later =>
          rw [List.cons_append, shape, ScalarText.hasNeighbours, Bool.or_eq_false_iff] at none
          exact none.2

/-- What follows a run of the first class of characters is not in the second class. -/
theorem not_of_hasNeighbours
    {first second : Char → Bool}
    {before run after : List Char}
    (none : ScalarText.hasNeighbours first second (before ++ (run ++ after)) = false)
    (nonempty : run ≠ [])
    (areFirst : ∀ character ∈ run, first character) :
    ∀ character ∈ after.head?, second character = false := by
  intro character member
  obtain ⟨others, rfl⟩ : ∃ others, after = character :: others := by
    cases after with
    | nil => cases member
    | cons head tail => exact ⟨tail, by rw [Option.some.inj member]⟩
  obtain ⟨start, last, rfl⟩ := (List.eq_nil_or_concat' run).resolve_left nonempty
  have isFirst := areFirst last (by simp)
  rw [List.append_assoc, ← List.append_assoc] at none
  have neighbours := hasNeighbours_of_append none
  rw [List.singleton_append, ScalarText.hasNeighbours, isFirst, Bool.true_and,
    Bool.or_eq_false_iff] at neighbours
  exact neighbours.1

/-- A text that may stand between single quotes and has no line feed. -/
structure IsSingleLine (text : List Char) : Prop where
  visible : ∀ character ∈ text, isVisible character
  noFeed : '\n' ∉ text
  spaceBreak : ScalarText.hasNeighbours ScalarText.isSpace isBreak text = false
  breakSpace : ScalarText.hasNeighbours isBreak ScalarText.isSpace text = false

theorem IsSingleLine.of_append
    {before after : List Char}
    (single : IsSingleLine (before ++ after)) :
    IsSingleLine after where
  visible character member := single.visible character (List.mem_append_right _ member)
  noFeed member := single.noFeed (List.mem_append_right _ member)
  spaceBreak := hasNeighbours_of_append single.spaceBreak
  breakSpace := hasNeighbours_of_append single.breakSpace

theorem not_isSpacing_of_visible
    {character : Char}
    (isVisible : Yaml.isVisible character)
    (noSpace : ScalarText.isSpace character = false)
    (noBreak : isBreak character = false) :
    isSpacing character = false := by
  by_contra isSpacing
  rw [Bool.not_eq_false] at isSpacing
  rcases isSpacing_visible isSpacing isVisible with rfl | rfl | rfl | rfl
  · cases noSpace
  all_goals cases noBreak

/-- Spaces between single quotes stand before a word or at the end. -/
theorem IsSingleLine.stops_after_spaces
    {word later : List Char}
    {spaces : Nat}
    (single : IsSingleLine (word ++ (List.replicate (spaces + 1) ' ' ++ later)))
    (stops : later.head? ≠ some ' ') :
    ∀ character ∈ later.head?, isSpacing character = false := by
  intro character member
  have areSpaces : ∀ character ∈ List.replicate (spaces + 1) ' ', ScalarText.isSpace character := by
    intro character member
    rw [List.eq_of_mem_replicate member]
    rfl
  apply not_isSpacing_of_visible
  · exact single.of_append.of_append.visible character (List.mem_of_mem_head? member)
  · apply decide_eq_false
    rintro rfl
    exact stops member
  · exact not_of_hasNeighbours single.spaceBreak (by simp) areSpaces character member

/-- Line breaks between single quotes stand before a word or at the end. -/
theorem IsSingleLine.stops_after_breaks
    {word breaks later : List Char}
    (single : IsSingleLine (word ++ (breaks ++ later)))
    (nonempty : breaks ≠ [])
    (areBreaks : ∀ character ∈ breaks, isBreak character)
    (stops : ∀ character ∈ later.head?, isBreak character = false) :
    ∀ character ∈ later.head?, isSpacing character = false := by
  intro character member
  apply not_isSpacing_of_visible
  · exact single.of_append.of_append.visible character (List.mem_of_mem_head? member)
  · exact not_of_hasNeighbours single.breakSpace nonempty areBreaks character member
  · exact stops character member

theorem singleQuotedFrom_spaces
    (spaces : Nat)
    (rest : List Char) :
    ScalarText.singleQuotedFrom false (List.replicate spaces ' ' ++ rest) =
      List.replicate spaces ' ' ++ ScalarText.singleQuotedFrom false rest := by
  induction spaces with
  | zero => rfl
  | succ spaces inductionHypothesis =>
      rw [List.replicate_succ, List.cons_append, ScalarText.singleQuotedFrom, inductionHypothesis]
      rfl

theorem singleQuotedForm_length_pos (character : Char) :
    0 < (singleQuotedForm character).length := by
  unfold singleQuotedForm
  split_ifs <;> simp

/-- What is written between single quotes does not start with spacing where the text does not. -/
theorem singleQuotedFrom_stops
    {text : List Char}
    (stops : ∀ character ∈ text.head?, isSpacing character = false)
    (after : List Char) :
    ∀ character ∈ (ScalarText.singleQuotedFrom false text ++ '\'' :: after).head?,
      isSpacing character = false := by
  cases text with
  | nil => simp [ScalarText.singleQuotedFrom, isSpacing, isBlank, isBreak]
  | cons first others =>
      have noSpacing := stops first rfl
      have noBreak := not_isBreak_of_not_isSpacing noSpacing
      rw [ScalarText.singleQuotedFrom]
      simp only [noBreak, Bool.false_eq_true, if_false, List.nil_append]
      split_ifs
      · simp [isSpacing, isBlank, isBreak]
      · simpa using noSpacing

/-- A text between single quotes is read back. -/
theorem readQuoted?_singleQuoted
    {text after : List Char}
    (single : IsSingleLine text)
    (closes : after.head? ≠ some '\'')
    {fuel : Nat}
    (enough : text.length < fuel)
    {column : Nat}
    (inside : 0 < column)
    (done : List Char)
    (index line : Nat) :
    ∃ nextIndex nextLine nextColumn,
      readQuoted? true fuel done
          ⟨ScalarText.singleQuotedFrom false text ++ '\'' :: after, index, line, column⟩ =
        some (done ++ text, ⟨after, nextIndex, nextLine, nextColumn⟩) := by
  induction size : text.length using Nat.strongRecOn
    generalizing text fuel index line column done with
  | _ size inductionHypothesis =>
      obtain ⟨word, rest, rfl, proper, ends⟩ := List.exists_run_until isSpacing text
      obtain ⟨fuel, rfl⟩ : ∃ fewer, fuel = fewer + 1 := ⟨fuel - 1, by omega⟩
      have noBreaks : ∀ character ∈ word, isBreak character = false :=
        fun character member => not_isBreak_of_not_isSpacing (proper character member)
      have longEnough : ∀ more : List Char,
          word.length ≤ (word.flatMap singleQuotedForm ++ more).length + 1 := by
        intro more
        have longer := List.length_le_flatMap singleQuotedForm_length_pos word
        rw [List.length_append]
        omega
      rw [singleQuotedFrom_word noBreaks, List.append_assoc]
      cases rest with
      | nil =>
          obtain ⟨wordIndex, wordColumn, -, found⟩ := readSingleQuotedWord_word proper
            (longEnough ('\'' :: after)) (.inr ⟨rfl, closes⟩) done index line column
          rw [List.append_nil]
          exact ⟨_, _, _, readQuoted?_close true inside (by simp) (congrArg some found) fuel⟩
      | cons separator others =>
          have isSpacing := ends separator rfl
          have isVisible := single.visible separator (by simp)
          by_cases isSpace : separator = ' '
          · subst isSpace
            obtain ⟨spaces, later, rfl, stops⟩ := exists_spaces others
            rw [← List.cons_append, ← List.replicate_succ] at single size enough ⊢
            have laterStops := single.stops_after_spaces stops
            obtain ⟨wordIndex, wordColumn, further, found⟩ := readSingleQuotedWord_word proper
              (longEnough _) (.inl isSpacing) done index line column
            rw [singleQuotedFrom_spaces, List.append_assoc, List.replicate_succ, List.cons_append,
              readQuoted?_spaces true inside (congrArg some found) (by simp; omega)
                (singleQuotedFrom_stops laterStops after)]
            simp only [List.length_append, List.length_replicate] at size enough
            obtain ⟨nextIndex, nextLine, nextColumn, remainder⟩ := inductionHypothesis later.length
              (by omega) single.of_append.of_append (show later.length < fuel by omega)
              (show 0 < wordColumn + (spaces + 1) by omega)
              (done ++ word ++ List.replicate (spaces + 1) ' ') (wordIndex + (spaces + 1)) line rfl
            refine ⟨nextIndex, nextLine, nextColumn, ?_⟩
            rw [remainder]
            simp [List.replicate_succ]
          · have isBreak : Yaml.isBreak separator := by
              rcases isSpacing_visible isSpacing isVisible with rfl | rfl | rfl | rfl
              · exact absurd rfl isSpace
              all_goals rfl
            obtain ⟨breaks, later, rfl, areBreaks, stops⟩ := List.exists_run Yaml.isBreak others
            have areBreaks : ∀ character ∈ separator :: breaks, Yaml.isBreak character :=
              List.forall_mem_cons.2 ⟨isBreak, areBreaks⟩
            rw [← List.cons_append] at single
            have laterStops := single.stops_after_breaks (by simp) areBreaks stops
            have areVisible : ∀ character ∈ separator :: breaks,
                Yaml.isBreak character ∧ Yaml.isVisible character := by
              intro character member
              refine ⟨areBreaks character member, single.visible character ?_⟩
              exact List.mem_append_right _ (List.mem_append_left _ member)
            have noFeed : separator ≠ '\n' := by
              rintro rfl
              exact single.noFeed (by simp)
            have written : ScalarText.singleQuotedFrom false (separator :: (breaks ++ later)) =
                separator :: (breaks ++
                  (ScalarText.indentation ++ ScalarText.singleQuotedFrom false later)) := by
              rw [ScalarText.singleQuotedFrom, if_pos isBreak,
                singleQuotedFrom_breaks (List.forall_mem_cons.1 areBreaks).2 stops]
            rw [written, List.cons_append, List.append_assoc, List.append_assoc]
            obtain ⟨wordIndex, wordColumn, further, found⟩ := readSingleQuotedWord_word proper
              (longEnough (separator :: (breaks ++ (ScalarText.indentation ++
                (ScalarText.singleQuotedFrom false later ++ '\'' :: after)))))
              (.inl isSpacing) done index line column
            obtain ⟨gapIndex, gapLine, step⟩ := readQuoted?_breaks true inside areVisible noFeed
              (congrArg some found) (by simp [ScalarText.indentation]; omega)
              (singleQuotedFrom_stops laterStops after) fuel
            rw [step]
            simp only [List.length_append, List.length_cons] at size enough
            obtain ⟨nextIndex, nextLine, nextColumn, remainder⟩ := inductionHypothesis later.length
              (by omega) single.of_append.of_append (show later.length < fuel by omega)
              (show 0 < 2 by decide) (done ++ word ++ separator :: breaks) gapIndex gapLine rfl
            refine ⟨nextIndex, nextLine, nextColumn, ?_⟩
            rw [remainder]
            simp

end Yaml
end EntitySchema
