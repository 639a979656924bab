import EntitySchema.Proofs.Lists
import EntitySchema.Yaml.Scalar
import EntitySchema.Yaml.ScalarText

/-!
# Plain scalars

A plain scalar is read back word by word, with the spaces between the words.  It ends with its line,
where the next entry or the end of the text follows.
-/

namespace EntitySchema
namespace Yaml

/-! ## Cursors -/

theorem Cursor.advance_append
    (passed rest : List Char)
    (index line column : Nat) :
    (Cursor.mk (passed ++ rest) index line column).advance passed.length =
      ⟨rest, index + passed.length, line, column + passed.length⟩ := by
  unfold Cursor.advance
  rw [List.drop_left]

theorem Cursor.advance_cons
    (character : Char)
    (rest : List Char)
    (index line column : Nat) :
    (Cursor.mk (character :: rest) index line column).advance 1 =
      ⟨rest, index + 1, line, column + 1⟩ :=
  rfl

/-- The marks of a document stand at the start of a line only. -/
theorem Cursor.atDocumentMark_inside
    {rest : List Char}
    {index line column : Nat}
    (inside : 0 < column) :
    (Cursor.mk rest index line column).atDocumentMark = false := by
  unfold Cursor.atDocumentMark
  simp [Nat.ne_of_gt inside]

theorem not_isBreak_of_not_isSpacing
    {character : Char}
    (noSpacing : isSpacing character = false) :
    isBreak character = false :=
  (Bool.or_eq_false_iff.1 noSpacing).2

theorem isBreak_visible
    {character : Char}
    (isBreak : Yaml.isBreak character)
    (isVisible : Yaml.isVisible character) :
    character = '\n' ∨ character = '\u2028' ∨ character = '\u2029' := by
  unfold Yaml.isBreak at isBreak
  simp only [Bool.or_eq_true, decide_eq_true_eq] at isBreak
  rcases isBreak with (((rfl | rfl) | rfl) | rfl) | rfl <;> revert isVisible <;> decide

theorem isBlank_visible
    {character : Char}
    (isBlank : Yaml.isBlank character)
    (isVisible : Yaml.isVisible character) :
    character = ' ' := by
  unfold Yaml.isBlank at isBlank
  simp only [Bool.or_eq_true, decide_eq_true_eq] at isBlank
  rcases isBlank with rfl | rfl
  · rfl
  · revert isVisible
    decide

theorem Cursor.skipBreak_visible
    {character : Char}
    (isBreak : Yaml.isBreak character)
    (isVisible : Yaml.isVisible character)
    (rest : List Char)
    (index line column : Nat) :
    (Cursor.mk (character :: rest) index line column).skipBreak =
      ⟨rest, index + 1, line + 1, 0⟩ := by
  rcases isBreak_visible isBreak isVisible with rfl | rfl | rfl <;> rfl

theorem Cursor.breakText_visible
    {character : Char}
    (isBreak : Yaml.isBreak character)
    (isVisible : Yaml.isVisible character)
    (rest : List Char)
    (index line column : Nat) :
    (Cursor.mk (character :: rest) index line column).breakText = [character] := by
  rcases isBreak_visible isBreak isVisible with rfl | rfl | rfl <;> rfl

/-! ## Gaps -/

theorem readGap?_stop
    {rest : List Char}
    (stops : ∀ character ∈ rest.head?, isSpacing character = false)
    (indent fuel : Nat)
    (gap : Gap)
    (index line column : Nat) :
    readGap? indent fuel gap ⟨rest, index, line, column⟩ =
      some (gap, ⟨rest, index, line, column⟩) := by
  cases fuel with
  | zero => rfl
  | succ fuel =>
      cases rest with
      | nil => rfl
      | cons character others =>
          have noSpacing := stops character rfl
          unfold isSpacing at noSpacing
          rw [Bool.or_eq_false_iff] at noSpacing
          rw [readGap?]
          simp [noSpacing]

theorem readGap?_spaces
    (spaces : Nat)
    (indent fuel : Nat)
    (blanks : List Char)
    (rest : List Char)
    (index line column : Nat) :
    readGap? indent (fuel + spaces) { blanks }
        ⟨List.replicate spaces ' ' ++ rest, index, line, column⟩ =
      readGap? indent fuel { blanks := blanks ++ List.replicate spaces ' ' }
        ⟨rest, index + spaces, line, column + spaces⟩ := by
  induction spaces generalizing blanks index column with
  | zero => simp
  | succ spaces inductionHypothesis =>
      rw [List.replicate_succ, List.cons_append, ← Nat.add_assoc, readGap?]
      simp only [isBlank, decide_true, Bool.true_or, if_true, Cursor.advance_cons]
      simp only [Bool.false_eq_true, if_false]
      rw [inductionHypothesis, List.append_assoc, List.singleton_append, Nat.add_right_comm,
        Nat.add_assoc index, Nat.add_right_comm column, Nat.add_assoc column]

/-- Spaces before a word make a gap without line breaks. -/
theorem readGap?_spaces_stop
    {spaces fuel : Nat}
    (enough : spaces ≤ fuel)
    {rest : List Char}
    (stops : ∀ character ∈ rest.head?, isSpacing character = false)
    (indent index line column : Nat) :
    readGap? indent fuel {} ⟨List.replicate spaces ' ' ++ rest, index, line, column⟩ =
      some ({ blanks := List.replicate spaces ' ' },
        ⟨rest, index + spaces, line, column + spaces⟩) := by
  obtain ⟨fuel, rfl⟩ : ∃ fewer, fuel = fewer + spaces := ⟨fuel - spaces, by omega⟩
  rw [readGap?_spaces, readGap?_stop stops, List.nil_append]

theorem readGap?_broken_spaces
    (spaces : Nat)
    (indent fuel : Nat)
    {gap : Gap}
    (isBroken : gap.isBroken)
    (rest : List Char)
    (index line column : Nat) :
    readGap? indent (fuel + spaces) gap ⟨List.replicate spaces ' ' ++ rest, index, line, column⟩ =
      readGap? indent fuel gap ⟨rest, index + spaces, line, column + spaces⟩ := by
  induction spaces generalizing index column with
  | zero => simp
  | succ spaces inductionHypothesis =>
      rw [List.replicate_succ, List.cons_append, ← Nat.add_assoc, readGap?]
      simp only [isBlank, decide_true, Bool.true_or, if_true, isBroken, Cursor.advance_cons]
      have noTab : (' ' = '\t') = False := by decide
      simp only [noTab, decide_false, Bool.false_and, Bool.false_eq_true, if_false]
      rw [inductionHypothesis, Nat.add_right_comm index, Nat.add_assoc index,
        Nat.add_right_comm column, Nat.add_assoc column]

theorem readGap?_break
    {character : Char}
    (isBreak : Yaml.isBreak character)
    (isVisible : Yaml.isVisible character)
    (indent fuel : Nat)
    (gap : Gap)
    (rest : List Char)
    (index line column : Nat) :
    readGap? indent (fuel + 1) gap ⟨character :: rest, index, line, column⟩ =
      readGap? indent fuel
        (if gap.isBroken then { gap with laterBreaks := gap.laterBreaks ++ [character] }
        else { gap with isBroken := true, firstBreak := [character] })
        ⟨rest, index + 1, line + 1, 0⟩ := by
  have noBlank : isBlank character = false := by
    rcases isBreak_visible isBreak isVisible with rfl | rfl | rfl <;> rfl
  rw [readGap?]
  simp only [noBlank, isBreak, Cursor.breakText_visible isBreak isVisible,
    Cursor.skipBreak_visible isBreak isVisible, Bool.false_eq_true, if_false, if_true]

/-- Text after an entry: nothing, or the name of the next entry. -/
def StartsEntry (text : List Char) : Prop :=
  ∀ character ∈ text.head?, character.isAlphanum

theorem ne_of_isAlphanum
    {character other : Char}
    (isAlphanum : character.isAlphanum)
    (noAlphanum : other.isAlphanum = false) :
    character ≠ other := by
  rintro rfl
  rw [isAlphanum] at noAlphanum
  cases noAlphanum

theorem not_isSpacing_of_isAlphanum
    {character : Char}
    (isAlphanum : character.isAlphanum) :
    isSpacing character = false := by
  unfold isSpacing isBlank isBreak
  simp [ne_of_isAlphanum isAlphanum]

theorem StartsEntry.stops
    {following : List Char}
    (starts : StartsEntry following) :
    ∀ character ∈ following.head?, isSpacing character = false :=
  fun character member => not_isSpacing_of_isAlphanum (starts character member)

/-- The gap between the last line of a scalar and the next entry. -/
theorem readGap?_entry
    {following : List Char}
    (starts : StartsEntry following)
    (indent fuel : Nat)
    (index line column : Nat) :
    readGap? indent (fuel + 1) {} ⟨'\n' :: following, index, line, column⟩ =
      some ({ isBroken := true, firstBreak := ['\n'] }, ⟨following, index + 1, line + 1, 0⟩) := by
  rw [readGap?_break (by decide) (by decide), readGap?_stop starts.stops]
  rfl

/-! ## Plain scalars -/

theorem plainWordLength?_word
    {word : List Char}
    (proper : ∀ character ∈ word, isSpacing character = false)
    (noColon : word.getLast? ≠ some ':')
    {separator : Char}
    (isSpacing : Yaml.isSpacing separator)
    (rest : List Char) :
    plainWordLength? false (word ++ separator :: rest) = some word.length := by
  induction word with
  | nil => simp [plainWordLength?, isSpacing]
  | cons character others inductionHypothesis =>
      rw [List.forall_mem_cons] at proper
      have goesOn : endsPlainWord false (character :: (others ++ separator :: rest)) = false := by
        unfold endsPlainWord
        cases others with
        | nil =>
            have notColon : character ≠ ':' := by
              rintro rfl
              exact noColon rfl
            simp [proper.1, notColon]
        | cons next later => simp [proper.1, atSpacing, proper.2 next List.mem_cons_self]
      have inner : others.getLast? ≠ some ':' := by
        cases others with
        | nil => simp
        | cons next later => simpa using noColon
      rw [List.cons_append, plainWordLength?, goesOn, inductionHypothesis proper.2 inner]
      have harmless :
          startsWithBadColon false (character :: (others ++ separator :: rest)) = false := by
        unfold startsWithBadColon
        split <;> rfl
      simp [proper.1, harmless]

/-- A text starts with spaces and then is at its end or at another character. -/
theorem exists_spaces (text : List Char) :
    ∃ spaces rest, text = List.replicate spaces ' ' ++ rest ∧ rest.head? ≠ some ' ' := by
  obtain ⟨run, rest, rfl, proper, ends⟩ := List.exists_run (fun character => character == ' ') text
  refine ⟨run.length, rest, ?_, ?_⟩
  · rw [← List.eq_replicate_of_mem fun character member => by simpa using proper character member]
  · intro head
    simpa using ends ' ' head

theorem hasInnerIndicator_of_append
    {before after : List Char}
    (none : ScalarText.hasInnerIndicator (before ++ after) = false) :
    ScalarText.hasInnerIndicator after = false := by
  induction before with
  | nil => exact none
  | cons character others inductionHypothesis =>
      rw [List.cons_append, ScalarText.hasInnerIndicator, Bool.or_eq_false_iff] at none
      exact inductionHypothesis none.2

/-- The rest of a plain scalar from the start of one of its words. -/
structure IsPlainRest (text : List Char) : Prop where
  starts : ∃ first rest, text = first :: rest ∧ isSpacing first = false ∧ first ≠ '#'
  ends : text.getLast? ≠ some ' '
  spaced : ∀ character ∈ text, isSpacing character → character = ' '
  inner : ScalarText.hasInnerIndicator text = false

/-- What follows a word and the spaces after it is the rest of a plain scalar as well. -/
theorem IsPlainRest.after_spaces
    {word rest : List Char}
    {spaces : Nat}
    (plain : IsPlainRest (word ++ (' ' :: (List.replicate spaces ' ' ++ rest))))
    (stops : rest.head? ≠ some ' ') :
    IsPlainRest rest := by
  obtain ⟨starts, ends, spaced, inner⟩ := plain
  cases rest with
  | nil =>
      exfalso
      apply ends
      rw [List.append_nil, ← List.replicate_succ, List.getLast?_append_of_ne_nil _ (by simp)]
      rw [List.replicate_succ', List.getLast?_concat]
  | cons first others =>
      have member : ∀ character ∈ first :: others,
          character ∈ word ++ (' ' :: (List.replicate spaces ' ' ++ first :: others)) := by
        intro character member
        simp only [List.mem_append, List.mem_cons] at member ⊢
        tauto
      refine ⟨⟨first, others, rfl, ?_, ?_⟩, ?_, fun character isMember =>
        spaced character (member character isMember), ?_⟩
      · by_contra isSpacing
        rw [Bool.not_eq_false] at isSpacing
        apply stops
        rw [spaced first (member first List.mem_cons_self) isSpacing]
        rfl
      · rintro rfl
        have marked := hasInnerIndicator_of_append inner
        rw [← List.cons_append, ← List.replicate_succ, List.replicate_succ',
          List.append_assoc] at marked
        have hash := hasInnerIndicator_of_append marked
        rw [List.singleton_append, ScalarText.hasInnerIndicator] at hash
        simp [isSpacing, isBlank] at hash
      · rwa [← List.cons_append, ← List.append_assoc,
          List.getLast?_append_of_ne_nil _ (by simp)] at ends
      · have suffix := hasInnerIndicator_of_append inner
        rw [← List.cons_append] at suffix
        exact hasInnerIndicator_of_append suffix

/-- The last word before a gap does not end with a colon. -/
theorem getLast?_ne_colon
    {word rest : List Char}
    (inner : ScalarText.hasInnerIndicator (word ++ rest) = false)
    (ends : ∀ character ∈ rest.head?, isSpacing character) :
    word.getLast? ≠ some ':' := by
  intro last
  obtain ⟨start, rfl⟩ := List.getLast?_eq_some_iff.1 last
  rw [List.append_assoc] at inner
  have colon := hasInnerIndicator_of_append inner
  have isSpacing : atSpacing rest := by
    cases rest with
    | nil => rfl
    | cons character others => exact ends character rfl
  rw [List.singleton_append, ScalarText.hasInnerIndicator] at colon
  simp [isSpacing] at colon

/-- A word of a plain scalar is read, and then the gap after it. -/
theorem readPlain?_word
    {word rest : List Char}
    (proper : ∀ character ∈ word, isSpacing character = false)
    (noColon : word.getLast? ≠ some ':')
    (noHash : word.head? ≠ some '#')
    (nonempty : word ≠ [])
    {separator : Char}
    (isSpacing : Yaml.isSpacing separator)
    {nextGap : Gap}
    {afterGap : Cursor}
    {index line column : Nat}
    (gapRead : readGap? 1 (rest.length + 2) {}
      ⟨separator :: rest, index + word.length, line, column + word.length⟩ =
        some (nextGap, afterGap))
    (inside : 0 < column)
    (fuel : Nat)
    (done blanks : List Char) :
    readPlain? false 1 (fuel + 1) done { blanks } ⟨word ++ separator :: rest, index, line, column⟩ =
      if afterGap.column < 1 then some ⟨done ++ blanks ++ word, afterGap, nextGap.isBroken⟩
      else readPlain? false 1 fuel (done ++ blanks ++ word) nextGap afterGap := by
  have noComment :
      (Cursor.mk (word ++ separator :: rest) index line column).sees (· == '#') = false := by
    unfold Cursor.sees
    cases word with
    | nil => exact absurd rfl nonempty
    | cons first others => simpa using noHash
  have seesSpacing : (Cursor.mk (separator :: rest) (index + word.length) line
      (column + word.length)).sees Yaml.isSpacing := by
    simpa [Cursor.sees] using isSpacing
  have positive : word.length ≠ 0 := by simpa using nonempty
  rw [readPlain?]
  simp only [Cursor.atDocumentMark_inside inside, noComment, Bool.or_false, Bool.false_eq_true,
    if_false, plainWordLength?_word proper noColon isSpacing, bind, Option.bind, if_neg positive,
    Cursor.advance_append, seesSpacing, if_true, List.take_left, List.length_cons, gapRead,
    Bool.not_false, Bool.true_and, decide_eq_true_eq]
  rfl

/-- A plain scalar is read up to the entry after it. -/
theorem readPlain?_rest
    {text following : List Char}
    (plain : IsPlainRest text)
    (starts : StartsEntry following)
    {fuel : Nat}
    (enough : text.length < fuel)
    {index line column : Nat}
    (inside : 0 < column)
    (done blanks : List Char) :
    ∃ nextIndex nextLine,
      readPlain? false 1 fuel done { blanks } ⟨text ++ '\n' :: following, index, line, column⟩ =
        some ⟨done ++ blanks ++ text, ⟨following, nextIndex, nextLine, 0⟩, true⟩ := by
  induction size : text.length using Nat.strongRecOn
    generalizing text fuel index column done blanks with
  | _ size inductionHypothesis =>
      obtain ⟨word, rest, rfl, proper, ends⟩ := List.exists_run_until isSpacing text
      have noColon := getLast?_ne_colon plain.inner ends
      have nonempty : word ≠ [] := by
        rintro rfl
        obtain ⟨first, others, rfl, noSpacing, -⟩ := plain.starts
        rw [ends first rfl] at noSpacing
        cases noSpacing
      have noHash : word.head? ≠ some '#' := by
        obtain ⟨first, others, shape, -, noHash⟩ := plain.starts
        cases word with
        | nil => simp
        | cons head tail =>
            rw [(List.cons.inj shape).1]
            simpa using noHash
      obtain ⟨fuel, rfl⟩ : ∃ fewer, fuel = fewer + 1 := ⟨fuel - 1, by omega⟩
      cases rest with
      | nil =>
          have gapRead := readGap?_entry starts 1 (following.length + 1) (index + word.length) line
            (column + word.length)
          rw [List.append_nil,
            readPlain?_word proper noColon noHash nonempty (by decide) gapRead inside]
          exact ⟨_, _, rfl⟩
      | cons separator others =>
          obtain rfl : separator = ' ' := plain.spaced separator (by simp) (ends separator rfl)
          obtain ⟨spaces, later, rfl, stops⟩ := exists_spaces others
          have plainLater := plain.after_spaces stops
          have laterStops : ∀ character ∈ (later ++ '\n' :: following).head?,
              isSpacing character = false := by
            obtain ⟨first, remaining, rfl, noSpacing, -⟩ := plainLater.starts
            simpa using noSpacing
          have longer : spaces + 1 ≤
              (List.replicate spaces ' ' ++ (later ++ '\n' :: following)).length + 2 := by
            rw [List.length_append, List.length_replicate]
            omega
          have gapRead := readGap?_spaces_stop longer laterStops 1 (index + word.length) line
            (column + word.length)
          simp only [List.length_append, List.length_cons, List.length_replicate] at size enough
          obtain ⟨nextIndex, nextLine, found⟩ := inductionHypothesis later.length (by omega)
            plainLater (show later.length < fuel by omega)
            (show 0 < column + word.length + (spaces + 1) by omega)
            (done ++ blanks ++ word) (List.replicate (spaces + 1) ' ') rfl
          refine ⟨nextIndex, nextLine, ?_⟩
          rw [List.append_assoc, List.cons_append, List.append_assoc,
            readPlain?_word proper noColon noHash nonempty (by decide) gapRead inside,
            if_neg (by simp), found]
          simp [List.replicate_succ]

end Yaml
end EntitySchema
