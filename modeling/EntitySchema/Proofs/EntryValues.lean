import EntitySchema.Proofs.BlockScalars
import EntitySchema.Proofs.QuotedScalars
import EntitySchema.Yaml.Lexer

/-!
# Values of entries

An entry is a name, a colon, a space and a scalar with its line end.  The lexer makes the name a
key and reads every form in which a text is written as one scalar with this text.
-/

namespace EntitySchema
namespace Yaml

/-! ## Single steps -/

theorem StartsEntry.stopsToken
    {text : List Char}
    (starts : StartsEntry text) :
    ∀ character ∈ text.head?,
      isSpacing character = false ∧ character ≠ '#' ∧ character ≠ '\ufeff' := by
  intro character member
  have isAlphanum := starts character member
  exact ⟨starts.stops character member, ne_of_isAlphanum isAlphanum (by decide),
    ne_of_isAlphanum isAlphanum (by decide)⟩

namespace Lexer

/-- The lexer at the start of an entry, after the given number of entries. -/
def atEntry
    (cursor : Cursor)
    (count : Nat)
    (reversed : List TokenEntry)
    (resolved : List ResolvedPlace) : Lexer :=
  { cursor
    indent := if count = 0 then -1 else 0
    outerIndents := if count = 0 then [] else [-1]
    placeCount := count
    reversed
    resolved }

/-- The lexer between the colon of an entry and its value. -/
def atValue
    (cursor : Cursor)
    (count : Nat)
    (reversed : List TokenEntry)
    (resolved : List ResolvedPlace) : Lexer :=
  { cursor
    indent := 0
    outerIndents := [-1]
    keyAllowed := false
    placeCount := count
    reversed
    resolved }

theorem skipToToken_stop
    {lexer : Lexer}
    (stops : ∀ character ∈ lexer.cursor.rest.head?,
      isSpacing character = false ∧ character ≠ '#' ∧ character ≠ '\ufeff')
    (fuel : Nat) :
    skipToToken (fuel + 1) lexer = lexer := by
  obtain ⟨⟨text, index, line, column⟩, _, _, _, _, _, _, _, _⟩ := lexer
  cases text with
  | nil =>
      simp [skipToToken, Cursor.sees, Cursor.skipWhile, Cursor.skipComment, Cursor.advance]
  | cons character rest =>
      obtain ⟨noSpacing, noComment, noMark⟩ := stops character rfl
      simp only [isSpacing, isBlank, Bool.or_eq_false_iff, decide_eq_false_iff_not] at noSpacing
      simp [skipToToken, Cursor.sees, Cursor.skipWhile, Cursor.skipComment, Cursor.advance,
        noSpacing, noComment, noMark]

/-- The space between a colon and the value of its entry is passed over. -/
theorem skipToToken_space
    {text : List Char}
    (stops : ∀ character ∈ text.head?, isSpacing character = false ∧ character ≠ '#')
    (fuel index line column count : Nat)
    (reversed : List TokenEntry)
    (resolved : List ResolvedPlace) :
    skipToToken (fuel + 1) (atValue ⟨' ' :: text, index, line, column⟩ count reversed resolved) =
      atValue ⟨text, index + 1, line, column + 1⟩ count reversed resolved := by
  cases text with
  | nil =>
      simp [skipToToken, atValue, Cursor.sees, Cursor.skipWhile, Cursor.skipComment,
        Cursor.advance, inFlow]
  | cons character rest =>
      obtain ⟨noSpacing, noComment⟩ := stops character rfl
      simp only [isSpacing, isBlank, Bool.or_eq_false_iff, decide_eq_false_iff_not] at noSpacing
      simp [skipToToken, atValue, Cursor.sees, Cursor.skipWhile, Cursor.skipComment,
        Cursor.advance, inFlow, noSpacing, noComment]

/-- The line end after a quoted scalar is passed over, and a key may follow. -/
theorem skipToToken_lineEnd
    {following : List Char}
    (starts : StartsEntry following)
    (fuel index line column count : Nat)
    (reversed : List TokenEntry)
    (resolved : List ResolvedPlace) :
    skipToToken (fuel + 2)
        (atValue ⟨'\n' :: following, index, line, column⟩ (count + 1) reversed resolved) =
      atEntry ⟨following, index + 1, line + 1, 0⟩ (count + 1) reversed resolved := by
  have passed : skipToToken (fuel + 2)
      (atValue ⟨'\n' :: following, index, line, column⟩ (count + 1) reversed resolved) =
        skipToToken (fuel + 1)
          (atEntry ⟨following, index + 1, line + 1, 0⟩ (count + 1) reversed resolved) := by
    rw [skipToToken]
    simp [atValue, atEntry, Cursor.sees, Cursor.skipWhile, Cursor.skipComment, Cursor.advance,
      Cursor.skipBreak, isBreak, inFlow]
  rw [passed, skipToToken_stop starts.stopsToken]

theorem refreshKeys?_none
    {lexer : Lexer}
    (noKey : lexer.possibleKeys = [none]) :
    lexer.refreshKeys? = some lexer := by
  obtain ⟨_, _, _, _, _, keys, _, _, _⟩ := lexer
  subst noKey
  rfl

/-- One step of the lexer at a token that closes no block. -/
theorem run?_step
    {lexer start next : Lexer}
    {character : Char}
    {rest : List Char}
    (skipped : skipToToken (lexer.cursor.rest.length + 1) lexer = start)
    (refreshed : start.refreshKeys? = some start)
    (shape : start.cursor.rest = character :: rest)
    (noneClosed : start.closeBlocks start.cursor.column = start)
    (stepped : start.stepToken? character rest = some next)
    (fuel : Nat) :
    run? (fuel + 1) lexer = run? fuel next := by
  rw [run?, skipped, refreshed]
  simp [shape, noneClosed, stepped]

theorem stepToken?_colon
    {lexer : Lexer}
    {rest : List Char}
    (noMark : lexer.cursor.atDocumentMark = false)
    (spaced : atSpacing rest) :
    lexer.stepToken? ':' rest = lexer.stepValue? := by
  simp [stepToken?, noMark, spaced]

/-- A token that starts with no indicator is a plain scalar. -/
theorem stepToken?_plain
    {lexer : Lexer}
    {character : Char}
    {rest : List Char}
    (outside : lexer.flowDepth = 0)
    (noMark : lexer.cursor.atDocumentMark = false)
    (noSpacing : isSpacing character = false)
    (noIndicator : ScalarText.isLeadingIndicator character = false)
    (joined : character = '-' ∨ character = '?' ∨ character = ':' → atSpacing rest = false) :
    lexer.stepToken? character rest = lexer.stepPlain? := by
  simp [ScalarText.isLeadingIndicator] at noIndicator
  -- A dash is judged by the blank after it, the other two marks by any spacing after them.
  have starts : startsPlain false character rest := by
    unfold startsPlain isIndicator
    by_cases isDash : character = '-'
    · have goesOn := joined (Or.inl isDash)
      have noBlank : rest.head?.any isBlank = false := by
        cases rest with
        | nil => rfl
        | cons next later => exact (Bool.or_eq_false_iff.1 goesOn).1
      simp [isDash, noBlank]
    · by_cases isMark : character = '?' ∨ character = ':'
      · simp [isMark, joined (Or.inr isMark)]
      · rw [not_or] at isMark
        simp [noSpacing, noIndicator, isDash, isMark]
  have noStep : ∀ {indicator : Char},
      (indicator = '-' ∨ indicator = '?' ∨ indicator = ':') →
        ¬(character = indicator ∧ atSpacing rest = true) := by
    rintro indicator isMark ⟨rfl, spaced⟩
    rw [joined isMark] at spaced
    cases spaced
  simp [stepToken?, noMark, noIndicator, inFlow, outside, starts, noStep]

end Lexer

/-! ## Names -/

/-- A name of an entry: letters and digits, and few enough of them for a key. -/
structure IsName (name : List Char) : Prop where
  nonempty : name ≠ []
  alphanumeric : ∀ character ∈ name, character.isAlphanum
  short : name.length ≤ 1024

theorem IsName.startsEntry
    {name : List Char}
    (isName : IsName name)
    (rest : List Char) :
    StartsEntry (name ++ rest) := by
  intro character member
  cases name with
  | nil => exact absurd rfl isName.nonempty
  | cons first others =>
      cases member
      exact isName.alphanumeric character List.mem_cons_self

theorem plainWordLength?_name
    {name : List Char}
    (alphanumeric : ∀ character ∈ name, character.isAlphanum)
    (rest : List Char) :
    plainWordLength? false (name ++ ':' :: ' ' :: rest) = some name.length := by
  induction name with
  | nil => rfl
  | cons character others inductionHypothesis =>
      rw [List.forall_mem_cons] at alphanumeric
      have noColon : character ≠ ':' := ne_of_isAlphanum alphanumeric.1 (by decide)
      have noSpacing := not_isSpacing_of_isAlphanum alphanumeric.1
      rw [List.cons_append, plainWordLength?, inductionHypothesis alphanumeric.2]
      simp [startsWithBadColon, endsPlainWord, noSpacing, noColon]

theorem StartsEntry.not_atDocumentMark
    {text : List Char}
    (starts : StartsEntry text)
    (index line column : Nat) :
    (Cursor.mk text index line column).atDocumentMark = false := by
  unfold Cursor.atDocumentMark
  cases text with
  | nil => simp
  | cons first others =>
      have isAlphanum := starts first rfl
      have noDash : '-' ≠ first := (ne_of_isAlphanum isAlphanum (by decide)).symm
      have noPoint : '.' ≠ first := (ne_of_isAlphanum isAlphanum (by decide)).symm
      simp [noDash, noPoint]

/-- A name is read up to its colon. -/
theorem readPlain?_name
    {name : List Char}
    (isName : IsName name)
    (rest : List Char)
    (indent fuel index line : Nat) :
    readPlain? false indent (fuel + 1) [] {} ⟨name ++ ':' :: ' ' :: rest, index, line, 0⟩ =
      some ⟨name, ⟨':' :: ' ' :: rest, index + name.length, line, name.length⟩, false⟩ := by
  have starts := isName.startsEntry (':' :: ' ' :: rest)
  have noComment :
      (Cursor.mk (name ++ ':' :: ' ' :: rest) index line 0).sees (· == '#') = false := by
    apply Cursor.sees_eq_false
    intro character member
    simpa using (starts.stopsToken character member).2.1
  have goesOn :
      (Cursor.mk (':' :: ' ' :: rest) (index + name.length) line name.length).sees isSpacing =
        false :=
    rfl
  have positive : name.length ≠ 0 := by simpa using isName.nonempty
  rw [readPlain?, starts.not_atDocumentMark, noComment, plainWordLength?_name isName.alphanumeric]
  simp only [Bool.or_self, Bool.false_eq_true, if_false, bind, Option.bind, if_neg positive,
    Cursor.advance_append, Nat.zero_add, goesOn, List.take_left]
  rfl

theorem isLeadingIndicator_of_isAlphanum
    {character : Char}
    (isAlphanum : character.isAlphanum) :
    ScalarText.isLeadingIndicator character = false := by
  unfold ScalarText.isLeadingIndicator
  simp [ne_of_isAlphanum isAlphanum]

namespace Lexer

/-- The lexer between the name of an entry and its colon. -/
def atColon
    (cursor : Cursor)
    (count : Nat)
    (key : PossibleKey)
    (reversed : List TokenEntry)
    (resolved : List ResolvedPlace) : Lexer :=
  { atEntry cursor count reversed resolved with
    keyAllowed := false
    possibleKeys := [some key]
    placeCount := count + 1 }

theorem closeBlocks_atEntry
    (cursor : Cursor)
    (count column : Nat)
    (reversed : List TokenEntry)
    (resolved : List ResolvedPlace) :
    (atEntry cursor count reversed resolved).closeBlocks column =
      atEntry cursor count reversed resolved := by
  cases count with
  | zero => rfl
  | succ earlier => simp [atEntry, closeBlocks, inFlow, closeBlocksFrom]

theorem closeBlocks_atColon
    (cursor : Cursor)
    (count column : Nat)
    (key : PossibleKey)
    (reversed : List TokenEntry)
    (resolved : List ResolvedPlace) :
    (atColon cursor count key reversed resolved).closeBlocks column =
      atColon cursor count key reversed resolved := by
  cases count with
  | zero => rfl
  | succ earlier => simp [atColon, atEntry, closeBlocks, inFlow, closeBlocksFrom]

/-- The name of an entry becomes a scalar at which a key may start. -/
theorem run?_key
    {name : List Char}
    (isName : IsName name)
    (rest : List Char)
    (fuel index line count : Nat)
    (reversed : List TokenEntry)
    (resolved : List ResolvedPlace) :
    run? (fuel + 1)
        (atEntry ⟨name ++ ':' :: ' ' :: rest, index, line, 0⟩ count reversed resolved) =
      run? fuel
        (atColon ⟨':' :: ' ' :: rest, index + name.length, line, name.length⟩ count
          ⟨count, decide (count ≠ 0), index, line, 0⟩
          (.token (.scalar .plain (String.ofList name)) :: .place count :: reversed)
          resolved) := by
  have starts := isName.startsEntry (':' :: ' ' :: rest)
  obtain ⟨first, others, shape⟩ := List.exists_cons_of_ne_nil isName.nonempty
  have isAlphanum : first.isAlphanum := isName.alphanumeric first (by simp [shape])
  have startsWith : name ++ ':' :: ' ' :: rest = first :: (others ++ ':' :: ' ' :: rest) := by
    rw [shape, List.cons_append]
  refine run?_step (skipToToken_stop starts.stopsToken _) (refreshKeys?_none rfl) startsWith
    (closeBlocks_atEntry _ _ _ _ _) ?_ fuel
  rw [stepToken?_plain rfl (starts.not_atDocumentMark _ _ _)
    (not_isSpacing_of_isAlphanum isAlphanum) (isLeadingIndicator_of_isAlphanum isAlphanum)
    (by simp [ne_of_isAlphanum isAlphanum])]
  simp [stepPlain?, keepPlace?, forgetKey?, atEntry, atColon, inFlow, readPlain?_name isName,
    allowKey, emit]

/-- The colon after a name makes the name a key. -/
theorem run?_colon
    {name : List Char}
    (isName : IsName name)
    (rest : List Char)
    (isRequired : Bool)
    (fuel index line count : Nat)
    (reversed : List TokenEntry)
    (resolved : List ResolvedPlace) :
    run? (fuel + 1)
        (atColon ⟨':' :: ' ' :: rest, index + name.length, line, name.length⟩ count
          ⟨count, isRequired, index, line, 0⟩ reversed resolved) =
      run? fuel
        (atValue ⟨' ' :: rest, index + name.length + 1, line, name.length + 1⟩ (count + 1)
          (.token .value :: reversed)
          (⟨count, decide (count = 0)⟩ :: resolved)) := by
  have short := isName.short
  refine run?_step (skipToToken_stop (by simp [atColon, atEntry]; decide) _) ?_
    (show _ = ':' :: ' ' :: rest from rfl) ?_ ?_ fuel
  · simp [refreshKeys?, refreshKey?, atColon, atEntry, Nat.not_lt.2 short]
  · exact closeBlocks_atColon _ _ _ _ _ _
  · rw [stepToken?_colon (Cursor.atDocumentMark_inside (List.length_pos_iff.2 isName.nonempty)) rfl]
    cases count <;> rfl

/-! ## Values -/

/-- One step at the value of an entry. -/
theorem run?_value
    {first : Char}
    {rest : List Char}
    {index line column count : Nat}
    {reversed : List TokenEntry}
    {resolved : List ResolvedPlace}
    {next : Lexer}
    (noSpacing : isSpacing first = false)
    (noComment : first ≠ '#')
    (stepped :
      (atValue ⟨first :: rest, index + 1, line, column + 1⟩ count reversed resolved).stepToken?
        first rest = some next)
    (fuel : Nat) :
    run? (fuel + 1)
        (atValue ⟨' ' :: first :: rest, index, line, column⟩ count reversed resolved) =
      run? fuel next := by
  refine run?_step (skipToToken_space ?_ _ _ _ _ _ _ _) (refreshKeys?_none rfl)
    (show _ = first :: rest from rfl) ?_ stepped fuel
  · rintro character ⟨⟩
    exact ⟨noSpacing, noComment⟩
  · have notDeeper : ¬((column + 1 : Nat) : Int) < 0 := by omega
    simp only [atValue, closeBlocks, inFlow, closeBlocksFrom, notDeeper]
    rfl

theorem keepPlace?_atValue
    (cursor : Cursor)
    (count : Nat)
    (reversed : List TokenEntry)
    (resolved : List ResolvedPlace) :
    (atValue cursor count reversed resolved).keepPlace? =
      some (atValue cursor count reversed resolved) :=
  rfl

theorem stepPlain?_atValue
    {cursor next : Cursor}
    {text : List Char}
    (read : readPlain? false 1 (cursor.rest.length + 1) [] {} cursor = some ⟨text, next, true⟩)
    (count : Nat)
    (reversed : List TokenEntry)
    (resolved : List ResolvedPlace) :
    (atValue cursor (count + 1) reversed resolved).stepPlain? =
      some (atEntry next (count + 1) (.token (.scalar .plain (String.ofList text)) :: reversed)
        resolved) := by
  rw [stepPlain?, keepPlace?_atValue]
  exact congrArg (Option.bind · _) read

theorem stepQuoted?_atValue
    {rest : List Char}
    {index line column : Nat}
    {single : Bool}
    {text : List Char}
    {next : Cursor}
    (read : readQuoted? single (rest.length + 1) [] ⟨rest, index + 1, line, column + 1⟩ =
      some (text, next))
    (quote : Char)
    (count : Nat)
    (reversed : List TokenEntry)
    (resolved : List ResolvedPlace) :
    (atValue ⟨quote :: rest, index, line, column⟩ count reversed resolved).stepQuoted? single =
      some (atValue next count
        (.token (.scalar (if single then .singleQuoted else .doubleQuoted) (String.ofList text)) ::
          reversed)
        resolved) := by
  rw [stepQuoted?, keepPlace?_atValue]
  exact congrArg (Option.bind · _) read

theorem stepBlockScalar?_atValue
    {rest : List Char}
    {index line column : Nat}
    {text : List Char}
    {next : Cursor}
    (read : readBlock? true 0 ⟨rest, index + 1, line, column + 1⟩ = some (text, next))
    (mark : Char)
    (count : Nat)
    (reversed : List TokenEntry)
    (resolved : List ResolvedPlace) :
    (atValue ⟨mark :: rest, index, line, column⟩ (count + 1) reversed resolved).stepBlockScalar?
        true =
      some (atEntry next (count + 1) (.token (.scalar .literal (String.ofList text)) :: reversed)
        resolved) :=
  congrArg (Option.bind · _) read

/-- A step depends only on the token that comes next. -/
theorem run?_congr
    {lexer other : Lexer}
    (same : skipToToken (lexer.cursor.rest.length + 1) lexer =
      skipToToken (other.cursor.rest.length + 1) other)
    (fuel : Nat) :
    run? (fuel + 1) lexer = run? (fuel + 1) other := by
  rw [run?, run?, same]

/-- After a quoted scalar the lexer goes on at the next line. -/
theorem run?_lineEnd
    {following : List Char}
    (starts : StartsEntry following)
    (fuel index line column count : Nat)
    (reversed : List TokenEntry)
    (resolved : List ResolvedPlace) :
    run? (fuel + 1)
        (atValue ⟨'\n' :: following, index, line, column⟩ (count + 1) reversed resolved) =
      run? (fuel + 1)
        (atEntry ⟨following, index + 1, line + 1, 0⟩ (count + 1) reversed resolved) := by
  refine run?_congr ?_ fuel
  have skipped := skipToToken_lineEnd starts following.length index line column count reversed
    resolved
  exact skipped.trans (skipToToken_stop starts.stopsToken _).symm

end Lexer

/-- The value of an entry with its line end: the lexer turns it into one scalar and goes on with
what follows it. -/
structure IsEntryValue
    (written : List Char)
    (style : ScalarStyle)
    (text : List Char) : Prop where
  allowed : ∀ character ∈ written, isAllowed character
  reads : ∀ {following : List Char}, StartsEntry following →
    ∀ (index line column count : Nat)
      (reversed : List TokenEntry)
      (resolved : List ResolvedPlace),
    ∃ nextIndex nextLine, ∀ fuel,
      Lexer.run? (fuel + 2)
          (.atValue ⟨' ' :: (written ++ following), index, line, column⟩ (count + 1) reversed
            resolved) =
        Lexer.run? (fuel + 1)
          (.atEntry ⟨following, nextIndex, nextLine, 0⟩ (count + 1)
            (.token (.scalar style (String.ofList text)) :: reversed) resolved)

theorem isAllowed_of_isVisible
    {character : Char}
    (isVisible : Yaml.isVisible character) :
    isAllowed character := by
  unfold Yaml.isVisible at isVisible
  unfold isAllowed
  simp only [Bool.or_eq_true, Bool.and_eq_true, decide_eq_true_eq, bne_iff_ne] at isVisible ⊢
  omega

/-- A text that may stand without quotes. -/
structure IsPlain (text : List Char) : Prop extends IsPlainRest text where
  visible : ∀ character ∈ text, isVisible character
  noIndicator : ScalarText.startsWithIndicator text = false

theorem IsPlain.of_isPlain
    {text : List Char}
    (nonempty : text ≠ [])
    (isPlain : ScalarText.isPlain text) :
    IsPlain text := by
  simp only [ScalarText.isPlain, ScalarText.hasLooseEnd, ScalarText.hasHidden, Bool.and_eq_true,
    Bool.not_eq_true', Bool.or_eq_false_iff, List.any_eq_false] at isPlain
  obtain ⟨⟨⟨⟨⟨looseStart, looseEnd⟩, visible⟩, noBreaks⟩, noIndicator⟩, inner⟩ := isPlain
  have visible : ∀ character ∈ text, isVisible character := by simpa using visible
  have spaced : ∀ character ∈ text, isSpacing character → character = ' ' := by
    intro character member isSpacing
    rcases Bool.or_eq_true .. ▸ isSpacing with isBlank | isBreak
    · exact isBlank_visible isBlank (visible character member)
    · exact absurd isBreak (noBreaks character member)
  obtain ⟨first, rest, rfl⟩ := List.exists_cons_of_ne_nil nonempty
  refine { starts := ⟨first, rest, rfl, ?_, ?_⟩, ends := ?_, spaced, inner, visible, noIndicator }
  · by_contra isSpacing
    rw [Bool.not_eq_false] at isSpacing
    obtain rfl := spaced first List.mem_cons_self isSpacing
    cases looseStart
  · rintro rfl
    cases noIndicator
  · intro last
    rw [last] at looseEnd
    cases looseEnd

theorem startsWithIndicator_eq_false
    {first : Char}
    {rest : List Char}
    (noIndicator : ScalarText.startsWithIndicator (first :: rest) = false) :
    ScalarText.isLeadingIndicator first = false ∧
      (first = '-' ∨ first = '?' ∨ first = ':' → atSpacing rest = false) := by
  unfold ScalarText.startsWithIndicator at noIndicator
  simp only [Bool.or_eq_false_iff] at noIndicator
  obtain ⟨-, noLeading, noMark⟩ := noIndicator
  refine ⟨noLeading, fun isMark => ?_⟩
  rcases isMark with rfl | rfl | rfl <;> exact noMark

theorem isVisible_of_isAlphanum
    {character : Char}
    (isAlphanum : character.isAlphanum) :
    isVisible character := by
  have classes : ((decide (65 ≤ character.val ∧ character.val ≤ 90) ||
      (97 ≤ character.val && character.val ≤ 122)) ||
      (48 ≤ character.val && character.val ≤ 57)) = true :=
    isAlphanum
  simp only [Bool.or_eq_true, Bool.and_eq_true, decide_eq_true_eq, UInt32.le_iff_toNat_le]
    at classes
  change ((65 ≤ character.toNat ∧ character.toNat ≤ 90) ∨
    (97 ≤ character.toNat ∧ character.toNat ≤ 122)) ∨
    (48 ≤ character.toNat ∧ character.toNat ≤ 57) at classes
  simp only [isVisible, Bool.or_eq_true, Bool.and_eq_true, decide_eq_true_eq]
  omega

/-- Letters and digits may stand without quotes. -/
theorem IsPlain.of_isAlphanum
    {text : List Char}
    (nonempty : text ≠ [])
    (alphanumeric : ∀ character ∈ text, character.isAlphanum) :
    IsPlain text := by
  have noSpacing : ∀ character ∈ text, isSpacing character = false :=
    fun character member => not_isSpacing_of_isAlphanum (alphanumeric character member)
  have inner : ScalarText.hasInnerIndicator text = false := by
    clear nonempty
    induction text with
    | nil => rfl
    | cons first others inductionHypothesis =>
        rw [List.forall_mem_cons] at alphanumeric noSpacing
        rw [ScalarText.hasInnerIndicator, inductionHypothesis alphanumeric.2 noSpacing.2,
          noSpacing.1]
        simp [ne_of_isAlphanum alphanumeric.1]
  obtain ⟨first, rest, rfl⟩ := List.exists_cons_of_ne_nil nonempty
  have isAlphanum := alphanumeric first List.mem_cons_self
  refine
    { starts := ⟨first, rest, rfl, noSpacing first List.mem_cons_self, ?_⟩
      ends := ?_
      spaced := ?_
      inner
      visible := fun character member => isVisible_of_isAlphanum (alphanumeric character member)
      noIndicator := ?_ }
  · exact ne_of_isAlphanum isAlphanum (by decide)
  · intro last
    have isAlphanum := alphanumeric ' ' (List.mem_of_getLast? last)
    cases isAlphanum
  · intro character member isSpacing
    rw [noSpacing character member] at isSpacing
    cases isSpacing
  · unfold ScalarText.startsWithIndicator
    have noDash : '-' ≠ first := (ne_of_isAlphanum isAlphanum (by decide)).symm
    have noPoint : '.' ≠ first := (ne_of_isAlphanum isAlphanum (by decide)).symm
    simp [List.isPrefixOf_cons_cons, isLeadingIndicator_of_isAlphanum isAlphanum,
      ne_of_isAlphanum isAlphanum, noDash, noPoint]

/-- A text that may stand without quotes is read as a plain scalar. -/
theorem IsEntryValue.plain
    {text : List Char}
    (isPlain : IsPlain text) :
    IsEntryValue (text ++ ['\n']) .plain text := by
  obtain ⟨first, rest, shape, noSpacing, noComment⟩ := isPlain.starts
  refine ⟨?_, ?_⟩
  · intro character member
    rcases List.mem_append.1 member with member | member
    · exact isAllowed_of_isVisible (isPlain.visible character member)
    · obtain rfl := List.mem_singleton.1 member
      decide
  · intro following starts index line column count reversed resolved
    have noIndicator := isPlain.noIndicator
    subst shape
    have enough : (first :: rest).length < (first :: rest ++ '\n' :: following).length + 1 := by
      rw [List.length_append]
      omega
    obtain ⟨nextIndex, nextLine, read⟩ := readPlain?_rest isPlain.toIsPlainRest starts enough
      (Nat.succ_pos column) [] []
    refine ⟨nextIndex, nextLine, fun fuel => ?_⟩
    obtain ⟨noLeading, joined⟩ := startsWithIndicator_eq_false noIndicator
    have goesOn : first = '-' ∨ first = '?' ∨ first = ':' →
        atSpacing (rest ++ '\n' :: following) = false := by
      intro isMark
      have noSpacing := joined isMark
      cases rest with
      | nil => cases noSpacing
      | cons next later => exact noSpacing
    rw [List.append_assoc, List.singleton_append, List.cons_append]
    refine Lexer.run?_value noSpacing noComment ?_ (fuel + 1)
    rw [Lexer.stepToken?_plain rfl (Cursor.atDocumentMark_inside (Nat.succ_pos column)) noSpacing
      noLeading goesOn]
    exact Lexer.stepPlain?_atValue read count reversed resolved

theorem isAllowed_paddedHex :
    ∀ code : Fin 256, (ScalarText.paddedHex 2 code).all isAllowed := by
  decide +kernel

theorem isAllowed_doubleQuotedForm
    {character part : Char}
    (member : part ∈ ScalarText.doubleQuotedForm character) :
    isAllowed part := by
  unfold ScalarText.doubleQuotedForm at member
  split at member
  · next letter escaped =>
      simp only [List.mem_cons, List.not_mem_nil, or_false] at member
      rcases member with rfl | rfl
      · decide
      · exact (escapeLetter?_eq_some escaped).2.2.2
  · dsimp only at member
    split_ifs at member with isVisible small medium
    · obtain rfl := List.mem_singleton.1 member
      exact isAllowed_of_isVisible isVisible
    · simp only [List.mem_cons] at member
      rcases member with rfl | rfl | member
      · decide
      · decide
      · exact List.all_eq_true.1 (isAllowed_paddedHex ⟨character.toNat, by omega⟩) part member
    · rcases toNat_of_hidden (by simpa using isVisible) with low | code | code | code
      · omega
      all_goals
        rw [code] at member
        exact List.all_eq_true.1 rfl part member
    · rcases toNat_of_hidden (by simpa using isVisible) with low | code | code | code <;> omega

/-- The mark around a quoted scalar. -/
def quoteMark (single : Bool) : Char :=
  if single then '\'' else '"'

theorem Lexer.stepToken?_quote
    {lexer : Lexer}
    (noMark : lexer.cursor.atDocumentMark = false)
    (single : Bool)
    (rest : List Char) :
    lexer.stepToken? (quoteMark single) rest = lexer.stepQuoted? single := by
  cases single <;> simp [quoteMark, stepToken?, noMark]

/-- A text between quotes is the value of an entry if it is read back up to its second quote. -/
theorem IsEntryValue.quoted
    {single : Bool}
    {body text : List Char}
    (allowed : ∀ character ∈ body, isAllowed character)
    (read : ∀ (following : List Char) (index line column : Nat),
      ∃ nextIndex nextLine nextColumn,
        readQuoted? single ((body ++ quoteMark single :: '\n' :: following).length + 1) []
            ⟨body ++ quoteMark single :: '\n' :: following, index, line, column + 1⟩ =
          some (text, ⟨'\n' :: following, nextIndex, nextLine, nextColumn⟩)) :
    IsEntryValue (quoteMark single :: body ++ [quoteMark single] ++ ['\n'])
      (if single then .singleQuoted else .doubleQuoted) text := by
  refine ⟨?_, ?_⟩
  · have allowedMark : isAllowed (quoteMark single) := by cases single <;> decide
    have allowedEnd : isAllowed '\n' := by decide
    simpa [or_imp, forall_and, allowedMark, allowedEnd] using allowed
  · intro following starts index line column count reversed resolved
    obtain ⟨nextIndex, nextLine, nextColumn, read⟩ := read following (index + 2) line (column + 1)
    refine ⟨nextIndex + 1, nextLine + 1, fun fuel => ?_⟩
    have shape : quoteMark single :: body ++ [quoteMark single] ++ ['\n'] ++ following =
        quoteMark single :: (body ++ quoteMark single :: '\n' :: following) := by
      simp
    have noSpacing : isSpacing (quoteMark single) = false := by cases single <;> rfl
    have noComment : quoteMark single ≠ '#' := by cases single <;> decide
    -- The closing quote ends the scalar but not the line, so one more skip belongs to this value.
    have stepped := Lexer.stepQuoted?_atValue read (quoteMark single) (count + 1) reversed resolved
    rw [← Lexer.stepToken?_quote (Cursor.atDocumentMark_inside (Nat.succ_pos column))] at stepped
    rw [shape, Lexer.run?_value noSpacing noComment stepped, Lexer.run?_lineEnd starts]

/-- Every text between double quotes is read back. -/
theorem IsEntryValue.doubleQuoted
    (text : List Char) :
    IsEntryValue (ScalarText.doubleQuoted text ++ ['\n']) .doubleQuoted text := by
  apply @IsEntryValue.quoted false
  · intro character member
    obtain ⟨source, -, member⟩ := List.mem_flatMap.1 member
    exact isAllowed_doubleQuotedForm member
  · intro following index line column
    have enough : text.length <
        (text.flatMap ScalarText.doubleQuotedForm ++ '"' :: '\n' :: following).length + 1 := by
      have longer := List.length_le_flatMap doubleQuotedForm_length_pos text
      rw [List.length_append]
      omega
    obtain ⟨nextIndex, nextColumn, read⟩ := readQuoted?_doubleQuoted text ('\n' :: following) enough
      (Nat.succ_pos column) [] index line
    exact ⟨nextIndex, line, nextColumn, read⟩

theorem isAllowed_lead :
    ∀ (isIndented : Bool),
      ∀ character ∈ (if isIndented then ScalarText.indentation else []), isAllowed character
  | false => nofun
  | true => List.all_eq_true.1 rfl

theorem isAllowed_singleQuotedFrom
    {text : List Char}
    (visible : ∀ character ∈ text, isVisible character)
    (afterBreak : Bool) :
    ∀ character ∈ ScalarText.singleQuotedFrom afterBreak text, isAllowed character := by
  induction text generalizing afterBreak with
  | nil => exact isAllowed_lead afterBreak
  | cons first others inductionHypothesis =>
      rw [List.forall_mem_cons] at visible
      have allowedFirst := isAllowed_of_isVisible visible.1
      have allowedOthers := inductionHypothesis visible.2
      rw [ScalarText.singleQuotedFrom]
      split
      · exact List.forall_mem_cons.2 ⟨allowedFirst, allowedOthers true⟩
      · rw [List.forall_mem_append, List.forall_mem_append]
        refine ⟨⟨isAllowed_lead afterBreak, ?_⟩, allowedOthers false⟩
        split <;> simp [allowedFirst]
        decide

theorem length_le_singleQuotedFrom
    (afterBreak : Bool)
    (text : List Char) :
    text.length ≤ (ScalarText.singleQuotedFrom afterBreak text).length := by
  induction text generalizing afterBreak with
  | nil => exact Nat.zero_le _
  | cons first others inductionHypothesis =>
      have shorter := inductionHypothesis (isBreak first)
      rw [ScalarText.singleQuotedFrom]
      split_ifs with isBreak <;> simp_all <;> omega

theorem IsEntryValue.singleQuoted
    {text : List Char}
    (single : IsSingleLine text) :
    IsEntryValue (ScalarText.singleQuoted text ++ ['\n']) .singleQuoted text := by
  apply @IsEntryValue.quoted true
  · exact isAllowed_singleQuotedFrom single.visible false
  · intro following index line column
    have enough : text.length <
        (ScalarText.singleQuotedFrom false text ++ '\'' :: '\n' :: following).length + 1 := by
      have longer := length_le_singleQuotedFrom false text
      rw [List.length_append]
      omega
    exact readQuoted?_singleQuoted single (by simp) enough (Nat.succ_pos column) [] index line

theorem isAllowed_blockLinesFrom
    {text : List Char}
    (visible : ∀ character ∈ text, isVisible character)
    (atLineStart : Bool) :
    ∀ character ∈ ScalarText.blockLinesFrom atLineStart text, isAllowed character := by
  induction text generalizing atLineStart with
  | nil => cases atLineStart <;> exact List.all_eq_true.1 rfl
  | cons first others inductionHypothesis =>
      rw [List.forall_mem_cons] at visible
      have allowedFirst := isAllowed_of_isVisible visible.1
      have allowedOthers := inductionHypothesis visible.2
      rw [ScalarText.blockLinesFrom]
      split
      · exact List.forall_mem_cons.2 ⟨allowedFirst, allowedOthers true⟩
      · rw [List.forall_mem_append, List.forall_mem_cons]
        exact ⟨isAllowed_lead atLineStart, allowedFirst, allowedOthers false⟩

theorem Lexer.stepToken?_block
    {lexer : Lexer}
    (outside : lexer.flowDepth = 0)
    (noMark : lexer.cursor.atDocumentMark = false)
    (rest : List Char) :
    lexer.stepToken? '|' rest = lexer.stepBlockScalar? true := by
  simp [stepToken?, noMark, inFlow, outside]

/-- A text of visible characters is read back from a literal block. -/
theorem IsEntryValue.block
    {text : List Char}
    (nonempty : text ≠ [])
    (visible : ∀ character ∈ text, isVisible character) :
    IsEntryValue (ScalarText.block text) .literal text := by
  refine ⟨?_, ?_⟩
  · have allowedIndentation : ∀ character ∈ ScalarText.indentationMark text,
        isAllowed character := by
      unfold ScalarText.indentationMark
      split <;> exact List.all_eq_true.1 rfl
    have allowedChomping : ∀ character ∈ ScalarText.chompingMark text, isAllowed character := by
      unfold ScalarText.chompingMark
      split <;> (try split_ifs) <;> exact List.all_eq_true.1 rfl
    have allowedLines := isAllowed_blockLinesFrom visible true
    simp only [ScalarText.block, List.cons_append, List.forall_mem_cons, List.forall_mem_append]
    exact ⟨by decide, ⟨allowedIndentation, allowedChomping⟩, by decide, allowedLines⟩
  · intro following starts index line column count reversed resolved
    obtain ⟨nextIndex, nextLine, read⟩ :=
      readBlock?_block nonempty visible starts (index + 2) line (column + 2)
    refine ⟨nextIndex, nextLine, fun fuel => ?_⟩
    have shape : ScalarText.block text ++ following =
        '|' :: (ScalarText.indentationMark text ++ ScalarText.chompingMark text ++
          '\n' :: (ScalarText.blockLinesFrom true text ++ following)) := by
      simp [ScalarText.block]
    have stepped := Lexer.stepBlockScalar?_atValue read '|' count reversed resolved
    rw [← Lexer.stepToken?_block rfl (Cursor.atDocumentMark_inside (Nat.succ_pos column))]
      at stepped
    rw [shape, Lexer.run?_value (by decide) (by decide) stepped]

/-- Every text is written as the value of an entry that is read as the same text, and a plain one
is not mistaken for something else. -/
theorem exists_isEntryValue (text : String) :
    ∃ style, IsEntryValue (ScalarText.entryValue text).toList style text.toList ∧
      (style = .plain → PlainValue.ofText text = .ownText) := by
  unfold ScalarText.entryValue ScalarText.inlineScalar
  rw [String.toList_ofList]
  -- The cases are the styles in the order in which the writer tries them.
  split_ifs with hasFeed isBlock isPlain isSingleQuotable
  · have nonempty : text.toList ≠ [] := by
      intro isEmpty
      rw [isEmpty] at hasFeed
      cases hasFeed
    have visible : ∀ character ∈ text.toList, isVisible character := by
      simp only [ScalarText.isBlock, ScalarText.hasHidden, Bool.and_eq_true] at isBlock
      simpa using isBlock.1.1
    exact ⟨_, .block nonempty visible, nofun⟩
  · exact ⟨_, .doubleQuoted _, nofun⟩
  · rw [Bool.and_eq_true, Bool.not_eq_true', ScalarText.isMistakable, Bool.or_eq_false_iff,
      String.ofList_toList, bne_eq_false_iff_eq] at isPlain
    have nonempty : text.toList ≠ [] := by
      intro isEmpty
      obtain rfl : text = "" := String.toList_eq_nil_iff.1 isEmpty
      exact absurd isPlain.1.1 (by decide)
    exact ⟨_, .plain (.of_isPlain nonempty isPlain.2), fun _ => isPlain.1.1⟩
  · have single : IsSingleLine text.toList := by
      simp only [ScalarText.isSingleQuotable, ScalarText.hasHidden, ScalarText.hasSpaceBeforeBreak,
        Bool.and_eq_true, Bool.not_eq_true'] at isSingleQuotable
      obtain ⟨⟨visible, spaceBreak⟩, breakSpace⟩ := isSingleQuotable
      exact ⟨by simpa using visible, by simpa using hasFeed, spaceBreak, breakSpace⟩
    exact ⟨_, .singleQuoted single, nofun⟩
  · exact ⟨_, .doubleQuoted _, nofun⟩

end Yaml
end EntitySchema
