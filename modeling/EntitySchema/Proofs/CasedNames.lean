import EntitySchema.Generation.FieldSchema
import EntitySchema.Proofs.Lists
import EntitySchema.Proofs.Nesting

/-!
# Characters of cased names

A casing takes the characters of a name over, changes the case of some of them and puts underscores
in between.  So whatever is new in a cased name is an underscore or a letter, and none of this
brings a bracket, a quote or a line feed into a name that has none.
-/

namespace EntitySchema

open Documentation (isPlain)

/-! ## Words -/

namespace Text

theorem flatten_clustersFrom
    (state : BreakState)
    (reversed text : List Char) :
    (clustersFrom state reversed text).flatten = reversed.reverse ++ text := by
  induction text generalizing state reversed with
  | nil => simp [clustersFrom]
  | cons character rest inductionHypothesis =>
      rw [clustersFrom]
      split_ifs with joined
      · rw [inductionHypothesis, List.reverse_cons, List.append_assoc, List.singleton_append]
      · rw [List.flatten_cons, inductionHypothesis, List.reverse_singleton, List.singleton_append]

/-- The clusters of a text give the text back. -/
theorem flatten_clusters (text : List Char) : (clusters text).flatten = text := by
  cases text with
  | nil => rfl
  | cons character rest => exact flatten_clustersFrom _ [character] rest

end Text

namespace Casing

/-- Cutting clusters into words drops delimiters and keeps everything else in place. -/
theorem flatten_wordsFrom_sublist
    (word : List Char)
    (clusters : List (List Char)) :
    (wordsFrom word clusters).flatten.Sublist (word ++ clusters.flatten) := by
  induction clusters generalizing word with
  | nil => simp [wordsFrom]
  | cons cluster rest inductionHypothesis =>
      have fresh : (wordsFrom [] rest).flatten.Sublist rest.flatten := inductionHypothesis []
      have dropped :
          (word ++ (wordsFrom [] rest).flatten).Sublist (word ++ (cluster ++ rest.flatten)) :=
        (fresh.trans (List.sublist_append_right _ _)).append_left word
      have ended :
          (word ++ cluster ++ (wordsFrom [] rest).flatten).Sublist
            (word ++ (cluster ++ rest.flatten)) := by
        rw [List.append_assoc]
        exact (fresh.append_left cluster).append_left word
      have continued :
          (wordsFrom (word ++ cluster) rest).flatten.Sublist
            (word ++ (cluster ++ rest.flatten)) := by
        rw [← List.append_assoc]
        exact inductionHypothesis (word ++ cluster)
      rw [wordsFrom, List.flatten_cons]
      split
      · exact dropped
      · dsimp only
        split_ifs
        · exact ended
        · exact continued

/-- The words of a name have no other characters than the name. -/
theorem flatten_words_sublist (name : List Char) : (words name).flatten.Sublist name := by
  have cut := flatten_wordsFrom_sublist [] (Text.clusters name)
  rw [Text.flatten_clusters] at cut
  exact cut

end Casing

/-! ## Letters in another case -/

namespace Text

/-- Whether a character can be a letter in another case: an unaccented letter, or any character
outside of the first 128.  A code that stands for no character becomes the null character. -/
def isCaseForm (character : Char) : Bool :=
  character.isAlpha || 0x80 ≤ character.toNat || character.toNat = 0

/-- What holds of all small codes holds of all seven-bit characters. -/
theorem forall_sevenBit
    (property : Char -> Prop)
    (holds : ∀ code < 0x80, property (Char.ofNat code))
    {character : Char}
    (small : character.toNat < 0x80) :
    property character := by
  have known := holds character.toNat small
  rwa [Char.ofNat_toNat] at known

/-- A change of seven-bit letters only is known from what it does to small codes. -/
theorem eq_or_isCaseForm_of_small
    {change : Char -> Char}
    (keeps : ∀ character, 0x80 ≤ character.toNat → change character = character)
    (letters : ∀ code < 0x80, change (Char.ofNat code) = Char.ofNat code ∨
      isCaseForm (change (Char.ofNat code)))
    (character : Char) :
    change character = character ∨ isCaseForm (change character) := by
  rcases Nat.lt_or_ge character.toNat 0x80 with small | large
  · exact forall_sevenBit (fun character => change character = character ∨
      isCaseForm (change character)) letters small
  · exact .inl (keeps character large)

/-- What lower case changes is a letter before and after. -/
theorem toLower_eq_or_isCaseForm (character : Char) :
    character.toLower = character ∨ isCaseForm character.toLower := by
  refine eq_or_isCaseForm_of_small (fun character large => ?_) (by decide +kernel) character
  refine dif_neg fun capital => ?_
  have bound : character.toNat ≤ 90 := capital.2
  omega

theorem toUpper_eq_or_isCaseForm (character : Char) :
    character.toUpper = character ∨ isCaseForm character.toUpper := by
  refine eq_or_isCaseForm_of_small (fun character large => ?_) (by decide +kernel) character
  refine dif_neg fun small => ?_
  have bound : character.toNat ≤ 122 := small.2
  omega

/-- A code beyond the first 128 stands for a character there or for none. -/
theorem isCaseForm_ofNat
    {code : Nat}
    (beyond : 0x80 ≤ code) :
    isCaseForm (Char.ofNat code) := by
  by_cases valid : code.isValidChar
  · have code : (Char.ofNat code).toNat = code := by
      rw [show Char.ofNat code = Char.ofNatAux code valid from dif_pos valid]
      rfl
    rw [isCaseForm, code, decide_eq_true beyond, Bool.or_true, Bool.true_or]
  · rw [show Char.ofNat code = '\x00' from dif_neg valid]
    decide

/-- Whether a shift moves every character outside of the first 128 to a letter. -/
def CaseShift.keepsLetters (shift : CaseShift) : Bool :=
  0x80 ≤ shift.first + shift.distance || shift.last < 0x80 ||
    (shift.first = shift.last && isCaseForm (Char.ofNat (shift.apply shift.first)))

theorem lowerShifts_keepsLetters : lowerShifts.all CaseShift.keepsLetters := by
  decide +kernel

/-- Within its run, a shift that keeps letters makes letters of characters beyond the first 128. -/
theorem CaseShift.isCaseForm_apply
    {shift : CaseShift}
    {code : Nat}
    (keeps : shift.keepsLetters)
    (covered : shift.covers code)
    (beyond : 0x80 ≤ code) :
    isCaseForm (Char.ofNat (shift.apply code)) := by
  simp only [covers, Bool.and_eq_true, decide_eq_true_eq] at covered
  simp only [keepsLetters, Bool.or_eq_true, Bool.and_eq_true, decide_eq_true_eq] at keeps
  rcases keeps with (far | below) | ⟨single, letter⟩
  · apply isCaseForm_ofNat
    rw [apply, Int.ofNat_eq_natCast]
    omega
  · omega
  · have same : code = shift.first := by omega
    rw [same]
    exact letter

theorem lowerExpansions_isCaseForm :
    ∀ expansion ∈ lowerExpansions, ∀ code ∈ expansion.2, isCaseForm (Char.ofNat code) := by
  decide

theorem eq_or_isCaseForm_of_mem_lowerForm
    {character other : Char}
    (member : other ∈ lowerForm character) :
    other = character ∨ isCaseForm other := by
  rw [lowerForm] at member
  split_ifs at member with ascii
  · rw [List.mem_singleton.mp member]
    exact toLower_eq_or_isCaseForm character
  · rw [otherCase] at member
    split at member
    · rename_i codes found
      obtain ⟨before, after, whole, -⟩ := List.lookup_eq_some_iff.mp found
      obtain ⟨code, codeMember, rfl⟩ := List.mem_map.mp member
      right
      exact lowerExpansions_isCaseForm (character.toNat, codes) (by simp [whole]) code codeMember
    · split at member
      · rename_i shift found
        rw [List.mem_singleton.mp member]
        have keeps := List.all_eq_true.mp lowerShifts_keepsLetters shift
          (List.mem_of_find?_eq_some found)
        have covered := List.find?_some found
        exact .inr (CaseShift.isCaseForm_apply keeps covered (by omega))
      · exact .inl (List.mem_singleton.mp member)

/-- What lower case brings into a text is a letter in another case. -/
theorem mem_or_isCaseForm_of_mem_lowercaseFrom
    {text reversedBefore : List Char}
    {character : Char}
    (member : character ∈ lowercaseFrom reversedBefore text) :
    character ∈ text ∨ isCaseForm character := by
  induction text generalizing reversedBefore with
  | nil => cases member
  | cons first rest inductionHypothesis =>
      have later (inRest : character ∈ lowercaseFrom (first :: reversedBefore) rest) :
          character ∈ first :: rest ∨ isCaseForm character :=
        (inductionHypothesis inRest).imp_left (List.mem_cons_of_mem _)
      rw [lowercaseFrom] at member
      split_ifs at member with sigma
      · rcases List.mem_cons.mp member with rfl | inRest
        · right
          rw [smallSigma]
          split_ifs <;> decide
        · exact later inRest
      · rcases List.mem_append.mp member with inForm | inRest
        · refine (eq_or_isCaseForm_of_mem_lowerForm inForm).imp_left ?_
          rintro rfl
          exact List.mem_cons_self
        · exact later inRest

end Text

/-! ## Names -/

namespace Casing

theorem mem_or_isCaseForm_of_mem_mapFirst
    {change : Char -> Char}
    {name : List Char}
    {character : Char}
    (changes : ∀ first, change first = first ∨ Text.isCaseForm (change first))
    (member : character ∈ mapFirst change name) :
    character ∈ name ∨ Text.isCaseForm character := by
  cases name with
  | nil => cases member
  | cons first rest =>
      rcases List.mem_cons.mp member with rfl | inRest
      · refine (changes first).imp_left fun same => ?_
        rw [same]
        exact List.mem_cons_self
      · exact .inl (List.mem_cons_of_mem _ inRest)

/-- What a casing brings into a name is an underscore or a letter in another case. -/
theorem mem_of_mem_applyChars
    {casing : Casing}
    {name : List Char}
    {character : Char}
    (member : character ∈ casing.applyChars name) :
    character ∈ name ∨ character = '_' ∨ Text.isCaseForm character := by
  cases casing with
  | pascal =>
      exact (mem_or_isCaseForm_of_mem_mapFirst Text.toUpper_eq_or_isCaseForm member).imp_right
        .inr
  | camel =>
      exact (mem_or_isCaseForm_of_mem_mapFirst Text.toLower_eq_or_isCaseForm member).imp_right
        .inr
  | snake =>
      rcases List.mem_of_mem_intercalate member with underscore | ⟨part, partMember, inPart⟩
      · exact .inr (.inl (List.mem_singleton.mp underscore))
      · obtain ⟨word, wordMember, rfl⟩ := List.mem_map.mp partMember
        rcases Text.mem_or_isCaseForm_of_mem_lowercaseFrom inPart with inWord | letter
        · have inWords := List.mem_flatten.mpr ⟨word, wordMember, inWord⟩
          exact .inl ((flatten_words_sublist name).mem inWords)
        · exact .inr (.inr letter)

end Casing

namespace SchemaNames

variable
  {names : SchemaNames}
  {name : String}
  {character : Char}

theorem mem_of_mem_cased
    (member : character ∈ (names.cased name).toList) :
    character ∈ name.toList ∨ character ∈ names.suffix.toList ∨ character = '_' ∨
      Text.isCaseForm character := by
  rw [cased, Casing.apply, String.toList_append, String.toList_ofList, List.mem_append] at member
  rcases member with inName | inSuffix
  · exact (Casing.mem_of_mem_applyChars inName).imp_right .inr
  · exact .inr (.inl inSuffix)

/-- The name of a schema has the characters of the entity's name and of the suffix, underscores and
letters. -/
theorem mem_of_mem_schema
    {schema : RelationSchema}
    (member : character ∈ (names.schema schema name).toList) :
    character ∈ name.toList ∨ character ∈ names.suffix.toList ∨ character = '_' ∨
      Text.isCaseForm character := by
  cases schema with
  | base =>
      rw [SchemaNames.schema, base] at member
      cases mode : names.mode with
      | default =>
          rw [mode, String.toList_append, List.mem_append] at member
          rcases member with underscore | inCased
          · exact .inr (.inr (.inl (List.mem_singleton.mp underscore)))
          · exact mem_of_mem_cased inCased
      | enabled | disabled =>
          rw [mode] at member
          exact mem_of_mem_cased member
  | related =>
      have labelled (inCased : character ∈ (names.cased ("Related" ++ name)).toList) :
          character ∈ name.toList ∨ character ∈ names.suffix.toList ∨ character = '_' ∨
            Text.isCaseForm character := by
        rcases mem_of_mem_cased inCased with inName | elsewhere
        · rw [String.toList_append, List.mem_append] at inName
          rcases inName with inLabel | inName
          · have letters : "Related".toList.all Text.isCaseForm := by decide
            exact .inr (.inr (.inr (List.all_eq_true.mp letters character inLabel)))
          · exact .inl inName
        · exact .inr elsewhere
      rw [SchemaNames.schema, related] at member
      cases mode : names.mode with
      | default =>
          rw [mode] at member
          exact mem_of_mem_cased member
      | enabled | disabled =>
          rw [mode] at member
          exact labelled member

/-- The schemas of an entity have no bracket and no quote in their names if the name of the entity
and the suffix have none. -/
theorem isPlain_schema
    (schema : RelationSchema)
    (plainSuffix : ∀ character ∈ names.suffix.toList, isPlain character)
    (plain : ∀ character ∈ name.toList, isPlain character) :
    ∀ character ∈ (names.schema schema name).toList, isPlain character := by
  intro character member
  rcases mem_of_mem_schema member with inName | inSuffix | rfl | letter
  · exact plain character inName
  · exact plainSuffix character inSuffix
  · decide
  · exact Documentation.isPlain_of_property Text.isCaseForm (by decide) letter

end SchemaNames
end EntitySchema
