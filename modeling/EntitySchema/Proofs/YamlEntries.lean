import EntitySchema.Proofs.EntryValues
import EntitySchema.Yaml.Format

/-!
# Entries with scalars

A text whose lines are entries, each a name, a colon and a scalar, is read as one mapping with these
entries in the same order.
-/

namespace EntitySchema
namespace Yaml

/-- An entry of a mapping whose key is a name and whose value is a scalar. -/
structure ScalarEntry where
  /-- The name of the entry. -/
  name : List Char
  /-- The style of the value. -/
  style : ScalarStyle
  /-- The text of the value. -/
  text : List Char

namespace ScalarEntry

/-- The token of the key, after the mark for a key. -/
def keyToken (entry : ScalarEntry) : Token := .scalar .plain (String.ofList entry.name)

/-- The token of the value, after the mark for a value. -/
def valueToken (entry : ScalarEntry) : Token := .scalar entry.style (String.ofList entry.text)

/-- The tokens of an entry. -/
def tokens (entry : ScalarEntry) : List Token :=
  [.key, entry.keyToken, .value, entry.valueToken]

/-- The nodes of the key and the value. -/
def nodes (entry : ScalarEntry) : Node × Node :=
  (.scalar none .plain (String.ofList entry.name),
    .scalar none entry.style (String.ofList entry.text))

end ScalarEntry

/-- The tokens of a document that is a mapping with the given entries. -/
def mappingTokens (entries : List ScalarEntry) : List Token :=
  .blockMappingStart :: entries.flatMap ScalarEntry.tokens ++ [.blockEnd, .streamEnd]

theorem length_lt_mappingTokens (entries : List ScalarEntry) :
    entries.length + 2 < (mappingTokens entries).length := by
  induction entries with
  | nil => decide
  | cons entry entries inductionHypothesis =>
      simp only [mappingTokens, ScalarEntry.tokens, List.flatMap_cons, List.length_append,
        List.length_cons, List.length_nil] at inductionHypothesis ⊢
      omega

/-- A text that consists of the given entries, one after the other. -/
inductive WrittenEntries : List ScalarEntry → List Char → Prop
  | none : WrittenEntries [] []
  | entry
      {name value text rest : List Char}
      {style : ScalarStyle}
      {entries : List ScalarEntry}
      (isName : IsName name)
      (isValue : IsEntryValue value style text)
      (others : WrittenEntries entries rest) :
      WrittenEntries (⟨name, style, text⟩ :: entries) (name ++ ':' :: ' ' :: (value ++ rest))

namespace WrittenEntries

variable {entries : List ScalarEntry} {written : List Char}

theorem startsEntry
    (isWritten : WrittenEntries entries written) :
    StartsEntry written := by
  cases isWritten with
  | none => exact nofun
  | entry isName => exact isName.startsEntry _

theorem three_mul_length_le
    (isWritten : WrittenEntries entries written) :
    3 * entries.length ≤ written.length := by
  induction isWritten with
  | none => exact Nat.le_refl _
  | entry isName _ _ inductionHypothesis =>
      have positive := List.length_pos_iff.2 isName.nonempty
      simp only [List.length_cons, List.length_append]
      omega

theorem allowed
    (isWritten : WrittenEntries entries written) :
    ∀ character ∈ written, isAllowed character := by
  induction isWritten with
  | none => exact nofun
  | entry isName isValue _ inductionHypothesis =>
      simp only [List.forall_mem_append, List.forall_mem_cons]
      have allowedName : ∀ character ∈ _, isAllowed character := fun character member =>
        isAllowed_of_isVisible (isVisible_of_isAlphanum (isName.alphanumeric character member))
      exact ⟨allowedName, by decide, by decide, isValue.allowed, inductionHypothesis⟩

end WrittenEntries

/-! ## Tokens -/

/-- The tokens and places that a list of entries leaves behind, from the given place on. -/
def placedEntries : Nat → List ScalarEntry → List TokenEntry
  | _, [] => []
  | count, entry :: entries =>
      .place count :: .token entry.keyToken :: .token .value :: .token entry.valueToken ::
        placedEntries (count + 1) entries

/-- All places up to the given one are keys, and the first of them starts the mapping. -/
def Resolves (resolved : List ResolvedPlace) (count : Nat) : Prop :=
  ∀ number < count, (resolved.find? fun place => place.number == number) =
    some ⟨number, decide (number = 0)⟩

theorem Resolves.succ
    {resolved : List ResolvedPlace}
    {count : Nat}
    (resolves : Resolves resolved count) :
    Resolves (⟨count, decide (count = 0)⟩ :: resolved) (count + 1) := by
  intro number bound
  rcases Nat.lt_succ_iff_lt_or_eq.1 bound with earlier | rfl
  · have other : (count == number) = false := by simpa using Nat.ne_of_gt earlier
    rw [List.find?_cons, other]
    exact resolves number earlier
  · simp

/-- At the end of the text the mapping is closed. -/
theorem Lexer.run?_end
    (fuel index line count : Nat)
    (reversed : List TokenEntry)
    (resolved : List ResolvedPlace) :
    run? (fuel + 1) (.atEntry ⟨[], index, line, 0⟩ (count + 1) reversed resolved) =
      some (tokensOfEntries resolved
        (reversed.reverse ++ [.token .blockEnd, .token .streamEnd])) := by
  rw [run?, skipToToken_stop (by simp [atEntry]), refreshKeys?_none rfl]
  have closed : (atEntry ⟨[], index, line, 0⟩ (count + 1) reversed resolved).finish? =
      some (tokensOfEntries resolved
        (.token .streamEnd :: .token .blockEnd :: reversed).reverse) :=
    rfl
  rw [List.reverse_cons, List.reverse_cons, List.append_assoc] at closed
  exact closed

/-- The lexer turns written entries into their tokens and then closes the mapping. -/
theorem WrittenEntries.run?
    {entries : List ScalarEntry}
    {written : List Char}
    (isWritten : WrittenEntries entries written)
    {fuel count : Nat}
    (enough : 3 * entries.length < fuel)
    (nonempty : 0 < count + entries.length)
    (index line : Nat)
    (reversed : List TokenEntry)
    {resolved : List ResolvedPlace}
    (resolves : Resolves resolved count) :
    ∃ allResolved, Resolves allResolved (count + entries.length) ∧
      Lexer.run? fuel (.atEntry ⟨written, index, line, 0⟩ count reversed resolved) =
        some (tokensOfEntries allResolved
          (reversed.reverse ++ placedEntries count entries ++
            [.token .blockEnd, .token .streamEnd])) := by
  -- Places are resolved only when their colon is read, so the invariant speaks of the places so
  -- far, and the tokens are taken from all places at the end.
  induction isWritten generalizing fuel count index line reversed resolved with
  | none =>
      rw [List.length_nil] at nonempty
      obtain ⟨earlier, rfl⟩ : ∃ earlier, count = earlier + 1 := ⟨count - 1, by omega⟩
      obtain ⟨fewer, rfl⟩ : ∃ fewer, fuel = fewer + 1 := ⟨fuel - 1, by omega⟩
      refine ⟨resolved, resolves, ?_⟩
      rw [Lexer.run?_end, placedEntries, List.append_nil]
  | @entry name value text rest style entries isName isValue others inductionHypothesis =>
      rw [List.length_cons] at enough
      -- Three steps for this entry, and at least one for what follows.
      obtain ⟨fewer, rfl⟩ : ∃ fewer, fuel = fewer + 4 := ⟨fuel - 4, by omega⟩
      rw [Lexer.run?_key isName, Lexer.run?_colon isName]
      obtain ⟨nextIndex, nextLine, read⟩ := isValue.reads others.startsEntry
        (index + name.length + 1) line (name.length + 1) count
        (.token .value :: .token (.scalar .plain (String.ofList name)) :: .place count :: reversed)
        (⟨count, decide (count = 0)⟩ :: resolved)
      rw [read fewer]
      obtain ⟨allResolved, resolvesAll, run⟩ := inductionHypothesis
        (show 3 * entries.length < fewer + 1 by omega) (by omega) nextIndex nextLine
        (.token (.scalar style (String.ofList text)) :: .token .value ::
          .token (.scalar .plain (String.ofList name)) :: .place count :: reversed)
        resolves.succ
      refine ⟨allResolved, ?_, ?_⟩
      · rw [List.length_cons, Nat.add_comm entries.length 1, ← Nat.add_assoc]
        exact resolvesAll
      · rw [run]
        simp [placedEntries, ScalarEntry.keyToken, ScalarEntry.valueToken]

/-- A resolved place becomes a key, the first one after the start of the mapping. -/
theorem tokensOfEntries_placed
    {resolved : List ResolvedPlace}
    {count total : Nat}
    (resolves : Resolves resolved total)
    (bound : count < total)
    (entry : ScalarEntry)
    (entries : List ScalarEntry) :
    tokensOfEntries resolved (placedEntries count (entry :: entries)) =
      (if count = 0 then [.blockMappingStart] else []) ++ entry.tokens ++
        tokensOfEntries resolved (placedEntries (count + 1) entries) := by
  rw [placedEntries, tokensOfEntries, List.flatMap_cons]
  dsimp only
  rw [resolves count bound]
  cases count <;> rfl

theorem tokensOfEntries_later
    {resolved : List ResolvedPlace}
    {count total : Nat}
    (resolves : Resolves resolved total)
    (entries : List ScalarEntry)
    (bound : count + entries.length < total) :
    tokensOfEntries resolved (placedEntries (count + 1) entries) =
      entries.flatMap ScalarEntry.tokens := by
  induction entries generalizing count with
  | nil => rfl
  | cons entry entries inductionHypothesis =>
      rw [List.length_cons] at bound
      rw [tokensOfEntries_placed resolves (by omega), inductionHypothesis (by omega)]
      rfl

/-- The tokens of written entries. -/
theorem WrittenEntries.tokens?_eq
    {entry : ScalarEntry}
    {entries : List ScalarEntry}
    {written : List Char}
    (isWritten : WrittenEntries (entry :: entries) written) :
    tokens? (String.ofList written) = some (mappingTokens (entry :: entries)) := by
  have allowed : written.all isAllowed := List.all_eq_true.2 isWritten.allowed
  have enough := isWritten.three_mul_length_le
  have noPlaces : Resolves [] 0 := nofun
  obtain ⟨resolved, resolves, run⟩ :=
    isWritten.run? (Nat.lt_add_right 1 (Nat.lt_succ_of_le enough)) (by simp) 0 0 [] noPlaces
  rw [tokens?, String.toList_ofList, if_pos allowed]
  refine run.trans (congrArg some ?_)
  have later := tokensOfEntries_later resolves entries (show 0 + entries.length < _ by simp)
  have placed := tokensOfEntries_placed resolves (show 0 < _ by simp) entry entries
  rw [later] at placed
  rw [List.reverse_nil, List.nil_append, tokensOfEntries, List.flatMap_append]
  exact congrArg (· ++ [.blockEnd, .streamEnd]) placed

/-! ## Nodes -/

namespace Builder

variable (builder : Builder) (rest : List Token)

theorem run_peek
    (token : Token) :
    peek.run { builder with tokens := token :: rest } =
      some (token, { builder with tokens := token :: rest }) :=
  rfl

theorem run_skip
    (token : Token) :
    skip.run { builder with tokens := token :: rest } =
      some ((), { builder with tokens := rest }) :=
  rfl

theorem buildContent_scalar
    (style : ScalarStyle)
    (text : String)
    (inBlock unindented hasProperties : Bool)
    (tag : Option String)
    (fuel : Nat) :
    (buildContent (fuel + 1) inBlock unindented hasProperties tag).run
        { builder with tokens := .scalar style text :: rest } =
      some (.scalar tag style text, { builder with tokens := rest }) := by
  rw [buildContent]
  rfl

/-- A scalar without an anchor and a tag is a node. -/
theorem buildNode_scalar
    (style : ScalarStyle)
    (text : String)
    (inBlock unindented : Bool)
    (fuel : Nat) :
    (buildNode (fuel + 2) inBlock unindented).run
        { builder with tokens := .scalar style text :: rest } =
      some (.scalar none style text, { builder with tokens := rest }) := by
  rw [buildNode]
  exact congrArg (Option.bind · _)
    (buildContent_scalar builder rest style text inBlock unindented false none fuel)

theorem buildBlockPart_scalar
    (style : ScalarStyle)
    (text : String)
    (fuel : Nat) :
    (buildBlockPart (fuel + 3)).run { builder with tokens := .scalar style text :: rest } =
      some (.scalar none style text, { builder with tokens := rest }) := by
  rw [buildBlockPart]
  exact buildNode_scalar builder rest style text true true fuel

/-- One entry of a mapping. -/
theorem buildBlockMapping_entry
    (entry : ScalarEntry)
    (fuel : Nat)
    (reversed : List (Node × Node)) :
    (buildBlockMapping (fuel + 4) reversed).run { builder with tokens := entry.tokens ++ rest } =
      (buildBlockMapping (fuel + 3) (entry.nodes :: reversed)).run
        { builder with tokens := rest } := by
  simp only [buildBlockMapping, ScalarEntry.tokens, ScalarEntry.keyToken, ScalarEntry.valueToken,
    List.cons_append, List.nil_append, StateT.run_bind, run_peek, run_skip, buildBlockPart_scalar,
    Option.bind_eq_bind, Option.bind_some]
  rfl

/-- The tokens of entries are built into a mapping with these entries. -/
theorem buildBlockMapping_entries
    (entries : List ScalarEntry)
    {fuel : Nat}
    (enough : entries.length + 3 < fuel)
    (reversed : List (Node × Node)) :
    (buildBlockMapping fuel reversed).run
        { builder with tokens := entries.flatMap ScalarEntry.tokens ++ .blockEnd :: rest } =
      some (reversed.reverse ++ entries.map ScalarEntry.nodes,
        { builder with tokens := rest }) := by
  induction entries generalizing fuel reversed with
  | nil =>
      obtain ⟨fewer, rfl⟩ : ∃ fewer, fuel = fewer + 1 := ⟨fuel - 1, by omega⟩
      rw [List.map_nil, List.append_nil, buildBlockMapping]
      rfl
  | cons entry entries inductionHypothesis =>
      rw [List.length_cons] at enough
      obtain ⟨fewer, rfl⟩ : ∃ fewer, fuel = fewer + 4 := ⟨fuel - 4, by omega⟩
      rw [List.flatMap_cons, List.append_assoc, buildBlockMapping_entry,
        inductionHypothesis (by omega), List.reverse_cons, List.append_assoc, List.map_cons]
      rfl

theorem buildContent_mapping
    (entries : List ScalarEntry)
    {fuel : Nat}
    (enough : entries.length + 3 < fuel) :
    (buildContent (fuel + 1) true false false none).run { tokens := mappingTokens entries } =
      some (.mapping (entries.map ScalarEntry.nodes), { tokens := [.streamEnd] }) := by
  rw [buildContent]
  exact congrArg (Option.bind · _)
    (buildBlockMapping_entries { tokens := [] } [.streamEnd] entries enough [])

theorem buildNode_mapping
    (entries : List ScalarEntry)
    {fuel : Nat}
    (enough : entries.length + 3 < fuel) :
    (buildNode (fuel + 2) true false).run { tokens := mappingTokens entries } =
      some (.mapping (entries.map ScalarEntry.nodes), { tokens := [.streamEnd] }) := by
  rw [buildNode]
  exact congrArg (Option.bind · _) (buildContent_mapping entries enough)

/-- The tokens of entries are built into a document that is a mapping. -/
theorem buildDocument_mapping (entries : List ScalarEntry) :
    (buildDocument (3 * (mappingTokens entries).length + 3)).run
        { tokens := mappingTokens entries } =
      some (some (.mapping (entries.map ScalarEntry.nodes)), { tokens := [.streamEnd] }) := by
  have longer := length_lt_mappingTokens entries
  have enough : entries.length + 3 < 3 * (mappingTokens entries).length + 1 := by omega
  exact congrArg (Option.bind · _) (buildNode_mapping entries enough)

end Builder

/-- Written entries are read as a mapping with these entries, in the same order. -/
theorem WrittenEntries.read_eq
    {entry : ScalarEntry}
    {entries : List ScalarEntry}
    {written : List Char}
    (isWritten : WrittenEntries (entry :: entries) written) :
    ∃ document, read (String.ofList written) =
      .ok { document, node := .mapping ((entry :: entries).map ScalarEntry.nodes) } := by
  refine ⟨⟨some (.mapping ((entry :: entries).map ScalarEntry.nodes)), []⟩, ?_⟩
  simp only [read, YamlDocument.read?, isWritten.tokens?_eq, Builder.buildDocument_mapping,
    Option.bind_eq_bind, Option.bind_some]
  rfl

/-- An entry of a document as an entry of a record. -/
def ScalarEntry.valueIn (entry : ScalarEntry) (document : YamlDocument) : String × Value :=
  (String.ofList entry.name, ⟨document, .scalar none entry.style (String.ofList entry.text)⟩)

/-- A mapping with scalars as values is a record that is given by name. -/
theorem readRecordBody_nodes
    (title : String)
    (document : YamlDocument)
    (entries : List ScalarEntry) :
    Value.readRecordBody title ⟨document, .mapping (entries.map ScalarEntry.nodes)⟩ =
      .ok (.named (entries.map (·.valueIn document))) := by
  have read (value : Value) :
      value.readEntries (entries.map ScalarEntry.nodes) =
        .ok (entries.map (·.valueIn value.document)) := by
    unfold Value.readEntries
    induction entries with
    | nil => rfl
    | cons entry entries inductionHypothesis =>
        rw [List.map_cons, List.mapM_cons, inductionHypothesis]
        rfl
  exact congrArg (Except.map RecordBody.named) (read _)

end Yaml
end EntitySchema
