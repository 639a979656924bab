import EntitySchema.Proofs.Nesting

/-!
# Reading segments

The arguments of a segment run to the first closing parenthesis at which as many brackets have been
closed as opened.  A text starts with a segment exactly when it starts with a dot, a name and
parenthesized arguments of this form, and then there is only one such segment.
-/

namespace EntitySchema
namespace Documentation

/-! ## Arguments -/

/-- While the reader goes on, so does the search for the closing parenthesis. -/
theorem argumentsFrom?_of_next
    {reading following : Reading}
    {character : Char}
    (step : reading.next .byNumber character = some following)
    (rest : List Char) :
    argumentsFrom? reading.literal reading.unclosed.length (character :: rest) =
      (argumentsFrom? following.literal following.unclosed.length rest).map
        (prepend character) := by
  obtain ⟨literal, unclosed⟩ := reading
  unfold Reading.next at step
  conv_lhs => unfold argumentsFrom?
  by_cases closes : literal = .outside && isClosing character
  · rw [if_pos closes] at step ⊢
    obtain ⟨outside, -⟩ := Bool.and_eq_true_iff.mp closes
    cases unclosed with
    | nil => cases step
    | cons opening outer =>
        cases step
        rw [of_decide_eq_true outside]
        rfl
  · rw [if_neg closes] at step ⊢
    by_cases opens : literal = .outside && isOpening character
    · rw [if_pos opens] at step ⊢
      obtain ⟨outside, -⟩ := Bool.and_eq_true_iff.mp opens
      cases step
      rw [of_decide_eq_true outside]
      rfl
    · rw [if_neg opens] at step ⊢
      cases step
      rfl

/-- The reader stops only at a closing bracket with no bracket open.  There the segment ends, if
with a parenthesis. -/
theorem argumentsFrom?_of_next_eq_none
    {reading : Reading}
    {character : Char}
    (stops : reading.next .byNumber character = none)
    (rest : List Char) :
    reading = .start ∧
      argumentsFrom? reading.literal reading.unclosed.length (character :: rest) =
        if character = ')' then some ([], rest) else none := by
  obtain ⟨literal, unclosed⟩ := reading
  unfold Reading.next at stops
  by_cases closes : literal = .outside && isClosing character
  · rw [if_pos closes] at stops
    obtain ⟨outside, -⟩ := Bool.and_eq_true_iff.mp closes
    cases unclosed with
    | nil =>
        unfold argumentsFrom?
        rw [if_pos closes, of_decide_eq_true outside]
        exact ⟨rfl, rfl⟩
    | cons opening outer => cases stops
  · rw [if_neg closes] at stops
    split_ifs at stops

/-- Arguments are found exactly in front of a closing parenthesis, and what is read of them brings
the reader back to its start. -/
theorem argumentsFrom?_eq_some_iff
    {reading : Reading}
    {text arguments rest : List Char} :
    argumentsFrom? reading.literal reading.unclosed.length text = some (arguments, rest) ↔
      text = arguments ++ ')' :: rest ∧ reading.after .byNumber arguments = some .start := by
  induction text generalizing reading arguments with
  | nil => simp [argumentsFrom?]
  | cons character behind inductionHypothesis =>
      cases step : reading.next .byNumber character with
      | none =>
          obtain ⟨rfl, found⟩ := argumentsFrom?_of_next_eq_none step behind
          rw [found]
          cases arguments with
          | nil => simp [eq_comm, and_comm]
          | cons head tail =>
              -- A reader that stops at the first character never gets to the end.
              have stuck :
                  character = head → Reading.start.after .byNumber (head :: tail) = none := by
                rintro rfl
                rw [Reading.after_cons, step]
                rfl
              constructor
              · intro ended
                split_ifs at ended
                cases ended
              · rintro ⟨same, read⟩
                rw [stuck (List.cons.inj same).1] at read
                cases read
      | some following =>
          rw [argumentsFrom?_of_next step]
          cases arguments with
          | nil =>
              constructor
              · intro found
                obtain ⟨split, -, impossible⟩ := Option.map_eq_some_iff.mp found
                cases congrArg Prod.fst impossible
              · rintro ⟨same, read⟩
                obtain ⟨rfl, -⟩ := List.cons.inj same
                cases read
                cases step
          | cons head tail =>
              constructor
              · intro found
                obtain ⟨⟨first, second⟩, later, equal⟩ := Option.map_eq_some_iff.mp found
                cases equal
                obtain ⟨rfl, read⟩ := inductionHypothesis.mp later
                rw [Reading.after_cons, step]
                exact ⟨rfl, read⟩
              · rintro ⟨same, read⟩
                obtain ⟨rfl, rfl⟩ := List.cons.inj same
                rw [Reading.after_cons, step] at read
                rw [inductionHypothesis.mpr ⟨rfl, read⟩]
                rfl

/-- The arguments of a segment are nested by number and end at a closing parenthesis. -/
theorem arguments?_eq_some_iff
    {text arguments rest : List Char} :
    arguments? text = some (arguments, rest) ↔
      text = arguments ++ ')' :: rest ∧ Nested .byNumber arguments := by
  rw [nested_iff_after]
  exact @argumentsFrom?_eq_some_iff .start text arguments rest

/-! ## Segments -/

namespace Segment

/-- A segment as a text can start with it: it has a name, and its arguments are nested by number. -/
structure IsReadable (segment : Segment) : Prop where
  name : isName segment.name
  arguments : Nested .byNumber segment.arguments

theorem isNameCharacter_of_mem
    {name : List Char}
    (valid : isName name)
    {character : Char}
    (member : character ∈ name) :
    isNameCharacter character := by
  obtain ⟨-, all⟩ := Bool.and_eq_true_iff.mp valid
  exact List.all_eq_true.mp all character member

theorem parenthesis_not_mem_name
    {name : List Char}
    (valid : isName name) :
    '(' ∉ name := by
  intro member
  have plain := isPlain_of_isNameCharacter (isNameCharacter_of_mem valid member)
  cases plain

/-- Behind a dot, the name runs to the first opening parenthesis. -/
theorem split?_of_parenthesis
    {name : List Char}
    (valid : isName name)
    (behind : List Char) :
    split? ('.' :: (name ++ '(' :: behind)) =
      (arguments? behind).map fun split => (⟨name, split.1⟩, split.2) := by
  have inName : ∀ character ∈ name, character != '(' := by
    intro character member
    rw [bne_iff_ne]
    rintro rfl
    exact parenthesis_not_mem_name valid member
  rw [split?, List.takeWhile_append_of_pos inName, List.dropWhile_append_of_pos inName,
    List.takeWhile_cons_of_neg (by simp), List.dropWhile_cons_of_neg (by simp), List.append_nil]
  simp [valid]

/-- A text with a segment at its start has a name and a parenthesis behind a dot. -/
theorem exists_parenthesis_of_split?
    {text rest : List Char}
    {segment : Segment}
    (found : split? text = some (segment, rest)) :
    ∃ behind, text = '.' :: (segment.name ++ '(' :: behind) ∧ isName segment.name := by
  unfold split? at found
  split at found
  · rename_i source
    dsimp only at found
    split at found
    · cases found
    · rename_i opening behind opened
      split_ifs at found with valid
      obtain ⟨split, -, equal⟩ := Option.map_eq_some_iff.mp found
      have parenthesis : opening = '(' := by
        have stops := List.head?_dropWhile_not (· != '(') source
        rw [opened] at stops
        simpa using stops
      have parts := List.takeWhile_append_dropWhile (p := (· != '(')) (l := source)
      rw [opened, parenthesis] at parts
      cases equal
      exact ⟨behind, by rw [parts], valid⟩
  · cases found

/-- A text starts with a segment exactly when it is written like one. -/
theorem split?_eq_some_iff
    {text rest : List Char}
    {segment : Segment} :
    split? text = some (segment, rest) ↔
      text = '.' :: (segment.call ++ rest) ∧ segment.IsReadable := by
  have written :
      segment.call ++ rest = segment.name ++ '(' :: (segment.arguments ++ ')' :: rest) := by
    simp [call]
  rw [written]
  obtain ⟨name, arguments⟩ := segment
  constructor
  · intro found
    obtain ⟨behind, rfl, valid⟩ := exists_parenthesis_of_split? found
    rw [split?_of_parenthesis valid] at found
    obtain ⟨split, read, equal⟩ := Option.map_eq_some_iff.mp found
    cases equal
    obtain ⟨rfl, nested⟩ := arguments?_eq_some_iff.mp read
    exact ⟨rfl, valid, nested⟩
  · rintro ⟨rfl, valid, nested⟩
    rw [split?_of_parenthesis valid, arguments?_eq_some_iff.mpr ⟨rfl, nested⟩]
    rfl

end Segment

theorem segments_of_split?
    {chain rest : List Char}
    {segment : Segment}
    (found : Segment.split? chain = some (segment, rest)) :
    segments chain = segment :: segments (Text.trimStart rest) := by
  rw [segments]
  split
  · rename_i missing
    rw [found] at missing
    cases missing
  · rename_i first behind same
    rw [found] at same
    cases same
    rfl

theorem segments_of_split?_eq_none
    {chain : List Char}
    (missing : Segment.split? chain = none) :
    segments chain = [] := by
  rw [segments]
  split
  · rfl
  · rename_i found
    rw [missing] at found
    cases found

/-- Every segment of a chain is written as segments are. -/
theorem isReadable_of_mem_segments
    {chain : List Char}
    {segment : Segment}
    (member : segment ∈ segments chain) :
    segment.IsReadable := by
  fun_induction segments chain with
  | case1 => cases member
  | case2 chain first rest found inductionHypothesis =>
      rcases List.mem_cons.mp member with rfl | later
      · exact (Segment.split?_eq_some_iff.mp found).2
      · exact inductionHypothesis later

end Documentation
end EntitySchema
