import EntitySchema.Proofs.CasedNames

/-!
# Cased forms

Casing a cased name changes nothing more.  For the two casings of the first letter this is so
because a letter in upper or lower case stays as it is.  For lower case words the argument goes
through their normal form: a text of seven-bit characters without capitals, hyphens and spaces, in
which no letter meets a digit.  Every cased name has this form, and a text of this form is cut
nowhere but at its underscores.
-/

namespace EntitySchema

namespace Text

/-- A text of seven-bit characters. -/
def IsSevenBit (text : List Char) : Prop :=
  ∀ character ∈ text, character.toNat < 0x80

theorem isSevenBit_nil : IsSevenBit [] :=
  fun _ absent => nomatch absent

/-! ## Case forms -/

/-- In lower case, a seven-bit character is one still, and no capital. -/
theorem toLower_of_small
    {character : Char}
    (small : character.toNat < 0x80) :
    character.toLower.toNat < 0x80 ∧ ¬ character.toLower.isUpper :=
  forall_sevenBit
    (fun character => character.toLower.toNat < 0x80 ∧ ¬ character.toLower.isUpper)
    (by decide +kernel) small

theorem toLower_eq_of_small
    {character : Char}
    (small : character.toNat < 0x80)
    (noCapital : ¬ character.isUpper) :
    character.toLower = character :=
  forall_sevenBit (fun character => ¬ character.isUpper → character.toLower = character)
    (by decide +kernel) small noCapital

theorem toUpper_toUpper_of_small
    {character : Char}
    (small : character.toNat < 0x80) :
    character.toUpper.toUpper = character.toUpper :=
  forall_sevenBit (fun character => character.toUpper.toUpper = character.toUpper)
    (by decide +kernel) small

theorem lowerForm_of_small
    {character : Char}
    (small : character.toNat < 0x80) :
    lowerForm character = [character.toLower] :=
  if_pos small

theorem lowercaseFrom_of_isSevenBit
    {text : List Char}
    (small : IsSevenBit text)
    (reversedBefore : List Char) :
    lowercaseFrom reversedBefore text = text.map Char.toLower := by
  induction text generalizing reversedBefore with
  | nil => rfl
  | cons character rest inductionHypothesis =>
      obtain ⟨first, later⟩ := List.forall_mem_cons.mp small
      have unlike : character ≠ 'Σ' := by
        rintro rfl
        exact absurd first (by decide)
      rw [lowercaseFrom, if_neg unlike, lowerForm_of_small first, inductionHypothesis later]
      rfl

/-- Seven-bit letters become lower case one by one. -/
theorem lowercase_of_isSevenBit
    {text : List Char}
    (small : IsSevenBit text) :
    lowercase text = text.map Char.toLower :=
  lowercaseFrom_of_isSevenBit small []

/-! ## Clusters -/

/-- The classes of seven-bit characters. -/
def BreakClass.IsSimple (breakClass : BreakClass) : Prop :=
  breakClass = .carriageReturn ∨ breakClass = .lineFeed ∨ breakClass = .control ∨
    breakClass = .other

theorem BreakClass.isSimple_ofChar
    {character : Char}
    (small : character.toNat < 0x80) :
    (ofChar character).IsSimple := by
  rw [ofChar]
  split_ifs <;> simp [IsSimple]

theorem BreakClass.ofChar_eq_carriageReturn_iff
    {character : Char}
    (small : character.toNat < 0x80) :
    ofChar character = .carriageReturn ↔ character = '\r' := by
  rw [ofChar]
  split_ifs <;> simp_all

theorem BreakClass.ofChar_eq_lineFeed_iff
    {character : Char}
    (small : character.toNat < 0x80) :
    ofChar character = .lineFeed ↔ character = '\n' := by
  rw [ofChar]
  split_ifs <;> simp_all

/-- Characters of simple classes stand in one cluster only at the end of a line. -/
theorem BreakState.joins_iff_of_isSimple
    {state : BreakState}
    {current : BreakClass}
    (before : state.previous.IsSimple)
    (after : current.IsSimple) :
    state.joins current = true ↔ state.previous = .carriageReturn ∧ current = .lineFeed := by
  obtain ⟨previous, pictograph, odd⟩ := state
  rcases before with rfl | rfl | rfl | rfl <;> rcases after with rfl | rfl | rfl | rfl <;>
    simp [joins, separates, joinsSyllable]

/-- A text that does not continue a cluster begins clusters of its own. -/
theorem clustersFrom_eq_cons
    {state : BreakState}
    {text : List Char}
    (ended : ∀ next ∈ text.head?, ¬ state.joins (.ofChar next) = true)
    (reversed : List Char) :
    clustersFrom state reversed text = reversed.reverse :: clusters text := by
  cases text with
  | nil => rfl
  | cons next rest =>
      rw [clustersFrom, if_neg (ended next rfl)]
      rfl

/-- A seven-bit text starts with a line end, which is one cluster, or with a character that is a
cluster of its own. -/
theorem clusters_cases
    {text : List Char}
    (small : IsSevenBit text) :
    text = [] ∨
      (∃ rest, text = '\r' :: '\n' :: rest ∧ clusters text = ['\r', '\n'] :: clusters rest) ∨
      ∃ first rest, text = first :: rest ∧ clusters text = [first] :: clusters rest := by
  rcases text with _ | ⟨first, rest⟩
  · exact .inl rfl
  right
  obtain ⟨firstSmall, restSmall⟩ := List.forall_mem_cons.mp small
  by_cases line : first = '\r' ∧ rest.head? = some '\n'
  · obtain ⟨rfl, feed⟩ := line
    obtain ⟨later, rfl⟩ := List.head?_eq_some_iff.mp feed
    refine .inl ⟨later, rfl, clustersFrom_eq_cons (fun next starts => ?_) ['\n', '\r']⟩
    have nextSmall := restSmall next (List.mem_cons_of_mem _ (List.mem_of_mem_head? starts))
    rw [BreakState.joins_iff_of_isSimple (.inr (.inl rfl)) (BreakClass.isSimple_ofChar nextSmall)]
    exact fun joined => nomatch joined.1
  · refine .inr ⟨first, rest, rfl, clustersFrom_eq_cons (fun next starts => ?_) [first]⟩
    have nextSmall := restSmall next (List.mem_of_mem_head? starts)
    rw [BreakState.joins_iff_of_isSimple (BreakClass.isSimple_ofChar firstSmall)
      (BreakClass.isSimple_ofChar nextSmall)]
    rintro ⟨carriage, feed⟩
    have returned := (BreakClass.ofChar_eq_carriageReturn_iff firstSmall).mp carriage
    rw [(BreakClass.ofChar_eq_lineFeed_iff nextSmall).mp feed] at starts
    exact line ⟨returned, starts⟩

end Text

namespace Casing

/-! ## Words -/

/-- The kind of a character that is a cluster of its own. -/
def kindOf (character : Char) : ClusterKind :=
  .ofCluster [character]

/-- The characters of a text, each as a cluster of its own. -/
def singles (text : List Char) : List (List Char) :=
  text.map fun character => [character]

theorem singles_cons
    (first : Char)
    (rest : List Char) :
    singles (first :: rest) = [first] :: singles rest :=
  rfl

/-- Whether a word ends behind a cluster of the given kind. -/
def endsWord (kind : ClusterKind) (following : List (List Char)) : Bool :=
  kind.cutsBefore (following.head?.map .ofCluster) (following.tail.head?.map .ofCluster)

theorem wordsFrom_cons
    (word cluster : List Char)
    (rest : List (List Char)) :
    wordsFrom word (cluster :: rest) =
      if ClusterKind.ofCluster cluster = .delimiter then word :: wordsFrom [] rest
      else if endsWord (.ofCluster cluster) rest then (word ++ cluster) :: wordsFrom [] rest
      else wordsFrom (word ++ cluster) rest := by
  have first : ((rest.take 2).map ClusterKind.ofCluster)[0]? = rest.head?.map .ofCluster := by
    cases rest <;> rfl
  have second :
      ((rest.take 2).map ClusterKind.ofCluster)[1]? = rest.tail.head?.map .ofCluster := by
    rcases rest with _ | ⟨_, _ | _⟩ <;> rfl
  rw [wordsFrom, endsWord]
  dsimp only
  rw [first, second]
  split
  · rename_i delimiter
    rw [if_pos delimiter]
  · rename_i other
    rw [if_neg other]

theorem wordsFrom_singles_cons
    (word : List Char)
    (first : Char)
    (rest : List Char) :
    wordsFrom word (singles (first :: rest)) =
      if kindOf first = .delimiter then word :: wordsFrom [] (singles rest)
      else if endsWord (kindOf first) (singles rest) then
        (word ++ [first]) :: wordsFrom [] (singles rest)
      else wordsFrom (word ++ [first]) (singles rest) :=
  wordsFrom_cons word [first] (singles rest)

/-- No word ends at a cluster that is neither a letter nor a digit nor a delimiter. -/
theorem wordsFrom_cons_of_other
    {cluster : List Char}
    (other : ClusterKind.ofCluster cluster = .other)
    (word : List Char)
    (rest : List (List Char)) :
    wordsFrom word (cluster :: rest) = wordsFrom (word ++ cluster) rest := by
  rw [wordsFrom_cons, other]
  rfl

theorem wordsFrom_ne_nil
    (word : List Char)
    (clusters : List (List Char)) :
    wordsFrom word clusters ≠ [] := by
  induction clusters generalizing word with
  | nil => exact List.cons_ne_nil _ _
  | cons cluster rest inductionHypothesis =>
      rw [wordsFrom_cons]
      split_ifs
      · exact List.cons_ne_nil _ _
      · exact List.cons_ne_nil _ _
      · exact inductionHypothesis _

/-- The cluster after the next one matters only behind a capital. -/
theorem ClusterKind.cutsBefore_congr
    {next : Option ClusterKind}
    (other : next ≠ some .upper)
    (kind : ClusterKind)
    (first second : Option ClusterKind) :
    kind.cutsBefore next first = kind.cutsBefore next second := by
  cases next with
  | none => cases kind <;> rfl
  | some following =>
      cases following with
      | upper => exact absurd rfl other
      | delimiter | lower | digit | other => cases kind <;> rfl

section SevenBit

variable
  {text : List Char}

/-- A cluster is of the kind of its first character. -/
theorem head?_clusters
    (small : Text.IsSevenBit text) :
    (Text.clusters text).head?.map ClusterKind.ofCluster = text.head?.map kindOf := by
  rcases Text.clusters_cases small with rfl | ⟨rest, rfl, line⟩ | ⟨first, rest, rfl, own⟩
  · rfl
  · have kind : ClusterKind.ofCluster ['\r', '\n'] = kindOf '\r' := by decide
    rw [line, List.head?_cons, Option.map_some, kind]
    rfl
  · rw [own]
    rfl

theorem head?_singles (text : List Char) :
    (singles text).head?.map ClusterKind.ofCluster = text.head?.map kindOf := by
  cases text <;> rfl

theorem endsWord_clusters
    (small : Text.IsSevenBit text)
    (kind : ClusterKind) :
    endsWord kind (Text.clusters text) = endsWord kind (singles text) := by
  rw [endsWord, endsWord, head?_clusters small, head?_singles]
  rcases Text.clusters_cases small with rfl | ⟨rest, rfl, -⟩ | ⟨first, rest, rfl, own⟩
  · rfl
  · have other : some (kindOf '\r') ≠ some .upper := by decide
    exact ClusterKind.cutsBefore_congr other kind _ _
  · have later : Text.IsSevenBit rest := (List.forall_mem_cons.mp small).2
    rw [own, singles_cons, List.tail_cons, List.tail_cons, head?_clusters later, head?_singles]

/-- The words of a seven-bit text are those of its characters: no word ends at a line end. -/
theorem wordsFrom_clusters
    (small : Text.IsSevenBit text)
    (word : List Char) :
    wordsFrom word (Text.clusters text) = wordsFrom word (singles text) := by
  -- A line end takes two characters off the text at once.
  induction length : text.length using Nat.strong_induction_on generalizing text word with
  | _ count inductionHypothesis =>
      rcases Text.clusters_cases small with rfl | ⟨rest, rfl, line⟩ | ⟨first, rest, rfl, own⟩
      · rfl
      · have later : Text.IsSevenBit rest :=
          (List.forall_mem_cons.mp (List.forall_mem_cons.mp small).2).2
        have shorter : rest.length < count := by
          rw [← length, List.length_cons, List.length_cons]
          omega
        rw [line, wordsFrom_cons_of_other (by decide), singles_cons, singles_cons,
          wordsFrom_cons_of_other (by decide), wordsFrom_cons_of_other (by decide),
          List.append_assoc, inductionHypothesis _ shorter later _ rfl]
        rfl
      · have later : Text.IsSevenBit rest := (List.forall_mem_cons.mp small).2
        have shorter : rest.length < count := by
          rw [← length, List.length_cons]
          omega
        have same (begun : List Char) := inductionHypothesis _ shorter later begun rfl
        rw [own, wordsFrom_cons, endsWord_clusters later, same, same, wordsFrom_singles_cons]
        rfl

end SevenBit

/-! ## Kinds of characters -/

/-- The kind of a letter in lower case, and every other kind as it is. -/
def ClusterKind.lowered : ClusterKind -> ClusterKind
  | upper => lower
  | kind => kind

theorem ClusterKind.lowered_ne_delimiter
    {kind : ClusterKind}
    (inside : kind ≠ .delimiter) :
    kind.lowered ≠ .delimiter := by
  cases kind with
  | delimiter => exact absurd rfl inside
  | upper | lower | digit | other => decide

/-- Kinds that are not cut apart are not cut apart in lower case either, whatever follows. -/
theorem ClusterKind.cutsBefore_lowered
    {first second : ClusterKind}
    {next : Option ClusterKind}
    (uncut : first.cutsBefore (some second) next = false)
    (other : Option ClusterKind) :
    first.lowered.cutsBefore (some second.lowered) other = false := by
  revert uncut
  cases first <;> cases second <;> simp [lowered, cutsBefore]

theorem kindOf_toLower
    {character : Char}
    (small : character.toNat < 0x80) :
    kindOf character.toLower = (kindOf character).lowered :=
  Text.forall_sevenBit (fun character => kindOf character.toLower = (kindOf character).lowered)
    (by decide +kernel) small

theorem eq_of_kindOf_delimiter
    {character : Char}
    (delimiter : kindOf character = .delimiter) :
    character = '_' ∨ character = '-' ∨ character = ' ' := by
  rw [kindOf, ClusterKind.ofCluster] at delimiter
  dsimp only at delimiter
  split_ifs at delimiter with known
  simpa [or_assoc] using known

/-! ## Neighbours -/

/-- Two characters can be neighbours in a word. -/
def MayAdjoin (first second : Char) : Prop :=
  ∃ next, (kindOf first).cutsBefore (some (kindOf second)) next = false

/-- No word ends between two characters, whatever follows them. -/
def StaysTogether (first second : Char) : Prop :=
  ∀ next, (kindOf first).cutsBefore (some (kindOf second)) next = false

theorem MayAdjoin.toLower
    {first second : Char}
    (firstSmall : first.toNat < 0x80)
    (secondSmall : second.toNat < 0x80)
    (adjoin : MayAdjoin first second) :
    StaysTogether first.toLower second.toLower := by
  obtain ⟨next, uncut⟩ := adjoin
  intro other
  rw [kindOf_toLower firstSmall, kindOf_toLower secondSmall]
  exact ClusterKind.cutsBefore_lowered uncut other

theorem staysTogether_underscore (character : Char) : StaysTogether character '_' := by
  have delimiter : kindOf '_' = .delimiter := by decide
  intro next
  rw [delimiter]
  cases kindOf character <;> rfl

theorem underscore_staysTogether (character : Char) : StaysTogether '_' character := by
  have delimiter : kindOf '_' = .delimiter := by decide
  intro next
  rw [delimiter]
  rfl

/-- A word ends behind a character only where the next one is cut off. -/
theorem mayAdjoin_of_endsWord
    {first second : Char}
    {rest : List Char}
    (continues : endsWord (kindOf first) (singles (second :: rest)) = false) :
    MayAdjoin first second :=
  ⟨_, continues⟩

theorem endsWord_eq_false_of_isChain
    {first : Char}
    {rest : List Char}
    (together : (first :: rest).IsChain StaysTogether) :
    endsWord (kindOf first) (singles rest) = false := by
  cases rest with
  | nil =>
      rw [endsWord]
      cases kindOf first <;> rfl
  | cons second later => exact (List.isChain_cons_cons.mp together).1 _

/-! ## Lower case words -/

/-- The form of a name in lower case words: seven-bit characters without capitals, no delimiter
but underscores, and no neighbours that a word boundary separates. -/
structure IsSnake (text : List Char) : Prop where
  small : Text.IsSevenBit text
  characters : ∀ character ∈ text, ¬ character.isUpper ∧ character ≠ '-' ∧ character ≠ ' '
  together : text.IsChain StaysTogether

theorem IsSnake.tail
    {first : Char}
    {rest : List Char}
    (snake : IsSnake (first :: rest)) :
    IsSnake rest where
  small := (List.forall_mem_cons.mp snake.small).2
  characters := (List.forall_mem_cons.mp snake.characters).2
  together := snake.together.tail

/-- A text of lower case words is cut at its underscores only, so its words joined again give it
back. -/
theorem intercalate_wordsFrom_of_isSnake
    {word text : List Char}
    (small : Text.IsSevenBit word)
    (snake : IsSnake text) :
    List.intercalate ['_'] ((wordsFrom word (singles text)).map Text.lowercase) =
      Text.lowercase word ++ text := by
  induction text generalizing word with
  | nil => simp [singles, wordsFrom]
  | cons first rest inductionHypothesis =>
      have firstSmall := snake.small first List.mem_cons_self
      obtain ⟨lower, hyphen, space⟩ := snake.characters first List.mem_cons_self
      rw [wordsFrom_singles_cons]
      by_cases delimiter : kindOf first = .delimiter
      · have underscore : first = '_' :=
          (eq_of_kindOf_delimiter delimiter).resolve_right (not_or.mpr ⟨hyphen, space⟩)
        have later := inductionHypothesis Text.isSevenBit_nil snake.tail
        have behind : (wordsFrom [] (singles rest)).map Text.lowercase ≠ [] := by
          simpa using wordsFrom_ne_nil [] (singles rest)
        rw [if_pos delimiter, List.map_cons, List.intercalate_cons_of_ne_nil behind, later,
          underscore, List.append_assoc]
        rfl
      · have continued : Text.IsSevenBit (word ++ [first]) :=
          List.forall_mem_append.mpr ⟨small, List.forall_mem_singleton.mpr firstSmall⟩
        have kept : Text.lowercase (word ++ [first]) = Text.lowercase word ++ [first] := by
          rw [Text.lowercase_of_isSevenBit continued, Text.lowercase_of_isSevenBit small,
            List.map_append, List.map_singleton, Text.toLower_eq_of_small firstSmall lower]
        rw [if_neg delimiter, endsWord_eq_false_of_isChain snake.together,
          if_neg Bool.false_ne_true, inductionHypothesis continued snake.tail, kept,
          List.append_assoc, List.singleton_append]

/-- A name in lower case words is its own form. -/
theorem snakeForm_of_isSnake
    {text : List Char}
    (snake : IsSnake text) :
    snakeForm text = text := by
  rw [snakeForm, words, wordsFrom_clusters snake.small,
    intercalate_wordsFrom_of_isSnake Text.isSevenBit_nil snake]
  rfl

/-! ## Words of a name -/

/-- A word of a name: seven-bit characters without delimiters, and neighbours only where no word
ends. -/
structure IsWord (word : List Char) : Prop where
  small : Text.IsSevenBit word
  undivided : ∀ character ∈ word, kindOf character ≠ .delimiter
  adjoined : word.IsChain MayAdjoin

theorem isWord_nil : IsWord [] :=
  ⟨Text.isSevenBit_nil, by simp, .nil⟩

theorem IsWord.concat
    {word : List Char}
    {character : Char}
    (begun : IsWord word)
    (small : character.toNat < 0x80)
    (inside : kindOf character ≠ .delimiter)
    (adjoined : (word ++ [character]).IsChain MayAdjoin) :
    IsWord (word ++ [character]) where
  small := List.forall_mem_append.mpr ⟨begun.small, List.forall_mem_singleton.mpr small⟩
  undivided := List.forall_mem_append.mpr ⟨begun.undivided, List.forall_mem_singleton.mpr inside⟩
  adjoined := adjoined

/-- Cutting a text gives words, if what has been begun is a word that the text can continue. -/
theorem isWord_of_mem_wordsFrom
    {word text found : List Char}
    (small : Text.IsSevenBit text)
    (begun : IsWord word)
    (continues : (word ++ text.take 1).IsChain MayAdjoin)
    (member : found ∈ wordsFrom word (singles text)) :
    IsWord found := by
  induction text generalizing word with
  | nil =>
      rw [List.mem_singleton.mp member]
      exact begun
  | cons first rest inductionHypothesis =>
      obtain ⟨firstSmall, later⟩ := List.forall_mem_cons.mp small
      rw [wordsFrom_singles_cons] at member
      split_ifs at member with delimiter ends
      · rcases List.mem_cons.mp member with rfl | inRest
        · exact begun
        · exact inductionHypothesis later isWord_nil (List.isChain_take_one rest) inRest
      · rcases List.mem_cons.mp member with rfl | inRest
        · exact begun.concat firstSmall delimiter continues
        · exact inductionHypothesis later isWord_nil (List.isChain_take_one rest) inRest
      · -- The word goes on, so the next character was not cut off from this one.
        refine inductionHypothesis later (begun.concat firstSmall delimiter continues) ?_ member
        cases rest with
        | nil => simpa using continues
        | cons second more =>
            have adjoin : MayAdjoin first second :=
              mayAdjoin_of_endsWord (Bool.eq_false_iff.mpr ends)
            refine List.IsChain.append continues (.singleton second) ?_
            simpa using adjoin

/-- A word in lower case has the form of lower case words. -/
theorem IsWord.isSnake_lowercase
    {word : List Char}
    (isWord : IsWord word) :
    IsSnake (Text.lowercase word) := by
  rw [Text.lowercase_of_isSevenBit isWord.small]
  refine ⟨?_, ?_, ?_⟩
  · exact List.forall_mem_map.mpr fun character member =>
      (Text.toLower_of_small (isWord.small _ member)).1
  · refine List.forall_mem_map.mpr fun character member => ?_
    have inside : kindOf character.toLower ≠ .delimiter := by
      rw [kindOf_toLower (isWord.small _ member)]
      exact ClusterKind.lowered_ne_delimiter (isWord.undivided _ member)
    refine ⟨?_, ?_, ?_⟩
    · exact (Text.toLower_of_small (isWord.small _ member)).2
    · intro hyphen
      exact inside (by rw [hyphen]; decide)
    · intro space
      exact inside (by rw [space]; decide)
  · refine (List.isChain_map _).mpr (isWord.adjoined.imp_of_mem_imp ?_)
    intro first second firstMember secondMember adjoin
    exact adjoin.toLower (isWord.small _ firstMember) (isWord.small _ secondMember)

/-- Texts of lower case words can be joined by underscores. -/
theorem isSnake_intercalate
    {parts : List (List Char)}
    (snakes : ∀ part ∈ parts, IsSnake part) :
    IsSnake (List.intercalate ['_'] parts) := by
  have ofParts (property : Char -> Prop) (underscore : property '_')
      (within : ∀ part ∈ parts, ∀ character ∈ part, property character) :
      ∀ character ∈ List.intercalate ['_'] parts, property character := by
    intro character member
    rcases List.mem_of_mem_intercalate member with between | ⟨part, known, inside⟩
    · rwa [List.mem_singleton.mp between]
    · exact within part known character inside
  refine ⟨?_, ?_, ?_⟩
  · exact ofParts _ (by decide) fun part known => (snakes part known).small
  · exact ofParts _ (by decide) fun part known => (snakes part known).characters
  · exact List.isChain_intercalate staysTogether_underscore underscore_staysTogether
      fun part known => (snakes part known).together

/-- A seven-bit name becomes lower case words. -/
theorem isSnake_snakeForm
    {name : List Char}
    (small : Text.IsSevenBit name) :
    IsSnake (snakeForm name) := by
  rw [snakeForm, words, wordsFrom_clusters small]
  refine isSnake_intercalate (List.forall_mem_map.mpr fun word member => ?_)
  have isWord := isWord_of_mem_wordsFrom small isWord_nil (List.isChain_take_one name) member
  exact isWord.isSnake_lowercase

/-! ## Casings -/

theorem mapFirst_mapFirst
    {change : Char -> Char}
    {name : List Char}
    (settled : ∀ character ∈ name, change (change character) = change character) :
    mapFirst change (mapFirst change name) = mapFirst change name := by
  cases name with
  | nil => rfl
  | cons first rest => rw [mapFirst, mapFirst, settled first List.mem_cons_self]

theorem applyChars_applyChars
    {name : List Char}
    (small : Text.IsSevenBit name)
    (casing : Casing) :
    casing.applyChars (casing.applyChars name) = casing.applyChars name := by
  cases casing with
  | pascal =>
      exact mapFirst_mapFirst fun character member =>
        Text.toUpper_toUpper_of_small (small character member)
  | camel =>
      refine mapFirst_mapFirst fun character member => ?_
      obtain ⟨stillSmall, noCapital⟩ := Text.toLower_of_small (small character member)
      exact Text.toLower_eq_of_small stillSmall noCapital
  | snake => exact snakeForm_of_isSnake (isSnake_snakeForm small)

/-- A casing of the first letter keeps all other characters. -/
theorem tail_mapFirst
    (change : Char -> Char)
    (name : List Char) :
    (mapFirst change name).tail = name.tail ∧ (mapFirst change name).length = name.length := by
  cases name <;> exact ⟨rfl, rfl⟩

/-- A cased name is its own cased form.  Casing the first letter changes no other character, and
lower case words are seven-bit characters without capitals, hyphens and spaces. -/
theorem cased_names_settled
    {name : String}
    (small : Text.IsSevenBit name.toList) :
    (∀ casing : Casing, casing.apply (casing.apply name) = casing.apply name) ∧
    (∀ casing : Casing, casing = .pascal ∨ casing = .camel →
      (casing.apply name).toList.tail = name.toList.tail ∧
        (casing.apply name).length = name.length) ∧
    Text.IsSevenBit (snake.apply name).toList ∧
    ∀ character ∈ (snake.apply name).toList,
      ¬ character.isUpper ∧ character ≠ '-' ∧ character ≠ ' ' := by
  refine ⟨fun casing => ?_, ?_, ?_⟩
  · rw [apply, apply, String.toList_ofList, applyChars_applyChars small]
  · simp only [apply, String.toList_ofList, ← String.length_toList]
    rintro casing (rfl | rfl)
    · exact tail_mapFirst Char.toUpper name.toList
    · exact tail_mapFirst Char.toLower name.toList
  · have snaked := isSnake_snakeForm small
    rw [apply, String.toList_ofList]
    exact ⟨snaked.small, snaked.characters⟩

/-- A name with an acronym, digits, delimiters in a row and a line end. -/
def mixedName : String := "HTTPServer2 -v10\r\nAPIKey_"

theorem cased_names_settled_mixed :
    Text.IsSevenBit mixedName.toList ∧
      snake.apply mixedName = "http_server_2__v_10\r\napi_key_" ∧
      snake.apply (snake.apply mixedName) = snake.apply mixedName := by
  have codes : mixedName.toList.all (fun character => character.toNat < 0x80) := by decide
  have small : Text.IsSevenBit mixedName.toList :=
    fun character member => of_decide_eq_true (List.all_eq_true.mp codes character member)
  exact ⟨small, by decide +kernel, (cased_names_settled small).1 snake⟩

end Casing
end EntitySchema
