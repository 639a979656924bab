import EntitySchema.Proofs.Fragments
import EntitySchema.Proofs.Specifiers

/-!
# Segments of specifiers

Every path has a specifier.  Backslashes become slashes and every run of slashes becomes one slash,
which repeated passes over the text achieve however long the runs are.  The segments of what results
decide on the specifier: those behind the last directory of packages, or all of them.  So a
specifier never holds a backslash, and it holds two slashes in a row exactly when the path starts
with a separator and passes no directory of packages.
-/

namespace EntitySchema
namespace Specifier

/-! ## Runs of slashes -/

/-- The maximal runs of slashes in a text, and the texts between them. -/
def slashRuns (text : List Char) : List (List Char) :=
  text.splitBy fun first second => (first == '/') == (second == '/')

/-- One slash for a run of slashes, and any other text as it is. -/
def shortened (run : List Char) : List Char :=
  if '/' ∈ run then ['/'] else run

theorem collapseSlashes_replicate_append
    (count : Nat)
    {rest : List Char}
    (ended : rest.head? ≠ some '/') :
    collapseSlashes (List.replicate (count + 1) '/' ++ rest) = '/' :: collapseSlashes rest := by
  induction count with
  | zero =>
      rw [List.replicate_one, List.singleton_append, collapseSlashes, if_neg (by simpa using ended)]
  | succ count inductionHypothesis =>
      have repeated : (List.replicate (count + 1) '/' ++ rest).head? = some '/' := rfl
      rw [List.replicate_succ, List.cons_append, collapseSlashes, if_pos (by simp [repeated]),
        inductionHypothesis]

/-- A run of slashes leaves one slash when no slash follows, and other characters are kept. -/
theorem collapseSlashes_run_append
    {run rest : List Char}
    (nonempty : run ≠ [])
    (uniform : ∀ first ∈ run, ∀ second ∈ run, (first == '/') = (second == '/'))
    (ended : ∀ next ∈ rest.head?, ((run.getLast nonempty == '/') == (next == '/')) = false) :
    collapseSlashes (run ++ rest) = shortened run ++ collapseSlashes rest := by
  by_cases slash : '/' ∈ run
  · have slashes : ∀ character ∈ run, character = '/' :=
      fun character member => beq_iff_eq.mp (uniform character member '/' slash)
    have stops : rest.head? ≠ some '/' := by
      intro next
      have differ := ended '/' next
      rw [slashes _ (List.getLast_mem nonempty)] at differ
      cases differ
    obtain ⟨count, length⟩ := Nat.exists_eq_succ_of_ne_zero (List.length_pos_iff.mpr nonempty).ne'
    rw [shortened, if_pos slash, List.eq_replicate_of_mem slashes, length,
      collapseSlashes_replicate_append count stops, List.singleton_append]
  · rw [shortened, if_neg slash, collapseSlashes_append_of_plain slash]

theorem collapseSlashes_flatten
    {runs : List (List Char)}
    (nonempty : [] ∉ runs)
    (uniform : ∀ run ∈ runs, ∀ first ∈ run, ∀ second ∈ run, (first == '/') = (second == '/'))
    (apart : runs.IsChain fun one other =>
      ∃ left right, ((one.getLast left == '/') == (other.head right == '/')) = false) :
    collapseSlashes runs.flatten = runs.flatMap shortened := by
  induction runs with
  | nil => rfl
  | cons run rest inductionHypothesis =>
      rw [List.mem_cons, not_or] at nonempty
      rw [List.forall_mem_cons] at uniform
      have ended : ∀ next ∈ rest.flatten.head?,
          ((run.getLast (Ne.symm nonempty.1) == '/') == (next == '/')) = false := by
        cases rest with
        | nil => exact fun _ absent => nomatch absent
        | cons second later =>
            obtain ⟨left, right, differ⟩ := (List.isChain_cons_cons.mp apart).1
            intro next starts
            rw [List.flatten_cons, List.head?_append_of_ne_nil _ right,
              List.head?_eq_some_head right] at starts
            rwa [← Option.some.inj starts]
      rw [List.flatten_cons, collapseSlashes_run_append (Ne.symm nonempty.1) uniform.1 ended,
        inductionHypothesis nonempty.2 uniform.2 apart.tail, List.flatMap_cons]

/-- Every maximal run of slashes leaves one slash. -/
theorem collapseSlashes_eq_flatMap_shortened (text : List Char) :
    collapseSlashes text = (slashRuns text).flatMap shortened := by
  obtain ⟨whole, nonempty, alike, apart⟩ := List.splitBy_eq_iff.mp (Eq.refl (slashRuns text))
  have uniform : ∀ run ∈ slashRuns text,
      ∀ first ∈ run, ∀ second ∈ run, (first == '/') = (second == '/') :=
    fun run member => List.eq_of_isChain (alike run member)
  rw [← collapseSlashes_flatten nonempty uniform apart, ← whole]

/-! ## Passes over a text -/

/-- Two slashes in a row. -/
def doubleSlash : List Char := ['/', '/']

/-- One pass over a text, from left to right: two slashes in a row become one, and the pass goes on
behind both of them. -/
def halveSlashes : List Char -> List Char
  | '/' :: '/' :: rest => '/' :: halveSlashes rest
  | character :: rest => character :: halveSlashes rest
  | [] => []

/-- Passes over a text, repeated as long as it has two slashes in a row, end with a result. -/
inductive SettlesTo : List Char -> List Char -> Prop
  | done {text : List Char} :
      ¬ doubleSlash <:+: text -> SettlesTo text text
  | pass {text result : List Char} :
      doubleSlash <:+: text -> SettlesTo (halveSlashes text) result -> SettlesTo text result

theorem head?_halveSlashes (text : List Char) : (halveSlashes text).head? = text.head? := by
  fun_cases halveSlashes text <;> rfl

theorem head?_collapseSlashes (text : List Char) : (collapseSlashes text).head? = text.head? := by
  induction text with
  | nil => rfl
  | cons character rest inductionHypothesis =>
      rw [collapseSlashes]
      split_ifs with both
      · simp only [Bool.and_eq_true, decide_eq_true_eq] at both
        rw [inductionHypothesis, both.2, List.head?_cons, both.1]
      · rfl

/-- What collapsing makes of a text depends on its first character and on the rest. -/
theorem collapseSlashes_cons_congr
    {first second : List Char}
    (character : Char)
    (starts : first.head? = second.head?)
    (same : collapseSlashes first = collapseSlashes second) :
    collapseSlashes (character :: first) = collapseSlashes (character :: second) := by
  rw [collapseSlashes, collapseSlashes, starts, same]

/-- A pass does not change what a text collapses to. -/
theorem collapseSlashes_halveSlashes (text : List Char) :
    collapseSlashes (halveSlashes text) = collapseSlashes text := by
  fun_induction halveSlashes text with
  | case1 rest inductionHypothesis =>
      calc collapseSlashes ('/' :: halveSlashes rest)
          = collapseSlashes ('/' :: rest) :=
            collapseSlashes_cons_congr '/' (head?_halveSlashes rest) inductionHypothesis
        _ = collapseSlashes ('/' :: '/' :: rest) := by
            rw [collapseSlashes.eq_2 '/' ('/' :: rest), if_pos (by simp)]
  | case2 character rest _ inductionHypothesis =>
      exact collapseSlashes_cons_congr character (head?_halveSlashes rest) inductionHypothesis
  | case3 => rfl

theorem length_halveSlashes_le (text : List Char) :
    (halveSlashes text).length ≤ text.length := by
  fun_induction halveSlashes text <;> grind

/-- A pass over two slashes in a row makes the text shorter. -/
theorem length_halveSlashes_lt
    {text : List Char}
    (doubled : doubleSlash <:+: text) :
    (halveSlashes text).length < text.length := by
  fun_induction halveSlashes text with
  | case1 rest _ =>
      have shorter := length_halveSlashes_le rest
      simp only [List.length_cons]
      omega
  | case2 character rest apart inductionHypothesis =>
      rcases List.infix_cons_iff.mp doubled with ⟨later, starts⟩ | within
      · cases starts
        exact absurd rfl (apart later rfl)
      · simpa using inductionHypothesis within
  | case3 => cases List.infix_nil.mp doubled

theorem collapseSlashes_of_not_doubled
    {text : List Char}
    (single : ¬ doubleSlash <:+: text) :
    collapseSlashes text = text := by
  induction text with
  | nil => rfl
  | cons character rest inductionHypothesis =>
      rw [List.infix_cons_iff, not_or] at single
      rw [collapseSlashes, inductionHypothesis single.2, if_neg]
      intro both
      simp only [Bool.and_eq_true, decide_eq_true_eq] at both
      obtain ⟨later, rfl⟩ := List.head?_eq_some_iff.mp both.2
      exact single.1 ⟨later, by rw [both.1]; rfl⟩

theorem not_doubled_collapseSlashes (text : List Char) :
    ¬ doubleSlash <:+: collapseSlashes text := by
  induction text with
  | nil => decide
  | cons character rest inductionHypothesis =>
      rw [collapseSlashes]
      split_ifs with both
      · exact inductionHypothesis
      · rw [List.infix_cons_iff, not_or]
        refine ⟨?_, inductionHypothesis⟩
        rintro ⟨later, starts⟩
        obtain ⟨rfl, follows⟩ := List.cons.inj starts
        have slash := head?_collapseSlashes rest
        rw [← follows] at slash
        exact both (by simpa using slash.symm)

/-- The passes over a text end, and what they end with is the collapsed text. -/
theorem settlesTo_iff
    {text result : List Char} :
    SettlesTo text result ↔ result = collapseSlashes text := by
  constructor
  · intro settles
    induction settles with
    | done single => exact (collapseSlashes_of_not_doubled single).symm
    | pass _ _ inductionHypothesis => rw [inductionHypothesis, collapseSlashes_halveSlashes]
  · rintro rfl
    -- Every pass shortens the text, so there are only finitely many.
    induction length : text.length using Nat.strong_induction_on generalizing text with
    | _ count inductionHypothesis =>
        by_cases doubled : doubleSlash <:+: text
        · have shorter := length_halveSlashes_lt doubled
          have later := inductionHypothesis _ (length ▸ shorter) rfl
          rw [collapseSlashes_halveSlashes] at later
          exact .pass doubled later
        · rw [collapseSlashes_of_not_doubled doubled]
          exact .done doubled

/-! ## Segments -/

/-- A path climbs when its first segment leads to the parent directory. -/
theorem climbs_iff (text : List Char) :
    (['.', '.', '/'].isPrefixOf text || text = ['.', '.']) = true ↔
      (text.splitOn '/').head? = some ['.', '.'] := by
  rw [Bool.or_eq_true, List.isPrefixOf_iff_prefix, decide_eq_true_iff]
  by_cases slash : '/' ∈ text
  · obtain ⟨first, rest, rfl, plain⟩ := List.eq_append_cons_of_mem slash
    have longer : first ++ '/' :: rest ≠ ['.', '.'] := by
      intro same
      rw [same] at slash
      exact absurd slash (by decide)
    have dots : '/' ∉ ['.', '.'] := by decide
    rw [List.splitOn_append_cons_self_of_not_mem plain, List.head?_cons, Option.some_inj,
      or_iff_left longer]
    exact name_slash_prefix_iff dots plain rest
  · have shorter : ¬ ['.', '.', '/'] <+: text := fun starts => slash (starts.subset (by decide))
    rw [List.splitOn_eq_singleton slash, List.head?_cons, Option.some_inj, or_iff_right shorter]

/-- A path with single slashes in place of its runs of separators. -/
def plainPath (path : String) : List Char :=
  (slashRuns (forwardSlashes path.toList)).flatMap shortened

/-- The segments of a path. -/
def pathSegments (path : String) : List (List Char) :=
  (plainPath path).splitOn '/'

/-- How the segments of a path decide on its specifier. -/
structure Specifies (specifier path : String) : Prop where
  /-- Behind a directory of packages, the segments after the last such directory are left. -/
  package : Passes packages (pathSegments path) →
    ∃ before after,
      pathSegments path = before ++ packages :: after ∧ after ≠ [] ∧ ¬ Passes packages after ∧
        specifier.toList = List.intercalate ['/'] after
  /-- Other paths that climb are kept. -/
  climbing : ¬ Passes packages (pathSegments path) →
    (pathSegments path).head? = some ['.', '.'] → specifier.toList = plainPath path
  /-- All other paths start in the current directory. -/
  nearby : ¬ Passes packages (pathSegments path) →
    (pathSegments path).head? ≠ some ['.', '.'] →
      specifier.toList = '.' :: '/' :: plainPath path

theorem plainPath_eq (path : String) :
    plainPath path = collapseSlashes (forwardSlashes path.toList) :=
  (collapseSlashes_eq_flatMap_shortened _).symm

theorem intercalate_pathSegments (path : String) :
    List.intercalate ['/'] (pathSegments path) = plainPath path :=
  List.intercalate_splitOn '/'

theorem plain_of_mem_pathSegments (path : String) :
    ∀ name ∈ pathSegments path, '/' ∉ name := by
  intro name member
  rw [pathSegments, ← Path.segments_eq_splitOn] at member
  exact Path.plain_of_mem_segments member

theorem toList_ofPath (path : String) :
    (ofPath path).toList =
      match packagePath? (plainPath path) with
      | some package => package
      | none =>
          if (pathSegments path).head? = some ['.', '.'] then plainPath path
          else '.' :: '/' :: plainPath path := by
  rw [ofPath, String.toList_ofList, ofPathChars, ← plainPath_eq]
  simp only [climbs_iff]
  rfl

/-- Behind a directory of packages, the package path is what the last one is followed by. -/
theorem exists_packagePath?
    {path : String}
    (passed : Passes packages (pathSegments path)) :
    ∃ before after,
      pathSegments path = before ++ packages :: after ∧ after ≠ [] ∧ ¬ Passes packages after ∧
        packagePath? (plainPath path) = some (List.intercalate ['/'] after) := by
  have plain := plain_of_mem_pathSegments path
  obtain ⟨before, after, nonempty, shape, last⟩ := exists_last_passed passed
  rw [shape] at plain
  refine ⟨before, after, shape, nonempty, last, ?_⟩
  rw [← intercalate_pathSegments, shape, packagePath?_of_last_passed plain nonempty last]

theorem specifies_ofPath (path : String) : Specifies (ofPath path) path := by
  have outside (absent : ¬ Passes packages (pathSegments path)) :
      packagePath? (plainPath path) = none := by
    rw [← intercalate_pathSegments]
    exact packagePath?_of_not_passes (plain_of_mem_pathSegments path) absent
  refine ⟨fun passed => ?_, fun absent climbs => ?_, fun absent stays => ?_⟩
  · obtain ⟨before, after, shape, nonempty, last, found⟩ := exists_packagePath? passed
    refine ⟨before, after, shape, nonempty, last, ?_⟩
    rw [toList_ofPath, found]
  · rw [toList_ofPath, outside absent]
    exact if_pos climbs
  · rw [toList_ofPath, outside absent]
    exact if_neg stays

/-! ## Separators -/

theorem backslash_not_mem_forwardSlashes (text : List Char) : '\\' ∉ forwardSlashes text := by
  rw [forwardSlashes, List.mem_map]
  rintro ⟨character, -, changed⟩
  split_ifs at changed with backslash
  · exact absurd changed (by decide)
  · exact backslash changed

theorem backslash_not_mem_plainPath (path : String) : '\\' ∉ plainPath path := by
  rw [plainPath_eq]
  exact fun member =>
    backslash_not_mem_forwardSlashes _ ((collapseSlashes_sublist _).subset member)

theorem not_doubled_plainPath (path : String) : ¬ doubleSlash <:+: plainPath path := by
  rw [plainPath_eq]
  exact not_doubled_collapseSlashes _

/-- A path starts with a separator when its plain form starts with a slash. -/
theorem head?_plainPath_iff (path : String) :
    (plainPath path).head? = some '/' ↔
      path.toList.head? = some '/' ∨ path.toList.head? = some '\\' := by
  rw [plainPath_eq, head?_collapseSlashes, forwardSlashes, List.head?_map]
  cases path.toList.head? with
  | none => simp
  | some first => by_cases backslash : first = '\\' <;> simp [backslash]

theorem ofPath_suffix_of_passes
    {path : String}
    (passed : Passes packages (pathSegments path)) :
    (ofPath path).toList <:+ plainPath path := by
  obtain ⟨before, after, -, -, -, found⟩ := exists_packagePath? passed
  rw [toList_ofPath, found]
  exact packagePath?_suffix found

/-- A path that climbs starts with a dot. -/
theorem head?_plainPath_of_climbing
    {path : String}
    (climbs : (pathSegments path).head? = some ['.', '.']) :
    (plainPath path).head? = some '.' := by
  have starts := (climbs_iff (plainPath path)).mpr climbs
  rw [Bool.or_eq_true, List.isPrefixOf_iff_prefix, decide_eq_true_iff] at starts
  rcases starts with ⟨later, shape⟩ | shape
  · rw [← shape]
    rfl
  · rw [shape]
    rfl

/-- Behind the mark of the current directory a second slash is the first character of the path. -/
theorem doubleSlash_nearby_iff
    {plain : List Char}
    (single : ¬ doubleSlash <:+: plain) :
    doubleSlash <:+: '.' :: '/' :: plain ↔ plain.head? = some '/' := by
  have mark : ¬ doubleSlash <+: '.' :: '/' :: plain := by
    rw [doubleSlash, List.cons_prefix_cons]
    exact fun starts => absurd starts.1 (by decide)
  rw [List.infix_cons_iff, or_iff_right mark, List.infix_cons_iff, or_iff_left single, doubleSlash,
    List.cons_prefix_cons, and_iff_right rfl, List.singleton_prefix_iff_head?_eq_some]

/-- Passes over a path end with single slashes between its segments, and the segments decide on the
specifier.  No backslash is left in it, and two slashes stand in a row exactly where the path starts
with a separator and passes no directory of packages. -/
theorem specifier_by_segments (path : String) :
    (∀ result,
      SettlesTo (forwardSlashes path.toList) result ↔ result = plainPath path) ∧
    Specifies (ofPath path) path ∧
    '\\' ∉ (ofPath path).toList ∧
    (doubleSlash <:+: (ofPath path).toList ↔
      (path.toList.head? = some '/' ∨ path.toList.head? = some '\\') ∧
        ¬ Passes packages (pathSegments path)) := by
  have specifies := specifies_ofPath path
  have clean := backslash_not_mem_plainPath path
  have single := not_doubled_plainPath path
  rw [← head?_plainPath_iff]
  refine ⟨fun result => ?_, specifies, ?_⟩
  · rw [plainPath_eq]
    exact settlesTo_iff
  · by_cases passed : Passes packages (pathSegments path)
    · have ending := ofPath_suffix_of_passes passed
      refine ⟨fun member => clean (ending.subset member), ?_⟩
      exact iff_of_false (fun doubled => single (doubled.trans ending.isInfix))
        fun outside => outside.2 passed
    · by_cases climbs : (pathSegments path).head? = some ['.', '.']
      · rw [specifies.climbing passed climbs, head?_plainPath_of_climbing climbs]
        exact ⟨clean, iff_of_false single fun starts => absurd starts.1 (by decide)⟩
      · rw [specifies.nearby passed climbs, doubleSlash_nearby_iff single, and_iff_left passed]
        exact ⟨by simpa using clean, Iff.rfl⟩

example : ofPath "src\\node_modules///node_modules/@scope//tools" = "@scope/tools" := by decide

end Specifier
end EntitySchema
