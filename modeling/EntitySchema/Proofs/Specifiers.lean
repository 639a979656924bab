import EntitySchema.Proofs.Paths
import EntitySchema.Specifier

/-!
# Targets of specifiers

A specifier that does not name a package is a relative path that leads from the output directory to
its target.  A path that runs through a directory of installed packages gives the path below the
innermost such directory.
-/

namespace EntitySchema
namespace Specifier

/-! ## Directories of packages -/

/-- A list has an entry in a place other than the last one. -/
def Passes (entry : α) (list : List α) : Prop :=
  ∃ before after, after ≠ [] ∧ list = before ++ entry :: after

theorem not_passes_nil (entry : α) : ¬ Passes entry [] := by
  rintro ⟨before, after, -, shape⟩
  simp at shape

theorem passes_cons_iff
    {entry first : α}
    {rest : List α} :
    Passes entry (first :: rest) ↔ first = entry ∧ rest ≠ [] ∨ Passes entry rest := by
  constructor
  · rintro ⟨_ | ⟨_, before⟩, after, nonempty, shape⟩
    · cases shape
      exact .inl ⟨rfl, nonempty⟩
    · cases shape
      exact .inr ⟨before, after, nonempty, rfl⟩
  · rintro (⟨rfl, nonempty⟩ | ⟨before, after, nonempty, rfl⟩)
    · exact ⟨[], rest, nonempty, rfl⟩
    · exact ⟨first :: before, after, nonempty, rfl⟩

/-- There is a last place where an entry is passed. -/
theorem exists_last_passed
    {entry : α}
    {list : List α}
    (passed : Passes entry list) :
    ∃ before after, after ≠ [] ∧ list = before ++ entry :: after ∧ ¬ Passes entry after := by
  induction list with
  | nil => exact absurd passed (not_passes_nil entry)
  | cons first rest inductionHypothesis =>
      -- A later place wins over the first one.
      by_cases later : Passes entry rest
      · obtain ⟨before, after, nonempty, rfl, last⟩ := inductionHypothesis later
        exact ⟨first :: before, after, nonempty, rfl, last⟩
      · rcases passes_cons_iff.mp passed with ⟨rfl, nonempty⟩ | again
        · exact ⟨[], rest, nonempty, rfl, later⟩
        · exact absurd again later

/-- The name of a directory of installed packages. -/
def packages : List Char := "node_modules".toList

theorem plain_packages : '/' ∉ packages := by decide

theorem packageDirectory_eq : packageDirectory = packages ++ ['/'] := by decide

theorem append_slash_inj
    {first second firstRest secondRest : List Char}
    (firstPlain : '/' ∉ first)
    (secondPlain : '/' ∉ second)
    (same : first ++ '/' :: firstRest = second ++ '/' :: secondRest) :
    first = second ∧ firstRest = secondRest := by
  have parts := congrArg (List.splitOn '/') same
  rw [List.splitOn_append_cons_self_of_not_mem firstPlain,
    List.splitOn_append_cons_self_of_not_mem secondPlain] at parts
  obtain ⟨rfl, -⟩ := List.cons.inj parts
  exact ⟨rfl, (List.cons.inj (List.append_cancel_left same)).2⟩

theorem not_prefix_of_plain
    {text : List Char}
    (plain : '/' ∉ text) :
    packageDirectory.isPrefixOf text = false := by
  rw [Bool.eq_false_iff, Ne, List.isPrefixOf_iff_prefix, packageDirectory_eq]
  intro starts
  exact plain (starts.subset (by simp))

/-- A path starts with a name and a slash when the name is its first segment. -/
theorem name_slash_prefix_iff
    {name first : List Char}
    (namePlain : '/' ∉ name)
    (plain : '/' ∉ first)
    (rest : List Char) :
    name ++ ['/'] <+: first ++ '/' :: rest ↔ first = name := by
  constructor
  · rintro ⟨later, shape⟩
    rw [List.append_assoc, List.singleton_append] at shape
    exact (append_slash_inj namePlain plain shape).1.symm
  · rintro rfl
    exact ⟨rest, by rw [List.append_assoc, List.singleton_append]⟩

theorem prefix_append_slash_iff
    {first : List Char}
    (plain : '/' ∉ first)
    (rest : List Char) :
    packageDirectory.isPrefixOf (first ++ '/' :: rest) = true ↔ first = packages := by
  rw [List.isPrefixOf_iff_prefix, packageDirectory_eq, name_slash_prefix_iff plain_packages plain]

/-- No marker that starts with a slash begins in a text without slashes. -/
theorem afterLast?_append_of_plain
    (marker : List Char)
    {front : List Char}
    (plain : '/' ∉ front)
    (rest : List Char) :
    afterLast? ('/' :: marker) (front ++ rest) = afterLast? ('/' :: marker) rest := by
  induction front with
  | nil => rfl
  | cons character front inductionHypothesis =>
      rw [List.mem_cons, not_or] at plain
      have elsewhere : ('/' :: marker).isPrefixOf (character :: (front ++ rest)) = false := by
        rw [List.isPrefixOf_cons_cons, beq_eq_false_iff_ne.mpr plain.1, Bool.false_and]
      rw [List.cons_append, afterLast?, elsewhere, inductionHypothesis plain.2]
      cases afterLast? ('/' :: marker) rest <;> rfl

/-- Behind a slash, the directory of packages is looked for with the slash. -/
theorem afterLast?_slash_cons (text : List Char) :
    afterLast? ('/' :: packageDirectory) ('/' :: text) = packagePath? text := by
  rw [afterLast?, packagePath?, List.isPrefixOf_cons_cons, beq_self_eq_true, Bool.true_and]
  rfl

theorem afterLast?_suffix
    {marker text after : List Char}
    (found : afterLast? marker text = some after) :
    after <:+ text := by
  induction text with
  | nil => cases found
  | cons character rest inductionHypothesis =>
      rw [afterLast?] at found
      split at found
      · rename_i later foundLater
        cases found
        exact (inductionHypothesis foundLater).trans (List.suffix_cons _ _)
      · split_ifs at found
        cases found
        exact List.drop_suffix _ _

/-- A package path is the end of the path. -/
theorem packagePath?_suffix
    {path package : List Char}
    (found : packagePath? path = some package) :
    package <:+ path := by
  rw [packagePath?] at found
  split at found
  · rename_i behind foundBehind
    cases found
    exact afterLast?_suffix foundBehind
  · split_ifs at found
    cases found
    exact List.drop_suffix _ _

theorem packagePath?_of_plain
    {text : List Char}
    (plain : '/' ∉ text) :
    packagePath? text = none := by
  have absent := afterLast?_append_of_plain packageDirectory plain []
  rw [List.append_nil] at absent
  rw [packagePath?, absent, not_prefix_of_plain plain]
  rfl

/-- The innermost directory of packages is looked for from the end. -/
theorem packagePath?_append_slash
    {first : List Char}
    (plain : '/' ∉ first)
    (rest : List Char) :
    packagePath? (first ++ '/' :: rest) =
      (packagePath? rest).or (if first = packages then some rest else none) := by
  rw [packagePath?, afterLast?_append_of_plain _ plain, afterLast?_slash_cons]
  cases packagePath? rest with
  | some package => rfl
  | none =>
      by_cases named : first = packages
      · subst named
        have starts := (prefix_append_slash_iff plain rest).mpr rfl
        have dropped : (packages ++ '/' :: rest).drop packageDirectory.length = rest := by
          rw [List.append_cons, ← packageDirectory_eq, List.drop_left]
        simp only [starts, if_true, dropped, Option.none_or]
      · have elsewhere : packageDirectory.isPrefixOf (first ++ '/' :: rest) = false := by
          rw [Bool.eq_false_iff, Ne, prefix_append_slash_iff plain]
          exact named
        simp only [elsewhere, Bool.false_eq_true, if_false, Option.none_or, named]

section Segments

variable
  {names before after : List (List Char)}

theorem packagePath?_of_not_passes
    (plain : ∀ name ∈ names, '/' ∉ name)
    (outside : ¬ Passes packages names) :
    packagePath? (List.intercalate ['/'] names) = none := by
  induction names with
  | nil => exact packagePath?_of_plain List.not_mem_nil
  | cons first rest inductionHypothesis =>
      rw [List.forall_mem_cons] at plain
      rw [passes_cons_iff, not_or, not_and_or, not_not] at outside
      rcases eq_or_ne rest [] with rfl | nonempty
      · rw [List.intercalate_singleton]
        exact packagePath?_of_plain plain.1
      · have elsewhere : first ≠ packages := outside.1.resolve_right nonempty
        rw [List.intercalate_singleton_cons '/' first nonempty, packagePath?_append_slash plain.1,
          inductionHypothesis plain.2 outside.2, if_neg elsewhere]
        rfl

/-- The package path is what follows the last directory of packages that is passed. -/
theorem packagePath?_of_last_passed
    (plain : ∀ name ∈ before ++ packages :: after, '/' ∉ name)
    (nonempty : after ≠ [])
    (last : ¬ Passes packages after) :
    packagePath? (List.intercalate ['/'] (before ++ packages :: after)) =
      some (List.intercalate ['/'] after) := by
  induction before with
  | nil =>
      rw [List.nil_append, List.forall_mem_cons] at plain
      rw [List.nil_append, List.intercalate_singleton_cons '/' packages nonempty,
        packagePath?_append_slash plain.1, packagePath?_of_not_passes plain.2 last, if_pos rfl]
      rfl
  | cons first rest inductionHypothesis =>
      rw [List.cons_append, List.forall_mem_cons] at plain
      rw [List.cons_append, List.intercalate_singleton_cons '/' first (by simp),
        packagePath?_append_slash plain.1, inductionHypothesis plain.2]
      rfl

end Segments

/-! ## Steps -/

section Steps

variable
  {steps : List Path.Component}

theorem plain_of_mem_texts
    (proper : ∀ component ∈ steps, component.IsStep) :
    ∀ name ∈ steps.map Path.Component.text, '/' ∉ name := by
  rw [List.forall_mem_map]
  exact fun component member => (proper component member).1

theorem eq_packages_of_text
    {component : Path.Component}
    (step : component.IsStep)
    (named : component.text = packages) :
    component = .named packages := by
  have read : Path.segmentComponent? packages = some (.named packages) := by decide
  rw [← named, step.2] at read
  rw [Option.some.inj read, named]

theorem passes_texts_iff
    (proper : ∀ component ∈ steps, component.IsStep) :
    Passes packages (steps.map Path.Component.text) ↔ Passes (.named packages) steps := by
  constructor
  · rintro ⟨before, after, nonempty, shape⟩
    obtain ⟨front, back, rfl, -, rest⟩ := List.map_eq_append_iff.mp shape
    obtain ⟨component, later, rfl, named, rfl⟩ := List.map_eq_cons_iff.mp rest
    have step := proper component (List.mem_append_right _ List.mem_cons_self)
    refine ⟨front, later, by simpa using nonempty, ?_⟩
    rw [eq_packages_of_text step named]
  · rintro ⟨before, after, nonempty, rfl⟩
    refine ⟨before.map Path.Component.text, after.map Path.Component.text, by simpa using nonempty,
      ?_⟩
    rw [List.map_append, List.map_cons]
    rfl

theorem forwardSlashes_of_no_backslash
    {text : List Char}
    (clean : '\\' ∉ text) :
    forwardSlashes text = text := by
  have kept : ∀ character ∈ text,
      (if character = '\\' then '/' else character) = id character := by
    intro character member
    refine if_neg ?_
    rintro rfl
    exact clean member
  rw [forwardSlashes, List.map_congr_left kept, List.map_id]

theorem collapseSlashes_sublist (path : List Char) : (collapseSlashes path).Sublist path := by
  induction path with
  | nil => exact List.Sublist.refl _
  | cons character rest inductionHypothesis =>
      rw [collapseSlashes]
      split_ifs
      · exact inductionHypothesis.cons _
      · exact inductionHypothesis.cons_cons _

theorem collapseSlashes_append_of_plain
    {front : List Char}
    (plain : '/' ∉ front)
    (rest : List Char) :
    collapseSlashes (front ++ rest) = front ++ collapseSlashes rest := by
  induction front with
  | nil => rfl
  | cons character front inductionHypothesis =>
      rw [List.mem_cons, not_or] at plain
      have kept : ¬ (character = '/' && (front ++ rest).head? = some '/') = true := by
        simp [Ne.symm plain.1]
      rw [List.cons_append, collapseSlashes, if_neg kept, inductionHypothesis plain.2]
      rfl

theorem collapseSlashes_slash_cons
    {rest : List Char}
    (relative : Path.isAbsoluteChars rest = false) :
    collapseSlashes ('/' :: rest) = '/' :: collapseSlashes rest := by
  have single : rest.head? ≠ some '/' := by
    intro slash
    obtain ⟨later, rfl⟩ := List.head?_eq_some_iff.mp slash
    cases relative
  rw [collapseSlashes, if_neg (by simpa using single)]

/-- Steps are separated by single slashes already. -/
theorem collapseSlashes_textOfSteps
    (proper : ∀ component ∈ steps, component.IsStep) :
    collapseSlashes (Path.textOfSteps steps) = Path.textOfSteps steps := by
  induction steps with
  | nil => rfl
  | cons first rest inductionHypothesis =>
      rw [List.forall_mem_cons] at proper
      rcases eq_or_ne rest [] with rfl | nonempty
      · have whole := collapseSlashes_append_of_plain proper.1.1 []
        rwa [List.append_nil, collapseSlashes, List.append_nil,
          ← Path.textOfSteps_singleton] at whole
      · rw [Path.textOfSteps_cons first nonempty, collapseSlashes_append_of_plain proper.1.1,
          collapseSlashes_slash_cons (Path.isAbsoluteChars_textOfSteps proper.2),
          inductionHypothesis proper.2]

/-- Steps outside of packages are kept, behind a mark unless they climb. -/
theorem ofPathChars_of_not_passes
    (proper : ∀ component ∈ steps, component.IsStep)
    (clean : '\\' ∉ Path.textOfSteps steps)
    (outside : ¬ Passes (.named packages) steps) :
    ofPathChars (Path.textOfSteps steps) =
      if ['.', '.', '/'].isPrefixOf (Path.textOfSteps steps) ||
          Path.textOfSteps steps = ['.', '.'] then
        Path.textOfSteps steps
      else '.' :: '/' :: Path.textOfSteps steps := by
  have plain := plain_of_mem_texts proper
  have absent : packagePath? (Path.textOfSteps steps) = none :=
    packagePath?_of_not_passes plain ((passes_texts_iff proper).not.mpr outside)
  simp only [ofPathChars, forwardSlashes_of_no_backslash clean, collapseSlashes_textOfSteps proper,
    absent]

/-- Steps through a directory of packages give those behind the last one. -/
theorem ofPathChars_of_last_passed
    {before after : List Path.Component}
    (proper : ∀ component ∈ before ++ .named packages :: after, component.IsStep)
    (clean : '\\' ∉ Path.textOfSteps (before ++ .named packages :: after))
    (nonempty : after ≠ [])
    (last : ¬ Passes (.named packages) after) :
    ofPathChars (Path.textOfSteps (before ++ .named packages :: after)) =
      Path.textOfSteps after := by
  have later : ∀ component ∈ after, component.IsStep :=
    fun component member => proper component (by simp [member])
  have plain := plain_of_mem_texts proper
  rw [List.map_append, List.map_cons] at plain
  have package :
      packagePath? (Path.textOfSteps (before ++ .named packages :: after)) =
        some (Path.textOfSteps after) := by
    rw [Path.textOfSteps, List.map_append, List.map_cons]
    exact packagePath?_of_last_passed plain (by simpa using nonempty)
      ((passes_texts_iff later).not.mpr last)
  simp only [ofPathChars, forwardSlashes_of_no_backslash clean, collapseSlashes_textOfSteps proper,
    package]

end Steps

/-! ## Targets -/

/-- What a specifier says to a module in the output directory, given the path from there to the
target. -/
structure LeadsTo (output target specifier : String) : Prop where
  /-- Where the path passes no directory of packages, the specifier is a relative path to the
  target. -/
  outside : ¬ Passes (.named packages) (Path.components (Path.relative output target)) →
    (['.', '/'] <+: specifier.toList ∨ ['.', '.', '/'] <+: specifier.toList ∨ specifier = "..") ∧
      Path.normalize (Path.join output specifier) = target
  /-- Else the specifier is the part of the path behind the last directory of packages that it
  passes. -/
  package : Passes (.named packages) (Path.components (Path.relative output target)) →
    ∃ before after,
      Path.components (Path.relative output target) = before ++ .named packages :: after ∧
        after ≠ [] ∧ ¬ Passes (.named packages) after ∧ specifier = Path.ofComponents after

theorem stepsOfChars_dot_slash (text : List Char) :
    Path.stepsOfChars ('.' :: '/' :: text) = Path.stepsOfChars text :=
  Path.stepsOfChars_append_slash ['.'] text

/-- The specifier of steps outside of packages is a relative path of these steps. -/
theorem ofPath_steps
    {steps : List Path.Component}
    (proper : ∀ component ∈ steps, component.IsStep)
    (clean : '\\' ∉ Path.textOfSteps steps)
    (outside : ¬ Passes (.named packages) steps) :
    let specifier := ofPath (String.ofList (Path.textOfSteps steps))
    Path.isAbsolute specifier = false ∧ Path.components specifier = steps ∧
      (['.', '/'] <+: specifier.toList ∨ ['.', '.', '/'] <+: specifier.toList ∨
        specifier = "..") := by
  have read := Path.stepsOfChars_textOfSteps proper
  have relative := Path.isAbsoluteChars_textOfSteps proper
  simp only [ofPath, Path.isAbsolute, Path.components, String.toList_ofList, ← String.toList_inj,
    ofPathChars_of_not_passes proper clean outside]
  split_ifs with climbs
  · refine ⟨relative, (Path.componentsOfChars_of_relative relative).trans read, .inr ?_⟩
    rwa [Bool.or_eq_true, List.isPrefixOf_iff_prefix, decide_eq_true_iff] at climbs
  · refine ⟨rfl, ?_, .inl ⟨_, rfl⟩⟩
    rw [Path.componentsOfChars_of_relative rfl, stepsOfChars_dot_slash, read]

/-- The specifier of the path from the output directory to an absolute path leads there. -/
theorem leadsTo_ofPath
    {output path : String}
    (outputAbsolute : Path.isAbsolute output)
    (pathAbsolute : Path.isAbsolute path)
    (clean : '\\' ∉ (Path.relative output (Path.normalize path)).toList) :
    LeadsTo output (Path.normalize path)
      (ofPath (Path.relative output (Path.normalize path))) := by
  have targetAbsolute := Path.isAbsolute_normalize pathAbsolute
  obtain ⟨steps, proper, shape, leads⟩ :=
    Path.relative_of_absolute outputAbsolute targetAbsolute
  have read : Path.components (Path.relative output (Path.normalize path)) = steps := by
    rw [shape, Path.components_ofComponents ⟨steps, proper, .inl rfl⟩]
  rw [Path.ofComponents_of_steps proper] at shape
  rw [shape, String.toList_ofList] at clean
  refine ⟨?_, ?_⟩
  · -- The steps lead from the location of the output directory to that of the target, and joining
    -- the specifier to the output directory follows these steps.
    rw [read, shape]
    intro outside
    obtain ⟨relative, specified, start⟩ := ofPath_steps proper clean outside
    refine ⟨start, ?_⟩
    refine Path.normalize_eq_of_resolve_eq (Path.isAbsolute_join outputAbsolute _) pathAbsolute ?_
    rw [Path.resolve_join_of_relative output relative, specified, leads,
      Path.resolve_normalize pathAbsolute]
  · rw [read, shape]
    intro passed
    obtain ⟨before, after, nonempty, rfl, last⟩ := exists_last_passed passed
    have later : ∀ component ∈ after, component.IsStep :=
      fun component member => proper component (by simp [member])
    refine ⟨before, after, rfl, nonempty, last, ?_⟩
    rw [ofPath, String.toList_ofList, ofPathChars_of_last_passed proper clean nonempty last,
      Path.ofComponents_of_steps later]

end Specifier

namespace FileLayout

/-- The target of a configured path is what the path leads to from the data model's directory. -/
theorem ofComponents_schemaTarget
    {layout : FileLayout}
    {directory : String}
    (parent : Path.parentComponents? (Path.components layout.schema) =
      some (Path.components directory))
    (path : String) :
    Path.ofComponents (layout.schemaTarget path) =
      Path.normalize (Path.join directory path) := by
  rw [schemaTarget, parent, Option.getD_some, Path.normalize, Path.components_join]

/-- With absolute paths, the specifiers of configured modules and of the client lead from the output
directory to what they name, unless the path there holds a backslash. -/
theorem specifiers_lead_to_targets
    (layout : FileLayout)
    (output : Path.isAbsolute layout.output) :
    (Path.isAbsolute layout.schema → Path.components layout.schema ≠ [.root] →
      ∃ directory, Path.parent? layout.schema = some directory ∧
        ∀ path,
          '\\' ∉
              (Path.relative layout.output (Path.normalize (Path.join directory path))).toList →
            Specifier.LeadsTo layout.output (Path.normalize (Path.join directory path))
              (layout.schemaSpecifier path)) ∧
    (Path.isAbsolute layout.client →
      '\\' ∉ (Path.relative layout.output (Path.normalize layout.client)).toList →
        Specifier.LeadsTo layout.output (Path.normalize layout.client)
          layout.clientSpecifier) := by
  refine ⟨?_, ?_⟩
  · intro schema below
    obtain ⟨directory, parentComponents, parent, absolute⟩ := Path.exists_parent schema below
    refine ⟨directory, parent, fun path clean => ?_⟩
    rw [schemaSpecifier, ofComponents_schemaTarget parentComponents]
    exact Specifier.leadsTo_ofPath output (Path.isAbsolute_join absolute path) clean
  · intro client clean
    rw [clientSpecifier, ← Path.relative_normalize client]
    exact Specifier.leadsTo_ofPath output client clean

/-- A data model with helpers beside it and an installed client. -/
def repository : FileLayout where
  schema := "/repo/prisma/schema.prisma"
  output := "/repo/src/../zod/"
  client := "/repo/node_modules/.prisma/client"

theorem specifiers_lead_to_targets_repository :
    Path.isAbsolute repository.output ∧ Path.isAbsolute repository.schema ∧
      Path.components repository.schema ≠ [.root] ∧ Path.isAbsolute repository.client ∧
      Specifier.LeadsTo repository.output (Path.normalize (Path.join "/repo/prisma" "./utils"))
        (repository.schemaSpecifier "./utils") ∧
      Specifier.LeadsTo repository.output (Path.normalize repository.client)
        repository.clientSpecifier := by
  obtain ⟨helpers, client⟩ := specifiers_lead_to_targets repository (by decide)
  obtain ⟨directory, parent, leads⟩ := helpers (by decide) (by decide)
  have known : Path.parent? repository.schema = some "/repo/prisma" := by decide
  obtain rfl : directory = "/repo/prisma" := Option.some.inj (parent.symm.trans known)
  exact ⟨by decide, by decide, by decide, by decide, leads "./utils" (by decide),
    client (by decide) (by decide)⟩

end FileLayout
end EntitySchema
