import EntitySchema.Proofs.NormalForms
import EntitySchema.Proofs.Reports
import EntitySchema.Proofs.Specifiers

/-!
# Relocated projects

A project whose paths are relative and do not climb out of the directory where they start gives the
same modules in whatever directory it stands.  Paths from one place of the project to another leave
out what both places have in common, and nothing else of a run looks at the layout.
-/

namespace EntitySchema
namespace Path

/-! ## Places in a directory -/

/-- What two lists have in common before their own common start is dropped with it. -/
theorem dropCommon_append_left [DecidableEq α] (common source target : List α) :
    dropCommon (common ++ source) (common ++ target) = dropCommon source target := by
  induction common with
  | nil => rfl
  | cons first rest inductionHypothesis =>
      rw [List.cons_append, List.cons_append, dropCommon, if_pos rfl, inductionHypothesis]

theorem relativeComponents_append_left (common source target : List Component) :
    relativeComponents (common ++ source) (common ++ target) =
      relativeComponents source target := by
  rw [relativeComponents, dropCommon_append_left, relativeComponents]

/-- A relative path that does not climb out of the directory where it starts. -/
structure StaysInside (path : String) : Prop where
  relative : isAbsolute path = false
  stays : Component.parent ∉ components (normalize path)

theorem root_not_mem_components
    {path : String}
    (relative : isAbsolute path = false) :
    Component.root ∉ components path := by
  rw [components, componentsOfChars_of_relative relative]
  intro member
  exact (isStep_of_mem_stepsOfChars member).ne_root rfl

/-- The normal form of a place in a directory starts with the normal form of the directory. -/
theorem StaysInside.normalizeComponents_join
    {path : String}
    (inside : StaysInside path)
    (directory : String) :
    normalizeComponents (components (join directory path)) =
      normalizeComponents (components directory) ++ normalizeComponents (components path) := by
  rw [components_join_of_relative directory inside.relative]
  apply normalizeComponents_append _ (root_not_mem_components inside.relative)
  rw [← components_normalize_eq]
  exact inside.stays

/-- The path from one place in a directory to another does not depend on the directory. -/
theorem relative_join
    {source target : String}
    (sourceInside : StaysInside source)
    (targetInside : StaysInside target)
    (directory : String) :
    relative (join directory source) (join directory target) = relative source target := by
  rw [relative, sourceInside.normalizeComponents_join, targetInside.normalizeComponents_join,
    relativeComponents_append_left, relative]

/-- The path to a place is the path to its normal form. -/
theorem relative_normalize_eq (source target : String) :
    relative source (normalize target) = relative source target := by
  rw [relative, components_normalize_eq, (isNormal_normalizeComponents _).normalizeComponents_eq,
    relative]

/-! ## Relative paths one after the other -/

theorem isAbsolute_eq_false_iff (path : String) :
    isAbsolute path = false ↔ Component.root ∉ components path := by
  refine ⟨root_not_mem_components, fun absent => ?_⟩
  rw [← Bool.not_eq_true, isAbsolute_iff_head?]
  exact fun first => absent (List.mem_of_head? first)

theorem isAbsolute_join_of_relative
    {base path : String}
    (baseRelative : isAbsolute base = false)
    (pathRelative : isAbsolute path = false) :
    isAbsolute (join base path) = false := by
  rw [isAbsolute_eq_false_iff, components_join_of_relative base pathRelative, List.mem_append,
    not_or]
  exact ⟨root_not_mem_components baseRelative, root_not_mem_components pathRelative⟩

theorem components_join_join
    (directory : String)
    {base path : String}
    (baseRelative : isAbsolute base = false)
    (pathRelative : isAbsolute path = false) :
    components (join (join directory base) path) =
      components (join directory (join base path)) := by
  rw [components_join_of_relative _ pathRelative, components_join_of_relative _ baseRelative,
    components_join_of_relative _ (isAbsolute_join_of_relative baseRelative pathRelative),
    components_join_of_relative _ pathRelative, List.append_assoc]

/-! ## Parents in a directory -/

theorem parentComponents?_concat (front : List Component) (name : List Char) :
    parentComponents? (front ++ [.named name]) = some front := by
  rw [parentComponents?, List.getLast?_concat, List.dropLast_concat]

/-- A file that is given by a relative path is a name in the directory that is its parent. -/
theorem exists_parent_of_fileName?
    {path : String}
    (relative : isAbsolute path = false)
    (file : (fileName? path).isSome) :
    ∃ parent name,
      parent? path = some parent ∧ isAbsolute parent = false ∧
        components path = components parent ++ [.named name] := by
  obtain ⟨name, last⟩ : ∃ name, (components path).getLast? = some (.named name) := by
    rw [fileName?] at file
    split at file
    · next name last => exact ⟨name, last⟩
    · cases file
  obtain ⟨front, shape⟩ := List.getLast?_eq_some_iff.mp last
  have proper : ∀ component ∈ front, component.IsStep := by
    intro component member
    have known : component ∈ components path := by
      rw [shape]
      exact List.mem_append_left _ member
    apply (isPath_components path).isStep known
    rintro rfl
    exact root_not_mem_components relative known
  refine ⟨ofComponents front, name, ?_, ?_, ?_⟩
  · rw [parent?, shape, parentComponents?_concat, Option.map_some]
  · rw [ofComponents_of_steps proper, isAbsolute, String.toList_ofList,
      isAbsoluteChars_textOfSteps proper]
  · rw [components_ofComponents ⟨front, proper, .inl rfl⟩, shape]

end Path

/-! ## Layouts -/

namespace FileLayout

/-- The layout in a directory: every path is followed from there. -/
def within (layout : FileLayout) (directory : String) : FileLayout where
  schema := Path.join directory layout.schema
  output := Path.join directory layout.output
  client := Path.join directory layout.client

/-- The paths of a layout are relative.  The output directory and the client stay inside the
directory where the paths start, and so does the configured module of helpers, whose path starts in
the directory of the data model's file. -/
structure IsSelfContained (layout : FileLayout) (configuration : Configuration) : Prop where
  schemaRelative : Path.isAbsolute layout.schema = false
  schemaFile : (Path.fileName? layout.schema).isSome
  output : Path.StaysInside layout.output
  client : Path.StaysInside layout.client
  helpersRelative : ∀ path ∈ configuration.imports, Path.isAbsolute path = false
  helpersStay : ∀ path ∈ configuration.imports, ∀ directory ∈ Path.parent? layout.schema,
    Path.Component.parent ∉ Path.components (Path.normalize (Path.join directory path))

variable
  {layout : FileLayout}
  {configuration : Configuration}

theorem clientSpecifier_within
    (contained : layout.IsSelfContained configuration)
    (directory : String) :
    (layout.within directory).clientSpecifier = layout.clientSpecifier := by
  rw [clientSpecifier, within, Path.relative_join contained.output contained.client,
    clientSpecifier]

/-- The path to a configured module is the path to where it is from the data model's directory. -/
theorem schemaSpecifier_eq
    {parent : String}
    (found : Path.parentComponents? (Path.components layout.schema) =
      some (Path.components parent))
    (path : String) :
    layout.schemaSpecifier path =
      Specifier.ofPath (Path.relative layout.output (Path.join parent path)) := by
  rw [schemaSpecifier, ofComponents_schemaTarget found, Path.relative_normalize_eq]

theorem schemaSpecifier_within
    (contained : layout.IsSelfContained configuration)
    {path : String}
    (configured : path ∈ configuration.imports)
    (directory : String) :
    (layout.within directory).schemaSpecifier path = layout.schemaSpecifier path := by
  obtain ⟨parent, name, found, parentRelative, shape⟩ :=
    Path.exists_parent_of_fileName? contained.schemaRelative contained.schemaFile
  have pathRelative := contained.helpersRelative path configured
  have inside : Path.StaysInside (Path.join parent path) :=
    ⟨Path.isAbsolute_join_of_relative parentRelative pathRelative,
      contained.helpersStay path configured parent found⟩
  have parentBefore : Path.parentComponents? (Path.components layout.schema) =
      some (Path.components parent) := by
    rw [shape, Path.parentComponents?_concat]
  have parentWithin : Path.parentComponents? (Path.components (layout.within directory).schema) =
      some (Path.components (Path.join directory parent)) := by
    rw [within, Path.components_join_of_relative directory contained.schemaRelative, shape,
      ← List.append_assoc, Path.parentComponents?_concat,
      Path.components_join_of_relative directory parentRelative]
  rw [schemaSpecifier_eq parentBefore, schemaSpecifier_eq parentWithin, within, Path.relative,
    Path.components_join_join directory parentRelative pathRelative, ← Path.relative,
    Path.relative_join contained.output inside]

end FileLayout

/-! ## Runs -/

namespace Generation

variable
  {configuration : Configuration}
  {first second : FileLayout}

/-- A module sees a layout only through the specifiers of the client and of the configured
helpers. -/
theorem unchecked_eq_of_specifiers
    (client : first.clientSpecifier = second.clientSpecifier)
    (helpers : ∀ path ∈ configuration.imports,
      first.schemaSpecifier path = second.schemaSpecifier path) :
    EntityModule.unchecked configuration first = EntityModule.unchecked configuration second := by
  funext entity
  have sameHelpers : Imports.ofHelpers configuration first entity =
      Imports.ofHelpers configuration second entity := by
    unfold Imports.ofHelpers
    cases configured : configuration.imports with
    | none => rfl
    | some path =>
        dsimp only
        rw [helpers path configured]
  have sameEnums : Imports.ofEnums configuration first entity =
      Imports.ofEnums configuration second entity := by
    unfold Imports.ofEnums Imports.enumModule
    rw [client]
  unfold EntityModule.unchecked Imports.ofEntity Imports.optional
  rw [sameHelpers, sameEnums]

theorem run_eq_of_specifiers
    (client : first.clientSpecifier = second.clientSpecifier)
    (helpers : ∀ path ∈ configuration.imports,
      first.schemaSpecifier path = second.schemaSpecifier path)
    (model : DataModel) :
    run configuration first model = run configuration second model := by
  have sameOutcomes : outcomes configuration first model =
      outcomes configuration second model := by
    unfold outcomes EntityModule.ofEntity
    rw [unchecked_eq_of_specifiers client helpers]
  unfold run
  rw [sameOutcomes]

/-- A self-contained project gives the same report as it stands and in every directory, and so the
same in any two directories. -/
theorem relocation_keeps_report
    (configuration : Configuration)
    (layout : FileLayout)
    (model : DataModel)
    (contained : layout.IsSelfContained configuration) :
    (∀ directory,
      run configuration (layout.within directory) model = run configuration layout model) ∧
    ∀ first second,
      run configuration (layout.within first) model =
        run configuration (layout.within second) model := by
  have moved (directory : String) :
      run configuration (layout.within directory) model = run configuration layout model :=
    run_eq_of_specifiers (FileLayout.clientSpecifier_within contained directory)
      (fun _ configured => FileLayout.schemaSpecifier_within contained configured directory) model
  refine ⟨moved, fun first second => ?_⟩
  rw [moved first, moved second]

/-- A project with an installed client and helpers above the data model's directory. -/
def projectLayout : FileLayout where
  schema := "./db//prisma/schema.prisma"
  output := "src/../zod/."
  client := "node_modules/.prisma/client"

/-- Helpers that are found from the data model's directory. -/
def projectConfiguration : Configuration := { imports := some "../../lib/./helpers" }

/-- An entity that needs the client and the helpers. -/
def projectModel : DataModel where
  entities :=
    [ { name := "Task"
        fields :=
          [ { name := "state", kind := .enumeration "State" },
            { name := "title", kind := .scalar .string,
              documentation := some "@zod.refine(imports.isTitle)" } ] } ]
  enums := [{ name := "State", values := [{ name := "OPEN" }] }]

theorem relocation_keeps_report_project :
    projectLayout.IsSelfContained projectConfiguration ∧
      run projectConfiguration (projectLayout.within "/home//me/../you/./work") projectModel =
        run projectConfiguration projectLayout projectModel ∧
      run projectConfiguration (projectLayout.within "/") projectModel =
        run projectConfiguration (projectLayout.within "/srv/../../build/") projectModel := by
  have contained : projectLayout.IsSelfContained projectConfiguration := by
    refine ⟨by decide, by decide, ⟨by decide, by decide⟩, ⟨by decide, by decide⟩, ?_, ?_⟩
    · rintro _ ⟨⟩
      decide
    · rintro _ ⟨⟩ directory found
      obtain rfl : "db/prisma" = directory := Option.some.inj found
      decide
  obtain ⟨asItStands, anywhere⟩ :=
    relocation_keeps_report projectConfiguration projectLayout projectModel contained
  exact ⟨contained, asItStands _, anywhere _ _⟩

end Generation
end EntitySchema
