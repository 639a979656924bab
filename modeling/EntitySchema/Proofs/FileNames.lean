import EntitySchema.Proofs.Paths
import EntitySchema.Proofs.Reports
import EntitySchema.Proofs.WrittenModules
import Mathlib.Data.List.Nodup

/-!
# Names of module files

Entities are told apart by their names, but their files by cased names.  Two casings that agree, a
cased name that is the name of the barrel, and a module of enums of either name make one module
overwrite another.
-/

namespace EntitySchema

/-! ## Files apart -/

namespace Generation

/-- No two modules are sent to the same place, where the file name of a module decides on its
place. -/
structure FilesApart (place : String -> α) (configuration : Configuration) (model : DataModel) :
    Prop where
  /-- Different entities have different places. -/
  entities : ∀ first ∈ model.compiled.map Entity.name, ∀ second ∈ model.compiled.map Entity.name,
    place (EntityModule.fileName configuration first) =
      place (EntityModule.fileName configuration second) → first = second
  /-- No entity takes the place of the barrel. -/
  barrel : ∀ entity ∈ model.compiled.map Entity.name,
    place (EntityModule.fileName configuration entity) ≠ place barrelFile
  /-- The module of enums takes neither the place of the barrel nor that of an entity. -/
  enums : ∀ file ∈ configuration.enumFile.toList,
    place file ≠ place barrelFile ∧
      ∀ entity ∈ model.compiled.map Entity.name,
        place (EntityModule.fileName configuration entity) ≠ place file

variable
  {configuration : Configuration}
  {layout : FileLayout}
  {model : DataModel}

/-- The file names of a run: those of the entities, of the enums and of the barrel. -/
theorem fileNames_run :
    (run configuration layout model).modules.map Code.Module.fileName =
      (model.compiled.map Entity.name).map (EntityModule.fileName configuration) ++
        configuration.enumFile.toList ++ [barrelFile] := by
  rw [modules_run, List.map_append, List.map_append, List.map_map, List.map_map, List.map_map]
  congr 2
  exact List.map_id _

/-- The modules of a run have places of their own exactly when their files are apart. -/
theorem places_nodup_iff
    (place : String -> α)
    (distinct : (model.entities.map Entity.name).Nodup) :
    (((run configuration layout model).modules.map Code.Module.fileName).map place).Nodup ↔
      FilesApart place configuration model := by
  have injective := List.nodup_map_iff_inj_on (f := place ∘ EntityModule.fileName configuration)
    (DataModel.compiled_names_nodup distinct)
  rw [fileNames_run, List.map_append, List.map_append, List.nodup_append, List.nodup_append,
    List.map_map, injective]
  constructor
  · rintro ⟨⟨entities, -, enums⟩, -, barrel⟩
    refine ⟨entities, ?_, ?_⟩
    · intro entity known
      exact barrel _ (List.mem_append_left _ (List.mem_map_of_mem known)) _
        (List.mem_singleton_self _)
    · intro file generated
      refine ⟨?_, ?_⟩
      · exact barrel _ (List.mem_append_right _ (List.mem_map_of_mem generated)) _
          (List.mem_singleton_self _)
      · intro entity known
        exact enums _ (List.mem_map_of_mem known) _ (List.mem_map_of_mem generated)
  · intro apart
    refine ⟨⟨apart.entities, ?_, ?_⟩, List.nodup_singleton _, ?_⟩
    · cases configuration.enumFile <;> simp
    · intro first entityPlace second enumPlace
      obtain ⟨entity, known, rfl⟩ := List.mem_map.mp entityPlace
      obtain ⟨file, generated, rfl⟩ := List.mem_map.mp enumPlace
      exact (apart.enums file generated).2 entity known
    · intro first member second index
      rw [List.mem_singleton.mp index]
      rcases List.mem_append.mp member with entityPlace | enumPlace
      · obtain ⟨entity, known, rfl⟩ := List.mem_map.mp entityPlace
        exact apart.barrel entity known
      · obtain ⟨file, generated, rfl⟩ := List.mem_map.mp enumPlace
        exact (apart.enums file generated).1

end Generation

/-! ## Files of a run -/

namespace CommandLine

/-- The place of the file with a given name in an output directory. -/
def filePlace (current : Location) (output fileName : String) : Location :=
  current.resolve (Path.join output (fileName ++ ".ts"))

/-- Every module has a file of its own, which holds the text of the module. -/
def HasOwnFiles (tree : FileTree) (output : String) (style : Code.Style)
    (modules : List Code.Module) : Prop :=
  (modules.map fun unit => tree.current.resolve (modulePath output unit)).Nodup ∧
    ∀ unit ∈ modules, tree.read (modulePath output unit) = .ok (unit.text style)

variable
  {current : Location}
  {output : String}
  {configuration : Configuration}
  {model : DataModel}

/-- A file name without slashes stands in the output directory under a name of its own. -/
theorem filePlace_of_plain
    {fileName : String}
    (plain : '/' ∉ fileName.toList) :
    filePlace current output fileName =
      current.resolve output ++ [(fileName ++ ".ts").toList] := by
  have plainFile : '/' ∉ (fileName ++ ".ts").toList := by
    rw [String.toList_append, List.mem_append, not_or]
    exact ⟨plain, by decide⟩
  -- The ending is too long for a name that means the same or the parent directory.
  have proper : Path.segmentComponent? (fileName ++ ".ts").toList =
      some (.named (fileName ++ ".ts").toList) := by
    have long : 3 ≤ (fileName ++ ".ts").toList.length := by
      have ending : ".ts".toList.length = 3 := by decide
      rw [String.toList_append, List.length_append, ending]
      omega
    rw [Path.segmentComponent?]
    split_ifs with nothing parent
    · simp only [Bool.or_eq_true, decide_eq_true_eq] at nothing
      rcases nothing with empty | dot
      · simp [empty] at long
      · simp [dot] at long
    · simp [parent] at long
    · rfl
  rw [filePlace, Location.resolve, Path.components_join_file plainFile proper, List.foldl_append]
  rfl

/-- File names without slashes have different places if they differ. -/
theorem fileName_eq_of_filePlace_eq
    {first second : String}
    (plainFirst : '/' ∉ first.toList)
    (plainSecond : '/' ∉ second.toList)
    (same : filePlace current output first = filePlace current output second) :
    first = second := by
  rw [filePlace_of_plain plainFirst, filePlace_of_plain plainSecond, List.append_right_inj,
    List.singleton_inj, String.toList_append, String.toList_append, List.append_left_inj] at same
  exact String.toList_inj.mp same

/-- The file name of a module decides on its place. -/
theorem map_filePlace (modules : List Code.Module) :
    (modules.map Code.Module.fileName).map (filePlace current output) =
      modules.map fun unit => current.resolve (modulePath output unit) := by
  rw [List.map_map]
  rfl

/-- After a run that completes, modules have files of their own if their places differ. -/
theorem hasOwnFiles_iff
    {options : GenerateOptions}
    {session final : Session}
    {code : Nat}
    (dry : options.dryRun = false)
    (completed : compile Session.world options model configuration session = (.ok code, final)) :
    HasOwnFiles final.tree options.output (.ofConfiguration configuration)
        (Generation.run configuration options.layout model).modules ↔
      (((Generation.run configuration options.layout model).modules.map
        Code.Module.fileName).map (filePlace session.tree.current options.output)).Nodup := by
  obtain ⟨before, after, started, ended, written⟩ := exists_writeModules_of_compile dry completed
  have kept : final.tree.current = session.tree.current := by
    rw [← ended, current_writeModules written, started]
  rw [HasOwnFiles, kept, map_filePlace]
  refine ⟨And.left, fun distinct => ⟨distinct, ?_⟩⟩
  rw [← ended]
  refine read_writeModules written ?_
  rw [started]
  exact distinct

/-- The modules of a data model that is accepted have different file names exactly when casing keeps
the entities apart, from each other, from the barrel and from the module of enums.  After a run that
completes, every module has a file of its own exactly when the places of the files are apart, and
that is the same where no file name leads out of the output directory. -/
theorem files_apart_iff
    (accepted : model.checkNames = .ok model)
    (layout : FileLayout) :
    (((Generation.run configuration layout model).modules.map Code.Module.fileName).Nodup ↔
      Generation.FilesApart id configuration model) ∧
    ∀ (options : GenerateOptions) (session final : Session) (code : Nat),
      options.layout = layout → options.dryRun = false →
      compile Session.world options model configuration session = (.ok code, final) →
        (HasOwnFiles final.tree options.output (.ofConfiguration configuration)
            (Generation.run configuration layout model).modules ↔
          Generation.FilesApart (filePlace session.tree.current options.output)
            configuration model) ∧
        ((∀ unit ∈ (Generation.run configuration layout model).modules,
            '/' ∉ unit.fileName.toList) →
          (HasOwnFiles final.tree options.output (.ofConfiguration configuration)
              (Generation.run configuration layout model).modules ↔
            Generation.FilesApart id configuration model)) := by
  have distinct := (DataModel.checkNames_eq_ok_iff.mp accepted).1
  refine ⟨?_, ?_⟩
  · rw [← Generation.places_nodup_iff id distinct, List.map_id]
  · rintro options session final code rfl dry completed
    refine ⟨?_, fun plain => ?_⟩
    · rw [hasOwnFiles_iff dry completed, Generation.places_nodup_iff _ distinct]
    · rw [hasOwnFiles_iff dry completed, ← Generation.places_nodup_iff id distinct, List.map_id]
      refine ⟨List.Nodup.of_map _, fun names => names.map_on ?_⟩
      intro first firstMember second secondMember same
      obtain ⟨firstUnit, firstKnown, rfl⟩ := List.mem_map.mp firstMember
      obtain ⟨secondUnit, secondKnown, rfl⟩ := List.mem_map.mp secondMember
      exact fileName_eq_of_filePlace_eq (plain _ firstKnown) (plain _ secondKnown) same

/-- Orders and their items, with an enum. -/
def shop : DataModel where
  entities :=
    [ { name := "OrderItem", fields := [{ name := "order", kind := .relation "Order" }] },
      { name := "Order", fields := [{ name := "status", kind := .enumeration "Status" }] } ]
  enums := [{ name := "Status", values := [{ name := "OPEN" }] }]

/-- Generation with a module of enums and file names in lower case. -/
def shopConfiguration : Configuration := { fileCasing := .snake, enumFile := some "enums" }

/-- Generation into a directory that is not there yet. -/
def freshOutput : GenerateOptions := { dataModel := "model.json", output := "generated/zod" }

/-- A result with a code is a result that completes. -/
theorem eq_ok_of_toOption
    {result : Except Failure Nat × Session}
    {code : Nat}
    (finished : result.1.toOption = some code) :
    result = (.ok code, result.2) := by
  obtain ⟨failure | found, final⟩ := result
  · cases finished
  · rw [Option.some.inj finished]

theorem files_apart_iff_shop :
    shop.checkNames = .ok shop ∧
      ∃ final,
        compile Session.world freshOutput shop shopConfiguration { tree := {} } = (.ok 0, final) ∧
          HasOwnFiles final.tree freshOutput.output (.ofConfiguration shopConfiguration)
            (Generation.run shopConfiguration freshOutput.layout shop).modules := by
  have accepted : shop.checkNames = .ok shop := DataModel.checkNames_eq_ok_iff.mpr (by decide)
  have completed := @eq_ok_of_toOption
    (compile Session.world freshOutput shop shopConfiguration { tree := {} }) 0 (by decide +kernel)
  obtain ⟨names, files⟩ := @files_apart_iff shopConfiguration shop accepted freshOutput.layout
  have plain :
      ∀ unit ∈ (Generation.run shopConfiguration freshOutput.layout shop).modules,
        '/' ∉ unit.fileName.toList := by
    decide
  refine ⟨accepted, _, completed, ?_⟩
  exact ((files freshOutput _ _ 0 rfl rfl completed).2 plain).mpr (names.mp (by decide))

/-- An entity whose cased name is that of the barrel. -/
def indexed : DataModel where
  entities := [{ name := "Index", fields := [{ name := "id", kind := .scalar .int }] }]
  enums := []

/-- The run completes, but the file of the entity's module holds something else in the end. -/
theorem index_module_overwritten :
    let report := Generation.run { fileCasing := .camel } freshOutput.layout indexed
    indexed.checkNames = .ok indexed ∧
      ¬ (report.modules.map Code.Module.fileName).Nodup ∧
      ∃ final,
        compile Session.world freshOutput indexed { fileCasing := .camel } { tree := {} } =
            (.ok 0, final) ∧
          ∃ unit ∈ report.modules,
            final.tree.read (modulePath freshOutput.output unit) ≠ .ok (unit.text .standard) := by
  have completed := @eq_ok_of_toOption
    (compile Session.world freshOutput indexed { fileCasing := .camel } { tree := {} }) 0
    (by decide +kernel)
  refine ⟨DataModel.checkNames_eq_ok_iff.mpr (by decide), by decide, _, completed, _,
    List.mem_cons_self, ?_⟩
  intro same
  have content := congrArg Except.toOption same
  revert content
  decide +kernel

end CommandLine
end EntitySchema
