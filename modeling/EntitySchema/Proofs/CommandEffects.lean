import EntitySchema.Proofs.FileNames
import EntitySchema.Proofs.MadeDirectories

/-!
# Effects of the generate command

A command that cannot load what it needs leaves the files alone.  A dry run prints the modules and
leaves the files alone too.  Any other run makes the output directory and writes the modules in
turn, so that a file holds the last module that is sent to its place, and changes nothing else.
-/

namespace EntitySchema
namespace CommandLine

variable
  {output : String}
  {style : Code.Style}
  {tree after : FileTree}
  {place : Location}
  {session : Session}
  {modules : List Code.Module}
  {options : GenerateOptions}
  {model : DataModel}
  {configuration : Configuration}

/-! ## Writing modules in turn -/

/-- The tree that modules leave behind when every one of them can be written. -/
def writtenTree (output : String) (style : Code.Style) (modules : List Code.Module)
    (tree : FileTree) : Except FileError FileTree :=
  modules.foldlM (fun tree unit => tree.write (modulePath output unit) (unit.text style)) tree

/-- The last of the modules that are sent to a place. -/
def lastModule? (current : Location) (output : String) (modules : List Code.Module)
    (place : Location) : Option Code.Module :=
  (modules.filter fun unit => current.resolve (modulePath output unit) = place).getLast?

theorem of_writtenTree_cons
    {unit : Code.Module}
    (written : writtenTree output style (unit :: modules) tree = .ok after) :
    ∃ next, tree.write (modulePath output unit) (unit.text style) = .ok next ∧
      writtenTree output style modules next = .ok after := by
  rw [writtenTree, List.foldlM_cons] at written
  cases first : tree.write (modulePath output unit) (unit.text style) with
  | error error =>
      rw [first] at written
      cases written
  | ok next =>
      rw [first] at written
      exact ⟨next, rfl, written⟩

theorem writeModules_eq
    (written : writtenTree output style modules session.tree = .ok after) :
    writeModules Session.world output style modules session =
      (.ok (), { session with tree := after }) := by
  induction modules generalizing session with
  | nil =>
      cases written
      rfl
  | cons unit rest inductionHypothesis =>
      obtain ⟨next, first, others⟩ := of_writtenTree_cons written
      rw [writeModules_cons, first]
      exact @inductionHypothesis { session with tree := next } others

theorem current_writtenTree
    (written : writtenTree output style modules tree = .ok after) :
    after.current = tree.current := by
  have ran := @writeModules_eq _ _ _ { tree := tree } _ written
  exact current_writeModules ran

/-- A later module in the same place comes last. -/
theorem lastModule?_cons
    (current : Location)
    (unit : Code.Module) :
    lastModule? current output (unit :: modules) place =
      (lastModule? current output modules place).or
        (if current.resolve (modulePath output unit) = place then some unit else none) := by
  rw [lastModule?, lastModule?, List.filter_cons]
  by_cases here : current.resolve (modulePath output unit) = place
  · rw [if_pos (decide_eq_true here), if_pos here, List.getLast?_cons]
    cases (modules.filter fun unit => current.resolve (modulePath output unit) = place).getLast? <;>
      rfl
  · rw [if_neg (by simpa using here), if_neg here, Option.or_none]

/-- Written modules take their places and leave all others as they are. -/
theorem node?_writtenTree
    (written : writtenTree output style modules tree = .ok after) :
    after.node? place =
      ((lastModule? tree.current output modules place).map fun unit => .file (unit.text style)).or
        (tree.node? place) := by
  induction modules generalizing tree with
  | nil =>
      cases written
      rfl
  | cons unit rest inductionHypothesis =>
      obtain ⟨next, first, others⟩ := of_writtenTree_cons written
      obtain ⟨-, -, notDirectory, put, -⟩ := FileTree.write_eq_ok first
      rw [inductionHypothesis others, FileTree.current_write first, lastModule?_cons]
      cases lastModule? tree.current output rest place with
      | some last => rfl
      | none =>
          rw [put]
          split_ifs with here
          · subst here
            exact FileTree.node?_put_self (FileTree.ne_root_of_not_directory notDirectory)
          · exact FileTree.node?_put_of_ne (Ne.symm here)

/-- No module takes the place of a directory. -/
theorem lastModule?_of_directory
    (written : writtenTree output style modules tree = .ok after)
    (directory : tree.node? place = some .directory) :
    lastModule? tree.current output modules place = none := by
  induction modules generalizing tree with
  | nil => rfl
  | cons unit rest inductionHypothesis =>
      obtain ⟨next, first, others⟩ := of_writtenTree_cons written
      obtain ⟨-, -, notDirectory, put, -⟩ := FileTree.write_eq_ok first
      have elsewhere : place ≠ tree.current.resolve (modulePath output unit) := by
        rintro rfl
        exact notDirectory directory
      have still : next.node? place = some .directory := by
        rw [put, FileTree.node?_put_of_ne elsewhere, directory]
      rw [lastModule?_cons, ← FileTree.current_write first, inductionHypothesis others still,
        if_neg (by rw [FileTree.current_write first]; exact elsewhere.symm)]
      rfl

theorem follow_writtenTree
    {location found : Location}
    {components : List Path.Component}
    (written : writtenTree output style modules tree = .ok after)
    (followed : tree.follow location components = .ok found) :
    after.follow location components = .ok found := by
  induction modules generalizing tree with
  | nil =>
      cases written
      exact followed
  | cons unit rest inductionHypothesis =>
      obtain ⟨next, first, others⟩ := of_writtenTree_cons written
      obtain ⟨-, -, notDirectory, rfl, -⟩ := FileTree.write_eq_ok first
      exact inductionHypothesis others (FileTree.follow_put_file notDirectory followed)

/-- The path of a written module can be followed once all modules are written. -/
theorem follow_modulePath
    {unit : Code.Module}
    (written : writtenTree output style modules tree = .ok after)
    (member : unit ∈ modules) :
    FileTree.checkPath (modulePath output unit) = .ok () ∧
      (FileTree.endsInSlash (modulePath output unit) ||
        FileTree.endsInDot (modulePath output unit)) = false ∧
      after.follow tree.current (Path.components (modulePath output unit)) =
        .ok (tree.current.resolve (modulePath output unit)) := by
  induction modules generalizing tree with
  | nil => cases member
  | cons first rest inductionHypothesis =>
      obtain ⟨next, wrote, others⟩ := of_writtenTree_cons written
      rcases List.mem_cons.mp member with rfl | later
      · obtain ⟨checked, plain, -, -, followed⟩ := FileTree.write_eq_ok wrote
        exact ⟨checked, plain, follow_writtenTree others followed⟩
      · rw [← FileTree.current_write wrote]
        exact inductionHypothesis others later

/-- The path of a written module leads to the last module that is sent to the same place. -/
theorem read_writtenTree
    (written : writtenTree output style modules tree = .ok after) :
    ∀ unit ∈ modules, ∃ last,
      lastModule? tree.current output modules
          (tree.current.resolve (modulePath output unit)) = some last ∧
        after.read (modulePath output unit) = .ok (last.text style) := by
  intro unit member
  have listed : unit ∈ modules.filter fun other =>
      tree.current.resolve (modulePath output other) =
        tree.current.resolve (modulePath output unit) :=
    List.mem_filter.mpr ⟨member, decide_eq_true rfl⟩
  obtain ⟨last, isLast⟩ := Option.ne_none_iff_exists'.mp fun nothing =>
    List.ne_nil_of_mem listed (List.getLast?_eq_none_iff.mp nothing)
  obtain ⟨checked, plain, followed⟩ := follow_modulePath written member
  refine ⟨last, isLast, ?_⟩
  rw [FileTree.read_eq_ok_iff, current_writtenTree written, node?_writtenTree written, lastModule?,
    isLast]
  exact ⟨checked, plain, followed, rfl⟩

/-! ## Whole trees -/

/-- A tree is another one with modules written into an output directory, and nothing else. -/
structure HasWritten (before after : FileTree) (output : String) (style : Code.Style)
    (modules : List Code.Module) : Prop where
  current : after.current = before.current
  /-- Only directories were on the way to the output directory. -/
  way : ∀ station ∈ before.current.stations (Path.components output),
    before.node? station = none ∨ before.node? station = some .directory
  /-- The output directory and those above it are there, the last module that is sent to a place
  stands in this place, and everything else is as it was. -/
  nodes : ∀ place,
    after.node? place =
      if place ∈ before.current.stations (Path.components output) then some .directory
      else
        match lastModule? before.current output modules place with
        | some unit => some (.file (unit.text style))
        | none => before.node? place
  /-- Every path of a module leads to the last module that is sent to the same place. -/
  files : ∀ unit ∈ modules, ∃ last,
    lastModule? before.current output modules
        (before.current.resolve (modulePath output unit)) = some last ∧
      after.read (modulePath output unit) = .ok (last.text style)

theorem hasWritten_of_writtenTree
    {made : FileTree}
    (directories : tree.makeDirectories output = (made, none))
    (written : writtenTree output style modules made = .ok after) :
    HasWritten tree after output style modules := by
  have kept : made.current = tree.current :=
    (congrArg (fun result => result.1.current) directories).symm.trans
      FileTree.current_makeDirectories
  obtain ⟨way, nodes⟩ := FileTree.node?_makeDirectories directories
  refine ⟨(current_writtenTree written).trans kept, way, fun place => ?_, ?_⟩
  · rw [node?_writtenTree written, nodes]
    split_ifs with station
    · -- The writes come later, but none of them replaces a directory.
      have directory := nodes place
      rw [if_pos station] at directory
      rw [lastModule?_of_directory written directory]
      rfl
    · rw [kept]
      cases lastModule? tree.current output modules place <;> rfl
  · rw [← kept]
    exact read_writtenTree written

/-- Where no file name has a slash, modules are sent to the same place exactly when they have the
same file name. -/
theorem lastModule?_of_plain
    (plain : ∀ unit ∈ modules, '/' ∉ unit.fileName.toList)
    (current : Location)
    {unit : Code.Module}
    (member : unit ∈ modules) :
    lastModule? current output modules (current.resolve (modulePath output unit)) =
      (modules.filter fun other => other.fileName = unit.fileName).getLast? := by
  rw [lastModule?]
  refine congrArg List.getLast? (List.filter_congr fun other known => ?_)
  rw [decide_eq_decide]
  constructor
  · exact fileName_eq_of_filePlace_eq (plain other known) (plain unit member)
  · intro same
    rw [modulePath, same]
    rfl

/-! ## Sessions -/

theorem forEach_log (line : α -> LogLine) (items : List α) :
    forEach (fun item => Session.world.log (line item)) items session =
      ((), { session with logged := session.logged ++ items.map line }) := by
  induction items generalizing session with
  | nil =>
      rw [List.map_nil, List.append_nil]
      rfl
  | cons item rest inductionHypothesis =>
      have later := @inductionHypothesis { session with logged := session.logged ++ [line item] }
      rw [List.append_assoc] at later
      exact later

theorem forEach_print (text : α -> String) (items : List α) :
    forEach (fun item => Session.world.print (text item)) items session =
      ((), { session with printed := session.printed ++ String.join (items.map text) }) := by
  induction items generalizing session with
  | nil =>
      rw [List.map_nil, String.join_nil, String.append_empty]
      rfl
  | cons item rest inductionHypothesis =>
      have later := @inductionHypothesis { session with printed := session.printed ++ text item }
      rw [String.append_assoc, ← String.join_cons] at later
      exact later

theorem deliver_of_dryRun
    (dry : options.dryRun = true) :
    deliver Session.world options style modules session =
      (.ok (), { session with
        printed := session.printed ++
          String.join (modules.map (dryRunText options.output style)) }) := by
  simp only [deliver, dry, if_true, bind, StateT.bind, forEach_print]
  rfl

theorem deliver_of_writtenTree
    {made : FileTree}
    (dry : options.dryRun = false)
    (directories : session.tree.makeDirectories options.output = (made, none))
    (written : writtenTree options.output style modules made = .ok after) :
    deliver Session.world options style modules session =
      (.ok (), { session with tree := after }) := by
  rw [deliver_eq dry, directories]
  exact @writeModules_eq _ _ _ { session with tree := made } _ written

/-- A run that delivers its modules ends with the code of its report. -/
theorem compile_of_deliver
    (final : Session)
    (delivered : ∀ logged,
      deliver Session.world options (.ofConfiguration configuration)
        (Generation.run configuration options.layout model).modules
        { session with logged := logged } = (.ok (), { final with logged := logged })) :
    ∃ logged,
      compile Session.world options model configuration session =
        (.ok (reportCode (Generation.run configuration options.layout model)),
          { final with logged := logged }) := by
  rw [compile_eq]
  simp only [forEach_log, delivered]
  exact ⟨_, rfl⟩

/-! ## Loading -/

section Loading

variable
  {failure : Failure}

theorem loadConfiguration_snd (path : Option String) :
    (loadConfiguration Session.world path session).2 = session := by
  cases path <;> rfl

theorem exitCode_of_failure
    (failed : runGenerate Session.world options session = (.error failure, session)) :
    (Command.generate options).exitCode Session.world session =
      (1, { session with logged := session.logged ++ [.error failure.message] }) := by
  simp only [Command.exitCode, Command.run, bind, StateT.bind, failed]
  rfl

/-- Without a data model, the configuration is not even read. -/
theorem runGenerate_of_model_error
    (missing : (loadModel Session.world options.dataModel session).1 = .error failure) :
    runGenerate Session.world options session = (.error failure, session) := by
  have loaded : loadModel Session.world options.dataModel session = (.error failure, session) :=
    Prod.ext missing rfl
  simp only [runGenerate, bind, StateT.bind, loaded]
  rfl

theorem runGenerate_of_model
    (found : (loadModel Session.world options.dataModel session).1 = .ok model) :
    runGenerate Session.world options session =
      match (loadConfiguration Session.world options.configuration session).1 with
      | .error failure => (.error failure, session)
      | .ok configuration => compile Session.world options model configuration session := by
  have loaded : loadModel Session.world options.dataModel session = (.ok model, session) :=
    Prod.ext found rfl
  have kept := @loadConfiguration_snd session options.configuration
  simp only [runGenerate, bind, StateT.bind, loaded]
  rcases read : loadConfiguration Session.world options.configuration session with
    ⟨failure | configuration, after⟩ <;>
  · rw [read] at kept
    cases kept
    rfl

/-- Once all is loaded, delivering the modules decides on the rest. -/
theorem exitCode_of_deliver
    (final : Session)
    (found : (loadModel Session.world options.dataModel session).1 = .ok model)
    (configured :
      (loadConfiguration Session.world options.configuration session).1 = .ok configuration)
    (delivered : ∀ logged,
      deliver Session.world options (.ofConfiguration configuration)
        (Generation.run configuration options.layout model).modules
        { session with logged := logged } = (.ok (), { final with logged := logged })) :
    ∃ logged,
      (Command.generate options).exitCode Session.world session =
        (reportCode (Generation.run configuration options.layout model),
          { final with logged := logged }) := by
  obtain ⟨logged, compiled⟩ := compile_of_deliver final delivered
  refine ⟨logged, ?_⟩
  simp only [Command.exitCode, Command.run, bind, StateT.bind, runGenerate_of_model found,
    configured, compiled]
  rfl

end Loading

/-! ## The generate command -/

/-- The modules of a report are those of the entities that compile, the module of enums and the
barrel. -/
theorem modules_run_eq_filterMap (layout : FileLayout) :
    (Generation.run configuration layout model).modules =
      (model.entities.filterMap fun entity =>
          (EntityModule.ofEntity configuration layout model entity).toOption) ++
        configuration.enumFile.toList.map (fun file => Generation.enumModule file model.enums) ++
          [Generation.barrel configuration (model.compiled.map Entity.name)] := by
  rw [Generation.modules_run]
  congr 2
  rw [DataModel.compiled, ← List.filterMap_eq_filter, List.map_filterMap]
  refine List.filterMap_congr fun entity _ => ?_
  rw [EntityModule.ofEntity]
  cases outcome : entity.failure? model <;> simp [Option.guard, outcome, Except.toOption]

theorem reportCode_eq (report : Generation.Report) :
    reportCode report = if report.failures = [] then 0 else 1 := by
  rw [reportCode, Generation.Report.isSuccess]
  cases report.failures <;> rfl

theorem exitCode_dryRun
    (found : (loadModel Session.world options.dataModel session).1 = .ok model)
    (configured :
      (loadConfiguration Session.world options.configuration session).1 = .ok configuration)
    (dry : options.dryRun = true) :
    ∃ logged,
      (Command.generate options).exitCode Session.world session =
        (reportCode (Generation.run configuration options.layout model),
          { session with
            printed := session.printed ++
              String.join ((Generation.run configuration options.layout model).modules.map
                (dryRunText options.output (.ofConfiguration configuration)))
            logged := logged }) := by
  exact exitCode_of_deliver
    { session with
      printed := session.printed ++
        String.join ((Generation.run configuration options.layout model).modules.map
          (dryRunText options.output (.ofConfiguration configuration))) }
    found configured fun _ => deliver_of_dryRun dry

/-- A command that cannot load the data model, or then the configuration, changes no file, prints
nothing and ends with code 1.  Otherwise the report has modules for the entities that compile and
for no others.  A dry run changes no file and prints the modules with their paths.  Any other run,
if the output directory can be made and all modules can be written, changes nothing but the
directories on the way and the files of the modules; each file holds the last module that is sent to
its place, which is the last one with its file name unless file names have slashes.  Both kinds of
run end with code 0 exactly when no entity fails. -/
theorem generate_effects
    (options : GenerateOptions)
    (session final : Session)
    (code : Nat)
    (ran : (Command.generate options).exitCode Session.world session = (code, final)) :
    (∀ failure,
      ((loadModel Session.world options.dataModel session).1 = .error failure ∨
        ∃ model, (loadModel Session.world options.dataModel session).1 = .ok model ∧
          (loadConfiguration Session.world options.configuration session).1 = .error failure) →
      code = 1 ∧ final.tree = session.tree ∧ final.printed = session.printed) ∧
    ∀ model configuration,
      (loadModel Session.world options.dataModel session).1 = .ok model →
      (loadConfiguration Session.world options.configuration session).1 = .ok configuration →
      let report := Generation.run configuration options.layout model
      let style := Code.Style.ofConfiguration configuration
      report.modules =
          (model.entities.filterMap fun entity =>
              (EntityModule.ofEntity configuration options.layout model entity).toOption) ++
            configuration.enumFile.toList.map (fun file =>
              Generation.enumModule file model.enums) ++
            [Generation.barrel configuration (model.compiled.map Entity.name)] ∧
      (options.dryRun = true →
        code = (if report.failures = [] then 0 else 1) ∧
        final.tree = session.tree ∧
        final.printed = session.printed ++ String.join (report.modules.map fun unit =>
          "// " ++ Path.join options.output (unit.fileName ++ ".ts") ++ "\n" ++
            unit.text style ++ "\n")) ∧
      (options.dryRun = false → ∀ made written,
        session.tree.makeDirectories options.output = (made, none) →
        writtenTree options.output style report.modules made = .ok written →
        code = (if report.failures = [] then 0 else 1) ∧
        ((Command.generate { options with dryRun := true }).exitCode Session.world session).1 =
          code ∧
        final.tree = written ∧ final.printed = session.printed ∧
        HasWritten session.tree written options.output style report.modules ∧
        ((∀ unit ∈ report.modules, '/' ∉ unit.fileName.toList) →
          ∀ unit ∈ report.modules, ∃ last,
            (report.modules.filter fun other => other.fileName = unit.fileName).getLast? =
              some last ∧
            written.read (modulePath options.output unit) = .ok (last.text style))) := by
  refine ⟨?_, ?_⟩
  · intro failure unloaded
    have failed : runGenerate Session.world options session = (.error failure, session) := by
      rcases unloaded with missing | ⟨model, found, missing⟩
      · exact runGenerate_of_model_error missing
      · rw [runGenerate_of_model found, missing]
    rw [exitCode_of_failure failed] at ran
    cases ran
    exact ⟨rfl, rfl, rfl⟩
  · intro model configuration found configured report style
    refine ⟨modules_run_eq_filterMap options.layout, ?_, ?_⟩
    · intro dry
      obtain ⟨logged, ended⟩ := exitCode_dryRun found configured dry
      rw [ended] at ran
      cases ran
      exact ⟨reportCode_eq report, rfl, rfl⟩
    · intro notDry made written directories writes
      obtain ⟨logged, ended⟩ :=
        exitCode_of_deliver { session with tree := written } found configured fun _ =>
          deliver_of_writtenTree notDry directories writes
      rw [ended] at ran
      cases ran
      -- The layout, and with it the report, does not depend on the kind of run.
      obtain ⟨otherLog, dryEnded⟩ := @exitCode_dryRun session
        { options with dryRun := true } model configuration found configured rfl
      have effects := hasWritten_of_writtenTree directories writes
      refine ⟨reportCode_eq report, ?_, rfl, rfl, effects, ?_⟩
      · rw [dryEnded]
        rfl
      · intro plain unit member
        obtain ⟨last, isLast, content⟩ := effects.files unit member
        rw [lastModule?_of_plain plain _ member] at isLast
        exact ⟨last, isLast, content⟩

theorem exists_eq_ok_of_isOk
    {result : Except FileError FileTree}
    (finished : result.isOk = true) :
    ∃ written, result = .ok written := by
  cases result with
  | error error => cases finished
  | ok written => exact ⟨written, rfl⟩

/-- Items, and orders of customers that are missing. -/
def basket : DataModel where
  entities :=
    [ { name := "Item", fields := [{ name := "id", kind := .scalar .int }] },
      { name := "Order", fields := [{ name := "customer", kind := .relation "Customer" }] } ]
  enums := []

/-- The file of a data model next to a directory. -/
def basketTree : FileTree where
  nodes :=
    [ (["model.json".toList],
        .file ("[[[\"Item\", [[\"id\", \"scalar\", \"Int\", false, true]]], " ++
          "[\"Order\", [[\"customer\", \"object\", \"Customer\", false, true]]]], []]")),
      (["generated".toList], .directory) ]

theorem generate_effects_basket :
    let written :=
      ((Command.generate freshOutput).exitCode Session.world { tree := basketTree }).2.tree
    let modules := (Generation.run {} freshOutput.layout basket).modules
    ((Command.generate freshOutput).exitCode Session.world { tree := basketTree }).1 = 1 ∧
      HasWritten basketTree written freshOutput.output (.ofConfiguration {}) modules ∧
      ((Command.generate { freshOutput with dryRun := true }).exitCode Session.world
        { tree := basketTree }).2.tree = basketTree ∧
      ((Command.generate { freshOutput with dataModel := "missing.json" }).exitCode Session.world
        { tree := basketTree }).1 = 1 := by
  have found :
      (loadModel Session.world freshOutput.dataModel { tree := basketTree }).1 = .ok basket := by
    decide +kernel
  have made : (basketTree.makeDirectories freshOutput.output).2 = none := by
    decide +kernel
  obtain ⟨tree, writes⟩ := @exists_eq_ok_of_isOk
    (writtenTree freshOutput.output (.ofConfiguration {})
      (Generation.run {} freshOutput.layout basket).modules
      (basketTree.makeDirectories freshOutput.output).1) (by decide +kernel)
  obtain ⟨-, loaded⟩ := generate_effects freshOutput { tree := basketTree } _ _ Prod.mk.eta.symm
  obtain ⟨-, -, effects⟩ := loaded basket {} found rfl
  obtain ⟨code, -, final, -, written, -⟩ := effects rfl _ tree (Prod.ext rfl made) writes
  obtain ⟨-, loadedDry⟩ := generate_effects { freshOutput with dryRun := true }
    { tree := basketTree } _ _ Prod.mk.eta.symm
  obtain ⟨-, dryEffects, -⟩ := loadedDry basket {} found rfl
  obtain ⟨missing, -⟩ := generate_effects { freshOutput with dataModel := "missing.json" }
    { tree := basketTree } _ _ Prod.mk.eta.symm
  refine ⟨?_, ?_, (dryEffects rfl).2.1, ?_⟩
  · rw [code]
    decide
  · rw [final]
    exact written
  · exact (missing (.loadModel "missing.json" (.file .notFound)) (.inl (by decide +kernel))).1

/-- Users with roles. -/
def staff : DataModel where
  entities := [{ name := "User", fields := [{ name := "id", kind := .scalar .int }] }]
  enums := [{ name := "Role", values := [{ name := "ADMIN" }] }]

/-- The files of a data model and of a configuration whose module of enums stands in the place of an
entity's module, under another file name. -/
def staffTree : FileTree where
  nodes :=
    [ (["model.json".toList],
        .file ("[[[\"User\", [[\"id\", \"scalar\", \"Int\", false, true]]]], " ++
          "[[\"Role\", [[\"ADMIN\"]]]]]")),
      (["config.yaml".toList], .file "enumFile: ./User\n") ]

/-- A call that generates the modules of this data model with this configuration. -/
def staffOptions : GenerateOptions :=
  { dataModel := "model.json", configuration := some "config.yaml", output := "out" }

/-- The run ends with code 0, but the file of an entity's module does not hold the last module with
its file name in the end. -/
theorem last_named_module_overwritten :
    let report := Generation.run { enumFile := some "./User" } staffOptions.layout staff
    let outcome := (Command.generate staffOptions).exitCode Session.world { tree := staffTree }
    (loadModel Session.world staffOptions.dataModel { tree := staffTree }).1 = .ok staff ∧
      (loadConfiguration Session.world staffOptions.configuration { tree := staffTree }).1 =
        .ok { enumFile := some "./User" } ∧
      outcome.1 = 0 ∧
      ∃ unit ∈ report.modules,
        (report.modules.filter fun other => other.fileName = unit.fileName).getLast? =
            some unit ∧
          outcome.2.tree.read (modulePath staffOptions.output unit) ≠
            .ok (unit.text (.ofConfiguration { enumFile := some "./User" })) := by
  refine ⟨by decide +kernel, by decide +kernel, by decide +kernel, _, List.mem_cons_self, ?_, ?_⟩
  · decide +kernel
  · decide +kernel

end CommandLine
end EntitySchema
