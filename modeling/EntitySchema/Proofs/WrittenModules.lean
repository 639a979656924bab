import EntitySchema.CommandLine.Session
import EntitySchema.Proofs.FileTrees

/-!
# Written modules

Modules are written one after the other, each into a file of its own path.  When all writes succeed
and no two paths lead to the same place, every file holds its module in the end.
-/

namespace EntitySchema
namespace CommandLine

variable
  {output : String}
  {style : Code.Style}
  {session final : Session}
  {modules : List Code.Module}

/-- Writing a list of modules goes on only after a successful write. -/
theorem writeModules_cons (unit : Code.Module) :
    writeModules Session.world output style (unit :: modules) session =
      match session.tree.write (modulePath output unit) (unit.text style) with
      | .ok tree => writeModules Session.world output style modules { session with tree := tree }
      | .error error => (.error (.write (modulePath output unit) error), session) := by
  rw [writeModules]
  simp only [bind, StateT.bind, Session.world, Session.write]
  cases session.tree.write (modulePath output unit) (unit.text style) <;> rfl

/-- The first step of a run that writes all modules. -/
theorem of_writeModules_cons
    {unit : Code.Module}
    (written :
      writeModules Session.world output style (unit :: modules) session = (.ok (), final)) :
    ∃ tree, session.tree.write (modulePath output unit) (unit.text style) = .ok tree ∧
      writeModules Session.world output style modules { session with tree := tree } =
        (.ok (), final) := by
  rw [writeModules_cons] at written
  cases first : session.tree.write (modulePath output unit) (unit.text style) with
  | error error =>
      rw [first] at written
      cases written
  | ok tree => exact ⟨tree, rfl, by simpa only [first] using written⟩

theorem current_writeModules
    (written : writeModules Session.world output style modules session = (.ok (), final)) :
    final.tree.current = session.tree.current := by
  induction modules generalizing session with
  | nil =>
      cases written
      rfl
  | cons unit rest inductionHypothesis =>
      obtain ⟨tree, first, others⟩ := of_writeModules_cons written
      exact (inductionHypothesis others).trans (FileTree.current_write first)

/-- Files in other places than those of the modules keep their content. -/
theorem read_writeModules_of_ne
    {path text : String}
    (written : writeModules Session.world output style modules session = (.ok (), final))
    (outside : ∀ unit ∈ modules,
      session.tree.current.resolve path ≠ session.tree.current.resolve (modulePath output unit))
    (readable : session.tree.read path = .ok text) :
    final.tree.read path = .ok text := by
  induction modules generalizing session with
  | nil =>
      cases written
      exact readable
  | cons unit rest inductionHypothesis =>
      obtain ⟨tree, first, others⟩ := of_writeModules_cons written
      rw [List.forall_mem_cons] at outside
      refine inductionHypothesis others ?_ (FileTree.read_write_of_ne first outside.1 readable)
      rw [FileTree.current_write first]
      exact outside.2

/-- Every module stands in its file when no two modules share a place. -/
theorem read_writeModules
    (written : writeModules Session.world output style modules session = (.ok (), final))
    (distinct :
      (modules.map fun unit => session.tree.current.resolve (modulePath output unit)).Nodup) :
    ∀ unit ∈ modules, final.tree.read (modulePath output unit) = .ok (unit.text style) := by
  induction modules generalizing session with
  | nil =>
      intro unit member
      cases member
  | cons unit rest inductionHypothesis =>
      obtain ⟨tree, first, others⟩ := of_writeModules_cons written
      rw [List.map_cons, List.nodup_cons] at distinct
      rw [← FileTree.current_write first] at distinct
      rw [List.forall_mem_cons]
      refine ⟨?_, inductionHypothesis others distinct.2⟩
      -- The file of the first module has to outlast the writes of all others.
      refine read_writeModules_of_ne others ?_ (FileTree.read_of_write first)
      intro other member same
      exact distinct.1 (List.mem_map.mpr ⟨other, member, same.symm⟩)

/-! ## Whole runs -/

/-- Logging leaves the files alone. -/
theorem tree_forEach_log (line : α -> LogLine) (items : List α) :
    (forEach (fun item => Session.world.log (line item)) items session).2.tree = session.tree := by
  induction items generalizing session with
  | nil => rfl
  | cons item rest inductionHypothesis => exact inductionHypothesis

/-- Modules are written once their directory is made. -/
theorem deliver_eq
    {options : GenerateOptions}
    (dry : options.dryRun = false) :
    deliver Session.world options style modules session =
      match session.tree.makeDirectories options.output with
      | (tree, none) =>
          writeModules Session.world options.output style modules { session with tree := tree }
      | (tree, some error) =>
          (.error (.makeOutput options.output error), { session with tree := tree }) := by
  simp only [deliver, dry, Bool.false_eq_true, if_false, bind, StateT.bind, Session.world,
    Session.makeDirectories]
  rcases session.tree.makeDirectories options.output with ⟨tree, none | error⟩ <;> rfl

/-- A run logs its notices, delivers its modules and logs its failures. -/
theorem compile_eq
    {options : GenerateOptions}
    {model : DataModel}
    {configuration : Configuration} :
    compile Session.world options model configuration session =
      let report := Generation.run configuration options.layout model
      match
        deliver Session.world options (.ofConfiguration configuration) report.modules
          (forEach (fun notice => Session.world.log (.ofNotice notice))
            (Generation.notices configuration options.layout model) session).2 with
      | (.error failure, after) => (.error failure, after)
      | (.ok (), after) =>
          (.ok (reportCode report),
            (forEach (fun failure => Session.world.log (.summary failure.message))
              report.failures after).2) := by
  simp only [compile, bind, StateT.bind]
  rcases forEach (fun notice => Session.world.log (.ofNotice notice))
    (Generation.notices configuration options.layout model) session with ⟨_, start⟩
  dsimp only
  rcases deliver Session.world options (.ofConfiguration configuration)
    (Generation.run configuration options.layout model).modules start with
    ⟨failure | done, after⟩ <;> rfl

/-- The writes of a run that completes. -/
theorem exists_writeModules_of_compile
    {options : GenerateOptions}
    {model : DataModel}
    {configuration : Configuration}
    {code : Nat}
    (dry : options.dryRun = false)
    (completed : compile Session.world options model configuration session = (.ok code, final)) :
    ∃ before after : Session,
      before.tree.current = session.tree.current ∧ after.tree = final.tree ∧
        writeModules Session.world options.output (.ofConfiguration configuration)
          (Generation.run configuration options.layout model).modules before = (.ok (), after) := by
  rw [compile_eq] at completed
  dsimp only at completed
  split at completed
  · cases completed
  · next after delivered =>
    cases completed
    rw [deliver_eq dry, tree_forEach_log] at delivered
    split at delivered
    · next tree made =>
      refine ⟨_, after, ?_, (tree_forEach_log _ _).symm, delivered⟩
      exact (congrArg (fun result => result.1.current) made).symm.trans
        FileTree.current_makeDirectories
    · cases delivered

end CommandLine
end EntitySchema
