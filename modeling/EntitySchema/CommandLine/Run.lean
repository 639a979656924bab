import EntitySchema.Code.Printer
import EntitySchema.CommandLine.Arguments
import EntitySchema.CommandLine.Failure
import EntitySchema.Configuration.Printer
import EntitySchema.Configuration.Reader
import EntitySchema.Generation
import EntitySchema.Manifest
import EntitySchema.Text.Quoted

/-!
# Running commands

Commands read files, make directories, write files, print and log.  What these operations do is
left open: a command runs in any world that offers them.
-/

namespace EntitySchema
namespace CommandLine

/-- A line for the people who run a command. -/
inductive LogLine
  | warning (text : String)
  | error (text : String)
  /-- A line of the closing summary. -/
  | summary (text : String)
  deriving DecidableEq, Repr

/-- A log line as it is shown. -/
def LogLine.text : LogLine -> String
  | warning text => "WARN " ++ text
  | error text => "ERROR " ++ text
  | summary text => "error: " ++ text

/-- A notice of a compilation as a log line. -/
def LogLine.ofNotice : Generation.Notice -> LogLine
  | .unmapped field type =>
      .warning ("no validator mapping; falling back to z.unknown() field=" ++ field ++
        " scalar=" ++ Text.quoted type.name)
  | .failed failure =>
      .error ("unit failed entity=" ++ failure.entity ++ " error=" ++ failure.message)

/-- The operations that commands are made of. -/
structure World (m : Type -> Type) where
  /-- The content of a file. -/
  read : String -> m (Except FileError String)
  /-- Make a directory and the directories above it. -/
  makeDirectories : String -> m (Except FileError Unit)
  /-- Write a file, given its path and its content. -/
  write : String -> String -> m (Except FileError Unit)
  /-- Print a text. -/
  print : String -> m Unit
  /-- Log a line. -/
  log : LogLine -> m Unit

/-! ## Loading -/

/-- A text with its unaccented letters in lower case. -/
def lowerAscii (text : String) : String :=
  String.ofList (text.toList.map Char.toLower)

/-- The formats that files are read in. -/
inductive FileFormat
  | json
  | yaml
  deriving DecidableEq, Repr

/-- The format that the extension of a path names. -/
def FileFormat.ofPath? (path : String) : Option FileFormat :=
  match (Path.extension? path).map lowerAscii with
  | some "yaml" => some .yaml
  | some "yml" => some .yaml
  | some "json" => some .json
  | _ => none

/-- The data model in the content of a file; the format is JSON unless the path says YAML. -/
def modelOfContent (path content : String) : Except LoadError DataModel :=
  let model :=
    match FileFormat.ofPath? path with
    | some .yaml => DataModel.ofYamlText content
    | some .json | none => DataModel.ofJsonText content
  model.mapError LoadError.model

/-- The configuration in the content of a file. -/
def configurationOfContent (path content : String) : Except LoadError Configuration :=
  match FileFormat.ofPath? path with
  | some .yaml => (Configuration.ofYamlText content).mapError LoadError.configuration
  | some .json => (Configuration.ofJsonText content).mapError LoadError.configuration
  | none => .error (.unsupportedFormat path)

/-- What a file holds, if it can be read and used. -/
def loaded (ofContent : String -> Except LoadError α) :
    Except FileError String -> Except LoadError α
  | .ok content => ofContent content
  | .error error => .error (.file error)

variable {m : Type -> Type} [Monad m]

/-- Load the data model of a file. -/
def loadModel (world : World m) (path : String) : m (Except Failure DataModel) := do
  let content ← world.read path
  pure ((loaded (modelOfContent path) content).mapError (Failure.loadModel path))

/-- Load the configuration of a file; without a file it is the default one. -/
def loadConfiguration (world : World m) :
    Option String -> m (Except Failure Configuration)
  | none => pure (.ok {})
  | some path => do
      let content ← world.read path
      pure ((loaded (configurationOfContent path) content).mapError
        (Failure.loadConfiguration path))

/-! ## Commands -/

/-- The layout that the options of the generate command describe. -/
def GenerateOptions.layout (options : GenerateOptions) : FileLayout where
  schema := options.schemaPath.getD options.dataModel
  output := options.output
  client := options.clientPath

/-- The path of the file of a module. -/
def modulePath (output : String) (unit : Code.Module) : String :=
  Path.join output (unit.fileName ++ ".ts")

/-- What a dry run prints for a module. -/
def dryRunText (output : String) (style : Code.Style) (unit : Code.Module) : String :=
  "// " ++ modulePath output unit ++ "\n" ++ unit.text style ++ "\n"

/-- Perform an operation on each item in turn. -/
def forEach (operation : α -> m Unit) : List α -> m Unit
  | [] => pure ()
  | item :: rest => do
      operation item
      forEach operation rest

/-- Write modules in turn, up to the first one that cannot be written. -/
def writeModules (world : World m) (output : String) (style : Code.Style) :
    List Code.Module -> m (Except Failure Unit)
  | [] => pure (.ok ())
  | unit :: rest => do
      match ← world.write (modulePath output unit) (unit.text style) with
      | .ok () => writeModules world output style rest
      | .error error => pure (.error (.write (modulePath output unit) error))

/-- Print modules, or write them into a directory that is made for them. -/
def deliver (world : World m) (options : GenerateOptions) (style : Code.Style)
    (modules : List Code.Module) : m (Except Failure Unit) := do
  if options.dryRun then
    forEach (fun unit => world.print (dryRunText options.output style unit)) modules
    pure (.ok ())
  else
    match ← world.makeDirectories options.output with
    | .ok () => writeModules world options.output style modules
    | .error error => pure (.error (.makeOutput options.output error))

/-- The exit code of a run that did all it could. -/
def reportCode (report : Generation.Report) : Nat :=
  if report.isSuccess then 0 else 1

/-- Compile a data model and deliver its modules. -/
def compile (world : World m) (options : GenerateOptions) (model : DataModel)
    (configuration : Configuration) : m (Except Failure Nat) := do
  let report := Generation.run configuration options.layout model
  forEach (fun notice => world.log (.ofNotice notice))
    (Generation.notices configuration options.layout model)
  match ← deliver world options (.ofConfiguration configuration) report.modules with
  | .error failure => pure (.error failure)
  | .ok () => do
      forEach (fun failure => world.log (.summary failure.message)) report.failures
      pure (.ok (reportCode report))

/-- Load what the generate command needs, the data model first, and compile it. -/
def runGenerate (world : World m) (options : GenerateOptions) : m (Except Failure Nat) := do
  match ← loadModel world options.dataModel with
  | .error failure => pure (.error failure)
  | .ok model =>
      match ← loadConfiguration world options.configuration with
      | .error failure => pure (.error failure)
      | .ok configuration => compile world options model configuration

/-- Run a command; it yields an exit code or a failure. -/
def Command.run (world : World m) : Command -> m (Except Failure Nat)
  | generate options => runGenerate world options
  | configuration path => do
      match ← loadConfiguration world path with
      | .error failure => pure (.error failure)
      | .ok found => do
          world.print found.toYaml
          pure (.ok 0)
  | manifest => do
      world.print (Manifest.current.text ++ "\n")
      pure (.ok 0)

/-- Run a command to its exit code; a failure is logged. -/
def Command.exitCode (world : World m) (command : Command) : m Nat := do
  match ← command.run world with
  | .ok code => pure code
  | .error failure => do
      world.log (.error failure.message)
      pure 1

/-- The name of the program. -/
def programName : String := "zodgen"

/-- What is printed on request for help. -/
def helpText : String :=
  String.intercalate "\n"
    [ "Usage: " ++ programName ++ " [OPTIONS] <COMMAND>",
      "",
      "Commands:",
      "  generate  Compile a data model and write one module for each entity",
      "  config    Print the resolved configuration as YAML",
      "  manifest  Print the manifest as JSON",
      "" ]

/-- Run a command line to its exit code; misuse has a code of its own. -/
def exitCode (world : World m) (arguments : List String) : m Nat :=
  match readArguments arguments with
  | some (.run _ command) => command.exitCode world
  | some .version => do
      world.print (programName ++ " " ++ Manifest.current.version ++ "\n")
      pure 0
  | some .help => do
      world.print helpText
      pure 0
  | none => pure 2

end CommandLine
end EntitySchema
