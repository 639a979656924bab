/-!
# Command line arguments

A command line is a command with options.  An option that takes a value has it in the same
argument or in the next one, short options may share an argument, and no option but the verbosity
may be given twice.  Arguments are read from left to right, and the first request for the version
or for help ends the reading.
-/

namespace EntitySchema
namespace CommandLine

/-- What the generate command works on. -/
structure GenerateOptions where
  /-- The file of the data model. -/
  dataModel : String
  /-- The file of the configuration. -/
  configuration : Option String := none
  /-- The directory that receives the modules. -/
  output : String
  /-- The client module that exports enum types. -/
  clientPath : String := "node_modules/.prisma/client"
  /-- The file that configured import paths are relative to; by default the data model. -/
  schemaPath : Option String := none
  /-- Whether modules are printed instead of written. -/
  dryRun : Bool := false
  deriving DecidableEq, Repr

/-- A command of the program. -/
inductive Command
  /-- Compile a data model. -/
  | generate (options : GenerateOptions)
  /-- Print the configuration of a file, or the default one. -/
  | configuration (path : Option String)
  /-- Print the manifest. -/
  | manifest
  deriving DecidableEq, Repr

/-- What a command line asks for. -/
inductive Request
  /-- Run a command; the verbosity is the number of times that more log lines are asked for. -/
  | run (verbosity : Nat) (command : Command)
  | version
  | help
  deriving DecidableEq, Repr

/-- The options of all commands. -/
inductive OptionKey
  | verbose
  | help
  | version
  | dataModel
  | configuration
  | output
  | clientPath
  | schemaPath
  | dryRun
  deriving DecidableEq, Repr

namespace OptionKey

/-- The long name of an option. -/
def longName : OptionKey -> String
  | verbose => "verbose"
  | help => "help"
  | version => "version"
  | dataModel => "datamodel"
  | configuration => "config"
  | output => "output"
  | clientPath => "client-path"
  | schemaPath => "schema-path"
  | dryRun => "dry-run"

/-- The short name of an option. -/
def shortName? : OptionKey -> Option Char
  | verbose => some 'v'
  | help => some 'h'
  | version => some 'V'
  | output => some 'o'
  | dataModel | configuration | clientPath | schemaPath | dryRun => none

/-- Whether an option takes a value. -/
def takesValue : OptionKey -> Bool
  | verbose | help | version | dryRun => false
  | dataModel | configuration | output | clientPath | schemaPath => true

end OptionKey

/-- The name of a command. -/
inductive CommandName
  | generate
  | configuration
  | manifest
  deriving DecidableEq, Repr

namespace CommandName

/-- All commands. -/
def all : List CommandName := [generate, configuration, manifest]

/-- How a command is written. -/
def spelling : CommandName -> String
  | generate => "generate"
  | configuration => "config"
  | manifest => "manifest"

/-- The command with the given spelling. -/
def ofSpelling? (text : String) : Option CommandName :=
  all.find? fun name => name.spelling == text

/-- The options of a command. -/
def options : CommandName -> List OptionKey
  | generate =>
      [.verbose, .help, .dataModel, .configuration, .output, .clientPath, .schemaPath, .dryRun]
  | configuration => [.verbose, .help, .configuration]
  | manifest => [.verbose, .help]

end CommandName

/-- The options in front of the command. -/
def globalOptions : List OptionKey := [.verbose, .help, .version]

/-- Why the reading of arguments ends early. -/
inductive Stop
  /-- The arguments are not a command line of this program. -/
  | misuse
  | version
  | help
  deriving DecidableEq, Repr

/-- The options read so far, each with its value; a flag has the empty value. -/
abbrev Settings := List (OptionKey × String)

namespace Settings

/-- The value of an option. -/
def value? (settings : Settings) (key : OptionKey) : Option String :=
  settings.lookup key

/-- The number of times that an option is given. -/
def count (settings : Settings) (key : OptionKey) : Nat :=
  (settings.filter fun setting => setting.1 = key).length

/-- Add a flag. -/
def addFlag (settings : Settings) : OptionKey -> Except Stop Settings
  | .help => .error .help
  | .version => .error .version
  | .verbose => .ok ((.verbose, "") :: settings)
  | key => if (settings.value? key).isSome then .error .misuse else .ok ((key, "") :: settings)

/-- Add an option with its value, which may not be empty. -/
def addValue (settings : Settings) (key : OptionKey) (value : String) : Except Stop Settings :=
  if value.isEmpty || (settings.value? key).isSome then .error .misuse
  else .ok ((key, value) :: settings)

end Settings

/-- Read the short options of one argument.  An option that takes a value takes the rest of the
argument, without an equals sign in front; if nothing is left it waits for the next argument. -/
def readShort (options : List OptionKey) (settings : Settings) :
    List Char -> Except Stop (Settings × Option OptionKey)
  | [] => .ok (settings, none)
  | letter :: rest =>
      match options.find? fun key => key.shortName? = some letter with
      | none => .error .misuse
      | some key =>
          if key.takesValue then
            match rest with
            | [] => .ok (settings, some key)
            | '=' :: value => do
                let settings ← settings.addValue key (String.ofList value)
                .ok (settings, none)
            | value => do
                let settings ← settings.addValue key (String.ofList value)
                .ok (settings, none)
          else do
            let settings ← settings.addFlag key
            readShort options settings rest

/-- Read a long option, given without its dashes. -/
def readLong (options : List OptionKey) (settings : Settings) (argument : List Char) :
    Except Stop (Settings × Option OptionKey) :=
  let name := String.ofList (argument.takeWhile (· != '='))
  match options.find? fun key => key.longName == name with
  | none => .error .misuse
  | some key =>
      match argument.dropWhile (· != '='), key.takesValue with
      | [], true => .ok (settings, some key)
      | [], false => do
          let settings ← settings.addFlag key
          .ok (settings, none)
      | _ :: value, true => do
          let settings ← settings.addValue key (String.ofList value)
          .ok (settings, none)
      | _ :: _, false => .error .misuse

/-- How an argument reads by itself. -/
inductive ArgumentForm
  /-- The mark after which no options follow. -/
  | optionsEnd
  /-- A long option without its dashes. -/
  | long (text : List Char)
  /-- Short options without their dash. -/
  | short (text : List Char)
  /-- Anything else. -/
  | plain
  deriving DecidableEq, Repr

/-- How an argument reads by itself.  A single dash is not an option. -/
def argumentForm (argument : String) : ArgumentForm :=
  match argument.toList with
  | ['-', '-'] => .optionsEnd
  | '-' :: '-' :: text => .long text
  | '-' :: first :: rest => .short (first :: rest)
  | _ => .plain

/-- Read the arguments that follow a command.  Nothing but options may follow. -/
def readOptions (options : List OptionKey) (settings : Settings) :
    List String -> Except Stop Settings
  | [] => .ok settings
  | argument :: rest => do
      let (settings, pending) ←
        match argumentForm argument with
        | .long text => readLong options settings text
        | .short text => readShort options settings text
        | .optionsEnd => if rest.isEmpty then .ok (settings, none) else .error .misuse
        | .plain => .error .misuse
      match pending, rest with
      | none, rest => readOptions options settings rest
      | some _, [] => .error .misuse
      | some key, value :: rest =>
          if argumentForm value = .plain then do
            let settings ← settings.addValue key value
            readOptions options settings rest
          else
            .error .misuse

/-- The command with the given name and options. -/
def CommandName.command (settings : Settings) : CommandName -> Except Stop Command
  | generate =>
      match settings.value? .dataModel, settings.value? .output with
      | some dataModel, some output =>
          let base : GenerateOptions := { dataModel := dataModel, output := output }
          .ok (.generate
            { base with
              configuration := settings.value? .configuration
              clientPath := (settings.value? .clientPath).getD base.clientPath
              schemaPath := settings.value? .schemaPath
              dryRun := (settings.value? .dryRun).isSome })
      | _, _ => .error .misuse
  | configuration => .ok (.configuration (settings.value? .configuration))
  | manifest => .ok .manifest

/-- Read the command and what follows it. -/
def readCommand (settings : Settings) (name : String) (arguments : List String) :
    Except Stop Request :=
  match CommandName.ofSpelling? name with
  | some name => do
      let settings ← readOptions name.options settings arguments
      let command ← name.command settings
      .ok (.run (settings.count .verbose) command)
  | none =>
      if name = "help" && arguments.all fun argument =>
          (CommandName.ofSpelling? argument).isSome then
        .error .help
      else
        .error .misuse

/-- Read the arguments up to the command. -/
def readGlobal (settings : Settings) : List String -> Except Stop Request
  | [] => .error .misuse
  | argument :: rest =>
      match argumentForm argument with
      | .long text => do
          let (settings, _) ← readLong globalOptions settings text
          readGlobal settings rest
      | .short text => do
          let (settings, _) ← readShort globalOptions settings text
          readGlobal settings rest
      | .optionsEnd => .error .misuse
      | .plain => readCommand settings argument rest

/-- What a command line asks for, unless the program is misused. -/
def readArguments (arguments : List String) : Option Request :=
  match readGlobal [] arguments with
  | .ok request => some request
  | .error .version => some .version
  | .error .help => some .help
  | .error .misuse => none

end CommandLine
end EntitySchema
