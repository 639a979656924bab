import EntitySchema.Configuration.Reader
import EntitySchema.DataModel.Reader
import EntitySchema.FileError

/-!
# Failures of commands

A command that cannot go on reports one failure: what it was doing, and the causes below it.
-/

namespace EntitySchema
namespace CommandLine

/-- Why a file of options or of a data model cannot be used. -/
inductive LoadError
  /-- The file cannot be read. -/
  | file (error : FileError)
  /-- The extension of the file names no known format. -/
  | unsupportedFormat (path : String)
  /-- The configuration is refused. -/
  | configuration (fault : Document.Fault)
  /-- The data model is refused. -/
  | model (error : ModelError)
  deriving DecidableEq, Repr

/-- A message that names its cause, and the message of the cause. -/
def withCause (introduction cause : String) : List String :=
  [introduction ++ cause, cause]

/-- The messages of a cause, from the outermost to the innermost. -/
def LoadError.messages : LoadError -> List String
  | file error => withCause "io error: " error.message
  | unsupportedFormat path =>
      withCause "configuration error: " ("unsupported configuration format: " ++ path)
  | configuration fault =>
      withCause "configuration error: " (Configuration.refusal fault)
  | model (.document fault) => ["serialization error: " ++ fault.message]
  | model error => withCause "model error: " error.detail

/-- Why a command fails. -/
inductive Failure
  | loadModel (path : String) (error : LoadError)
  | loadConfiguration (path : String) (error : LoadError)
  | makeOutput (path : String) (error : FileError)
  | write (path : String) (error : FileError)
  deriving DecidableEq, Repr

/-- The messages of a failure, from the outermost to the innermost. -/
def Failure.messages : Failure -> List String
  | loadModel path error => ("failed to load data model: " ++ path) :: error.messages
  | loadConfiguration path error => ("failed to load config: " ++ path) :: error.messages
  | makeOutput path error => ["failed to create output directory: " ++ path, error.message]
  | write path error => ["failed to write " ++ path, error.message]

/-- A failure as it is logged. -/
def Failure.message (failure : Failure) : String :=
  String.intercalate ": " failure.messages

end CommandLine
end EntitySchema
