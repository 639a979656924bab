import EntitySchema.CommandLine.Run

/-!
# The program

The world of files that commands run in, and the entry point.
-/

namespace EntitySchema
namespace CommandLine

/-- The file error for an error of the operating system. -/
def fileError : IO.Error -> FileError
  | .noFileOrDirectory _ _ _ => .notFound
  | .alreadyExists _ _ _ => .alreadyExists
  | .inappropriateType _ _ _ => .notDirectory
  | error => .other (toString error)

/-- Perform an operation and keep its error as a value. -/
def attempt (operation : IO α) : IO (Except FileError α) := do
  match ← operation.toBaseIO with
  | .ok value => pure (.ok value)
  | .error error => pure (.error (fileError error))

/-- The world of the operating system. -/
def systemWorld : World IO where
  read := fun path => attempt (IO.FS.readFile path)
  makeDirectories := fun path => attempt (IO.FS.createDirAll path)
  write := fun path content => attempt (IO.FS.writeFile path content)
  print := fun text => do
    let stream ← IO.getStdout
    stream.putStr text
  log := fun line => IO.eprintln line.text

end CommandLine
end EntitySchema

/-- Run the command line and end with its exit code; misuse is answered with the help text. -/
def main (arguments : List String) : IO UInt32 := do
  let code ← EntitySchema.CommandLine.exitCode EntitySchema.CommandLine.systemWorld arguments
  if code = 2 then IO.eprint EntitySchema.CommandLine.helpText
  pure code.toUInt32
