import EntitySchema.CommandLine.Run
import EntitySchema.FileTree

/-!
# Sessions

A session is a world in memory: a file tree, the text printed so far and the lines logged so far.
-/

namespace EntitySchema
namespace CommandLine

/-- The state of a world in memory. -/
structure Session where
  /-- The files and directories. -/
  tree : FileTree
  /-- What is printed so far. -/
  printed : String := ""
  /-- What is logged so far. -/
  logged : List LogLine := []
  deriving DecidableEq, Repr

namespace Session

/-- Read a file of the session's tree. -/
def read (path : String) : StateM Session (Except FileError String) :=
  fun session => (session.tree.read path, session)

/-- Make directories in the session's tree. -/
def makeDirectories (path : String) : StateM Session (Except FileError Unit) :=
  fun session =>
    match session.tree.makeDirectories path with
    | (tree, none) => (.ok (), { session with tree := tree })
    | (tree, some error) => (.error error, { session with tree := tree })

/-- Write a file of the session's tree. -/
def write (path content : String) : StateM Session (Except FileError Unit) :=
  fun session =>
    match session.tree.write path content with
    | .ok tree => (.ok (), { session with tree := tree })
    | .error error => (.error error, session)

/-- Add to the printed text. -/
def print (text : String) : StateM Session Unit :=
  fun session => ((), { session with printed := session.printed ++ text })

/-- Add a line to the log. -/
def log (line : LogLine) : StateM Session Unit :=
  fun session => ((), { session with logged := session.logged ++ [line] })

/-- The world whose state is a session. -/
def world : World (StateM Session) where
  read := read
  makeDirectories := makeDirectories
  write := write
  print := print
  log := log

end Session

/-- The exit code of a command line and the session that it leaves behind. -/
def runInMemory (tree : FileTree) (arguments : List String) : Nat × Session :=
  exitCode Session.world arguments { tree := tree }

end CommandLine
end EntitySchema
