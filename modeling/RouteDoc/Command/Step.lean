import RouteDoc.Console.Table
import RouteDoc.FileTree.Write

/-!
# Steps of a command

A command prints lines and tables and writes files, one after another, until it
is done or something goes wrong.

* `Step`: what a command does;
* `CommandResult`, `perform`: what its steps come to.
-/

namespace RouteDoc.Command

/-- What a command does: it prints a text with markup, prints a table, or writes
a file into a directory. -/
inductive Step
  | print (text : String)
  | table (heading : List String) (rows : List (List String))
  | save (directory : FilePath) (name text : String)
  deriving DecidableEq, Repr

/-- A file that is written. -/
structure Written where
  directory : FilePath
  name : String
  text : String
  deriving DecidableEq, Repr

/-- The path of a written file. -/
def Written.path (w : Written) : FilePath := w.directory.join ⟨"", [w.name]⟩

/-- What a command comes to: its exit code, what it prints, the files it writes,
and a complaint if it fails. -/
structure CommandResult where
  exitCode : Nat := 0
  output : String := ""
  written : List Written := []
  complaint : Option String := none
  deriving Repr, Inhabited

/-- The result of a command that fails before it does anything. -/
def CommandResult.failure (exitCode : Nat) (complaint : String) : CommandResult :=
  { exitCode, complaint := some complaint }

/-- The result of a command that is not understood or cannot start. -/
def CommandResult.misuse (complaint : String) : CommandResult := .failure 2 complaint

/-- What one step prints, on a console with so many cells in a row, and writes, or
why it fails. -/
def Step.perform (tree : FileTree) (here : FilePath) (width : Nat) :
    Step → Except String (String × List Written)
  | print text => ((Console.line width text).mapError (·.message)).map (·, [])
  | table heading rows => ((Console.table heading rows).mapError (·.message)).map (·, [])
  | save directory name text =>
    match tree.writeFault? here directory name with
    | some (fault, path) => .error (fault.report path.text)
    | none => .ok ("", [⟨directory, name, text⟩])

/-- What steps come to. Those after one that fails are not taken. -/
def perform (tree : FileTree) (here : FilePath) (width : Nat) : List Step → CommandResult
  | [] => {}
  | step :: steps =>
    match step.perform tree here width with
    | .error complaint => .failure 1 complaint
    | .ok (text, written) =>
      let rest := perform tree here width steps
      { rest with output := text ++ rest.output, written := written ++ rest.written }

end RouteDoc.Command
