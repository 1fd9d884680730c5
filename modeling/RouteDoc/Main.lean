import RouteDoc.Command.Run

/-!
# The program

Reads the files that a command line is about, runs the command on them, and
carries out what it comes to.
-/

namespace RouteDoc.Program

/-- The tree at a path. Directories that no walk enters are left empty. -/
partial def load (path : String) : IO FileTree := do
  let place ← IO.FS.realPath path
  match (← place.metadata).type with
  | .dir =>
    let some found ← (try some <$> place.readDir catch _ => pure none) | return .sealed []
    let mut entries : Array (String × FileTree) := #[]
    for e in found do
      let below ←
        match (← e.path.symlinkMetadata).type with
        | .symlink => linkAt e.path.toString
        | .dir =>
          if isIgnoredDirectory e.fileName [] then pure (FileTree.directory [])
          else load e.path.toString
        | _ => load e.path.toString
      entries := entries.push (e.fileName, below)
    return .directory (entries.toList.mergeSort fun a b => a.1 ≤ b.1)
  | _ =>
    try return .file (← IO.FS.readBinFile place)
    catch _ => return .closed (← place.metadata).byteSize.toNat
where
  /-- A link to where it leads; one that leads nowhere is kept as such. -/
  linkAt (path : String) : IO FileTree :=
    try return .link (← IO.FS.realPath path).toString
    catch _ => return .link path

/-- The tree with what stands at a path. -/
def mount (tree : FileTree) (path : FilePath) : IO FileTree :=
  try
    let place ← IO.FS.realPath path.text
    let loaded := FileTree.insert (← load place.toString) (FilePath.ofText place.toString).names tree
    return if place.toString == path.text then loaded
      else FileTree.insert (.link place.toString) path.names loaded
  catch _ => return tree

/-- The variables that commands look at. -/
def environmentNames : List String :=
  ["GROQ_API_KEY", "ROUTESCRIBE_BASE_URL", "ROUTESCRIBE_MODEL", "HOME", "COLUMNS"]

/-- How many cells a row of the console has: what `COLUMNS` says, or eighty. -/
def columns (env : ServiceSettings.Environment) : Nat :=
  match env "COLUMNS" with
  | some text => if text.all Char.isDigit then text.toNat?.getD 80 else 80
  | none => 80

/-- Where a command line runs. -/
def setting (args : List String) : IO Command.Setting := do
  let values ← environmentNames.mapM fun name => return (name, ← IO.getEnv name)
  let here := FilePath.ofText (← IO.currentDir).toString
  let env := fun name => (values.find? (·.1 == name)).bind (·.2)
  let start : Command.Setting := { env, tree := .directory [], here, width := columns env }
  let start := { start with tree := FileTree.insert (.directory []) here.names start.tree }
  let tree ← ((Command.pathsOf args).map fun p => here.join (start.expand p)).foldlM mount start.tree
  return { start with tree }

/-- Carries out what a command comes to. -/
def carryOut (r : Command.CommandResult) : IO UInt32 := do
  IO.print r.output
  for w in r.written do
    IO.FS.createDirAll w.directory.text
    IO.FS.writeFile w.path.text w.text
  if let some complaint := r.complaint then IO.eprintln complaint
  return UInt32.ofNat r.exitCode

end RouteDoc.Program

/-- The program: its arguments are a command line. -/
def main (args : List String) : IO UInt32 := do
  RouteDoc.Program.carryOut (RouteDoc.Command.runCommand (← RouteDoc.Program.setting args) args)
