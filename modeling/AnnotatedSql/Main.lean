import AnnotatedSql.Cli.Run

/-!
The program: the command line run over the files of the machine.
-/
namespace AnnotatedSql

/-- The result of an action, or nothing if it fails. -/
def succeed? {α : Type} (action : IO α) : IO (Option α) := do
  try return some (← action) catch _ => return none

/-- Access to the files of the machine. -/
def machineFiles : Files IO where
  depth := do
    let working := toString (← IO.currentDir)
    return ((working.toList.splitOn '/').filter (!·.isEmpty)).length
  kind? path := succeed? do
    let entry ← (← IO.FS.realPath path).metadata
    return if entry.type == .dir then .directory else .file
  text? path := succeed? (IO.FS.readFile path)
  names? path := succeed? do
    let place ← IO.FS.realPath path
    return (← place.readDir).toList.map (·.fileName)

end AnnotatedSql

def main (words : List String) : IO UInt32 := do
  let config ← IO.getEnv "SQLTYPED_CONFIG"
  let outcome ← AnnotatedSql.Cli.run AnnotatedSql.machineFiles words config
  IO.print outcome.stdout
  IO.eprint outcome.stderr
  return outcome.exit.toUInt32
