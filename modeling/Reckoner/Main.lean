import Reckoner.Command.Answer

/-! # The command

Reads the file that the command line names, answers the command line, and prints the answer.
-/
namespace Reckoner.Command

/-- What is at a path. Whatever is there but cannot be read counts as a directory. -/
def stateOf (path : String) : IO FileState := do
  try
    return .contents (← IO.FS.readBinFile path).toList
  catch
    | .noFileOrDirectory .. => return .missing
    | _ => return .directory

def printLog (line : LogLine) : IO Unit :=
  IO.eprintln s!"[{line.level.name}] {line.source}: {String.ofList line.message}"

def finish (ending : Ending) : IO UInt32 := do
  match ending with
  | .usage => IO.eprintln "Usage: exprcalc eval EXPRESSION [OPTIONS] | exprcalc tree EXPRESSION"
  | .crash cause => IO.eprintln cause.message
  | .report r =>
    r.log.forM printLog
    IO.print (String.ofList r.output)
    IO.eprint (String.ofList r.errors)
  return UInt32.ofNat ending.exit

def readConfig (arguments : List Text) : IO (Text → FileState) := do
  match Request.read arguments with
  | some (.eval { config := some path, .. }) =>
    let state ← stateOf (String.ofList path)
    return fun asked => if asked = path then state else .missing
  | _ => return fun _ => .missing

end Reckoner.Command

def main (arguments : List String) : IO UInt32 := do
  let arguments := arguments.map String.toList
  let files ← Reckoner.Command.readConfig arguments
  let seed ← IO.monoNanosNow
  let room := Reckoner.Command.Room.uniform Reckoner.Limits.room
  Reckoner.Command.finish (Reckoner.Command.run room files ⟨UInt64.ofNat seed⟩ arguments)
