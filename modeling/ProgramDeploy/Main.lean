import ProgramDeploy.Event.Line
import ProgramDeploy.Preflight
import ProgramDeploy.Run

/-!
The command line. Without an argument a deployment is rehearsed: it is run in the working
directory and environment that are found, on a node that answers every call plainly, and every
event is printed. With the argument `check` the checks before a deployment are rehearsed in the
same way.
-/

namespace ProgramDeploy.Rehearsal

def addPath (fs : Files) (path : String) : IO Files := do
  try
    return fs.after (Files.write path (← IO.FS.readBinFile path).toList)
  catch
    | .noFileOrDirectory .. => return fs
    | _ => return fs.after (Files.addDirectory path)

def addValuePath (fs : Files) : Value → IO Files
  | .text path => addPath fs path
  | _ => return fs

def environment : IO Environment := do
  let texts ← Variable.all.mapM fun v => do return (v, ← IO.getEnv v.name)
  return fun v => (texts.find? fun entry => entry.1 = v).bind (·.2)

def artifactPath (w : World) : Value :=
  match ((Config.load 0 Config.defaultPath).run w 0).result with
  | .ok c => (Table.get? (c.sectionOf "program") "wasm_path").getD .null
  | .error _ => .null

def world : IO World := do
  let entropy := (← IO.getRandomBytes (.ofNat Program.saltSize)).toList
  let w : World := ⟨← addValuePath .empty Config.defaultPath, ← environment, entropy, []⟩
  return { w with files := ← addValuePath w.files (artifactPath w) }

def perform (command : Action Nat) : IO UInt32 := do
  let outcome := command.run (← world) 0
  for event in outcome.trace do
    IO.println event.line
  match outcome.result with
  | .ok code => return .ofNat code
  | .error f =>
    if let .ok text := f.text then
      IO.eprintln text
    return 1

end ProgramDeploy.Rehearsal

def main (args : List String) : IO UInt32 :=
  match args with
  | ["check"] => ProgramDeploy.Rehearsal.perform ProgramDeploy.Preflight.command
  | _ => ProgramDeploy.Rehearsal.perform ProgramDeploy.Run.command
