import ProgramDeploy.Artifact
import ProgramDeploy.Config
import ProgramDeploy.Deployer
import ProgramDeploy.RouterInit

namespace ProgramDeploy.Run

/-- The levels of work that a deployment has around the loading of its configuration. -/
def levels : Nat := 9

def commandLevels : Nat := 5

def deploy (outer : Nat) (path : Value) : Action (Option Deployment) := do
  let config := (← Config.load (outer + levels) path).toValue
  let code ← Artifact.load (← (← config.field "program").field "wasm_path")
  let payload ← RouterInit.resolve (← config.field "program")
  let client ← Client.ofConfig config
  let _ ← client.reportNodeInfo
  let deployer ← Deployer.ofConfig (some client) config
  deployer.create (.bytes code) payload

def command : Action Nat :=
  ((fun _ => 0) <$> deploy commandLevels Config.defaultPath).continueWith fun
    | .ok code => pure code
    | .error f =>
      if f.isInterrupt then do
        Action.log .info "Interrupted by user"
        return 0
      else do
        Deployer.logFault "Fatal error in main: " f
        return 1

end ProgramDeploy.Run
