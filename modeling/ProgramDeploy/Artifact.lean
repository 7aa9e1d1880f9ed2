import ProgramDeploy.Action

namespace ProgramDeploy.Artifact

def load (path : Value) : Action Bytes := do
  let w ← Action.world
  if !(← w.files.contains path) then throw (.artifactMissing (← path.shown))
  let code ← w.files.read path
  if code.isEmpty then throw (.artifactEmpty (← path.shown))
  Action.log .info (s!"Loaded {code.length} bytes from " ++ (← path.shown))
  return code

end ProgramDeploy.Artifact
