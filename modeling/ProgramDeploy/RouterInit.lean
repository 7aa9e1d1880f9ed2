import ProgramDeploy.Action

namespace ProgramDeploy.RouterInit

def payload (factory wvara : Value) : Except Fault Bytes := do
  return (← ActorId.decode factory) ++ (← ActorId.decode wvara)

def encode (factory wvara : Value) : Action Bytes := do
  let bs ← payload factory wvara
  Action.log .debug ("Router init payload: " ++ Hex.marked bs)
  return bs

def namesBoth (router : Value) : Except Fault Bool := do
  if ← router.contains "factory" then router.contains "wvara" else return false

def encodeConfigured (router : Value) : Action Bytes := do
  if !(← namesBoth router) then throw .incompleteRouterInit
  let factory ← (← router.field "factory").shown
  let wvara ← (← router.field "wvara").shown
  Action.log .info ("Router init: factory " ++ factory ++ ", wvara " ++ wvara)
  encode (← router.field "factory") (← router.field "wvara")

def resolve (program : Value) : Action Value := do
  let router ← program.fieldOrNull "router_init"
  if router.isTruthy then
    return .bytes (← encodeConfigured router)
  else program.fieldOrNull "init_payload"

end ProgramDeploy.RouterInit
