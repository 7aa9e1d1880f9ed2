import ProgramDeploy.Action

namespace ProgramDeploy

structure Client where
  providerAddress : Value
  format : Value

structure NodeInfo where
  chain : Value
  nodeName : Value
  nodeVersion : Value

namespace Client

def defaultProvider : Value :=
  .text "wss://testnet.vara.network"

def default : Client :=
  ⟨defaultProvider, Account.networkFormat⟩

def toValue (c : Client) : Value :=
  .dict [("provider_address", c.providerAddress), ("ss58_format", c.format)]

def ofConfig (config : Value) : Except Fault Client := do
  let provider ← (← config.field "node").field "provider_address"
  let format ← (← config.field "node").field "ss58_format"
  return ⟨provider, format⟩

def connect (c : Client) : Action Script := do
  Action.log .debug ("Connecting to " ++ (← c.providerAddress.shown))
  let s ← Action.nextSession
  Action.callUnit (.connect c.providerAddress c.format) s.connect
  return s

def withSession {α : Type} (c : Client) (body : Script → Action α) : Action α := do
  let s ← c.connect
  (body s).ensuring (Action.callUnit .close s.close)

def requestResult (s : Script) (method : String) : Action Value := do
  let response ← Action.call (.request method) (s.request method)
  response.fieldOrNull "result"

def queryNodeInfo (s : Script) : Action NodeInfo := do
  let chain ← requestResult s "system_chain"
  let name ← requestResult s "system_name"
  let version ← requestResult s "system_version"
  return ⟨chain, name, version⟩

def nodeInfo (c : Client) : Action NodeInfo :=
  (c.withSession queryNodeInfo).inWorker

def reportNodeInfo (c : Client) : Action NodeInfo := do
  let info ← c.nodeInfo
  Action.log .info ("You are connected to chain " ++ (← info.chain.shown)
    ++ " using " ++ (← info.nodeName.shown) ++ " v" ++ (← info.nodeVersion.shown))
  return info

def freeBalance (c : Client) (address : Value) : Action Int := do
  let info ← c.withSession fun s => Action.call (.query address) s.accountInfo
  (← (← info.field "data").field "free").toInteger

end Client

def NodeInfo.toValue (i : NodeInfo) : Value :=
  .dict [("chain", i.chain), ("node_name", i.nodeName), ("node_version", i.nodeVersion)]

end ProgramDeploy
