import ProgramDeploy.Client
import ProgramDeploy.Wallet

namespace ProgramDeploy

structure Deployer where
  client : Option Client
  config : Value
  program : Value
  submission : Value

structure Upload where
  extrinsicHash : Value
  blockHash : Value
  isSuccess : Value
  errorMessage : Value
  events : List Value

structure Deployment where
  programId : String
  codeId : String
  salt : String
  extrinsicHash : Value
  blockHash : Value
  success : Value
  events : List Value

def Deployment.toValue (d : Deployment) : Value :=
  .dict [("programId", .text d.programId), ("codeId", .text d.codeId), ("salt", .text d.salt),
    ("extrinsicHash", d.extrinsicHash), ("blockHash", d.blockHash), ("success", d.success),
    ("events", .list d.events)]

namespace Deployer

def ofConfig (client : Option Client) (config : Value) : Except Fault Deployer := do
  return ⟨client, config, ← config.field "program", ← config.field "submission"⟩

def composeUpload (s : Script) (program keepAlive : Value) : Action UploadCall := do
  let call ← UploadCall.ofValue program keepAlive
  Action.log .debug (← call.summary program)
  Action.callUnit (.compose call) s.compose
  return call

def isNull : Value → Bool
  | .null => true
  | _ => false

def readReceipt (r : Receipt) : Action Upload := do
  if isNull r.blockHash then return ⟨r.extrinsicHash, .null, .null, .null, []⟩
  let isSuccess ← Action.call (.read .isSuccess) r.isSuccess
  let errorMessage ← Action.call (.read .errorMessage) r.errorMessage
  let events ← Action.call (.read .triggeredEvents) r.triggeredEvents
  return ⟨r.extrinsicHash, r.blockHash, isSuccess, errorMessage, ← events.items⟩

def uploadIn (d : Deployer) (program : Value) (signer : Account) (s : Script) : Action Upload := do
  let _ ← composeUpload s program (← d.program.fieldOrNull "keep_alive")
  Action.callUnit (.sign signer) s.sign
  Action.log .info
    ("🚀 create_program ~ extrinsic Gear.upload_program signed by " ++ signer.address)
  let inclusion ← d.submission.field "wait_for_inclusion"
  let finalization ← d.submission.field "wait_for_finalization"
  Action.callUnit (.submit inclusion finalization) s.submit
  readReceipt s.receipt

def upload (d : Deployer) (program : Value) (signer : Account) : Action Upload :=
  match d.client with
  | none => throw (.misuse Value.null.typeName (.noAttribute "connect"))
  | some c => (c.withSession (d.uploadIn program signer)).inWorker

def reportUpload (programId : String) (u : Upload) : Action Unit := do
  u.events.forM fun event => do Action.log .info ("Event: " ++ (← event.shown))
  if u.isSuccess.isTruthy then
    Action.log .success ("✅ Program " ++ programId ++ " uploaded")
    Action.log .success ("Block hash: " ++ (← u.blockHash.shown))
  else
    Action.log .error ("❌ Program upload failed: " ++ (← u.errorMessage.shown))

def buildProgram (d : Deployer) (code initPayload : Value) : Action Program := do
  let gasLimit ← d.program.field "gas_limit"
  let value ← d.program.field "value"
  let w ← Action.world
  Program.build code initPayload gasLimit value .null w.entropy

def deploy (d : Deployer) (code initPayload : Value) : Action Deployment := do
  let program ← d.buildProgram code initPayload
  let signer ← Wallet.deployer d.config
  let codeId := CodeId.ofCode program.code
  let programId := Hex.marked (← ProgramId.compute (.bytes codeId) program.salt)
  let codeId := Hex.marked codeId
  let salt := Hex.marked (← program.salt.toBytes)
  Action.log .info ("🚀 create_program ~ programId " ++ programId)
  Action.log .info ("🚀 create_program ~ codeId " ++ codeId)
  Action.log .info ("🚀 create_program ~ salt " ++ salt)
  let u ← d.upload program.toValue signer
  Action.log .info ("Transaction sent: " ++ (← u.extrinsicHash.shown))
  if !isNull u.blockHash then reportUpload programId u
  return ⟨programId, codeId, salt, u.extrinsicHash, u.blockHash, u.isSuccess, u.events⟩

def logFault (heading : String) (f : Fault) : Action Unit := do
  Action.log .error (heading ++ (← f.text))

def create (d : Deployer) (code initPayload : Value) : Action (Option Deployment) :=
  (some <$> d.deploy code initPayload).handling fun f => do
    logFault "🚀 create_program ~ error: " f
    return none

end Deployer

end ProgramDeploy
