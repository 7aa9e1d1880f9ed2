import ProgramDeploy.Preflight
import ProgramDeploy.Run
import ProgramDeploy.Value.Edit

/-!
A console: a working directory, an environment and a network that steps change one after the
other, with at most one configuration, client and deployer at hand. A deployer holds on to the
configuration that it was made with. Edits inside that configuration reach it; a section that is
replaced, and a configuration that is loaded, do not.
-/

namespace ProgramDeploy

/-- What a deployer holds on to: the part of the current configuration where it stands, or a part
that is no longer in it. -/
inductive Held where
  | live
  | kept (v : Value)

def Held.value (h : Held) (current : Value) : Value :=
  match h with
  | live => current
  | kept v => v

def Held.keep (h : Held) (current : Value) : Held :=
  .kept (h.value current)

structure StandingDeployer where
  client : Option Client
  config : Held
  program : Held
  submission : Held

inductive Reply where
  | value (v : Value)
  | account (a : Account)
  | exit (code : Nat)
  | call

namespace Console

structure State where
  files : Files
  environment : Environment
  network : Network
  opened : Nat
  config : Value
  client : Option Client
  deployer : Option StandingDeployer

def State.start (files : Files) (environment : Environment) (network : Network) : State :=
  ⟨files, environment, network, 0, .null, none, none⟩

inductive Operation where
  | toHex (data : Value)
  | generateSalt
  | computeCodeId (code : Value)
  | computeProgramId (codeId salt : Value)
  | encodePayload (payload : Value)
  | buildProgram (code initPayload gasLimit value salt : Value)
  | composeUploadCall (program keepAlive : Value)
  | decodeActorId (address : Value)
  | encodeRouterInit (factory wvara : Value)
  | resolveInitPayload (program : Value)
  | accountFromSeed (seed name format : Value)
  | accountFromMnemonic (mnemonic name format : Value)
  | accountFromUri (suri name format : Value)
  | loadDeployerAccount (config : Option Value)
  | loadArtifact (path : Value)
  | loadConfig (path : Value)
  | reportNodeInfo (client : Client)
  | nodeInfo (client : Client)
  | freeBalance (client : Client) (address : Value)
  | createProgram (config : Option Value) (code initPayload : Value)
  | runDeployment (path : Value)
  | deployCommand
  | preflightCommand
  | checkEnvironment
  | checkNode (config : Option Value)
  | checkArtifact (config : Option Value)
  | checkBalance (config : Option Value)

inductive Step where
  | operate (entropy : Entropy) (operation : Operation)
  | newClient (client : Client)
  | newDeployer
  | showConfig
  | editConfig (path : List Value) (change : Value.Change)
  | writeFile (path : String) (content : Bytes)
  | addDirectory (path : String)
  | deleteFile (path : String)
  | setEnvironment (environment : Environment)
  | setNetwork (network : Network)

structure Response where
  result : Except Fault Reply
  trace : List Event

def sectionOf (config : Value) (name : String) : Value :=
  match config.field name with
  | .ok v => v
  | .error _ => .null

def standing (config : Value) (d : StandingDeployer) : Deployer :=
  ⟨d.client, d.config.value config, d.program.value (sectionOf config "program"),
    d.submission.value (sectionOf config "submission")⟩

def deployerFor (s : State) (config : Option Value) : Except Fault Deployer :=
  match s.deployer with
  | some d => .ok (standing s.config d)
  | none => Deployer.ofConfig (some (s.client.getD Client.default)) (config.getD s.config)

def ofBool (b : Bool) : Reply :=
  .value (.bool b)

def ofDeployment (d : Option Deployment) : Reply :=
  .value ((d.map Deployment.toValue).getD .null)

def perform (s : State) : Operation → Action Reply
  | .toHex data => do return .value (.text (Hex.marked (← data.toBytes)))
  | .generateSalt => do return .value (.bytes (Program.drawSalt (← Action.world).entropy))
  | .computeCodeId code => do return .value (.bytes (← CodeId.compute code))
  | .computeProgramId codeId salt => do
    return .value (.bytes (← ProgramId.compute codeId salt))
  | .encodePayload payload => do return .value (.bytes (← Payload.encode payload))
  | .buildProgram code initPayload gasLimit value salt => do
    let w ← Action.world
    return .value (← Program.build code initPayload gasLimit value salt w.entropy).toValue
  | .composeUploadCall program keepAlive => do
    let _ ← Deployer.composeUpload (← Action.nextSession) program keepAlive
    return .call
  | .decodeActorId address => do return .value (.bytes (← ActorId.decode address))
  | .encodeRouterInit factory wvara => do
    return .value (.bytes (← RouterInit.encode factory wvara))
  | .resolveInitPayload program => do return .value (← RouterInit.resolve program)
  | .accountFromSeed seed name format => do
    return .account (← Wallet.fromSeed seed name format)
  | .accountFromMnemonic mnemonic name format => do
    return .account (← Wallet.fromMnemonic mnemonic name format)
  | .accountFromUri suri name format => do return .account (← Wallet.fromUri suri name format)
  | .loadDeployerAccount config => do
    return .account (← Wallet.deployer (config.getD s.config))
  | .loadArtifact path => do return .value (.bytes (← Artifact.load path))
  | .loadConfig path => do return .value (← Config.load 0 path).toValue
  | .reportNodeInfo client => do
    return .value (← (s.client.getD client).reportNodeInfo).toValue
  | .nodeInfo client => do return .value (← (s.client.getD client).nodeInfo).toValue
  | .freeBalance client address => do
    return .value (.int (← (s.client.getD client).freeBalance address))
  | .createProgram config code initPayload => do
    let d ← deployerFor s config
    return ofDeployment (← d.create code initPayload)
  | .runDeployment path => do return ofDeployment (← Run.deploy 0 path)
  | .deployCommand => do return .exit (← Run.command)
  | .preflightCommand => do return .exit (← Preflight.command)
  | .checkEnvironment => do return ofBool (← Preflight.checkEnvironment)
  | .checkNode config => do return ofBool (← Preflight.checkNode (config.getD s.config))
  | .checkArtifact config => do
    return ofBool (← Preflight.checkArtifact (config.getD s.config))
  | .checkBalance config => do
    return ofBool (← Preflight.checkBalance (config.getD s.config))

def replaceConfig (s : State) (config : Value) : State :=
  let keep (d : StandingDeployer) : StandingDeployer :=
    ⟨d.client, d.config.keep s.config, d.program.keep (sectionOf s.config "program"),
      d.submission.keep (sectionOf s.config "submission")⟩
  { s with config, deployer := s.deployer.map keep }

def editConfig (s : State) (path : List Value) (config : Value) : State :=
  let keep (name : String) (h : Held) : Held :=
    match path with
    | [key] => if key.isText name then h.keep (sectionOf s.config name) else h
    | _ => h
  let follow (d : StandingDeployer) : StandingDeployer :=
    { d with program := keep "program" d.program, submission := keep "submission" d.submission }
  { s with config, deployer := s.deployer.map follow }

def afterOperation (s : State) (operation : Operation) (result : Except Fault Reply) : State :=
  match operation, result with
  | .loadConfig _, .ok (.value config) => replaceConfig s config
  | _, _ => s

def silent (result : Except Fault Reply) : Response :=
  ⟨result, []⟩

def nothing : Response :=
  silent (.ok (.value .null))

def changeFiles (s : State) (update : Files.Update Unit) : Response × State :=
  (silent ((update.run.run s.files).1.map fun _ => .value .null),
    { s with files := s.files.after update })

/-- One step: its answer, and what is at hand after it. A step that fails changes nothing but the
number of sessions, and the files as far as it came with them. -/
def step (s : State) : Step → Response × State
  | .operate entropy operation =>
    let o := (perform s operation).run ⟨s.files, s.environment, entropy, s.network⟩ s.opened
    (⟨o.result, o.trace⟩, afterOperation { s with opened := o.opened } operation o.result)
  | .newClient client =>
    (silent (.ok (.value client.toValue)), { s with client := some client })
  | .newDeployer =>
    match Deployer.ofConfig s.client s.config with
    | .ok d => (nothing, { s with deployer := some ⟨d.client, .live, .live, .live⟩ })
    | .error f => (silent (.error f), s)
  | .showConfig => (silent (.ok (.value s.config)), s)
  | .editConfig path change =>
    match s.config.edit change path with
    | .ok config => (silent (.ok (.value config)), editConfig s path config)
    | .error f => (silent (.error f), s)
  | .writeFile path content => changeFiles s (Files.write path content)
  | .addDirectory path => changeFiles s (Files.addDirectory path)
  | .deleteFile path => changeFiles s (Files.remove path)
  | .setEnvironment environment => (nothing, { s with environment })
  | .setNetwork network => (nothing, { s with network, opened := 0 })

def run (s : State) : List Step → List Response
  | [] => []
  | step :: steps =>
    let (r, s) := Console.step s step
    r :: run s steps

end Console

end ProgramDeploy
