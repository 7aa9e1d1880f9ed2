import ProgramDeploy.Console
import ProgramDeploy.Proofs.UploadSession

namespace ProgramDeploy

open ProgramDeploy.Action

namespace Client

theorem opens_nodeInfo (c : Client) : c.nodeInfo.Opens [.info] := by
  apply Opens.inWorker
  apply c.opens_withSession
  exact fun s => (performs_queryNodeInfo s).serves fun _ h => h

theorem opens_reportNodeInfo (c : Client) : c.reportNodeInfo.Opens [.info] := by
  apply c.opens_nodeInfo.bind
  grind

theorem opens_freeBalance (c : Client) (address : Value) : (c.freeBalance address).Opens [.balance] := by
  have hquery (s : Script) : Serves s .balance (Action.call (.query address) s.accountInfo) :=
    fun w n => ⟨rfl, [.query], rfl, by simp, rfl⟩
  apply (c.opens_withSession hquery).bind
  grind

end Client

@[grind .] theorem Wallet.opens_report (made : Except Fault Account) (name : Value) :
    (report made name).Opens [] := by
  unfold report
  grind

@[grind .] theorem Wallet.opens_deployer (config : Value) : (deployer config).Opens [] := by
  unfold deployer fromMnemonic fromSeed
  grind

namespace Deployer

theorem opens_upload (d : Deployer) (program : Value) (signer : Account) :
    (d.upload program signer).Opens [.upload] := by
  unfold upload
  split
  · exact (opens_throw _).of_quiet _
  · apply Opens.inWorker
    apply Client.opens_withSession
    exact fun s => (d.performs_uploadIn program signer s).serves fun _ h => h

@[grind .] theorem opens_logFault (heading : String) (f : Fault) : (logFault heading f).Opens [] := by
  unfold logFault
  grind

@[grind .] theorem opens_reportUpload (programId : String) (u : Upload) :
    (reportUpload programId u).Opens [] := by
  unfold reportUpload
  grind

theorem opens_deploy (d : Deployer) (code initPayload : Value) :
    (d.deploy code initPayload).Opens [.upload] := by
  have hbuild : (d.buildProgram code initPayload).Opens [] := by
    unfold buildProgram
    grind
  apply hbuild.bind
  intro p
  apply (Wallet.opens_deployer d.config).bind
  intro signer
  apply (opens_liftM _).bind
  intro programId
  apply (opens_liftM _).bind
  intro salt
  apply (opens_log _ _).bind
  intro _
  apply (opens_log _ _).bind
  intro _
  apply (opens_log _ _).bind
  intro _
  apply (d.opens_upload p.toValue signer).bind
  grind

theorem opens_create (d : Deployer) (code initPayload : Value) :
    (d.create code initPayload).Opens [.upload] := by
  apply ((d.opens_deploy code initPayload).map some).handling
  grind

end Deployer

@[grind .] theorem Artifact.opens_load (path : Value) : (load path).Opens [] := by
  apply opens_world.bind_quiet
  intro w
  apply (opens_liftM _).bind_quiet
  intro found
  split
  · grind
  · apply (opens_liftM _).bind_quiet
    grind

@[grind .] theorem Config.opens_loadFile (outer : Nat) (path : Value) :
    (loadFile outer path).Opens [] := by
  apply opens_world.bind_quiet
  intro w
  apply (opens_liftM _).bind_quiet
  intro found
  split <;> grind

@[grind .] theorem Config.opens_dropSecrets (path : Value) (c : Config) (keys : List String) :
    (c.dropSecrets path keys).Opens [] := by
  induction keys generalizing c with
  | nil => exact opens_pure c
  | cons key keys ih =>
    unfold dropSecrets
    grind

theorem Config.opens_load (outer : Nat) (path : Value) : (load outer path).Opens [] := by
  unfold load
  grind

@[grind .] theorem RouterInit.opens_encode (factory wvara : Value) : (encode factory wvara).Opens [] := by
  unfold encode
  grind

@[grind .] theorem RouterInit.opens_encodeConfigured (router : Value) :
    (encodeConfigured router).Opens [] := by
  apply (opens_liftM _).bind_quiet
  intro both
  split
  · exact (opens_throw _).bind_quiet (by grind)
  · grind

theorem RouterInit.opens_resolve (program : Value) : (resolve program).Opens [] := by
  unfold resolve
  grind

theorem Run.opens_deploy (outer : Nat) (path : Value) : (deploy outer path).Opens [.info, .upload] := by
  apply (Config.opens_load _ path).bind
  intro config
  apply (opens_liftM _).bind
  intro program
  apply (opens_liftM _).bind
  intro artifact
  apply (Artifact.opens_load artifact).bind
  intro code
  apply (opens_liftM _).bind
  intro program
  apply (RouterInit.opens_resolve program).bind
  intro payload
  apply (opens_liftM _).bind
  intro client
  apply client.opens_reportNodeInfo.bind
  intro _
  apply (opens_liftM _).bind
  exact fun d => d.opens_create _ payload

theorem Run.opens_command : command.Opens [.info, .upload] := by
  apply ((opens_deploy _ _).map fun _ => 0).continueWith
  intro x
  cases x with
  | ok code => exact opens_pure code
  | error f =>
    dsimp only
    split <;> grind

namespace Preflight

theorem opens_checkNode (config : Value) : (checkNode config).Opens [.info] := by
  apply (opens_log _ _).bind
  intro _
  apply (opens_liftM _).bind
  intro client
  apply ((client.opens_reportNodeInfo.map _).handling _).bind
  · grind
  · grind

theorem opens_checkBalance (config : Value) : (checkBalance config).Opens [.balance] := by
  apply (opens_log _ _).bind
  intro _
  apply (Wallet.opens_deployer config).bind
  intro account
  apply (opens_liftM _).bind
  intro client
  apply (client.opens_freeBalance _).bind
  intro balance
  refine (opens_liftM _).bind_quiet fun shown => (opens_log _ _).bind_quiet fun _ => ?_
  refine (opens_liftM _).bind_quiet fun program => (opens_liftM _).bind_quiet fun value => ?_
  apply (opens_liftM _).bind_quiet
  intro covered
  split <;> grind

theorem opens_checkEnvironment : checkEnvironment.Opens [] := by
  unfold checkEnvironment
  grind

theorem opens_checkArtifact (config : Value) : (checkArtifact config).Opens [] := by
  apply (opens_log _ _).bind
  intro _
  apply (opens_liftM _).bind
  intro program
  apply (opens_liftM _).bind
  intro path
  apply Opens.bind_quiet
  · apply ((Artifact.opens_load path).map _).continueWith
    intro x
    cases x with
    | ok found => exact opens_pure found
    | error f =>
      dsimp only
      split <;> grind
  · grind

theorem opens_runCheck (name : String) {check : Action Bool} {ps : List Purpose}
    (h : check.Opens ps) : (runCheck name check).Opens ps := by
  apply (opens_log _ _).bind
  intro _
  rw [← List.append_nil ps]
  apply (h.handling _).bind
  · grind
  · grind

theorem opens_runChecks_cons (name : String) {check : Action Bool}
    {rest : List (String × Action Bool)} {ps qs : List Purpose} (h : check.Opens ps)
    (hrest : (runChecks rest).Opens qs) : (runChecks ((name, check) :: rest)).Opens (ps ++ qs) := by
  apply (opens_runCheck name h).bind
  intro result
  rw [← List.append_nil qs]
  exact hrest.bind fun _ => opens_pure _

@[grind .] theorem opens_heading (text : String) : (heading text).Opens [] := by
  unfold heading
  grind

theorem opens_summarize (results : List (String × Bool)) : (summarize results).Opens [] := by
  unfold summarize
  grind

theorem opens_command : command.Opens [.info, .balance] := by
  have hchecks (config : Value) : (runChecks (checks config)).Opens [.info, .balance] :=
    opens_runChecks_cons _ opens_checkEnvironment <|
      opens_runChecks_cons _ (opens_checkNode config) <|
        opens_runChecks_cons _ (opens_checkArtifact config) <|
          opens_runChecks_cons _ (opens_checkBalance config) (opens_pure [])
  apply (opens_heading _).bind
  intro _
  apply (Config.opens_load _ _).bind
  intro config
  apply (hchecks _).bind
  intro results
  apply (opens_summarize results).bind_quiet
  grind

end Preflight

namespace Console

def Operation.purposes : Operation → List Purpose
  | nodeInfo _ | reportNodeInfo _ | checkNode _ => [.info]
  | freeBalance .. | checkBalance _ => [.balance]
  | createProgram .. => [.upload]
  | runDeployment _ | deployCommand => [.info, .upload]
  | preflightCommand => [.info, .balance]
  | _ => []

def Operation.isComposition : Operation → Bool
  | composeUploadCall .. => true
  | _ => false

/-- The calls of an operation are sessions: each is closed as its last call unless it was refused,
none of them overlap, and nothing is called outside of them. -/
theorem calls_of_perform_are_sessions (s : State) (o : Operation) (h : o.isComposition = false) :
    (perform s o).Opens o.purposes := by
  cases o with
  | composeUploadCall => cases h
  | nodeInfo client => exact (Client.opens_nodeInfo _).bind (by grind)
  | reportNodeInfo client => exact (Client.opens_reportNodeInfo _).bind (by grind)
  | freeBalance client address => exact (Client.opens_freeBalance _ _).bind (by grind)
  | createProgram config code initPayload =>
    apply (opens_liftM _).bind
    exact fun d => (d.opens_create code initPayload).bind (by grind)
  | runDeployment path => exact (Run.opens_deploy 0 path).bind (by grind)
  | deployCommand => exact Run.opens_command.bind (by grind)
  | preflightCommand => exact Preflight.opens_command.bind (by grind)
  | checkNode config => exact (Preflight.opens_checkNode _).bind (by grind)
  | checkBalance config => exact (Preflight.opens_checkBalance _).bind (by grind)
  | checkEnvironment => exact Preflight.opens_checkEnvironment.bind_quiet (by grind)
  | checkArtifact config => exact (Preflight.opens_checkArtifact _).bind_quiet (by grind)
  | loadConfig path => exact (Config.opens_load 0 path).bind_quiet (by grind)
  | loadArtifact path => exact (Artifact.opens_load path).bind_quiet (by grind)
  | resolveInitPayload program => exact (RouterInit.opens_resolve program).bind_quiet (by grind)
  | loadDeployerAccount config => exact (Wallet.opens_deployer _).bind_quiet (by grind)
  | accountFromSeed seed name format => exact (Wallet.opens_report _ _).bind_quiet (by grind)
  | accountFromMnemonic mnemonic name format => exact (Wallet.opens_report _ _).bind_quiet (by grind)
  | accountFromUri suri name format => exact (Wallet.opens_report _ _).bind_quiet (by grind)
  | _ => simp only [perform]; grind [Operation.purposes]

def interrupted : Script :=
  { Script.plain with requests := [("system_name", .error (.raised .interrupt [] []))] }

theorem calls_of_nodeInfo_are_sessions :
    let o := (perform (State.start .empty .empty []) (.nodeInfo .default)).run
      ⟨.empty, .empty, [], [interrupted]⟩ 0
    let calls : List Event := [.connect Client.defaultProvider Account.networkFormat,
      .request "system_chain", .request "system_name", .close]
    Operation.isComposition (.nodeInfo .default) = false ∧ o.trace.filter Event.isCall = calls ∧
      o.result.toOption.isNone = true ∧ IsBlock .info interrupted calls := by
  intro o calls
  have hcalls : o.trace.filter Event.isCall = calls := rfl
  have hsessions := calls_of_perform_are_sessions (State.start .empty .empty []) (.nodeInfo .default) rfl
    ⟨.empty, .empty, [], [interrupted]⟩ 0
  refine ⟨rfl, hcalls, rfl, ?_⟩
  rcases hsessions.eq_nil_or_isBlock with hnil | hblock
  · exact absurd (hcalls.symm.trans hnil) (List.cons_ne_nil _ _)
  · exact hcalls ▸ hblock

end Console

end ProgramDeploy
