import Mathlib
import ProgramDeploy.Proofs.FaultOrigins
import ProgramDeploy.Proofs.DeployableConfigs
import ProgramDeploy.Run

namespace ProgramDeploy

open ProgramDeploy.Action

variable {w : World}

namespace Client

variable {α : Type} {Q : α → Prop} (c : Client)

theorem accounts_connect : Accounts w (fun s => ∃ n, s = w.network.session n) c.connect := by
  refine .keyless_bind (Value.keyless_shown _) fun provider _ => ?_
  refine .log_bind (by decide) ?_
  have hsession : Accounts w (fun s => ∃ n, s = w.network.session n) nextSession :=
    ⟨⟨by simp, fun n _ h => ⟨n, (Except.ok.inj h).symm⟩⟩, fun _ => .ok _⟩
  apply hsession.bind
  rintro s ⟨n, rfl⟩
  refine (accounts_callUnit rfl fun f hf => ?_).bind fun _ _ => accounts_pure ⟨n, rfl⟩
  exact .inr (.raised (.connect hf))

theorem accounts_withSession {body : Script → Action α}
    (hbody : ∀ n, Accounts w Q (body (w.network.session n))) : Accounts w Q (c.withSession body) := by
  apply c.accounts_connect.bind
  rintro s ⟨n, rfl⟩
  exact (hbody n).ensuring (accounts_callUnit rfl fun f hf => .inr (.raised (.close hf)))

theorem accounts_requestResult (n : Nat) (method : String) :
    Accounted w (requestResult (w.network.session n) method) := by
  refine (accounts_call rfl (Network.accountable_of_failureIn (c := .request method) rfl)).bind ?_
  exact fun response _ => accounts_keyless (Value.keyless_fieldOrNull _ _) fun _ _ => trivial

theorem accounts_reportNodeInfo : Accounted w c.reportNodeInfo := by
  have hinfo : Accounted w c.nodeInfo := by
    apply Accounts.inWorker
    apply c.accounts_withSession
    intro n
    refine (accounts_requestResult n _).bind fun chain _ => ?_
    refine (accounts_requestResult n _).bind fun name _ => ?_
    exact (accounts_requestResult n _).bind fun version _ => accounts_pure trivial
  apply hinfo.bind
  intro info _
  refine .keyless_bind (Value.keyless_shown _) fun chain _ => ?_
  refine .keyless_bind (Value.keyless_shown _) fun name _ => ?_
  refine .keyless_bind (Value.keyless_shown _) fun version _ => ?_
  exact .log_bind (by decide) (accounts_pure trivial)

theorem accounts_freeBalance (address : Value) : Accounted w (c.freeBalance address) := by
  have hinfo : Accounts w (fun info => ∃ n, (w.network.session n).accountInfo = .ok info)
      (c.withSession fun s => call (.query address) s.accountInfo) := by
    apply c.accounts_withSession
    intro n
    exact (accounts_call rfl (Network.accountable_of_failureIn (c := .query) rfl)).mono fun _ h => ⟨n, h⟩
  apply hinfo.bind
  rintro info ⟨n, hanswered⟩
  -- What is missing from here on is missing in what the node has answered.
  have hdata : FailsWith (Fault.Accountable w.network) (info.field "data") := by
    intro f hf
    exact .inr (.balance hanswered (by rw [hf]; rfl))
  refine (accounts_liftM hdata fun _ h => h).bind fun data hd => ?_
  have hfree : FailsWith (Fault.Accountable w.network) (data.field "free") := by
    intro f hf
    exact .inr (.balance hanswered (by rw [hd]; exact hf))
  refine (accounts_liftM hfree fun _ h => h).bind fun free _ => ?_
  exact accounts_keyless (Value.keyless_toInteger _) fun _ _ => trivial

end Client

theorem Artifact.accounts_load (path : Value) : Accounted w (load path) := by
  apply Accounts.world_bind
  refine .keyless_bind (Files.keyless_contains _ _) fun found _ => ?_
  split
  · refine .keyless_bind (Value.keyless_shown _) fun shown _ => ?_
    exact .throw_bind ⟨rfl, nofun⟩
  · refine .keyless_bind (Files.keyless_read _ _) fun code _ => ?_
    split
    · refine .keyless_bind (Value.keyless_shown _) fun shown _ => ?_
      exact .throw_bind ⟨rfl, nofun⟩
    · refine .keyless_bind (Value.keyless_shown _) fun shown _ => ?_
      exact .log_bind (by decide) (accounts_pure trivial)

namespace RouterInit

theorem accounts_encodeConfigured (router : Value) :
    Accounted w (encodeConfigured router) := by
  refine .keyless_bind (keyless_namesBoth _) fun both hboth => ?_
  cases both with
  | false => exact .throw_bind ⟨rfl, nofun⟩
  | true =>
    -- Both names have been asked for, so both are found, each of the two times.
    obtain ⟨hfactory, hwvara⟩ := contains_of_namesBoth hboth
    have hfactory := Value.keyless_field_of_contains hfactory
    have hwvara := Value.keyless_field_of_contains hwvara
    refine .keyless_bind hfactory fun factory _ => ?_
    refine .keyless_bind (Value.keyless_shown _) fun shownFactory _ => ?_
    refine .keyless_bind hwvara fun wvara _ => ?_
    refine .keyless_bind (Value.keyless_shown _) fun shownWvara _ => ?_
    refine .log_bind (by decide) ?_
    refine .keyless_bind hfactory fun factory _ => ?_
    refine .keyless_bind hwvara fun wvara _ => ?_
    refine .keyless_bind (keyless_payload _ _) fun bs _ => ?_
    exact .log_bind (by decide) (accounts_pure trivial)

theorem accounts_resolve (program : Value) : Accounted w (resolve program) := by
  refine .keyless_bind (Value.keyless_fieldOrNull _ _) fun router _ => ?_
  split
  · exact (accounts_encodeConfigured router).bind fun _ _ => accounts_pure trivial
  · exact accounts_keyless (Value.keyless_fieldOrNull _ _) fun _ _ => trivial

end RouterInit

namespace Config

theorem accounts_loadFile (outer : Nat) (path : Value) : Accounted w (loadFile outer path) := by
  have hshown := Value.keyless_shown path
  apply Accounts.world_bind
  refine .keyless_bind (Files.keyless_contains _ _) fun found _ => ?_
  split
  · refine .keyless_bind (Files.keyless_read _ _) fun content _ => ?_
    refine .keyless_bind (keyless_documentOf _ _) fun document _ => ?_
    refine .keyless_bind (keyless_overlayDocument _ _) fun c _ => ?_
    exact .keyless_bind hshown fun _ _ => .log_bind (by decide) (accounts_pure trivial)
  · exact .keyless_bind hshown fun _ _ => .log_bind (by decide) (accounts_pure trivial)

theorem accounts_dropSecrets (path : Value) (c : Config) (keys : List String) :
    Accounted w (dropSecrets path c keys) := by
  induction keys generalizing c with
  | nil => exact accounts_pure trivial
  | cons key keys ih =>
    unfold dropSecrets
    dsimp only
    split
    · exact .keyless_bind (Value.keyless_shown _) fun _ _ => .log_bind (by decide) (ih _)
    · exact ih _

theorem accounts_load (outer : Nat) (path : Value) :
    Accounts w (fun c => ∃ n, ((load outer path).run w n).result = .ok c) (load outer path) := by
  apply Accounts.returning (Q := fun _ => True)
  refine (accounts_loadFile outer path).bind fun c _ => ?_
  refine (accounts_dropSecrets path c secretKeys).bind fun c _ => ?_
  apply Accounts.world_bind
  exact accounts_keyless (keyless_overrideAll _ _) fun _ _ => trivial

end Config

theorem Wallet.accounts_deployer {config : Value} (h : Keyless (derive config)) :
    Accounted w (deployer config) := by
  have hrun (n : Nat) : ((deployer config).run w n).result = (derive config).map (·.1) ∧
      ∀ e ∈ ((deployer config).run w n).trace, e.Tells w := by
    rw [run_deployer]
    cases derive config with
    | error f => simp [Except.map]
    | ok made => simp [Except.map, accountLine, Event.Tells]
  refine ⟨⟨fun n => (hrun n).2, fun _ _ _ => trivial⟩, fun n f hf => .inl ?_⟩
  rw [(hrun n).1] at hf
  cases hd : derive config with
  | ok made => simp [hd, Except.map] at hf
  | error g =>
    simp only [hd, Except.map, Except.error.injEq] at hf
    exact hf ▸ h g hd

namespace Deployer

theorem accounts_logFault {heading : String} (hheading : IsHeading w heading) {f : Fault}
    (hf : f.Accountable w.network) : Accounted w (logFault heading f) :=
  .keyless_bind (Fault.keyless_text f) fun _ htext => accounts_log fun _ => .fault hheading hf htext

def IsReported (w : World) (u : Upload) : Prop :=
  isNull u.blockHash = true ∨ ∃ n, (w.network.session n).receipt.errorMessage = .ok u.errorMessage

theorem accounts_readReceipt (n : Nat) :
    Accounts w (IsReported w) (readReceipt (w.network.session n).receipt) := by
  have hread (field : ReceiptField) {answer : Answer}
      (h : (w.network.session n).failure? (.read field) = failureIn answer) :
      Accounts w (answer = .ok ·) (call (.read field) answer) :=
    accounts_call rfl (Network.accountable_of_failureIn h)
  unfold readReceipt
  split
  · exact accounts_pure (.inl rfl)
  · refine (hread .isSuccess rfl).bind fun isSuccess _ => ?_
    refine (hread .errorMessage rfl).bind fun reason hreason => ?_
    refine (hread .triggeredEvents rfl).bind fun events _ => ?_
    exact .keyless_bind (Value.keyless_items _) fun _ _ => accounts_pure (.inr ⟨n, hreason⟩)

theorem accounts_reportUpload (programId : String) {u : Upload} (h : IsReported w u)
    (hblock : isNull u.blockHash = false) : Accounted w (reportUpload programId u) := by
  obtain hnull | ⟨n, hreason⟩ := h
  · simp [hblock] at hnull
  refine (accounts_forM _ fun event _ => ?_).bind fun _ _ => ?_
  · exact .keyless_bind (Value.keyless_shown _) fun _ _ => accounts_log nofun
  split
  · refine .log_bind (by decide) ?_
    exact .keyless_bind (Value.keyless_shown _) fun _ _ => accounts_log nofun
  · exact .keyless_bind (Value.keyless_shown _) fun _ hshown => accounts_log fun _ => .upload hreason hshown

theorem sections_of_ofConfig {client : Option Client} {config : Value} {d : Deployer}
    (h : ofConfig client config = .ok d) :
    d.config = config ∧ config.field "program" = .ok d.program ∧ config.field "submission" = .ok d.submission := by
  simp only [ofConfig, bind_eq_ok_iff, pure_eq_ok_iff] at h
  obtain ⟨program, hprogram, submission, hsubmission, rfl⟩ := h
  exact ⟨rfl, hprogram, hsubmission⟩

section Configured

variable {c : Config} (hc : c.Complete) {client : Option Client} {d : Deployer}
  (hd : ofConfig client c.toValue = .ok d)

include hc hd

theorem accounts_buildProgram (code initPayload : Value) :
    Accounted w (d.buildProgram code initPayload) := by
  obtain ⟨-, hprogram, -⟩ := sections_of_ofConfig hd
  refine .keyless_bind (hc.keyless_field (by decide) rfl hprogram) fun gasLimit _ => ?_
  refine .keyless_bind (hc.keyless_field (by decide) rfl hprogram) fun value _ => ?_
  apply Accounts.world_bind
  exact accounts_keyless (Program.keyless_build _ _ _ _ _ _) fun _ _ => trivial

theorem accounts_uploadIn (p : Program) (signer : Account) (n : Nat) :
    Accounts w (IsReported w) (d.uploadIn p.toValue signer (w.network.session n)) := by
  obtain ⟨-, -, hsubmission⟩ := sections_of_ofConfig hd
  have hcall (call : Call) {e : Event} {failure : Option Fault} (he : e.isCall = true)
      (h : (w.network.session n).failure? call = failure) : Accounted w (callUnit e failure) :=
    accounts_callUnit he fun f hf => .inr (.raised (.call (h.trans hf)))
  refine .keyless_bind (Value.keyless_fieldOrNull _ _) fun keepAlive _ => ?_
  refine Accounts.bind (Q := fun _ => True) ?_ fun _ _ => ?_
  · refine .keyless_bind (p.keyless_ofValue keepAlive) fun call _ => ?_
    refine .keyless_bind (p.keyless_summary call) fun summary _ => ?_
    refine .log_bind (by decide) ?_
    exact (hcall .compose rfl rfl).bind fun _ _ => accounts_pure trivial
  · refine (hcall .sign rfl rfl).bind fun _ _ => ?_
    refine .log_bind (by decide) ?_
    refine .keyless_bind (hc.keyless_field (by decide) rfl hsubmission) fun inclusion _ => ?_
    refine .keyless_bind (hc.keyless_field (by decide) rfl hsubmission) fun finalization _ => ?_
    exact (hcall .submit rfl rfl).bind fun _ _ => accounts_readReceipt n

theorem accounts_upload (p : Program) (signer : Account) :
    Accounts w (IsReported w) (d.upload p.toValue signer) := by
  unfold upload
  split
  · exact accounts_throw (.inl ⟨rfl, nofun⟩)
  · rename_i client' _
    exact (client'.accounts_withSession (accounts_uploadIn hc hd p signer)).inWorker

theorem accounts_deploy (code initPayload : Value) :
    Accounted w (d.deploy code initPayload) := by
  obtain ⟨hconfig, -, -⟩ := sections_of_ofConfig hd
  refine (accounts_buildProgram hc hd code initPayload).bind fun p _ => ?_
  rw [hconfig]
  refine (Wallet.accounts_deployer hc.keyless_derive).bind fun signer _ => ?_
  refine .keyless_bind (Program.keyless_compute _ _) fun programId _ => ?_
  refine .keyless_bind (Value.keyless_toBytes _) fun salt _ => ?_
  refine .log_bind (by decide) (.log_bind (by decide) (.log_bind (by decide) ?_))
  refine (accounts_upload hc hd p signer).bind fun u hu => ?_
  refine .keyless_bind (Value.keyless_shown _) fun hash _ => ?_
  refine .log_bind (by decide) ?_
  cases hnull : isNull u.blockHash with
  | true => exact accounts_pure trivial
  | false => exact (accounts_reportUpload _ hu hnull).bind fun _ _ => accounts_pure trivial

theorem accounts_create (code initPayload : Value) :
    Accounted w (d.create code initPayload) := by
  refine ((accounts_deploy hc hd code initPayload).map fun _ _ => trivial).handling fun f hf => ?_
  exact (accounts_logFault .creation hf).bind fun _ _ => accounts_pure trivial

end Configured

end Deployer

namespace Config.Complete

variable {c : Config} (hc : c.Complete)

include hc

theorem keyless_client : Keyless (Client.ofConfig c.toValue) := by
  refine (hc.keyless_section (by decide)).bind fun node hnode => ?_
  refine (hc.keyless_field (by decide) rfl hnode).bind fun provider _ => ?_
  refine (hc.keyless_section (by decide)).bind fun node hnode => ?_
  exact (hc.keyless_field (by decide) rfl hnode).bind fun format _ => .ok _

theorem keyless_shownProvider : Keyless (Preflight.shownProvider c.toValue) := by
  refine (hc.keyless_section (by decide)).bind fun node hnode => ?_
  refine (hc.keyless_field (by decide) rfl hnode).bind fun provider _ => ?_
  exact Value.keyless_shown _

end Config.Complete

theorem Run.accounts_deploy (outer : Nat) (path : Value) : Accounted w (deploy outer path) := by
  refine (Config.accounts_load _ path).bind ?_
  rintro c ⟨n, hload⟩
  have hc := Config.complete_of_load hload
  refine .keyless_bind (hc.keyless_section (by decide)) fun program hprogram => ?_
  refine .keyless_bind (hc.keyless_field (by decide) rfl hprogram) fun artifact _ => ?_
  refine (Artifact.accounts_load artifact).bind fun code _ => ?_
  refine .keyless_bind (hc.keyless_section (by decide)) fun program _ => ?_
  refine (RouterInit.accounts_resolve program).bind fun payload _ => ?_
  refine .keyless_bind hc.keyless_client fun client _ => ?_
  refine client.accounts_reportNodeInfo.bind fun _ _ => ?_
  refine .keyless_bind (keyless_of_eq_ok (hc.deployer_ofConfig (some client))) fun d hd => ?_
  exact Deployer.accounts_create hc hd _ payload

theorem Run.accounts_command : Accounted w command := by
  refine ((accounts_deploy _ _).map fun _ _ => trivial).continueWith (Q := fun _ => True) ?_ ?_
  · exact fun _ _ => accounts_pure trivial
  · intro f hf
    dsimp only
    split
    · exact .log_bind (by decide) (accounts_pure trivial)
    · exact (Deployer.accounts_logFault .deployment hf).bind fun _ _ => accounts_pure trivial

namespace Preflight

theorem accounts_checkEnvironment : Accounted w checkEnvironment := by
  refine .log_bind (by decide) (.world_bind ?_)
  split
  · exact (accounts_log fun _ => .noSecret).bind fun _ _ => accounts_pure trivial
  · exact .log_bind (by decide) (accounts_pure trivial)

section Loaded

variable {outer n : Nat} {path : Value} {c : Config} (hload : ((Config.load outer path).run w n).result = .ok c)

include hload

theorem accounts_checkNode : Accounted w (checkNode c.toValue) := by
  have hc := Config.complete_of_load hload
  refine .log_bind (by decide) (.keyless_bind hc.keyless_client fun client _ => ?_)
  have hanswered : Accounted w ((fun _ => true) <$> client.reportNodeInfo) :=
    client.accounts_reportNodeInfo.map fun _ _ => trivial
  refine (hanswered.handling fun f hf => ?_).bind fun answered _ => ?_
  · refine .keyless_bind hc.keyless_shownProvider fun provider hprovider => ?_
    refine .keyless_bind (Fault.keyless_text f) fun text htext => ?_
    refine (accounts_log fun _ => ?_).bind fun _ _ => accounts_pure trivial
    exact .fault (.node hload hprovider) hf htext
  · split
    · refine .keyless_bind hc.keyless_shownProvider fun provider _ => ?_
      exact .log_bind (by decide) (accounts_pure trivial)
    · exact accounts_pure trivial

theorem accounts_checkArtifact : Accounted w (checkArtifact c.toValue) := by
  have hc := Config.complete_of_load hload
  refine .log_bind (by decide) ?_
  refine .keyless_bind (hc.keyless_section (by decide)) fun program hprogram => ?_
  refine .keyless_bind (hc.keyless_field (by decide) rfl hprogram) fun artifact _ => ?_
  have hfound : Accounted w ((fun _ => true) <$> Artifact.load artifact) :=
    (Artifact.accounts_load artifact).map fun _ _ => trivial
  refine Accounts.bind (Q := fun _ => True) ?_ fun loaded _ => ?_
  · refine hfound.continueWith (fun _ _ => accounts_pure trivial) fun f hf => ?_
    dsimp only
    split
    · refine (Deployer.accounts_logFault .artifact hf).bind fun _ _ => ?_
      exact .log_bind (by decide) (accounts_pure trivial)
    · exact accounts_throw hf
  · split
    · refine .keyless_bind (Value.keyless_shown _) fun shown _ => ?_
      exact .log_bind (by decide) (accounts_pure trivial)
    · exact accounts_pure trivial

theorem accounts_checkBalance : Accounted w (checkBalance c.toValue) := by
  have hc := Config.complete_of_load hload
  refine .log_bind (by decide) ?_
  refine (Wallet.accounts_deployer hc.keyless_derive).bind fun account _ => ?_
  refine .keyless_bind hc.keyless_client fun client _ => ?_
  refine (client.accounts_freeBalance _).bind fun balance _ => ?_
  refine .keyless_bind (Value.keyless_shown _) fun shown _ => .log_bind (by decide) ?_
  refine .keyless_bind (hc.keyless_section (by decide)) fun program hprogram => ?_
  refine .keyless_bind (hc.keyless_field (by decide) rfl hprogram) fun value _ => ?_
  refine .keyless_bind (Value.keyless_atLeast _ _) fun covered _ => ?_
  split
  · refine .keyless_bind (hc.keyless_section (by decide)) fun program hprogram => ?_
    refine .keyless_bind (hc.keyless_field (by decide) rfl hprogram) fun value _ => ?_
    refine .keyless_bind (Value.keyless_shown _) fun shown _ => ?_
    exact .log_bind (by decide) (accounts_pure trivial)
  · exact .log_bind (by decide) (accounts_pure trivial)

end Loaded

theorem accounts_runChecks {named : List (String × Action Bool)}
    (hnamed : ∀ entry ∈ named, IsHeading w ("Error in " ++ entry.1 ++ ": ") ∧ Accounted w entry.2) :
    Accounted w (runChecks named) := by
  induction named with
  | nil => exact accounts_pure trivial
  | cons entry rest ih =>
    obtain ⟨⟨hheading, hcheck⟩, hrest⟩ := List.forall_mem_cons.mp hnamed
    have hrun : Accounted w (runCheck entry.1 entry.2) := by
      refine .log_bind (by decide) ?_
      refine (hcheck.handling fun f hf => ?_).bind fun _ _ => accounts_pure trivial
      exact (Deployer.accounts_logFault hheading hf).bind fun _ _ => accounts_pure trivial
    exact hrun.bind fun _ _ => (ih hrest).bind fun _ _ => accounts_pure trivial

theorem accounts_heading (text : String) : Accounted w (heading text) :=
  .log_bind (by decide) (.log_bind (by decide) (accounts_log nofun))

theorem accounts_summarize (results : List (String × Bool)) : Accounted w (summarize results) := by
  refine .log_bind (by decide) ((accounts_heading _).bind fun _ _ => ?_)
  refine (accounts_forM results fun result _ => ?_).bind fun _ _ => ?_
  · exact accounts_log nofun
  · exact .log_bind (by decide) (accounts_log nofun)

theorem accounts_command : Accounted w command := by
  refine (accounts_heading _).bind fun _ _ => ?_
  refine (Config.accounts_load _ _).bind ?_
  rintro c ⟨n, hload⟩
  have hchecks : Accounted w (runChecks (checks c.toValue)) := by
    apply accounts_runChecks
    simp only [checks, List.forall_mem_cons, List.not_mem_nil, false_imp_iff, implies_true, and_true]
    exact ⟨⟨.check (by decide), accounts_checkEnvironment⟩, ⟨.check (by decide), accounts_checkNode hload⟩,
      ⟨.check (by decide), accounts_checkArtifact hload⟩, .check (by decide), accounts_checkBalance hload⟩
  refine hchecks.bind fun results _ => (accounts_summarize results).bind fun _ _ => ?_
  split
  · exact .log_bind (by decide) (accounts_pure trivial)
  · exact (accounts_log fun _ => .notReady).bind fun _ _ => accounts_pure trivial

end Preflight

namespace Config

theorem Complete.exists_table {c : Config} (hc : c.Complete) {name key : String}
    (hkey : (default.setting name key).isSome = true) :
    ∃ s v, c.toValue.field name = .ok (.dict s) ∧ (Value.dict s).field key = .ok v := by
  obtain ⟨u, hu⟩ := Option.isSome_iff_exists.mp hkey
  obtain ⟨v, hv⟩ := hc.exists_field hkey
  exact ⟨_, v, hc.field_toValue (mem_names_of_setting hu), hv⟩

end Config

/-- A loaded configuration is made of sections and has every setting of the defaults. A deployment and the
checks before it may still end in a missing key, or tell of one in the line of an error, but then a node has
brought that about; and no other fault reads like a missing key. -/
theorem no_setting_is_missing (w : World) (n : Nat) :
    (∀ outer path c, ((Config.load outer path).run w n).result = .ok c →
      (∃ t, c.toValue = .dict t ∧ ∀ e ∈ t, ∃ s, e.2 = .dict s) ∧
        ∀ name key : String, (Config.default.setting name key).isSome = true →
          ∃ s v, c.toValue.field name = .ok (.dict s) ∧ (Value.dict s).field key = .ok v) ∧
      (∀ outer path, ((Run.deploy outer path).run w n).IsAccounted w) ∧
      (Run.command.run w n).IsAccounted w ∧ (Preflight.command.run w n).IsAccounted w ∧
      ∀ f name, f.Accountable w.network → ¬ Text.HasBlank name →
        f.text = (Fault.missingKey (Text.quoted name)).text → w.network.Causes f := by
  refine ⟨fun outer path c hload => ⟨⟨_, rfl, fun e he => ?_⟩, fun name key hkey => ?_⟩, fun outer path => ?_,
    Run.accounts_command.isAccounted n, Preflight.accounts_command.isAccounted n, fun f name hf hname htext => ?_⟩
  · obtain ⟨s, -, rfl⟩ := List.mem_map.mp he
    exact ⟨s.2, rfl⟩
  · exact (Config.complete_of_load hload).exists_table hkey
  · exact (Run.accounts_deploy outer path).isAccounted n
  · exact hf.causes_of_text hname htext

namespace Refused

def content : Bytes :=
  Text.Utf8.encode "\x7b\"program\":[[\"wasm_path\",\"dex.wasm\"]]\x7d"

def files : Files :=
  ⟨[([Text.Utf8.encode "deploy.json"], .file content), ([Text.Utf8.encode "dex.wasm"], .file [0])]⟩

def refusal : Fault :=
  .raised .key [.text "node"] []

def world : World :=
  ⟨files, fun _ => none, [7], [{ Script.plain with connect := some refusal }]⟩

def loaded : Config :=
  Config.default.modify "program" fun t => t.set (.text "wasm_path") (.text "dex.wasm")

end Refused

theorem no_setting_is_missing_refused :
    ((Config.load 9 (.text "deploy.json")).run Refused.world 0).result = .ok Refused.loaded ∧
      (∃ s v, Refused.loaded.toValue.field "program" = .ok (.dict s) ∧
        (Value.dict s).field "gas_limit" = .ok v) ∧
      ((Run.deploy 0 (.text "deploy.json")).run Refused.world 0).result = .error Refused.refusal ∧
      Refused.refusal.kind = .key ∧ Refused.world.network.Causes Refused.refusal := by
  obtain ⟨hloads, hdeploys, -, -, hkeys⟩ := no_setting_is_missing Refused.world 0
  have hload : ((Config.load 9 (.text "deploy.json")).run Refused.world 0).result = .ok Refused.loaded := by
    cbv
  have hresult : ((Run.deploy 0 (.text "deploy.json")).run Refused.world 0).result =
      .error Refused.refusal := by
    cbv
  refine ⟨hload, (hloads 9 _ _ hload).2 "program" "gas_limit" rfl, hresult, rfl, ?_⟩
  exact hkeys _ "node" ((hdeploys 0 _).fails _ hresult) (by decide +kernel) rfl

end ProgramDeploy
