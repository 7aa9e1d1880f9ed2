import ProgramDeploy.Proofs.ConfiguredSubmission
import ProgramDeploy.Proofs.DeploymentParts
import ProgramDeploy.Proofs.PreflightChecks

namespace ProgramDeploy

open ProgramDeploy.Action

theorem Client.exists_reportNodeInfo {c : Client} {provider : String} {w : World} {n : Nat}
    (hprovider : c.providerAddress.shown = .ok provider) (hconnect : (w.network.session n).connect = none)
    (hclose : (w.network.session n).close = none) (hrequests : (w.network.session n).requests = []) :
    ∃ info, (c.reportNodeInfo.run w n).result = .ok info := by
  have hrequest (method : String) (m : Nat) :
      ((requestResult (w.network.session n) method).run w m).result = .ok (.text method) := by
    have hanswer : (w.network.session n).request method = .ok (Script.echo method) := by
      rw [Script.request, hrequests]
      rfl
    rw [requestResult, hanswer]
    rfl
  have hquery : ((queryNodeInfo (w.network.session n)).run w (n + 1)).result =
      .ok ⟨.text "system_chain", .text "system_name", .text "system_version"⟩ := by
    simp only [queryNodeInfo, result_bind_eq_ok_iff]
    exact ⟨_, hrequest _ _, _, hrequest _ _, _, hrequest _ _, rfl⟩
  have hinfo : (c.nodeInfo.run w n).result =
      .ok ⟨.text "system_chain", .text "system_name", .text "system_version"⟩ := by
    rw [nodeInfo, run_inWorker, run_withSession, hprovider, Outcome.settle_ok, hconnect]
    simp only [hclose, Option.elim_none, hquery, mapError_ok]
  exact ⟨_, (result_bind_eq_ok_iff _ _ _ _).mpr ⟨_, hinfo, rfl⟩⟩

namespace Run

variable {outer : Nat} {path : Value} {w : World} {n : Nat}

theorem isDeployable_of_result {x : Deployment} (h : ((deploy outer path).run w n).result = .ok (some x)) :
    ∃ c, ((Config.load (outer + levels) path).run w n).result = .ok c ∧ c.IsDeployable := by
  obtain ⟨p, hp, hcreation⟩ := exists_found_of_result h
  rcases p.deployer.create_presents (.bytes p.code) p.payload w (n + 1) with
    ⟨-, hnone⟩ | ⟨_, _, _, hdescriptor, -⟩
  · exact absurd hcreation (hnone x)
  · have hcomplete := Config.complete_of_load hp.config
    exact ⟨p.config, hp.config, .of_descriptor hcomplete hp.program hp.resolves hp.deployer hdescriptor⟩

theorem isDeployable_of_submit {waits waits' : Value}
    (h : .submit waits waits' ∈ ((deploy outer path).run w n).trace) :
    ∃ c, ((Config.load (outer + levels) path).run w n).result = .ok c ∧ c.IsDeployable := by
  obtain ⟨p, hp, hcreation⟩ := exists_found_of_submit h
  obtain ⟨_, _, hdescriptor, -⟩ :=
    p.deployer.exists_upload_of_submit (.bytes p.code) p.payload w (n + 1) hcreation
  have hcomplete := Config.complete_of_load hp.config
  exact ⟨p.config, hp.config, .of_descriptor hcomplete hp.program hp.resolves hp.deployer hdescriptor⟩

theorem exists_submission {c : Config} (hc : c.Complete) (hready : Preflight.Ready w.files c.toValue)
    (hload : ((Config.load (outer + levels) path).run w n).result = .ok c) (hdeployable : c.IsDeployable)
    (hplain : ∀ m, w.network.session m = .plain) : ∃ x waits waits',
      ((deploy outer path).run w n).result = .ok (some x) ∧
        .submit waits waits' ∈ ((deploy outer path).run w n).trace := by
  obtain ⟨client, provider, hclient, hprovider⟩ := hready.client
  obtain ⟨program, artifact, code, hprogram, hartifact, hcode⟩ := hready.artifact
  obtain ⟨made, hmade⟩ := hready.account
  obtain ⟨info, hinfo⟩ : ∃ info, (client.reportNodeInfo.run w n).result = .ok info := by
    apply Client.exists_reportNodeInfo hprovider <;> rw [hplain n] <;> rfl
  let d : Deployer :=
    ⟨some client, c.toValue, .dict (c.sectionOf "program"), .dict (c.sectionOf "submission")⟩
  have hd : Deployer.ofConfig (some client) c.toValue = .ok d := hc.deployer_ofConfig (some client)
  have hsection : d.program = .dict (c.sectionOf "program") := rfl
  obtain ⟨payload, p, hpayload, hp⟩ := hdeployable.exists_descriptor hsection hcode.nonempty w.entropy
  have hfield : c.toValue.field "program" = .ok (.dict (c.sectionOf "program")) :=
    hc.field_toValue (by decide)
  have hsame : program = .dict (c.sectionOf "program") := Except.ok.inj (hprogram.symm.trans hfield)
  subst hsame
  have hread := (Artifact.result_load_iff artifact w n code).mpr hcode
  have hresolve := (RouterInit.result_resolve_iff _ payload w n).mpr hpayload
  have hfound : Parts.Found ⟨⟨c, _, artifact, client⟩, code, payload, d⟩ outer path w n :=
    ⟨⟨⟨hload, hprogram, hartifact, hclient⟩, hread, hresolve⟩, ⟨info, hinfo⟩, hd⟩
  obtain ⟨x, waits, waits', hx, hsubmit⟩ :=
    Deployer.exists_create_of_plain hc hd hprovider hmade (hplain (n + 1)) hp
  exact ⟨x, waits, waits', hfound.result_deploy.trans hx, (hfound.submit_mem_deploy_iff _ _).mpr hsubmit⟩

/-- Where the checks are passed, a deployment on a node that answers everything submits an extrinsic and
has a result just if it can load the same configuration and a program can be built from that. -/
theorem deploys_iff_deployable {w : World} {n : Nat} (hpassed : (Preflight.command.run w n).result = .ok 0)
    (outer m : Nat) (e : Entropy) :
    let w' : World := { w with entropy := e, network := [] }
    let o := (deploy outer Config.defaultPath).run w' m
    ∃ c, ((Config.load Preflight.commandLevels Config.defaultPath).run w n).result = .ok c ∧
      ((∃ x, o.result = .ok (some x)) ↔
        ((Config.load (outer + levels) Config.defaultPath).run w' m).result = .ok c ∧ c.IsDeployable) ∧
      ((∃ waits waits', .submit waits waits' ∈ o.trace) ↔
        ((Config.load (outer + levels) Config.defaultPath).run w' m).result = .ok c ∧ c.IsDeployable) := by
  intro w' o
  obtain ⟨c, k, hc, hready⟩ := Preflight.ready_of_command hpassed
  have hload : ((Config.load Preflight.commandLevels Config.defaultPath).run w n).result = .ok c :=
    Config.load_of_le rfl rfl (Nat.le_refl _) hc
  -- Loading within fewer levels gives the same, so both programs have the same configuration.
  have hsame {c' : Config} (hdeployable : c'.IsDeployable)
      (hc' : ((Config.load (outer + levels) Config.defaultPath).run w' m).result = .ok c') :
      ((Config.load (outer + levels) Config.defaultPath).run w' m).result = .ok c ∧ c.IsDeployable := by
    have hle : Preflight.commandLevels ≤ outer + levels :=
      Nat.le_trans (by decide) (Nat.le_add_left levels outer)
    have hfiles : w.files = w'.files := rfl
    have henvironment : w.environment = w'.environment := rfl
    have hload' : ((Config.load Preflight.commandLevels Config.defaultPath).run w n).result = .ok c' :=
      Config.load_of_le hfiles henvironment hle hc'
    have heq : c' = c := Except.ok.inj (hload'.symm.trans hload)
    rw [← heq]
    exact ⟨hc', hdeployable⟩
  have hsubmission (h : ((Config.load (outer + levels) Config.defaultPath).run w' m).result = .ok c ∧
      c.IsDeployable) : ∃ x waits waits', o.result = .ok (some x) ∧ .submit waits waits' ∈ o.trace :=
    exists_submission (Config.complete_of_load hload) hready h.1 h.2 fun _ => rfl
  refine ⟨c, hload, ⟨?_, fun h => ?_⟩, ?_, fun h => ?_⟩
  · rintro ⟨x, hx⟩
    obtain ⟨c', hc', hdeployable⟩ := isDeployable_of_result hx
    exact hsame hdeployable hc'
  · obtain ⟨x, _, _, hx, -⟩ := hsubmission h
    exact ⟨x, hx⟩
  · rintro ⟨waits, waits', hsubmit⟩
    obtain ⟨c', hc', hdeployable⟩ := isDeployable_of_submit hsubmit
    exact hsame hdeployable hc'
  · obtain ⟨_, waits, waits', -, hsubmit⟩ := hsubmission h
    exact ⟨waits, waits', hsubmit⟩

namespace Funded

def environment (gasLimit : String) : Environment
  | .wasmPath => some "dex.wasm"
  | .deployerSeed => some (Hex.marked Sample.seed)
  | .gasLimit => some gasLimit
  | _ => none

def funded : Script :=
  { Script.plain with accountInfo := .ok (.dict [("data", .dict [("free", .int 2000)])]) }

def world (gasLimit : String) : World :=
  ⟨⟨[([Text.Utf8.encode "dex.wasm"], .file [0])]⟩, environment gasLimit, [7], [funded]⟩

def config (gasLimit : Int) : Config :=
  [("node", [("provider_address", .text "wss://testnet.vara.network"), ("ss58_format", .int 137)]),
   ("program", [("wasm_path", .text "dex.wasm"), ("gas_limit", .int gasLimit), ("value", .int 1000),
     ("keep_alive", .bool true), ("init_payload", .null), ("router_init", .null)]),
   ("account", [("name", .text "Anme"), ("seed", .text (Hex.marked Sample.seed))]),
   ("submission", [("wait_for_inclusion", .bool true), ("wait_for_finalization", .bool false)])]

theorem load_world {raw : String} {gasLimit : Int}
    (hset : Config.overrideAll (environment raw) (Config.default.dropping Config.secretKeys) =
      .ok (config gasLimit)) (outer n : Nat) :
    ((Config.load outer Config.defaultPath).run (world raw) n).result = .ok (config gasLimit) := by
  have hmissing : (world raw).files.contains Config.defaultPath = .ok false := rfl
  obtain ⟨shown, -, hfile⟩ : ∃ shown, Config.defaultPath.shown = .ok shown ∧
      Config.fromFile (world raw).files outer Config.defaultPath = .ok (Config.default, _) :=
    Config.fromFile_of_missing hmissing
  rw [Config.result_load, hfile]
  exact hset

theorem exists_derive (gasLimit : Int) : ∃ made, Wallet.derive (config gasLimit).toValue = .ok made := by
  have hlength : Sample.seed.length = Secret.size := rfl
  have hnumber : Account.formatNumber (.int 137) = .ok 137 := rfl
  have hmnemonic :
      (Value.dict ((config gasLimit).sectionOf "account")).fieldOrNull "mnemonic" = .ok .null := rfl
  exact Wallet.exists_derive rfl rfl rfl rfl hmnemonic rfl rfl hlength hnumber rfl

theorem passed (raw : String) (gasLimit : Int) :
    ∀ entry ∈ Preflight.checks (config gasLimit).toValue, ∀ m,
      (entry.2.run (world raw) m).result = .ok true := by
  have hsession (m : Nat) : (world raw).network.session m = funded := by
    cases m <;> rfl
  have hclient : Client.ofConfig (config gasLimit).toValue = .ok .default := rfl
  obtain ⟨made, hmade⟩ := exists_derive gasLimit
  have hshort : Numeral.IsShort 2000 := Numeral.isShort_of_lt (k := 4) (by decide) (by decide)
  obtain ⟨shown, hshown⟩ := Value.shown_int_of_isShort hshort
  simp only [Preflight.checks, List.forall_mem_cons, List.not_mem_nil, false_imp_iff, implies_true, and_true]
  refine ⟨fun m => ?_, fun m => ?_, fun m => ?_, fun m => ?_⟩
  · exact Preflight.result_checkEnvironment_iff.mpr (.inr rfl)
  · have hinfo : ∃ info, (Client.default.reportNodeInfo.run (world raw) m).result = .ok info := by
      apply Client.exists_reportNodeInfo rfl <;> rw [hsession] <;> rfl
    obtain ⟨info, hinfo⟩ := hinfo
    exact Preflight.result_checkNode_iff.mpr ⟨_, info, _, hclient, hinfo, rfl⟩
  · exact Preflight.result_checkArtifact_iff.mpr ⟨_, _, [0], rfl, rfl, ⟨rfl, rfl, rfl, _, rfl⟩⟩
  · have hbalance : ((Client.default.freeBalance (.text made.1.address)).run (world raw) m).result =
        .ok 2000 := by
      have hinfo : ((Client.default.withSession fun s =>
          call (.query (.text made.1.address)) s.accountInfo).run (world raw) m).result =
            funded.accountInfo := by
        rw [Client.run_withSession, hsession]
        rfl
      exact (result_bind_eq_ok_iff _ _ _ _).mpr ⟨_, hinfo, rfl⟩
    exact Preflight.result_checkBalance_iff.mpr
      ⟨made, .default, 2000, shown, _, _, hmade, hclient, hbalance, hshown, rfl, rfl, rfl⟩

theorem result_command {raw : String} {gasLimit : Int}
    (hset : Config.overrideAll (environment raw) (Config.default.dropping Config.secretKeys) =
      .ok (config gasLimit)) (n : Nat) : (Preflight.command.run (world raw) n).result = .ok 0 :=
  Preflight.result_command_of_passed (load_world hset _) (passed raw gasLimit)

end Funded

theorem deploys_iff_deployable_of_funded :
    let w := Funded.world "5"
    let o := (deploy 0 Config.defaultPath).run { w with network := [] } 0
    (Preflight.command.run w 0).result = .ok 0 ∧ (∃ x, o.result = .ok (some x)) ∧
      ∃ waits waits', .submit waits waits' ∈ o.trace := by
  intro w o
  have hset : Config.overrideAll (Funded.environment "5")
      (Config.default.dropping Config.secretKeys) = .ok (Funded.config 5) := rfl
  have hpassed := Funded.result_command hset 0
  obtain ⟨c, hc, hresult, hsubmit⟩ := deploys_iff_deployable hpassed 0 0 w.entropy
  have heq : c = Funded.config 5 := Except.ok.inj (hc.symm.trans (Funded.load_world hset _ 0))
  have hload : ((Config.load levels Config.defaultPath).run { w with network := [] } 0).result = .ok c :=
    Config.load_of_le rfl rfl (Nat.le_refl _) (heq ▸ Funded.load_world hset levels 0)
  have hdeployable : c.IsDeployable := by
    rw [heq]
    exact ⟨⟨_, rfl, rfl⟩, ⟨_, rfl, rfl⟩, .null, [], .plain rfl rfl rfl, rfl⟩
  rw [Nat.zero_add] at hresult hsubmit
  exact ⟨hpassed, hresult.mpr ⟨hload, hdeployable⟩, hsubmit.mpr ⟨hload, hdeployable⟩⟩

theorem passed_without_deployment :
    let w := Funded.world "-1"
    let o := (deploy 0 Config.defaultPath).run { w with network := [] } 0
    (Preflight.command.run w 0).result = .ok 0 ∧ o.result = .ok none ∧
      ∀ waits waits', .submit waits waits' ∉ o.trace := by
  intro w o
  let w' : World := { w with network := [] }
  let c := Funded.config (-1)
  let d : Deployer :=
    ⟨some .default, c.toValue, .dict (c.sectionOf "program"), .dict (c.sectionOf "submission")⟩
  have hset : Config.overrideAll (Funded.environment "-1")
      (Config.default.dropping Config.secretKeys) = .ok c := rfl
  have hload : ((Config.load (0 + levels) Config.defaultPath).run w' 0).result = .ok c :=
    Config.load_of_le (w := w) rfl rfl (Nat.le_refl _) (Funded.load_world hset _ 0)
  have hinfo : ∃ info, (Client.default.reportNodeInfo.run w' 0).result = .ok info :=
    Client.exists_reportNodeInfo rfl rfl rfl rfl
  have hfound : Parts.Found ⟨⟨c, _, _, .default⟩, [0], .null, d⟩ 0 Config.defaultPath w' 0 :=
    ⟨⟨⟨hload, rfl, rfl, rfl⟩, rfl, rfl⟩, hinfo, rfl⟩
  refine ⟨Funded.result_command hset 0, ?_, fun waits waits' hsubmit => ?_⟩
  · have hshort : Numeral.IsShort (-1) := Numeral.isShort_of_lt (k := 1) (by decide) (by decide)
    obtain ⟨s, hs⟩ := Value.shown_int_of_isShort hshort
    have hcreate : ((d.create (.bytes [0]) .null).run w' (0 + 1)).result = .ok none :=
      Deployer.result_create_of_gasLimit rfl rfl rfl rfl hs
    exact hfound.result_deploy.trans hcreate
  · obtain ⟨c', hc', hdeployable⟩ := isDeployable_of_submit hsubmit
    have heq : c' = c := Except.ok.inj (hc'.symm.trans hload)
    rw [heq] at hdeployable
    obtain ⟨v, hv, hamount⟩ := hdeployable.gasLimit
    cases hv
    cases hamount

end Run

end ProgramDeploy
