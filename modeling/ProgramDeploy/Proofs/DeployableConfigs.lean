import ProgramDeploy.Proofs.LoadedConfigs
import ProgramDeploy.Proofs.Preparation
import ProgramDeploy.Proofs.SubmissionReport

namespace ProgramDeploy

open ProgramDeploy.Action

theorem Config.Complete.deployer_ofConfig {c : Config} (h : c.Complete) (client : Option Client) :
    Deployer.ofConfig client c.toValue =
      .ok ⟨client, c.toValue, .dict (c.sectionOf "program"), .dict (c.sectionOf "submission")⟩ := by
  rw [Deployer.ofConfig, h.field_toValue (by decide), h.field_toValue (by decide)]
  rfl

structure Config.IsDeployable (c : Config) : Prop where
  gasLimit : ∃ v, c.setting "program" "gas_limit" = some v ∧ Program.isAmount v = true
  value : ∃ v, c.setting "program" "value" = some v ∧ Program.isAmount v = true
  payload : ∃ payload bs, RouterInit.Resolves (.dict (c.sectionOf "program")) payload ∧
    Payload.encode payload = .ok bs

section Building

variable {c : Config} {client : Option Client} {d : Deployer} {code : Bytes} {e : Entropy}

theorem Config.IsDeployable.of_descriptor (hc : c.Complete) {program payload : Value} {p : Program}
    (hprogram : c.toValue.field "program" = .ok program) (hpayload : RouterInit.Resolves program payload)
    (hd : Deployer.ofConfig client c.toValue = .ok d) (hp : d.descriptor (.bytes code) payload e = .ok p) :
    c.IsDeployable := by
  rw [hc.field_toValue (by decide)] at hprogram
  rw [hc.deployer_ofConfig] at hd
  cases hprogram
  cases hd
  have hbuilds := (Deployer.descriptor_eq_ok_iff _ _ _ _ _).mp hp
  constructor
  · exact ⟨p.gasLimit, (field_sectionOf_iff c _ _).mp hbuilds.gasLimit, hbuilds.gasAmount⟩
  · exact ⟨p.value, (field_sectionOf_iff c _ _).mp hbuilds.value, hbuilds.valueAmount⟩
  · exact ⟨payload, p.initPayload, hpayload, hbuilds.initPayload⟩

theorem Config.IsDeployable.exists_descriptor (h : c.IsDeployable)
    (hd : d.program = .dict (c.sectionOf "program")) (hcode : code.isEmpty = false) (e : Entropy) :
    ∃ payload p, RouterInit.Resolves (.dict (c.sectionOf "program")) payload ∧
      d.descriptor (.bytes code) payload e = .ok p := by
  obtain ⟨gasLimit, hgas, hgasAmount⟩ := h.gasLimit
  obtain ⟨value, hvalue, hvalueAmount⟩ := h.value
  obtain ⟨payload, encoded, hpayload, hencoded⟩ := h.payload
  have htruthy : (Value.bytes code).isTruthy = true := by simp [Value.isTruthy, hcode]
  refine ⟨payload, ⟨code, gasLimit, value, encoded, .bytes (Program.drawSalt e)⟩, hpayload, ?_⟩
  rw [Deployer.descriptor_eq_ok_iff]
  rw [← field_sectionOf_iff, ← hd] at hgas hvalue
  exact ⟨htruthy, rfl, hgas, hgasAmount, hvalue, hvalueAmount, hencoded, rfl⟩

theorem Deployer.result_create_of_gasLimit {code payload gasLimit value : Value} {s : String} {w : World}
    {n : Nat} (hgas : d.program.field "gas_limit" = .ok gasLimit)
    (hvalue : d.program.field "value" = .ok value) (hcode : code.isTruthy = true)
    (hamount : Program.isAmount gasLimit = false) (hs : gasLimit.shown = .ok s) :
    ((d.create code payload).run w n).result = .ok none := by
  have hbuild : Program.build code payload gasLimit value .null w.entropy = .error (.badGasLimit s) := by
    simp [Program.build, hcode, hamount, hs, throw, throwThe, MonadExceptOf.throw, bind, Except.bind]
  have hdescriptor : d.descriptor code payload w.entropy = .error (.badGasLimit s) := by
    rw [descriptor, hgas, hvalue]
    exact hbuild
  have hdeploy := d.run_deploy code payload w n
  rw [hdescriptor] at hdeploy
  rw [d.run_create_of_fault code payload w n hdeploy rfl rfl rfl]

end Building

theorem Deployer.exists_create_of_plain {c : Config} (hc : c.Complete) {client : Client} {d : Deployer}
    {provider : String} {made : Account × String} {w : World} {n : Nat} {code : Bytes} {payload : Value}
    {p : Program} (hd : Deployer.ofConfig (some client) c.toValue = .ok d)
    (hprovider : client.providerAddress.shown = .ok provider) (hmade : Wallet.derive c.toValue = .ok made)
    (hplain : w.network.session n = .plain) (hp : d.descriptor (.bytes code) payload w.entropy = .ok p) :
    ∃ x waits waits', ((d.create (.bytes code) payload).run w n).result = .ok (some x) ∧
      .submit waits waits' ∈ ((d.create (.bytes code) payload).run w n).trace := by
  have hanswers : (w.network.session n).Answers := by
    rw [hplain]
    exact Script.answers_plain
  rw [hc.deployer_ofConfig] at hd
  cases hd
  have hbuilds := (descriptor_eq_ok_iff _ _ _ _ _).mp hp
  have hgas := (Config.field_sectionOf_iff c _ _).mp hbuilds.gasLimit
  have hvalue := (Config.field_sectionOf_iff c _ _).mp hbuilds.value
  obtain ⟨gasText, hgasText⟩ := Value.shown_of_isWritable (hc.isWritable_of_setting hgas)
  obtain ⟨valueText, hvalueText⟩ := Value.shown_of_isWritable (hc.isWritable_of_setting hvalue)
  have hinclusion : (Config.default.setting "submission" "wait_for_inclusion").isSome = true := rfl
  have hfinalization : (Config.default.setting "submission" "wait_for_finalization").isSome = true := rfl
  obtain ⟨inclusion, hinclusion⟩ := hc.exists_field hinclusion
  obtain ⟨finalization, hfinalization⟩ := hc.exists_field hfinalization
  obtain ⟨call, -, hsubmit⟩ := calls_mem_create hanswers hp hmade rfl hprovider rfl hgasText hvalueText
    hinclusion hfinalization
  obtain ⟨p', made', hp', hmade', hmem⟩ := exists_upload_of_submit _ _ _ w n hsubmit
  -- The plain receipt has no block, so nothing but the null of its hash is told.
  let u : Upload := ⟨.null, .null, .null, .null, []⟩
  have hclose : (w.network.session n).close = none := by rw [hplain]; rfl
  have hreceipt : (w.network.session n).receipt.upload = .ok u := by rw [hplain]; rfl
  have hshown : ∀ v ∈ u.rendered, ∃ text, v.shown = .ok text := by
    intro v hv
    rw [List.mem_singleton.mp hv]
    exact ⟨_, rfl⟩
  have hresult := (result_create_of_submit_iff hp' hmade' hanswers.submits.submit hmem _).mpr
    ⟨hclose, u, hreceipt, hshown, rfl⟩
  exact ⟨_, _, _, hresult, hsubmit⟩

end ProgramDeploy
