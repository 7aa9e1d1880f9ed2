import ProgramDeploy.Proofs.SubmissionReport

namespace ProgramDeploy

open ProgramDeploy.Action

namespace Deployer

variable (d : Deployer)

section Connecting

variable (program : Value) (signer : Account) (w : World) (n : Nat)

theorem opening_prefix_upload {c : Client} {provider : String} (hclient : d.client = some c)
    (hprovider : c.providerAddress.shown = .ok provider) :
    c.opening provider <+: ((d.upload program signer).run w n).trace := by
  rw [upload, hclient]
  dsimp only
  rw [run_inWorker]
  exact c.opening_prefix_withSession _ w n hprovider

theorem connect_mem_upload_iff :
    (∃ url format, .connect url format ∈ ((d.upload program signer).run w n).trace) ↔
      ∃ c provider, d.client = some c ∧ c.providerAddress.shown = .ok provider := by
  constructor
  · rintro ⟨url, format, h⟩
    cases hclient : d.client with
    | none => simp [upload, hclient] at h
    | some c =>
      cases hprovider : c.providerAddress.shown with
      | ok provider => exact ⟨c, provider, rfl, hprovider⟩
      | error f => simp [upload, hclient, run_inWorker, Client.run_withSession, hprovider] at h
  · rintro ⟨c, provider, hclient, hprovider⟩
    refine ⟨c.providerAddress, c.format, ?_⟩
    apply (d.opening_prefix_upload program signer w n hclient hprovider).mem
    simp [Client.opening]

end Connecting

variable (code initPayload : Value) (w : World) (n : Nat)

theorem run_create_of_refused {f : Fault} (hrun : (d.deploy code initPayload).run w n = ⟨.error f, [], n⟩)
    (hf : f.isOrdinary = true) :
    ∃ text, f.text = .ok text ∧ (d.create code initPayload).run w n = ⟨.ok none, [.failed text], n⟩ := by
  obtain ⟨text, htext⟩ := Fault.exists_text_of_isOrdinary hf
  have hcaught := Fault.isInterrupt_of_isOrdinary hf
  exact ⟨text, htext, d.run_create_of_fault code initPayload w n hrun rfl hcaught htext⟩

theorem run_create_of_descriptor_error {f : Fault}
    (hf : d.descriptor code initPayload w.entropy = .error f) :
    ∃ text, f.text = .ok text ∧ (d.create code initPayload).run w n = ⟨.ok none, [.failed text], n⟩ := by
  apply d.run_create_of_refused code initPayload w n
  · rw [run_deploy, hf]
    rfl
  · exact d.ordinarily_descriptor code initPayload _ f hf

theorem run_create_of_derive_error {p : Program} {f : Fault}
    (hp : d.descriptor code initPayload w.entropy = .ok p) (hf : Wallet.derive d.config = .error f) :
    ∃ text, f.text = .ok text ∧ (d.create code initPayload).run w n = ⟨.ok none, [.failed text], n⟩ := by
  apply d.run_create_of_refused code initPayload w n
  · rw [run_deploy, hp, hf]
    rfl
  · exact Wallet.ordinarily_derive d.config f hf

variable {d code initPayload w n} in
theorem connect_mem_create_iff {p : Program} {made : Account × String}
    (hp : d.descriptor code initPayload w.entropy = .ok p) (hmade : Wallet.derive d.config = .ok made) :
    (∃ url format, .connect url format ∈ ((d.create code initPayload).run w n).trace) ↔
      ∃ c provider, d.client = some c ∧ c.providerAddress.shown = .ok provider := by
  obtain ⟨rest, hpresents⟩ := create_presents_of_ok (n := n) hp hmade
  rw [← d.connect_mem_upload_iff p.toValue made.1 w n]
  constructor
  · rintro ⟨url, format, h⟩
    exact ⟨url, format, hpresents.mem_upload_of_isCall h (Event.isCall_connect url format)⟩
  · rintro ⟨url, format, h⟩
    refine ⟨url, format, ?_⟩
    rw [hpresents.trace]
    exact List.mem_append_right _ (List.mem_append_left _ h)

/-- A deployment reaches a node just if its program can be built, its account derived and its provider
written. What is refused before is told in one line, and no session is opened for it. -/
theorem only_valid_deployments_connect (d : Deployer) (code initPayload : Value) (w : World) (n : Nat) :
    let o := (d.create code initPayload).run w n
    let built := (d.buildProgram code initPayload).run w n
    let derived := (Wallet.deployer d.config).run w n
    ((∃ url format, .connect url format ∈ o.trace) ↔
      (∃ p, built.result = .ok p) ∧ (∃ a, derived.result = .ok a) ∧
        ∃ c provider, d.client = some c ∧ c.providerAddress.shown = .ok provider) ∧
    (∀ f, built.result = .error f →
      ∃ text, f.text = .ok text ∧ o = ⟨.ok none, [.failed text], n⟩) ∧
    (∀ p f, built.result = .ok p → derived.result = .error f →
      (∀ e ∈ derived.trace, IsAside e) ∧
        ∃ text, f.text = .ok text ∧ o = ⟨.ok none, derived.trace ++ [.failed text], n⟩) ∧
    (∀ p a c provider, built.result = .ok p → derived.result = .ok a → d.client = some c →
      c.providerAddress.shown = .ok provider →
      ∃ name salt, derived.trace = [.log .info ("Account " ++ name ++ ": " ++ a.address)] ∧
        p.salt = .bytes salt ∧
        derived.trace ++ (Identity.ofParts p.code salt).lines ++
          [.log .debug ("Connecting to " ++ provider), .connect c.providerAddress c.format] <+: o.trace) ∧
    ∀ waits waits', .submit waits waits' ∈ o.trace →
      d.submission.field "wait_for_inclusion" = .ok waits ∧
        d.submission.field "wait_for_finalization" = .ok waits' := by
  intro o built derived
  have hbuilt : built.result = d.descriptor code initPayload w.entropy :=
    congrArg Outcome.result (d.run_buildProgram code initPayload w n)
  simp only [hbuilt]
  refine ⟨?_, ?_, ?_, ?_, ?_⟩
  · constructor
    · rintro ⟨url, format, h⟩
      rcases d.create_presents code initPayload w n with ⟨haside, -⟩ | ⟨p, made, rest, hp, hmade, -⟩
      · have hcall := (haside _ h).1
        rw [Event.isCall_connect] at hcall
        cases hcall
      · refine ⟨⟨p, hp⟩, ⟨made.1, (Wallet.result_deployer_iff _ w n _).mpr ⟨made.2, hmade⟩⟩, ?_⟩
        exact (connect_mem_create_iff hp hmade).mp ⟨url, format, h⟩
    · rintro ⟨⟨p, hp⟩, ⟨a, ha⟩, hclient⟩
      obtain ⟨name, hmade⟩ := (Wallet.result_deployer_iff _ w n a).mp ha
      exact (connect_mem_create_iff hp hmade).mpr hclient
  · intro f hf
    exact d.run_create_of_descriptor_error code initPayload w n hf
  · intro p f hp hf
    have hderive := (Wallet.result_deployer_error_iff _ w n f).mp hf
    have hquiet : derived.trace = [] := by
      simp only [derived, Wallet.run_deployer, hderive, Outcome.settle_error]
    rw [hquiet]
    exact ⟨by simp, d.run_create_of_derive_error code initPayload w n hp hderive⟩
  · intro p a c provider hp ha hclient hprovider
    obtain ⟨name, hmade⟩ := (Wallet.result_deployer_iff _ w n a).mp ha
    have hline : derived.trace = [Wallet.accountLine (a, name)] := by
      simp only [derived, Wallet.run_deployer, hmade, Outcome.settle_ok]
    obtain ⟨rest, hpresents⟩ := create_presents_of_ok (n := n) hp hmade
    obtain ⟨behind, hbehind⟩ := d.opening_prefix_upload p.toValue a w n hclient hprovider
    refine ⟨name, Program.drawSalt w.entropy, hline, d.salt_of_descriptor code initPayload hp,
      behind ++ rest, ?_⟩
    rw [hline, hpresents.trace, ← hbehind]
    simp [Client.opening]
  · intro waits waits' h
    obtain ⟨p, made, -, -, hmem⟩ := d.exists_upload_of_submit code initPayload w n h
    cases d.isUploading_of_mem_trace p.toValue made.1 hmem with
    | submit waits waits' => exact ⟨waits, waits'⟩

def unsecured : Deployer :=
  { seeded with config := .dict [("node", .dict [("ss58_format", .int 137)]),
      ("account", .dict [("name", .text "Anme"), ("mnemonic", .null)])] }

theorem only_valid_deployments_connect_seeded :
    (∃ url format, .connect url format ∈
      ((seeded.create (.bytes [0]) .null).run (worldOf including) 0).trace) ∧
    (∃ name a salt, [.log .info ("Account " ++ name ++ ": " ++ a)] ++ (Identity.ofParts [0] salt).lines ++
      [.log .debug "Connecting to wss://testnet.vara.network",
        .connect Client.defaultProvider Account.networkFormat] <+:
      ((seeded.create (.bytes [0]) .null).run (worldOf including) 0).trace) ∧
    (seeded.create (.text "") .null).run (worldOf including) 0 =
      ⟨.ok none, [.failed "Program code is empty"], 0⟩ ∧
    (unsecured.create (.bytes [0]) .null).run (worldOf including) 0 =
      ⟨.ok none, [.failed "DEPLOYER_MNEMONIC or DEPLOYER_SEED must be set in .env"], 0⟩ := by
  obtain ⟨made, hmade⟩ := exists_derive_seeded
  have hp : ((seeded.buildProgram (.bytes [0]) .null).run (worldOf including) 0).result =
      .ok ⟨[0], .int 1000000, .int 1000, [], .bytes (List.replicate 20 7)⟩ := rfl
  have ha : ((Wallet.deployer seeded.config).run (worldOf including) 0).result = .ok made.1 :=
    (Wallet.result_deployer_iff _ _ _ _).mpr ⟨made.2, hmade⟩
  have hprovider : Client.defaultProvider.shown = .ok "wss://testnet.vara.network" := rfl
  obtain ⟨hconnect, -, -, hopening, -⟩ :=
    only_valid_deployments_connect seeded (.bytes [0]) .null (worldOf including) 0
  obtain ⟨-, hempty, -⟩ := only_valid_deployments_connect seeded (.text "") .null (worldOf including) 0
  obtain ⟨-, -, hunsecured, -⟩ :=
    only_valid_deployments_connect unsecured (.bytes [0]) .null (worldOf including) 0
  refine ⟨hconnect.mpr ⟨⟨_, hp⟩, ⟨_, ha⟩, _, _, rfl, hprovider⟩, ?_, ?_, ?_⟩
  · obtain ⟨name, salt, hline, -, hprefix⟩ := hopening _ _ _ _ hp ha rfl hprovider
    rw [hline] at hprefix
    exact ⟨name, made.1.address, salt, hprefix⟩
  · obtain ⟨text, htext, hrun⟩ := hempty .emptyCode rfl
    cases htext
    exact hrun
  · obtain ⟨-, text, htext, hrun⟩ := hunsecured _ .noSecret rfl rfl
    cases htext
    exact hrun

end Deployer

end ProgramDeploy
