import ProgramDeploy.Proofs.CallSequences
import ProgramDeploy.Proofs.SubmissionReport

namespace ProgramDeploy

open ProgramDeploy.Action

structure Terms where
  client : Client
  gasLimit : Value
  value : Value
  keepAlive : Value
  inclusion : Value
  finalization : Value
  signer : Account

namespace Terms

structure Of (t : Terms) (d : Deployer) : Prop where
  client : d.client = some t.client
  gasLimit : d.program.field "gas_limit" = .ok t.gasLimit
  value : d.program.field "value" = .ok t.value
  keepAlive : d.program.fieldOrNull "keep_alive" = .ok t.keepAlive
  inclusion : d.submission.field "wait_for_inclusion" = .ok t.inclusion
  finalization : d.submission.field "wait_for_finalization" = .ok t.finalization
  signer : ∃ name, Wallet.derive d.config = .ok (t.signer, name)

structure IsSound (t : Terms) : Prop where
  gasLimit : Program.isAmount t.gasLimit = true
  value : Program.isAmount t.value = true
  shown : ∀ v ∈ [t.client.providerAddress, t.gasLimit, t.value], ∃ text, v.shown = .ok text

def call (t : Terms) (code salt payload : Bytes) : UploadCall :=
  ⟨Hex.marked code, Hex.marked salt, Hex.marked payload, t.gasLimit, t.value, UploadCall.given t.keepAlive⟩

def calls (t : Terms) (code salt payload : Bytes) : List Event :=
  [.connect t.client.providerAddress t.client.format, .compose (t.call code salt payload), .sign t.signer,
    .submit t.inclusion t.finalization]

theorem Of.unique {t t' : Terms} {d : Deployer} (h : t.Of d) (h' : t'.Of d) : t = t' := by
  obtain ⟨name, hmade⟩ := h.signer
  obtain ⟨name', hmade'⟩ := h'.signer
  have hsigner := Except.ok.inj (hmade.symm.trans hmade')
  cases t
  cases t'
  congr
  · exact Option.some.inj (h.client.symm.trans h'.client)
  · exact Except.ok.inj (h.gasLimit.symm.trans h'.gasLimit)
  · exact Except.ok.inj (h.value.symm.trans h'.value)
  · exact Except.ok.inj (h.keepAlive.symm.trans h'.keepAlive)
  · exact Except.ok.inj (h.inclusion.symm.trans h'.inclusion)
  · exact Except.ok.inj (h.finalization.symm.trans h'.finalization)
  · exact (Prod.mk.inj hsigner).1

end Terms

namespace Deployer

structure GoesBy (d : Deployer) (es : List Event) : Prop where
  connect : ∀ url format, .connect url format ∈ es →
    ∃ c, d.client = some c ∧ c.providerAddress = url ∧ c.format = format
  compose : ∀ call, .compose call ∈ es →
    d.program.field "gas_limit" = .ok call.gasLimit ∧ d.program.field "value" = .ok call.value ∧
      ∃ v, d.program.fieldOrNull "keep_alive" = .ok v ∧ call.keepAlive = UploadCall.given v
  sign : ∀ a, .sign a ∈ es → ∃ name, Wallet.derive d.config = .ok (a, name)
  submit : ∀ waits waits', .submit waits waits' ∈ es →
    d.submission.field "wait_for_inclusion" = .ok waits ∧
      d.submission.field "wait_for_finalization" = .ok waits'

variable {d : Deployer} {code initPayload : Value} {w : World} {n : Nat}

theorem create_goesBy (d : Deployer) (code initPayload : Value) (w : World) (n : Nat) :
    d.GoesBy ((d.create code initPayload).run w n).trace := by
  rcases d.create_presents code initPayload w n with ⟨haside, -⟩ | ⟨p, made, rest, hp, hmade, hpresents⟩
  · have hnone {e : Event} (h : e ∈ ((d.create code initPayload).run w n).trace) : e.isCall ≠ true := by
      rw [(haside e h).1]
      exact Bool.false_ne_true
    exact ⟨fun _ _ h => absurd rfl (hnone h), fun _ h => absurd rfl (hnone h),
      fun _ h => absurd rfl (hnone h), fun _ _ h => absurd rfl (hnone h)⟩
  · have hshown {e : Event} (h : e ∈ ((d.create code initPayload).run w n).trace) (hcall : e.isCall = true) :
        IsUploading d p.toValue made.1 e :=
      d.isUploading_of_mem_trace p.toValue made.1 (hpresents.mem_upload_of_isCall h hcall)
    constructor
    · intro url format h
      cases hshown h rfl with
      | connect client => exact ⟨_, client, rfl, rfl⟩
    · intro call h
      cases hshown h rfl with
      | compose keep ofValue =>
        have hbuilds := (d.descriptor_eq_ok_iff _ _ _ _).mp hp
        rw [UploadCall.eq_of_ofValue hbuilds.salt ofValue]
        exact ⟨hbuilds.gasLimit, hbuilds.value, _, keep, rfl⟩
    · intro a h
      cases hshown h rfl with
      | sign => exact ⟨made.2, hmade⟩
    · intro waits waits' h
      cases hshown h rfl with
      | submit inclusion finalization => exact ⟨inclusion, finalization⟩

theorem calls_create_of_submit {waits waits' : Value}
    (h : .submit waits waits' ∈ ((d.create code initPayload).run w n).trace) :
    ∃ p t fields, d.Builds code initPayload w.entropy p ∧ Terms.Of t d ∧ fields <+: receiptFields ∧
      ((d.create code initPayload).run w n).trace.filter Event.isCall =
        t.calls p.code (Program.drawSalt w.entropy) p.initPayload ++ fields.map .read ++ [.close] := by
  obtain ⟨p, made, hp, hmade, hupload⟩ := d.exists_upload_of_submit code initPayload w n h
  obtain ⟨rest, hpresents⟩ := create_presents_of_ok (n := n) hp hmade
  obtain ⟨c, keepAlive, call, inclusion, finalization, fields, hclient, hkeep, hcall, hwaits, hwaits',
    hfields, hevents⟩ := calls_of_upload_of_submit hupload
  have hbuilds := (d.descriptor_eq_ok_iff _ _ _ _).mp hp
  refine ⟨p, ⟨c, p.gasLimit, p.value, keepAlive, inclusion, finalization, made.1⟩, fields, hbuilds,
    ⟨hclient, hbuilds.gasLimit, hbuilds.value, hkeep, hwaits, hwaits', made.2, hmade⟩, hfields, ?_⟩
  rw [hpresents.calls, hevents, UploadCall.eq_of_ofValue hbuilds.salt hcall]
  rfl

theorem calls_create_of_terms {t : Terms} (ht : t.Of d) (hsound : t.IsSound) {bs payload : Bytes}
    (hcode : code.isTruthy = true) (hbytes : code.toBytes = .ok bs)
    (hpayload : Payload.encode initPayload = .ok payload) (hsubmits : (w.network.session n).Submits) :
    ∃ fields, fields <+: receiptFields ∧ ((d.create code initPayload).run w n).trace.filter Event.isCall =
      t.calls bs (Program.drawSalt w.entropy) payload ++ fields.map .read ++ [.close] := by
  have hp : d.descriptor code initPayload w.entropy =
      .ok ⟨bs, t.gasLimit, t.value, payload, .bytes (Program.drawSalt w.entropy)⟩ :=
    (d.descriptor_eq_ok_iff _ _ _ _).mpr
      ⟨hcode, hbytes, ht.gasLimit, hsound.gasLimit, ht.value, hsound.value, hpayload, rfl⟩
  obtain ⟨name, hmade⟩ := ht.signer
  obtain ⟨provider, hprovider⟩ := hsound.shown t.client.providerAddress (by simp)
  obtain ⟨gasLimit, hgas⟩ := hsound.shown t.gasLimit (by simp)
  obtain ⟨value, hvalue⟩ := hsound.shown t.value (by simp)
  obtain ⟨-, -, hsubmit⟩ := calls_mem_create_of_submits (n := n) hsubmits hp hmade ht.client hprovider
    ht.keepAlive hgas hvalue ht.inclusion ht.finalization
  obtain ⟨p, t', fields, hbuilds, ht', hfields, hcalls⟩ := calls_create_of_submit hsubmit
  cases ((d.descriptor_eq_ok_iff _ _ _ _).mpr hbuilds).symm.trans hp
  rw [ht'.unique ht] at hcalls
  exact ⟨fields, hfields, hcalls⟩

end Deployer

end ProgramDeploy
