import ProgramDeploy.Proofs.ProgramIdentity

namespace ProgramDeploy

open ProgramDeploy.Action

theorem Event.call?_request {e : Event} {method : String} (h : e.call? = some (.request method)) :
    e = .request method := by
  cases e <;> simp_all [call?]

theorem Event.call?_read {e : Event} {field : ReceiptField} (h : e.call? = some (.read field)) :
    e = .read field := by
  cases e <;> simp_all [call?]

theorem eq_map_of_call? {α : Type} {f : α → Event} {g : α → Call}
    (hfg : ∀ x e, Event.call? e = some (g x) → e = f x) {xs : List α} {es : List Event}
    (h : es.map Event.call? = (xs.map g).map some) : es = xs.map f := by
  induction xs generalizing es with
  | nil => simpa using h
  | cons x xs ih =>
    cases es with
    | nil => simp at h
    | cons e es =>
      simp only [List.map_cons, List.cons.injEq] at h
      rw [List.map_cons, hfg x e h.1, ih h.2]

namespace Client

def infoMethods : List String :=
  ["system_chain", "system_name", "system_version"]

def infoSession (c : Client) : List Event :=
  .connect c.providerAddress c.format :: infoMethods.map .request ++ [.close]

theorem calls_of_nodeInfo {c : Client} {w : World} {n : Nat} {i : NodeInfo}
    (h : (c.nodeInfo.run w n).result = .ok i) :
    (c.nodeInfo.run w n).trace.filter Event.isCall = c.infoSession ∧
      (c.nodeInfo.run w n).opened = n + 1 := by
  rw [nodeInfo, run_inWorker] at h ⊢
  obtain ⟨-, -, hresult, provider, hrun⟩ := run_withSession_of_ok (mapError_eq_ok_iff.mp h)
  obtain ⟨hopened, made, hgoes, hmade⟩ := performs_queryNodeInfo (w.network.session n) w (n + 1)
  rw [hresult] at hgoes
  rw [hrun]
  cases hgoes with
  | through _ answered =>
    have hevents : _ = infoMethods.map Event.request :=
      eq_map_of_call? (fun _ _ => Event.call?_request) hmade
    refine ⟨?_, hopened⟩
    simp [hevents, infoSession]

structure InfoAnswered (s : Script) : Prop where
  connect : s.connect = none
  answers : ∀ method ∈ infoMethods, ∃ v, s.request method = .ok v
  close : s.close = none

theorem infoAnswered_of_nodeInfo {c : Client} {w : World} {n : Nat} {i : NodeInfo}
    (h : (c.nodeInfo.run w n).result = .ok i) : InfoAnswered (w.network.session n) := by
  rw [nodeInfo, run_inWorker] at h
  obtain ⟨hconnect, hclose, hresult, -⟩ := run_withSession_of_ok (mapError_eq_ok_iff.mp h)
  obtain ⟨-, made, hgoes, -⟩ := performs_queryNodeInfo (w.network.session n) w (n + 1)
  rw [hresult] at hgoes
  cases hgoes with
  | through _ answered =>
    refine ⟨hconnect, fun method hmethod => ?_, hclose⟩
    have hanswer : failureIn ((w.network.session n).request method) = none :=
      answered _ (List.mem_map_of_mem (f := Call.request) hmethod)
    cases hrequest : (w.network.session n).request method with
    | error f =>
      rw [hrequest] at hanswer
      cases hanswer
    | ok v => exact ⟨v, rfl⟩

end Client

namespace Deployer

def receiptFields : List ReceiptField :=
  [.isSuccess, .errorMessage, .triggeredEvents]

theorem exists_of_prefix_reads {r : Receipt} {made : List Call} (h : made <+: r.reads) :
    ∃ fields, fields <+: receiptFields ∧ made = fields.map .read := by
  have hreads : made <+: receiptFields.map .read := by
    unfold Receipt.reads at h
    split at h
    · rw [List.prefix_nil.mp h]
      exact List.nil_prefix
    · exact h
  refine ⟨receiptFields.take made.length, List.take_prefix _ _, ?_⟩
  rw [List.map_take]
  exact List.prefix_iff_eq_take.mp hreads

theorem exists_of_submit_mem {s : Script} {made : List Call} (h : made <+: s.uploadCalls)
    (hsubmit : .submit ∈ made) :
    ∃ fields, fields <+: receiptFields ∧ made = .compose :: .sign :: .submit :: fields.map .read := by
  obtain ⟨rest, hrest⟩ := h
  rcases made with _ | ⟨a, _ | ⟨b, _ | ⟨c, made⟩⟩⟩
  · cases hsubmit
  · simp_all [Script.uploadCalls]
  · simp_all [Script.uploadCalls]
  · simp only [Script.uploadCalls, List.cons_append, List.cons.injEq] at hrest
    obtain ⟨rfl, rfl, rfl, hreads⟩ := hrest
    obtain ⟨fields, hfields, rfl⟩ := exists_of_prefix_reads ⟨rest, hreads⟩
    exact ⟨fields, hfields, rfl⟩

namespace IsUploading

variable {d : Deployer} {program : Value} {signer : Account} {e : Event}

theorem eq_compose (h : IsUploading d program signer e) (hcall : e.call? = some .compose) :
    ∃ keepAlive call, d.program.fieldOrNull "keep_alive" = .ok keepAlive ∧
      UploadCall.ofValue program keepAlive = .ok call ∧ e = .compose call := by
  cases h with
  | compose keep made => exact ⟨_, _, keep, made, rfl⟩
  | _ => cases hcall

theorem eq_sign (h : IsUploading d program signer e) (hcall : e.call? = some .sign) :
    e = .sign signer := by
  cases h with
  | sign => rfl
  | _ => cases hcall

theorem eq_submit (h : IsUploading d program signer e) (hcall : e.call? = some .submit) :
    ∃ inclusion finalization, d.submission.field "wait_for_inclusion" = .ok inclusion ∧
      d.submission.field "wait_for_finalization" = .ok finalization ∧
      e = .submit inclusion finalization := by
  cases h with
  | submit waits waits' => exact ⟨_, _, waits, waits', rfl⟩
  | _ => cases hcall

end IsUploading

theorem events_of_calls {d : Deployer} {program : Value} {signer : Account} {es : List Event}
    {fields : List ReceiptField} (hes : ∀ e ∈ es, IsUploading d program signer e)
    (h : es.map Event.call? =
      (Call.compose :: .sign :: .submit :: fields.map .read).map some) :
    ∃ keepAlive call inclusion finalization, d.program.fieldOrNull "keep_alive" = .ok keepAlive ∧
      UploadCall.ofValue program keepAlive = .ok call ∧
      d.submission.field "wait_for_inclusion" = .ok inclusion ∧
      d.submission.field "wait_for_finalization" = .ok finalization ∧
      es = .compose call :: .sign signer :: .submit inclusion finalization :: fields.map .read := by
  rcases es with _ | ⟨e₁, _ | ⟨e₂, _ | ⟨e₃, es⟩⟩⟩
  · simp at h
  · simp at h
  · simp at h
  · simp only [List.map_cons, List.cons.injEq] at h
    obtain ⟨h₁, h₂, h₃, hreads⟩ := h
    obtain ⟨keepAlive, call, hkeep, hmade, rfl⟩ := (hes e₁ (by simp)).eq_compose h₁
    obtain rfl := (hes e₂ (by simp)).eq_sign h₂
    obtain ⟨inclusion, finalization, hwaits, hwaits', rfl⟩ := (hes e₃ (by simp)).eq_submit h₃
    have hevents : es = fields.map .read := eq_map_of_call? (fun _ _ => Event.call?_read) hreads
    exact ⟨keepAlive, call, inclusion, finalization, hkeep, hmade, hwaits, hwaits', by rw [hevents]⟩

theorem calls_of_upload_of_submit {d : Deployer} {program : Value} {signer : Account} {w : World}
    {n : Nat} {waits waits' : Value}
    (h : .submit waits waits' ∈ ((d.upload program signer).run w n).trace) :
    ∃ c keepAlive call inclusion finalization fields, d.client = some c ∧
      d.program.fieldOrNull "keep_alive" = .ok keepAlive ∧
      UploadCall.ofValue program keepAlive = .ok call ∧
      d.submission.field "wait_for_inclusion" = .ok inclusion ∧
      d.submission.field "wait_for_finalization" = .ok finalization ∧ fields <+: receiptFields ∧
      ((d.upload program signer).run w n).trace.filter Event.isCall =
        .connect c.providerAddress c.format :: .compose call :: .sign signer ::
          .submit inclusion finalization :: fields.map .read ++ [.close] := by
  have hruns := d.upload_runs program signer w n
  generalize (d.upload program signer).run w n = o at h hruns
  cases hruns with
  | unopened ordinary => cases h
  | refused provider client connect => simp at h
  | @closed c o provider client connect body =>
    obtain ⟨-, made, hgoes, hmade⟩ := d.performs_uploadIn program signer (w.network.session n) w (n + 1)
    have hmeets := d.meets_uploadIn program signer (w := w) (w.network.session n)
    have hes : ∀ e ∈ o.trace.filter Event.isCall, IsUploading d program signer e := by
      intro e he
      rw [← body] at he
      exact hmeets.shows (n + 1) e (List.mem_filter.mp he).1
    rw [body] at hgoes hmade
    have hmem : .submit waits waits' ∈ o.trace := by simpa using h
    obtain ⟨fields, hfields, rfl⟩ := exists_of_submit_mem hgoes.planned
      ((mem_made_iff hmade .submit).mpr ⟨_, hmem, rfl⟩)
    obtain ⟨keepAlive, call, inclusion, finalization, hkeep, hcall, hwaits, hwaits', hevents⟩ :=
      events_of_calls hes hmade
    refine ⟨c, keepAlive, call, inclusion, finalization, fields, client, hkeep, hcall, hwaits, hwaits',
      hfields, ?_⟩
    simp [hevents]

end Deployer

end ProgramDeploy
