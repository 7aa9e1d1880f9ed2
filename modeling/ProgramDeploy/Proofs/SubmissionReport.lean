import ProgramDeploy.Proofs.DeploymentOutcome
import ProgramDeploy.Proofs.ProgramIdentity

namespace ProgramDeploy

open ProgramDeploy.Action

def Receipt.IsReadable (r : Receipt) : Prop :=
  r.blockHash = .null ∨
    (∃ isSuccess, r.isSuccess = .ok isSuccess) ∧ (∃ message, r.errorMessage = .ok message) ∧
      ∃ events items, r.triggeredEvents = .ok events ∧ events.items = .ok items

theorem Receipt.exists_upload_iff (r : Receipt) : (∃ u, r.upload = .ok u) ↔ r.IsReadable := by
  unfold upload IsReadable
  cases hnull : Deployer.isNull r.blockHash with
  | true => simp [Deployer.isNull_eq_true_iff.mp hnull]
  | false =>
    have hblock : r.blockHash ≠ .null := fun h => by simp [h, Deployer.isNull] at hnull
    simp only [Bool.false_eq_true, if_false, bind_eq_ok_iff, pure_eq_ok_iff, hblock, false_or]
    constructor
    · rintro ⟨u, isSuccess, hsuccess, message, hmessage, events, hevents, items, hitems, -⟩
      exact ⟨⟨isSuccess, hsuccess⟩, ⟨message, hmessage⟩, events, items, hevents, hitems⟩
    · rintro ⟨⟨isSuccess, hsuccess⟩, ⟨message, hmessage⟩, events, items, hevents, hitems⟩
      exact ⟨_, isSuccess, hsuccess, message, hmessage, events, hevents, items, hitems, rfl⟩

theorem Receipt.extrinsicHash_of_upload {r : Receipt} {u : Upload} (h : r.upload = .ok u) :
    u.extrinsicHash = r.extrinsicHash := by
  unfold upload at h
  split at h
  · cases h
    rfl
  · simp only [bind_eq_ok_iff, pure_eq_ok_iff] at h
    obtain ⟨_, -, _, -, _, -, _, -, rfl⟩ := h
    rfl

inductive Script.LateFault (s : Script) : Fault → Prop where
  | close {f : Fault} (failure : s.close = some f) : LateFault s f.fromWorker
  | receipt {f : Fault} (closed : s.close = none) (unread : s.receipt.upload = .error f) :
      LateFault s f.fromWorker
  | writing {u : Upload} {v : Value} {f : Fault} (closed : s.close = none) (read : s.receipt.upload = .ok u)
      (told : v ∈ u.rendered) (unwritten : v.shown = .error f) : LateFault s f

namespace Deployer

section Uploading

variable {d : Deployer} {program : Value} {signer : Account} {w : World} {n : Nat}
  {waits waits' : Value}

theorem result_readReceipt (r : Receipt) (w : World) (n : Nat) :
    ((readReceipt r).run w n).result = r.upload := by
  unfold readReceipt Receipt.upload
  split
  · rfl
  · simp only [run_bind, run_call]
    cases r.isSuccess with
    | error f => rfl
    | ok isSuccess =>
      cases r.errorMessage with
      | error f => rfl
      | ok message =>
        cases r.triggeredEvents with
        | error f => rfl
        | ok events => cases h : events.items <;> simp [h, bind, Except.bind, pure, Except.pure]

theorem isInterrupt_of_receipt {s : Script} (hcalm : s.IsCalm) {f : Fault} (h : s.receipt.upload = .error f) :
    f.isInterrupt = false := by
  let w : World := ⟨.empty, .empty, [], []⟩
  obtain ⟨-, made, hgoes, -⟩ := performs_readReceipt s w 0
  rw [result_readReceipt, h] at hgoes
  cases hgoes with
  | stopped planned answered ordinary => exact Fault.isInterrupt_of_isOrdinary ordinary
  | failed made planned answered failure => exact hcalm f (.call failure)

theorem isInterrupt_of_lateFault {s : Script} (hcalm : s.IsCalm) {f : Fault} (h : s.LateFault f) :
    f.isInterrupt = false := by
  cases h with
  | close failure =>
    rw [Fault.isInterrupt_fromWorker]
    exact hcalm _ (.close failure)
  | receipt closed unread =>
    rw [Fault.isInterrupt_fromWorker]
    exact isInterrupt_of_receipt hcalm unread
  | writing closed read told unwritten =>
    exact Fault.isInterrupt_of_isOrdinary (Value.ordinarily_shown _ f unwritten)

theorem submit_not_mem_composeUpload (s : Script) (program keepAlive : Value) (w : World) (n : Nat) :
    .submit waits waits' ∉ ((composeUpload s program keepAlive).run w n).trace := by
  have hmeets : Meets w (· ≠ .submit waits waits') (fun _ => True)
      (composeUpload s program keepAlive) := by
    apply Meets.liftM_bind
    intro call _
    apply Meets.liftM_bind
    intro summary _
    apply Meets.log_bind Event.noConfusion
    apply Meets.callUnit_bind Event.noConfusion
    exact meets_pure trivial
  exact fun h => hmeets.shows n _ h rfl

theorem result_uploadIn_of_submit {s : Script} (hsubmit : s.submit = none)
    (h : .submit waits waits' ∈ ((d.uploadIn program signer s).run w n).trace) :
    ((d.uploadIn program signer s).run w n).result = s.receipt.upload := by
  obtain ⟨keepAlive, -, h, hkeep⟩ := reached_of_mem_trace w n (by simp) h
  obtain ⟨call, -, h, hcompose⟩ :=
    reached_of_mem_trace w _ (submit_not_mem_composeUpload s program keepAlive w _) h
  obtain ⟨_, -, h, hsign⟩ := reached_of_mem_trace w _ (by simp) h
  obtain ⟨_, -, h, hlog⟩ := reached_of_mem_trace w _ (by simp) h
  obtain ⟨inclusion, -, h, hinclusion⟩ := reached_of_mem_trace w _ (by simp) h
  obtain ⟨finalization, -, h, hfinalization⟩ := reached_of_mem_trace w _ (by simp) h
  rw [uploadIn, hkeep, Outcome.result_after, hcompose, Outcome.result_after, hsign, Outcome.result_after,
    hlog, Outcome.result_after, hinclusion, Outcome.result_after, hfinalization, Outcome.result_after,
    run_bind, run_callUnit, hsubmit]
  exact result_readReceipt s.receipt w _

theorem result_upload_of_submit (hsubmit : (w.network.session n).submit = none)
    (h : .submit waits waits' ∈ ((d.upload program signer).run w n).trace) :
    ((d.upload program signer).run w n).result =
      ((w.network.session n).close.elim (w.network.session n).receipt.upload .error).mapError
        Fault.fromWorker := by
  have hruns := d.upload_runs program signer w n
  generalize (d.upload program signer).run w n = o at h hruns
  cases hruns with
  | unopened ordinary => cases h
  | refused provider client connect => simp at h
  | @closed _ o provider client connect body =>
    have hmem : .submit waits waits' ∈ o.trace := by simpa using h
    rw [← body] at hmem ⊢
    rw [result_uploadIn_of_submit hsubmit hmem]

theorem result_upload_eq_ok_iff (hsubmit : (w.network.session n).submit = none)
    (h : .submit waits waits' ∈ ((d.upload program signer).run w n).trace) (u : Upload) :
    ((d.upload program signer).run w n).result = .ok u ↔
      (w.network.session n).close = none ∧ (w.network.session n).receipt.upload = .ok u := by
  rw [result_upload_of_submit hsubmit h, mapError_eq_ok_iff]
  cases (w.network.session n).close <;> simp

end Uploading

section Telling

variable (i : Identity) (u : Upload) (w : World) (n : Nat)

theorem result_tellEvents_iff (vs : List Value) (x : PUnit) :
    ((tellEvents vs).run w n).result = .ok x ↔ ∀ v ∈ vs, ∃ text, v.shown = .ok text := by
  induction vs generalizing n with
  | nil => simp [tellEvents]
  | cons v vs ih =>
    have hcons : tellEvents (v :: vs) =
        (do log .info ("Event: " ++ (← v.shown)) : Action PUnit) >>= fun _ => tellEvents vs := rfl
    rw [hcons, result_bind_eq_ok_iff, List.forall_mem_cons]
    simp [ih, result_bind_eq_ok_iff]

theorem result_reportUpload_iff (programId : String) (x : Unit) :
    ((reportUpload programId u).run w n).result = .ok x ↔
      (∀ v ∈ u.events, ∃ text, v.shown = .ok text) ∧
        ∃ text, (if u.isSuccess.isTruthy then u.blockHash else u.errorMessage).shown = .ok text := by
  show ((tellEvents u.events >>= _).run w n).result = _ ↔ _
  rw [result_bind_eq_ok_iff]
  cases u.isSuccess.isTruthy <;> simp [result_tellEvents_iff, result_bind_eq_ok_iff]

theorem result_conclude_iff (x : Deployment) :
    ((conclude i u).run w n).result = .ok x ↔
      (∀ v ∈ u.rendered, ∃ text, v.shown = .ok text) ∧ i.deployment u = x := by
  unfold conclude Upload.rendered
  cases isNull u.blockHash with
  | true => simp [result_bind_eq_ok_iff]
  | false =>
    simp only [Bool.not_false, if_true, Bool.false_eq_true, if_false, List.forall_mem_cons,
      result_bind_eq_ok_iff, result_reportUpload_iff, run_liftM, run_log, run_pure]
    constructor
    · rintro ⟨sent, hsent, _, -, _, ⟨hevents, hshown⟩, hx⟩
      exact ⟨⟨⟨sent, hsent⟩, hshown, hevents⟩, Except.ok.inj hx⟩
    · rintro ⟨⟨⟨sent, hsent⟩, hshown, hevents⟩, rfl⟩
      exact ⟨sent, hsent, (), trivial, (), ⟨hevents, hshown⟩, rfl⟩

theorem exists_unshown_of_tellEvents {vs : List Value} {f : Fault}
    (h : ((tellEvents vs).run w n).result = .error f) : ∃ v ∈ vs, v.shown = .error f := by
  induction vs generalizing n with
  | nil => cases h
  | cons v vs ih =>
    have hcons : tellEvents (v :: vs) =
        (do log .info ("Event: " ++ (← v.shown)) : Action PUnit) >>= fun _ => tellEvents vs := rfl
    rw [hcons, result_bind_eq_error_iff] at h
    rcases h with h | ⟨_, -, h⟩
    · simp only [result_bind_eq_error_iff, run_liftM, run_log, reduceCtorEq, and_false, exists_false,
        or_false] at h
      exact ⟨v, List.mem_cons_self, h⟩
    · obtain ⟨v', hv', hshown⟩ := ih _ h
      exact ⟨v', List.mem_cons_of_mem _ hv', hshown⟩

theorem exists_unshown_of_reportUpload {programId : String} {f : Fault}
    (h : ((reportUpload programId u).run w n).result = .error f) :
    ∃ v ∈ (if u.isSuccess.isTruthy then u.blockHash else u.errorMessage) :: u.events, v.shown = .error f := by
  have hreport : reportUpload programId u = tellEvents u.events >>= fun _ => _ := rfl
  rw [hreport, result_bind_eq_error_iff] at h
  rcases h with h | ⟨_, -, h⟩
  · obtain ⟨v, hv, hshown⟩ := exists_unshown_of_tellEvents w n h
    exact ⟨v, List.mem_cons_of_mem _ hv, hshown⟩
  · refine ⟨_, List.mem_cons_self, ?_⟩
    cases hsuccess : u.isSuccess.isTruthy <;> simpa [hsuccess, result_bind_eq_error_iff] using h

theorem exists_unshown_of_conclude {f : Fault} (h : ((conclude i u).run w n).result = .error f) :
    ∃ v ∈ u.rendered, v.shown = .error f := by
  simp only [conclude, result_bind_eq_error_iff, run_liftM, run_log, reduceCtorEq, false_or] at h
  rcases h with hhash | ⟨_, -, _, -, h⟩
  · exact ⟨_, List.mem_cons_self, hhash⟩
  · cases hnull : isNull u.blockHash with
    | true => simp [hnull] at h
    | false =>
      simp only [hnull, Bool.not_false, if_true, result_bind_eq_error_iff, run_pure, reduceCtorEq, and_false,
        exists_false, or_false] at h
      obtain ⟨v, hv, hshown⟩ := exists_unshown_of_reportUpload u w _ h
      refine ⟨v, ?_, hshown⟩
      simp only [Upload.rendered, hnull, Bool.false_eq_true, if_false]
      exact List.mem_cons_of_mem _ hv

theorem sent_mem_conclude_iff (line : String) :
    .sent line ∈ ((conclude i u).run w n).trace ↔ u.extrinsicHash.shown = .ok line := by
  have htell (v : Value) : Meets w (· ≠ .sent line) (fun _ => True)
      (do log .info ("Event: " ++ (← v.shown))) := by
    apply Meets.liftM_bind
    intro text _
    apply meets_log
    simp [Event.sent, ← String.toList_inj]
  have hreport : Meets w (· ≠ .sent line) (fun _ => True) (reportUpload i.programId u) := by
    apply (meets_forM u.events htell).bind
    intro _ _
    split
    · apply Meets.log_bind (by simp [Event.sent])
      apply Meets.liftM_bind
      exact fun _ _ => meets_log (by simp [Event.sent])
    · apply Meets.liftM_bind
      exact fun _ _ => meets_log (by simp [Event.sent])
  have hrest : Meets w (· ≠ .sent line) (fun _ => True) (do
      if !isNull u.blockHash then reportUpload i.programId u
      return i.deployment u) := by
    split
    · exact hreport.bind fun _ _ => meets_pure trivial
    · exact meets_pure trivial
  unfold conclude
  rw [run_bind_liftM]
  cases hsent : u.extrinsicHash.shown with
  | error f => simp
  | ok sent =>
    rw [Outcome.settle_ok, run_bind_log, Outcome.trace_after, List.mem_append, List.mem_singleton]
    have hline (h : Event.sent line = .sent sent) : line = sent := by
      simpa [Event.sent, ← String.toList_inj] using h
    constructor
    · rintro (h | h)
      · rw [hline h]
      · exact absurd rfl (hrest.shows n _ h)
    · rintro h
      cases h
      exact .inl rfl

theorem concludes_sent (line : String) : (Event.sent line).concludes = true := by
  simp [Event.sent, Event.concludes, List.isPrefixOf]

theorem sent_mem_upload_conclude_iff (d : Deployer) (program : Value) (signer : Account) (line : String) :
    .sent line ∈ ((d.upload program signer >>= conclude i).run w n).trace ↔
      ∃ u, ((d.upload program signer).run w n).result = .ok u ∧ u.extrinsicHash.shown = .ok line := by
  have hupload : .sent line ∉ ((d.upload program signer).run w n).trace := by
    intro h
    have hquiet := concludes_of_isUploading (d.isUploading_of_mem_trace program signer h)
    rw [concludes_sent] at hquiet
    cases hquiet
  cases hu : ((d.upload program signer).run w n).result with
  | error f => simp [run_bind_of_error w n hu, hupload]
  | ok u => simp [run_bind_of_ok w n hu, hupload, sent_mem_conclude_iff]

end Telling

section Creating

variable (d : Deployer) (code initPayload : Value) (w : World) (n : Nat)

theorem sent_mem_create_iff (line : String) :
    .sent line ∈ ((d.create code initPayload).run w n).trace ↔
      .sent line ∈ ((d.deploy code initPayload).run w n).trace := by
  rw [create, run_handling, run_map]
  cases ((d.deploy code initPayload).run w n).result with
  | ok x => rfl
  | error f =>
    cases hi : f.isInterrupt with
    | true => simp [Except.map, hi]
    | false => cases htext : f.text <;> simp [Except.map, hi, logFault, run_bind, htext, Event.sent]

theorem result_create_eq_some_iff (x : Deployment) :
    ((d.create code initPayload).run w n).result = .ok (some x) ↔
      ((d.deploy code initPayload).run w n).result = .ok x := by
  constructor
  · obtain ⟨-, -, -, hresult⟩ := d.create_eq_deploy code initPayload w n
    exact hresult x
  · intro hx
    rw [d.run_create_of_ok code initPayload w n rfl hx]

variable {d code initPayload w n} in
theorem run_deploy_of_ok {p : Program} {made : Account × String}
    (hp : d.descriptor code initPayload w.entropy = .ok p) (hmade : Wallet.derive d.config = .ok made) :
    (d.deploy code initPayload).run w n =
      ((d.upload p.toValue made.1 >>= conclude (Identity.ofParts p.code (Program.drawSalt w.entropy))).run
        w n).after (Wallet.accountLine made ::
          (Identity.ofParts p.code (Program.drawSalt w.entropy)).lines) := by
  rw [run_deploy, hp, hmade]
  rfl

theorem exists_upload_of_submit {waits waits' : Value}
    (h : .submit waits waits' ∈ ((d.create code initPayload).run w n).trace) :
    ∃ p made, d.descriptor code initPayload w.entropy = .ok p ∧ Wallet.derive d.config = .ok made ∧
      .submit waits waits' ∈ ((d.upload p.toValue made.1).run w n).trace := by
  rcases d.create_presents code initPayload w n with ⟨haside, -⟩ | ⟨p, made, rest, hp, hmade, hpresents⟩
  · have hcall := (haside _ h).1
    cases hcall
  · exact ⟨p, made, hp, hmade, hpresents.mem_upload_of_isCall h rfl⟩

section Submitted

variable {d code initPayload w n} {p : Program} {made : Account × String} {waits waits' : Value}
  (hp : d.descriptor code initPayload w.entropy = .ok p) (hmade : Wallet.derive d.config = .ok made)
  (htaken : (w.network.session n).submit = none)
  (hsubmit : .submit waits waits' ∈ ((d.upload p.toValue made.1).run w n).trace)

include hp hmade htaken hsubmit

theorem sent_mem_create_of_submit_iff (hash : String) :
    .sent hash ∈ ((d.create code initPayload).run w n).trace ↔
      (w.network.session n).close = none ∧ (w.network.session n).receipt.IsReadable ∧
        (w.network.session n).receipt.extrinsicHash.shown = .ok hash := by
  have hopening : .sent hash ∉ Wallet.accountLine made ::
      (Identity.ofParts p.code (Program.drawSalt w.entropy)).lines := by
    intro h
    have hquiet := concludes_of_opening h
    rw [concludes_sent] at hquiet
    cases hquiet
  rw [sent_mem_create_iff, run_deploy_of_ok hp hmade, Outcome.trace_after, List.mem_append,
    or_iff_right hopening, sent_mem_upload_conclude_iff, ← Receipt.exists_upload_iff]
  constructor
  · rintro ⟨u, hu, hhash⟩
    obtain ⟨hclose, hread⟩ := (result_upload_eq_ok_iff htaken hsubmit u).mp hu
    rw [Receipt.extrinsicHash_of_upload hread] at hhash
    exact ⟨hclose, ⟨u, hread⟩, hhash⟩
  · rintro ⟨hclose, ⟨u, hread⟩, hhash⟩
    rw [← Receipt.extrinsicHash_of_upload hread] at hhash
    exact ⟨u, (result_upload_eq_ok_iff htaken hsubmit u).mpr ⟨hclose, hread⟩, hhash⟩

theorem result_create_of_submit_iff (x : Deployment) :
    ((d.create code initPayload).run w n).result = .ok (some x) ↔
      (w.network.session n).close = none ∧ ∃ u, (w.network.session n).receipt.upload = .ok u ∧
        (∀ v ∈ u.rendered, ∃ text, v.shown = .ok text) ∧
        (Identity.ofParts p.code (Program.drawSalt w.entropy)).deployment u = x := by
  rw [result_create_eq_some_iff, run_deploy_of_ok hp hmade, Outcome.result_after, result_bind_eq_ok_iff]
  simp only [result_upload_eq_ok_iff htaken hsubmit, result_conclude_iff, and_assoc, exists_and_left]

theorem lateFault_of_deploy {f : Fault} (hf : ((d.deploy code initPayload).run w n).result = .error f) :
    (w.network.session n).LateFault f := by
  rw [run_deploy_of_ok hp hmade, Outcome.result_after, result_bind_eq_error_iff] at hf
  rcases hf with hf | ⟨u, hu, hf⟩
  · rw [result_upload_of_submit htaken hsubmit, mapError_eq_error_iff] at hf
    obtain ⟨g, hg, rfl⟩ := hf
    cases hclose : (w.network.session n).close with
    | some f =>
      rw [hclose] at hg
      cases hg
      exact .close hclose
    | none =>
      rw [hclose] at hg
      exact .receipt hclose hg
  · obtain ⟨hclose, hread⟩ := (result_upload_eq_ok_iff htaken hsubmit u).mp hu
    obtain ⟨v, hv, hshown⟩ := exists_unshown_of_conclude _ u w _ hf
    exact .writing hclose hread hv hshown

theorem failed_of_submit (hcalm : (w.network.session n).IsCalm)
    (hnone : ¬ ∃ x, ((d.create code initPayload).run w n).result = .ok (some x)) :
    ∃ f, (w.network.session n).LateFault f ∧ ∀ text, f.text = .ok text →
      ((d.create code initPayload).run w n).result = .ok none ∧
      ∃ before, ((d.create code initPayload).run w n).trace = before ++ [.failed text] := by
  cases hdeploy : ((d.deploy code initPayload).run w n).result with
  | ok x => exact absurd ⟨x, (result_create_eq_some_iff d code initPayload w n x).mpr hdeploy⟩ hnone
  | error f =>
    have hlate := lateFault_of_deploy hp hmade htaken hsubmit hdeploy
    refine ⟨f, hlate, fun text htext => ?_⟩
    rw [d.run_create_of_fault code initPayload w n rfl hdeploy (isInterrupt_of_lateFault hcalm hlate) htext]
    exact ⟨rfl, _, rfl⟩

end Submitted

/-- The hash of an extrinsic that a node has taken is logged just if its session closes, its receipt
can be read and the hash can be written; a result carries it just if all that is told can be. Otherwise
the fault is told, and there is no result. -/
theorem submitted_hash_is_reported_iff {waits waits' : Value}
    (hsubmit : .submit waits waits' ∈ ((d.create code initPayload).run w n).trace)
    (htaken : (w.network.session n).submit = none) :
    let s := w.network.session n
    let o := (d.create code initPayload).run w n
    (∀ hash, .sent hash ∈ o.trace ↔
      s.close = none ∧ s.receipt.IsReadable ∧ s.receipt.extrinsicHash.shown = .ok hash) ∧
    ((∃ x, o.result = .ok (some x)) ↔ s.close = none ∧ ∃ u, s.receipt.upload = .ok u ∧
      ∀ v ∈ u.rendered, ∃ text, v.shown = .ok text) ∧
    (∀ x, o.result = .ok (some x) → x.extrinsicHash = s.receipt.extrinsicHash) ∧
    (s.IsCalm → (¬ ∃ x, o.result = .ok (some x)) → ∃ f, s.LateFault f ∧ ∀ text, f.text = .ok text →
      o.result = .ok none ∧ ∃ before, o.trace = before ++ [.failed text]) := by
  intro s o
  obtain ⟨p, made, hp, hmade, hmem⟩ := exists_upload_of_submit d code initPayload w n hsubmit
  have hresult := result_create_of_submit_iff hp hmade htaken hmem
  refine ⟨sent_mem_create_of_submit_iff hp hmade htaken hmem, ?_, fun x hx => ?_,
    failed_of_submit hp hmade htaken hmem⟩
  · constructor
    · rintro ⟨x, hx⟩
      obtain ⟨hclose, u, hread, hshown, -⟩ := (hresult x).mp hx
      exact ⟨hclose, u, hread, hshown⟩
    · rintro ⟨hclose, u, hread, hshown⟩
      exact ⟨_, (hresult _).mpr ⟨hclose, u, hread, hshown, rfl⟩⟩
  · obtain ⟨-, u, hread, -, rfl⟩ := (hresult x).mp hx
    exact Receipt.extrinsicHash_of_upload hread

end Creating

section Sample

def leaving : Script :=
  { including with receipt := { including.receipt with
      triggeredEvents := .error (.raised (.system .connection) [.text "gone"] []) } }

theorem isCalm_leaving : leaving.IsCalm := by
  intro f h
  cases h with
  | connect failure => cases failure
  | close failure => cases failure
  | @call c f failure =>
    cases c with
    | read field =>
      cases field with
      | triggeredEvents =>
        cases failure
        rfl
      | _ => cases failure
    | _ => cases failure

theorem text_of_lateFault_leaving {f : Fault} (h : leaving.LateFault f) : f.text = .ok "gone" := by
  cases h with
  | close failure => cases failure
  | receipt closed unread =>
    cases unread
    rfl
  | writing closed read told unwritten => cases read

def worldOf (s : Script) : World :=
  ⟨.empty, .empty, [7], [s]⟩

theorem exists_submit_mem_create_seeded {s : Script} (h : s.Submits) :
    ∃ waits waits',
      .submit waits waits' ∈ ((seeded.create (.bytes [0]) .null).run (worldOf s) 0).trace := by
  obtain ⟨made, hmade⟩ := exists_derive_seeded
  have hp : seeded.descriptor (.bytes [0]) .null [7] =
      .ok ⟨[0], .int 1000000, .int 1000, [], .bytes (List.replicate 20 7)⟩ := rfl
  have hshort (n : Int) (h : n.natAbs < Nat.pow 10 7) : Numeral.IsShort n :=
    Numeral.isShort_of_lt (by decide) h
  obtain ⟨gasLimit, hgas⟩ := Value.shown_int_of_isShort (hshort 1000000 (by decide))
  obtain ⟨value, hvalue⟩ := Value.shown_int_of_isShort (hshort 1000 (by decide))
  obtain ⟨call, -, hsubmit⟩ := calls_mem_create_of_submits (w := worldOf s) (n := 0) h hp hmade rfl rfl rfl
    hgas hvalue rfl rfl
  exact ⟨_, _, hsubmit⟩

theorem submitted_hash_is_reported_including :
    let o := (seeded.create (.bytes [0]) .null).run (worldOf including) 0
    let o' := (seeded.create (.bytes [0]) .null).run (worldOf leaving) 0
    (∃ waits waits', .submit waits waits' ∈ o.trace) ∧ including.submit = none ∧
      .sent "0xa1" ∈ o.trace ∧ (∃ x, o.result = .ok (some x) ∧ x.extrinsicHash = .text "0xa1") ∧
      (∃ before, o'.trace = before ++ [.failed "gone"]) ∧ o'.result = .ok none := by
  intro o o'
  obtain ⟨waits, waits', hsubmit⟩ := exists_submit_mem_create_seeded (s := including) ⟨rfl, rfl, rfl, rfl⟩
  obtain ⟨hsent, hresult, hhash, -⟩ :=
    submitted_hash_is_reported_iff seeded (.bytes [0]) .null (worldOf including) 0 hsubmit rfl
  have hreadable : including.receipt.IsReadable := .inr ⟨⟨_, rfl⟩, ⟨_, rfl⟩, _, _, rfl, rfl⟩
  have hshown : ∀ v ∈ [Value.text "0xa1", .text "0xb2", .text "ProgramChanged"], ∃ text,
      v.shown = .ok text := by
    simp only [List.forall_mem_cons, List.not_mem_nil, false_imp_iff, implies_true, and_true]
    exact ⟨⟨_, rfl⟩, ⟨_, rfl⟩, ⟨_, rfl⟩⟩
  obtain ⟨x, hx⟩ := hresult.mpr ⟨rfl, _, rfl, hshown⟩
  obtain ⟨leaves, leaves', hsubmit'⟩ := exists_submit_mem_create_seeded (s := leaving) ⟨rfl, rfl, rfl, rfl⟩
  obtain ⟨-, hlost, -, hfailed⟩ :=
    submitted_hash_is_reported_iff seeded (.bytes [0]) .null (worldOf leaving) 0 hsubmit' rfl
  have hnone : ¬ ∃ x, o'.result = .ok (some x) := by
    rintro hsome
    obtain ⟨-, u, hread, -⟩ := hlost.mp hsome
    cases hread
  obtain ⟨f, hlate, htold⟩ := hfailed isCalm_leaving hnone
  obtain ⟨hresult', before, htrace⟩ := htold "gone" (text_of_lateFault_leaving hlate)
  exact ⟨⟨waits, waits', hsubmit⟩, rfl, (hsent "0xa1").mpr ⟨rfl, hreadable, rfl⟩, ⟨x, hx, hhash x hx⟩,
    ⟨before, htrace⟩, hresult'⟩

theorem submitted_hash_is_lost_leaving :
    let o := (seeded.create (.bytes [0]) .null).run (worldOf leaving) 0
    (∃ waits waits', .submit waits waits' ∈ o.trace) ∧ leaving.submit = none ∧
      (¬ IsInterrupt leaving.connect ∧ ¬ IsInterrupt leaving.close ∧
        ∀ c, ¬ IsInterrupt (leaving.failure? c)) ∧
      (∀ hash, .sent hash ∉ o.trace) ∧ o.result = .ok none := by
  intro o
  obtain ⟨waits, waits', hsubmit⟩ := exists_submit_mem_create_seeded (s := leaving) ⟨rfl, rfl, rfl, rfl⟩
  obtain ⟨p, made, hp, hmade, hmem⟩ :=
    exists_upload_of_submit seeded (.bytes [0]) .null (worldOf leaving) 0 hsubmit
  have hcalm (c : Call) : ¬ IsInterrupt (leaving.failure? c) := by
    cases c with
    | read field => cases field <;> simp [Script.failure?, failureIn, leaving, including, Fault.isInterrupt, Fault.kind]
    | _ => simp [Script.failure?, failureIn, leaving, including, Script.plain, Script.request]
  have hunreadable : ¬ leaving.receipt.IsReadable := by
    rintro (hblock | ⟨-, -, events, items, hevents, -⟩)
    · cases hblock
    · cases hevents
  have hupload := result_upload_of_submit (w := worldOf leaving) (n := 0) rfl hmem
  have hdeploy := run_deploy_of_ok (w := worldOf leaving) (n := 0) hp hmade
  rw [run_bind_of_error _ _ hupload] at hdeploy
  refine ⟨⟨waits, waits', hsubmit⟩, rfl, ⟨by simp [leaving, including, Script.plain],
    by simp [leaving, including, Script.plain], hcalm⟩, ?_, ?_⟩
  · intro hash hsent
    exact hunreadable ((sent_mem_create_of_submit_iff hp hmade rfl hmem hash).mp hsent).2.1
  · have hcreate := seeded.run_create_of_fault (.bytes [0]) .null (worldOf leaving) 0 hdeploy rfl rfl rfl
    exact congrArg Outcome.result hcreate

end Sample

end Deployer

end ProgramDeploy
