import ProgramDeploy.Proofs.DeploymentStages

namespace ProgramDeploy

open ProgramDeploy.Action

theorem Deployer.isNull_eq_true_iff {v : Value} : isNull v = true ↔ v = .null := by
  cases v <;> simp [isNull]

def Receipt.upload (r : Receipt) : Except Fault Upload :=
  if Deployer.isNull r.blockHash then .ok ⟨r.extrinsicHash, .null, .null, .null, []⟩
  else do
    let isSuccess ← r.isSuccess
    let errorMessage ← r.errorMessage
    let events ← (← r.triggeredEvents).items
    return ⟨r.extrinsicHash, r.blockHash, isSuccess, errorMessage, events⟩

theorem Receipt.blockHash_of_upload {r : Receipt} {u : Upload} (h : r.upload = .ok u) :
    u.blockHash = r.blockHash ∧ (r.blockHash = .null → u.isSuccess = .null ∧ u.events = []) := by
  unfold upload at h
  split at h
  · rename_i hnull
    cases h
    exact ⟨(Deployer.isNull_eq_true_iff.mp hnull).symm, fun _ => ⟨rfl, rfl⟩⟩
  · rename_i hnull
    simp only [bind_eq_ok_iff, pure_eq_ok_iff] at h
    obtain ⟨isSuccess, -, errorMessage, -, events, -, items, -, rfl⟩ := h
    exact ⟨rfl, fun h => absurd (Deployer.isNull_eq_true_iff.mpr h) hnull⟩

def IsInterrupt (failure : Option Fault) : Prop :=
  ∃ f, failure = some f ∧ f.isInterrupt = true

@[simp] theorem not_isInterrupt_none : ¬ IsInterrupt none := by
  rintro ⟨f, h, -⟩
  cases h

@[simp] theorem isInterrupt_some (f : Fault) : IsInterrupt (some f) ↔ f.isInterrupt = true := by
  simp [IsInterrupt]

/-- Whether a session is interrupted: when it is opened, when it is closed, or by a call in between
if the close meets no failure. -/
def Script.Interrupts (s : Script) (es : List Event) : Prop :=
  (IsInterrupt s.connect ∧ ∃ url format, .connect url format ∈ es) ∨
    .close ∈ es ∧ (IsInterrupt s.close ∨
      s.close = none ∧ ∃ e ∈ es, ∃ c, e.call? = some c ∧ IsInterrupt (s.failure? c))

theorem Event.isCall_of_call? {e : Event} {c : Call} (h : e.call? = some c) : e.isCall = true := by
  cases e with
  | log => cases h
  | _ => simp [isCall]

theorem Script.interrupts_filter (s : Script) (es : List Event) :
    s.Interrupts (es.filter Event.isCall) ↔ s.Interrupts es := by
  have hcall : (∃ e ∈ es.filter Event.isCall, ∃ c, e.call? = some c ∧ IsInterrupt (s.failure? c)) ↔
      ∃ e ∈ es, ∃ c, e.call? = some c ∧ IsInterrupt (s.failure? c) := by
    constructor
    · rintro ⟨e, he, h⟩
      exact ⟨e, (List.mem_filter.mp he).1, h⟩
    · rintro ⟨e, he, c, hc, h⟩
      exact ⟨e, List.mem_filter.mpr ⟨he, Event.isCall_of_call? hc⟩, c, hc, h⟩
  rw [Interrupts, hcall]
  simp [Interrupts, List.mem_filter]

theorem Script.interrupts_closed {s : Script} (hconnect : s.connect = none) (hclose : s.close = none)
    (message : String) (url format : Value) (es : List Event) :
    s.Interrupts (.log .debug message :: .connect url format :: es ++ [.close]) ↔
      ∃ c, (∃ e ∈ es, e.call? = some c) ∧ IsInterrupt (s.failure? c) := by
  constructor
  · rintro (⟨h, -⟩ | ⟨-, h | ⟨-, e, he, c, hc, h⟩⟩)
    · simp [hconnect] at h
    · simp [hclose] at h
    · simp only [List.cons_append, List.mem_cons, List.mem_append, List.not_mem_nil, or_false] at he
      rcases he with rfl | rfl | he | rfl
      · cases hc
      · cases hc
      · exact ⟨c, ⟨e, he, hc⟩, h⟩
      · cases hc
  · rintro ⟨c, ⟨e, he, hc⟩, h⟩
    exact .inr ⟨by simp, .inr ⟨hclose, e, by simp [he], c, hc, h⟩⟩

theorem Script.interrupts_congr (s : Script) {es fs : List Event}
    (h : es.filter Event.isCall = fs.filter Event.isCall) : s.Interrupts es ↔ s.Interrupts fs := by
  rw [← s.interrupts_filter es, ← s.interrupts_filter fs, h]

theorem mem_made_iff {made : List Call} {es : List Event}
    (h : (es.filter Event.isCall).map Event.call? = made.map some) (c : Call) :
    c ∈ made ↔ ∃ e ∈ es, e.call? = some c := by
  constructor
  · intro hc
    have hsome : some c ∈ (es.filter Event.isCall).map Event.call? := by
      rw [h]
      exact List.mem_map_of_mem hc
    obtain ⟨e, he, hec⟩ := List.mem_map.mp hsome
    exact ⟨e, (List.mem_filter.mp he).1, hec⟩
  · rintro ⟨e, he, hec⟩
    have hsome : some c ∈ made.map some := by
      rw [← h, ← hec]
      exact List.mem_map_of_mem (List.mem_filter.mpr ⟨he, Event.isCall_of_call? hec⟩)
    simpa using hsome

theorem UploadCall.summary_eq {c : UploadCall} {program : Value} {summary : String}
    (h : c.summary program = .ok summary) :
    ∃ rest, summary = "Composing Gear.upload_program: " ++ rest := by
  simp only [UploadCall.summary, bind_eq_ok_iff, pure_eq_ok_iff] at h
  obtain ⟨v, -, size, -, gasLimit, -, value, -, rfl⟩ := h
  refine ⟨toString size ++ " bytes, gas limit " ++ gasLimit ++ ", value " ++ value, ?_⟩
  simp only [String.append_assoc]
  rfl

namespace Deployer

theorem performs_composeUpload (s : Script) (program keepAlive : Value) :
    Performs s [.compose] (composeUpload s program keepAlive) := by
  apply (performs_liftM (UploadCall.ordinarily_ofValue program keepAlive)).behind
  intro c
  apply (performs_liftM (c.ordinarily_summary program)).behind
  intro line
  apply (performs_log _ _).behind
  intro _
  exact (performs_callUnit rfl rfl).bind fun _ => performs_pure c

theorem performs_readReceipt (s : Script) :
    Performs s s.receipt.reads (readReceipt s.receipt) := by
  unfold readReceipt Receipt.reads
  split
  · exact performs_pure _
  · apply (performs_call rfl rfl).bind
    intro isSuccess
    apply (performs_call rfl rfl).bind
    intro errorMessage
    apply (performs_call rfl rfl).bind
    exact fun events => (performs_liftM (by simp)).bind fun _ => performs_pure _

theorem performs_uploadIn (d : Deployer) (program : Value) (signer : Account) (s : Script) :
    Performs s s.uploadCalls (d.uploadIn program signer s) := by
  apply (performs_liftM (Value.ordinarily_fieldOrNull d.program "keep_alive")).behind
  intro keepAlive
  apply (performs_composeUpload s program keepAlive).bind
  intro _
  apply (performs_callUnit rfl rfl).bind
  intro _
  apply (performs_log _ _).behind
  intro _
  apply (performs_liftM (Value.ordinarily_field d.submission _)).behind
  intro inclusion
  apply (performs_liftM (Value.ordinarily_field d.submission _)).behind
  intro finalization
  exact (performs_callUnit rfl rfl).bind fun _ => performs_readReceipt s

variable (d : Deployer) (program : Value) (signer : Account)

inductive IsUploading : Event → Prop where
  | connecting (provider : String) : IsUploading (.log .debug ("Connecting to " ++ provider))
  | connect {c : Client} (client : d.client = some c) :
      IsUploading (.connect c.providerAddress c.format)
  | composing {call : UploadCall} {summary : String} (made : call.summary program = .ok summary) :
      IsUploading (.log .debug summary)
  | compose {call : UploadCall} {keepAlive : Value}
      (keep : d.program.fieldOrNull "keep_alive" = .ok keepAlive)
      (made : UploadCall.ofValue program keepAlive = .ok call) : IsUploading (.compose call)
  | sign : IsUploading (.sign signer)
  | signed :
      IsUploading (.log .info
        ("🚀 create_program ~ extrinsic Gear.upload_program signed by " ++ signer.address))
  | submit {inclusion finalization : Value}
      (waits : d.submission.field "wait_for_inclusion" = .ok inclusion)
      (waits' : d.submission.field "wait_for_finalization" = .ok finalization) :
      IsUploading (.submit inclusion finalization)
  | read (field : ReceiptField) : IsUploading (.read field)
  | close : IsUploading .close

theorem meets_composeUpload {w : World} (s : Script) {keepAlive : Value}
    (h : d.program.fieldOrNull "keep_alive" = .ok keepAlive) :
    Meets w (IsUploading d program signer) (fun _ => True) (composeUpload s program keepAlive) := by
  apply Meets.liftM_bind
  intro call hcall
  apply Meets.liftM_bind
  intro summary hsummary
  apply Meets.log_bind (.composing hsummary)
  apply Meets.callUnit_bind (.compose h hcall)
  exact meets_pure trivial

theorem meets_readReceipt {w : World} (r : Receipt) :
    Meets w (IsUploading d program signer) (fun u => r.upload = .ok u) (readReceipt r) := by
  unfold readReceipt Receipt.upload
  split
  · exact meets_pure rfl
  · apply Meets.call_bind (.read _)
    intro isSuccess hsuccess
    apply Meets.call_bind (.read _)
    intro errorMessage hmessage
    apply Meets.call_bind (.read _)
    intro events hevents
    apply Meets.liftM_bind
    intro items hitems
    apply meets_pure
    rw [hsuccess, hmessage, hevents]
    simp [bind, Except.bind, hitems, pure, Except.pure]

theorem meets_uploadIn {w : World} (s : Script) :
    Meets w (IsUploading d program signer) (fun u => s.receipt.upload = .ok u)
      (d.uploadIn program signer s) := by
  apply Meets.liftM_bind
  intro keepAlive hkeep
  apply (d.meets_composeUpload program signer s hkeep).bind
  intro _ _
  apply Meets.callUnit_bind .sign
  apply Meets.log_bind .signed
  apply Meets.liftM_bind
  intro inclusion hinclusion
  apply Meets.liftM_bind
  intro finalization hfinalization
  apply Meets.callUnit_bind (.submit hinclusion hfinalization)
  exact d.meets_readReceipt program signer s.receipt

inductive UploadRuns (w : World) (n : Nat) : Outcome Upload → Prop where
  | unopened {f : Fault} (ordinary : f.isOrdinary = true) : UploadRuns w n ⟨.error f, [], n⟩
  | refused {c : Client} {f : Fault} (provider : String) (client : d.client = some c)
      (connect : (w.network.session n).connect = some f) :
      UploadRuns w n ⟨.error f.fromWorker,
        [.log .debug ("Connecting to " ++ provider), .connect c.providerAddress c.format], n + 1⟩
  | closed {c : Client} {o : Outcome Upload} (provider : String) (client : d.client = some c)
      (connect : (w.network.session n).connect = none)
      (body : (d.uploadIn program signer (w.network.session n)).run w (n + 1) = o) :
      UploadRuns w n ⟨((w.network.session n).close.elim o.result .error).mapError Fault.fromWorker,
        .log .debug ("Connecting to " ++ provider) :: .connect c.providerAddress c.format ::
          o.trace ++ [.close], o.opened⟩

theorem upload_runs (w : World) (n : Nat) :
    UploadRuns d program signer w n ((d.upload program signer).run w n) := by
  unfold upload
  cases hclient : d.client with
  | none => exact .unopened rfl
  | some c =>
    dsimp only
    rw [run_inWorker, Client.run_withSession]
    cases hprovider : c.providerAddress.shown with
    | error f =>
      have hordinary := Value.ordinarily_shown c.providerAddress f hprovider
      simp only [Outcome.settle_error, mapError_error, Fault.fromWorker_of_isOrdinary hordinary]
      exact .unopened hordinary
    | ok provider =>
      cases hconnect : (w.network.session n).connect with
      | some f =>
        rw [Outcome.settle_ok]
        exact .refused provider hclient hconnect
      | none =>
        rw [Outcome.settle_ok]
        exact .closed provider hclient hconnect rfl

theorem isUploading_of_mem_trace {w : World} {n : Nat} {e : Event}
    (he : e ∈ ((d.upload program signer).run w n).trace) : IsUploading d program signer e := by
  unfold upload at he
  cases hclient : d.client with
  | none =>
    rw [hclient] at he
    cases he
  | some c =>
    rw [hclient] at he
    have hmeets : Meets w (IsUploading d program signer) (fun _ => True)
        (c.withSession (d.uploadIn program signer)) :=
      c.meets_withSession .connecting (.connect hclient) .close fun s =>
        (d.meets_uploadIn program signer s).mono (fun _ h => h) fun _ _ => trivial
    exact hmeets.inWorker.shows n e he

theorem receipt_of_upload {w : World} {n : Nat} {u : Upload}
    (hu : ((d.upload program signer).run w n).result = .ok u) :
    (w.network.session n).receipt.upload = .ok u := by
  have hruns := d.upload_runs program signer w n
  generalize (d.upload program signer).run w n = o at hu hruns
  cases hruns with
  | unopened ordinary => cases hu
  | refused provider client connect => cases hu
  | @closed _ o provider client connect body =>
    cases hclose : (w.network.session n).close with
    | some g => simp [hclose] at hu
    | none =>
      cases hresult : o.result with
      | error f => simp [hclose, hresult] at hu
      | ok v =>
        have hv : v = u := by simpa [hclose, hresult] using hu
        rw [← body] at hresult
        rw [← hv]
        exact (d.meets_uploadIn program signer _).returns _ v hresult

theorem composes_of_upload {w : World} {n : Nat} {u : Upload}
    (hu : ((d.upload program signer).run w n).result = .ok u) :
    ∃ call, .compose call ∈ ((d.upload program signer).run w n).trace := by
  have hruns := d.upload_runs program signer w n
  generalize (d.upload program signer).run w n = o at hu hruns
  cases hruns with
  | unopened ordinary => cases hu
  | refused provider client connect => cases hu
  | @closed _ o provider client connect body =>
    obtain ⟨-, made, hgoes, hmade⟩ := d.performs_uploadIn program signer (w.network.session n) w (n + 1)
    rw [body] at hgoes hmade
    cases hclose : (w.network.session n).close with
    | some g => simp [hclose] at hu
    | none =>
      cases hresult : o.result with
      | error f => simp [hclose, hresult] at hu
      | ok v =>
        rw [hresult] at hgoes
        cases hgoes with
        | through _ answered =>
          obtain ⟨e, he, hcall⟩ := (mem_made_iff hmade .compose).mp List.mem_cons_self
          cases e with
          | compose call => exact ⟨call, by simp [he]⟩
          | _ => cases hcall

theorem result_of_upload_of_close {w : World} {n : Nat} {g : Fault}
    (hclose : (w.network.session n).close = some g)
    (h : .close ∈ ((d.upload program signer).run w n).trace) :
    ((d.upload program signer).run w n).result = .error g.fromWorker := by
  have hruns := d.upload_runs program signer w n
  generalize (d.upload program signer).run w n = o at h hruns
  cases hruns with
  | unopened ordinary => cases h
  | refused provider client connect => simp at h
  | closed provider client connect body => simp [hclose]

theorem upload_isInterrupt_iff (w : World) (n : Nat) :
    (∃ f, ((d.upload program signer).run w n).result = .error f ∧ f.isInterrupt = true) ↔
      (w.network.session n).Interrupts ((d.upload program signer).run w n).trace := by
  have hruns := d.upload_runs program signer w n
  generalize (d.upload program signer).run w n = o at hruns
  cases hruns with
  | unopened ordinary => simp [Script.Interrupts, Fault.isInterrupt_of_isOrdinary ordinary]
  | refused provider client connect => simp [Script.Interrupts, connect]
  | @closed _ o provider client connect body =>
    obtain ⟨-, made, hgoes, hmade⟩ := d.performs_uploadIn program signer (w.network.session n) w (n + 1)
    rw [body] at hgoes hmade
    have hcalls := hgoes.isInterrupt_iff
    simp only [mem_made_iff hmade] at hcalls
    -- A fault of the close hides what the calls have come to.
    cases hclose : (w.network.session n).close with
    | some g => simp [Script.Interrupts, connect, hclose]
    | none =>
      rw [Script.interrupts_closed connect hclose]
      refine Iff.trans ?_ hcalls
      cases o.result <;> simp

theorem performs_conclude (s : Script) (i : Identity) (u : Upload) : Performs s [] (conclude i u) := by
  have htell (v : Value) : Performs s [] (do log .info ("Event: " ++ (← v.shown))) :=
    (performs_liftM v.ordinarily_shown).behind fun _ => performs_log _ _
  have hreport : Performs s [] (reportUpload i.programId u) := by
    apply (performs_forM u.events htell).behind
    intro _
    split
    · apply (performs_log _ _).behind
      intro _
      exact (performs_liftM (Value.ordinarily_shown _)).behind fun _ => performs_log _ _
    · exact (performs_liftM (Value.ordinarily_shown _)).behind fun _ => performs_log _ _
  apply (performs_liftM u.extrinsicHash.ordinarily_shown).behind
  intro _
  apply (performs_log _ _).behind
  intro _
  split
  · exact hreport.behind fun _ => performs_pure _
  · exact performs_pure _

end Deployer

def Script.Answers (s : Script) : Prop :=
  s.connect = none ∧ s.close = none ∧ ∀ c, s.failure? c = none

theorem Script.answers_plain : Script.plain.Answers := by
  refine ⟨rfl, rfl, fun c => ?_⟩
  cases c with
  | read field => cases field <;> rfl
  | _ => rfl

structure Script.Submits (s : Script) : Prop where
  connect : s.connect = none
  compose : s.compose = none
  sign : s.sign = none
  submit : s.submit = none

theorem Script.Answers.submits {s : Script} (h : s.Answers) : s.Submits := by
  obtain ⟨hconnect, -, hcalls⟩ := h
  exact ⟨hconnect, hcalls .compose, hcalls .sign, hcalls .submit⟩

theorem Goes.ordinarily {α : Type} {s : Script} {plan made : List Call} {x : Except Fault α}
    (h : Goes s plan made x) (hs : ∀ c, s.failure? c = none) : Ordinarily x := by
  cases h with
  | through y answered => exact .ok y
  | stopped planned answered ordinary => exact Ordinarily.error_iff.mpr ordinary
  | failed made planned answered failure => simp [hs] at failure

namespace Deployer

theorem ordinarily_upload (d : Deployer) (program : Value) (signer : Account) {w : World} {n : Nat}
    (h : (w.network.session n).Answers) : Ordinarily ((d.upload program signer).run w n).result := by
  obtain ⟨hconnect, hclose, hcalls⟩ := h
  have hruns := d.upload_runs program signer w n
  generalize (d.upload program signer).run w n = o at hruns
  cases hruns with
  | unopened ordinary => exact Ordinarily.error_iff.mpr ordinary
  | refused provider client connect => simp [hconnect] at connect
  | @closed _ o provider client connect body =>
    obtain ⟨-, made, hgoes, -⟩ := d.performs_uploadIn program signer (w.network.session n) w (n + 1)
    have hbody := hgoes.ordinarily hcalls
    rw [body] at hbody
    rw [hclose]
    cases hresult : o.result with
    | ok u => exact .ok u
    | error f =>
      have hordinary := hbody f hresult
      simp [Fault.fromWorker_of_isOrdinary hordinary, hordinary]

theorem calls_mem_of_submits {d : Deployer} {program : Value} (signer : Account) {w : World} {n : Nat}
    {c : Client} {provider summary : String} {keepAlive inclusion finalization : Value}
    {call : UploadCall} (hclient : d.client = some c) (hprovider : c.providerAddress.shown = .ok provider)
    (hsubmits : (w.network.session n).Submits) (hkeep : d.program.fieldOrNull "keep_alive" = .ok keepAlive)
    (hcall : UploadCall.ofValue program keepAlive = .ok call)
    (hsummary : call.summary program = .ok summary)
    (hwaits : d.submission.field "wait_for_inclusion" = .ok inclusion)
    (hwaits' : d.submission.field "wait_for_finalization" = .ok finalization) :
    .compose call ∈ ((d.upload program signer).run w n).trace ∧
      .submit inclusion finalization ∈ ((d.upload program signer).run w n).trace := by
  obtain ⟨hconnect, hcompose, hsign, hsubmit⟩ := hsubmits
  unfold upload
  rw [hclient]
  dsimp only
  rw [run_inWorker, Client.run_withSession, hprovider, Outcome.settle_ok, hconnect]
  simp [uploadIn, composeUpload, run_bind, hkeep, hcall, hsummary, hcompose, hsign, hwaits, hwaits', hsubmit]

theorem ordinarily_deploy (d : Deployer) (code initPayload : Value) {w : World} {n : Nat}
    (h : (w.network.session n).Answers) : Ordinarily ((d.deploy code initPayload).run w n).result := by
  have hrun := d.run_deploy code initPayload w n
  cases hp : d.descriptor code initPayload w.entropy with
  | error f =>
    rw [hrun, hp]
    exact Ordinarily.error_iff.mpr (d.ordinarily_descriptor code initPayload _ f hp)
  | ok p =>
    cases hmade : Wallet.derive d.config with
    | error f =>
      rw [hrun, hp, hmade]
      exact Ordinarily.error_iff.mpr (Wallet.ordinarily_derive d.config f hmade)
    | ok made =>
      rw [hrun, hp, hmade]
      simp only [Outcome.settle_ok, Outcome.result_after]
      have hupload := d.ordinarily_upload p.toValue made.1 h
      cases hu : ((d.upload p.toValue made.1).run w n).result with
      | error f =>
        rw [run_bind_of_error w n hu]
        exact Ordinarily.error_iff.mpr (hupload f hu)
      | ok u =>
        rw [run_bind_of_ok w n hu]
        obtain ⟨-, made, hgoes, -⟩ := performs_conclude (w.network.session n) _ u w _
        exact hgoes.ordinarily h.2.2

end Deployer

end ProgramDeploy
