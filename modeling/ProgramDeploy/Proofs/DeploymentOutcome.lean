import ProgramDeploy.Proofs.Rendering
import ProgramDeploy.Proofs.UploadSession

namespace ProgramDeploy

open ProgramDeploy.Action

namespace Event

def concludes : Event → Bool
  | .log .success _ | .log .error _ => true
  | .log _ message =>
    "Transaction sent: ".toList.isPrefixOf message.toList || "Event: ".toList.isPrefixOf message.toList
  | _ => false

def sent (hash : String) : Event := .log .info ("Transaction sent: " ++ hash)

def triggered (event : String) : Event := .log .info ("Event: " ++ event)

def uploaded (programId block : String) : List Event :=
  [.log .success ("✅ Program " ++ programId ++ " uploaded"), .log .success ("Block hash: " ++ block)]

def rejected (message : String) : Event := .log .error ("❌ Program upload failed: " ++ message)

def failed (text : String) : Event := .log .error ("🚀 create_program ~ error: " ++ text)

end Event

def EndsWith (es told : List Event) : Prop :=
  ∃ before, es = before ++ told ∧ ∀ e ∈ before, e.concludes = false

def Upload.rendered (u : Upload) : List Value :=
  u.extrinsicHash :: if Deployer.isNull u.blockHash then [] else
    (if u.isSuccess.isTruthy then u.blockHash else u.errorMessage) :: u.events

inductive Upload.IsTold (u : Upload) (programId : String) : List Event → Prop where
  | pending {sent : String} (block : u.blockHash = .null) (hash : u.extrinsicHash.shown = .ok sent) :
      IsTold u programId [.sent sent]
  | accepted {sent block : String} {events : List String} (included : u.blockHash ≠ .null)
      (success : u.isSuccess.isTruthy = true) (hash : u.extrinsicHash.shown = .ok sent)
      (triggered : u.events.mapM Value.shown = .ok events) (shown : u.blockHash.shown = .ok block) :
      IsTold u programId (.sent sent :: events.map .triggered ++ Event.uploaded programId block)
  | rejected {sent message : String} {events : List String} (included : u.blockHash ≠ .null)
      (success : u.isSuccess.isTruthy = false) (hash : u.extrinsicHash.shown = .ok sent)
      (triggered : u.events.mapM Value.shown = .ok events)
      (shown : u.errorMessage.shown = .ok message) :
      IsTold u programId (.sent sent :: events.map .triggered ++ [.rejected message])

def tellEvents (vs : List Value) : Action PUnit :=
  vs.forM fun v => do log .info ("Event: " ++ (← v.shown))

theorem run_tellEvents {vs : List Value} (h : ∀ v ∈ vs, v.IsWritable) (w : World) (n : Nat) :
    ∃ events, vs.mapM Value.shown = .ok events ∧
      (tellEvents vs).run w n = ⟨.ok (), events.map .triggered, n⟩ := by
  induction vs with
  | nil => exact ⟨[], rfl, rfl⟩
  | cons v vs ih =>
    obtain ⟨text, htext⟩ := Value.shown_of_isWritable (h v List.mem_cons_self)
    obtain ⟨events, hevents, hrun⟩ := ih fun v' hv' => h v' (List.mem_cons_of_mem v hv')
    have hv : (do log .info ("Event: " ++ (← v.shown)) : Action PUnit).run w n =
        ⟨.ok (), [.triggered text], n⟩ := by
      rw [run_bind_liftM, htext]
      rfl
    refine ⟨text :: events, ?_, ?_⟩
    · rw [List.mapM_cons, htext]
      simp [bind, Except.bind, hevents, pure, Except.pure]
    · have htail := run_bind_of_run w n hv fun _ => tellEvents vs
      rw [hrun] at htail
      exact htail

theorem Fault.rendered_of_isOrdinary {f : Fault} (h : f.isOrdinary = true) : f.rendered = [] := by
  cases f with
  | raised kind arguments files => cases h
  | _ => rfl

theorem Fault.exists_text_of_isOrdinary {f : Fault} (h : f.isOrdinary = true) :
    ∃ text, f.text = .ok text := by
  apply text_of_isWritable
  rw [rendered_of_isOrdinary h]
  intro v hv
  cases hv

namespace Deployer

variable {u : Upload} (i : Identity) (w : World) (n : Nat)

theorem run_reportUpload_accepted {events : List String} {block : String}
    (hsuccess : u.isSuccess.isTruthy = true) (hshown : u.blockHash.shown = .ok block)
    (hevents : (tellEvents u.events).run w n = ⟨.ok (), events.map .triggered, n⟩) :
    (reportUpload i.programId u).run w n =
      ⟨.ok (), events.map .triggered ++ Event.uploaded i.programId block, n⟩ := by
  unfold tellEvents at hevents
  unfold reportUpload
  rw [run_bind_of_run w n hevents, hsuccess, if_pos rfl, run_bind_log, run_bind_liftM, hshown]
  simp [Event.uploaded]

theorem run_reportUpload_rejected {events : List String} {message : String}
    (hsuccess : u.isSuccess.isTruthy = false) (hshown : u.errorMessage.shown = .ok message)
    (hevents : (tellEvents u.events).run w n = ⟨.ok (), events.map .triggered, n⟩) :
    (reportUpload i.programId u).run w n =
      ⟨.ok (), events.map .triggered ++ [.rejected message], n⟩ := by
  unfold tellEvents at hevents
  unfold reportUpload
  rw [run_bind_of_run w n hevents, hsuccess, if_neg Bool.false_ne_true, run_bind_liftM, hshown]
  simp [Event.rejected]

theorem run_conclude_of_report {sent : String} {told : List Event} (hnull : isNull u.blockHash = false)
    (hsent : u.extrinsicHash.shown = .ok sent)
    (hreport : (reportUpload i.programId u).run w n = ⟨.ok (), told, n⟩) :
    (conclude i u).run w n = ⟨.ok (i.deployment u), .sent sent :: told, n⟩ := by
  unfold conclude
  rw [run_bind_liftM, hsent, Outcome.settle_ok, run_bind_log, hnull]
  simp [run_bind_of_run w n hreport, Event.sent]

theorem run_conclude (h : ∀ v ∈ u.rendered, v.IsWritable) :
    ∃ told, u.IsTold i.programId told ∧ (conclude i u).run w n = ⟨.ok (i.deployment u), told, n⟩ := by
  obtain ⟨sent, hsent⟩ := Value.shown_of_isWritable (h u.extrinsicHash List.mem_cons_self)
  cases hnull : isNull u.blockHash with
  | true =>
    refine ⟨[.sent sent], .pending (isNull_eq_true_iff.mp hnull) hsent, ?_⟩
    unfold conclude
    rw [run_bind_liftM, hsent, Outcome.settle_ok, run_bind_log, hnull]
    rfl
  | false =>
    have hblock : u.blockHash ≠ .null := fun h' => by simp [h', isNull] at hnull
    simp only [Upload.rendered, hnull, Bool.false_eq_true, if_false, List.mem_cons] at h
    obtain ⟨events, hevents, hrun⟩ := run_tellEvents (fun v hv => h v (.inr (.inr hv))) w n
    cases hsuccess : u.isSuccess.isTruthy with
    | true =>
      obtain ⟨block, hshown⟩ := Value.shown_of_isWritable (h u.blockHash (by simp [hsuccess]))
      have hreport := run_reportUpload_accepted i w n hsuccess hshown hrun
      exact ⟨_, .accepted hblock hsuccess hsent hevents hshown,
        run_conclude_of_report i w n hnull hsent hreport⟩
    | false =>
      obtain ⟨message, hshown⟩ := Value.shown_of_isWritable (h u.errorMessage (by simp [hsuccess]))
      have hreport := run_reportUpload_rejected i w n hsuccess hshown hrun
      exact ⟨_, .rejected hblock hsuccess hsent hevents hshown,
        run_conclude_of_report i w n hnull hsent hreport⟩

inductive Renders (d : Deployer) (code initPayload : Value) (w : World) (n : Nat) (v : Value) : Prop where
  | upload {p : Program} {made : Account × String} {u : Upload}
      (descriptor : d.descriptor code initPayload w.entropy = .ok p)
      (derived : Wallet.derive d.config = .ok made)
      (result : ((d.upload p.toValue made.1).run w n).result = .ok u) (mem : v ∈ u.rendered)
  | fault {f : Fault} (result : ((d.deploy code initPayload).run w n).result = .error f)
      (caught : f.isInterrupt = false) (mem : v ∈ f.rendered)

inductive DeployRuns (d : Deployer) (w : World) (n : Nat) : Outcome Deployment → Prop where
  | unprepared {f : Fault} (ordinary : f.isOrdinary = true) : DeployRuns d w n ⟨.error f, [], n⟩
  | failed {program : Value} {made : Account × String} {o : Outcome Upload} {f : Fault} (i : Identity)
      (upload : (d.upload program made.1).run w n = o) (result : o.result = .error f) :
      DeployRuns d w n ⟨.error f, Wallet.accountLine made :: i.lines ++ o.trace, o.opened⟩
  | told {program : Value} {made : Account × String} {o : Outcome Upload} {u : Upload}
      {told : List Event} (i : Identity) (upload : (d.upload program made.1).run w n = o)
      (result : o.result = .ok u) (isTold : u.IsTold i.programId told) :
      DeployRuns d w n
        ⟨.ok (i.deployment u), Wallet.accountLine made :: i.lines ++ o.trace ++ told, o.opened⟩

variable (d : Deployer) (code initPayload : Value) in
theorem deploy_runs (h : ∀ v, d.Renders code initPayload w n v → v.IsWritable) :
    DeployRuns d w n ((d.deploy code initPayload).run w n) := by
  have hrun := d.run_deploy code initPayload w n
  cases hp : d.descriptor code initPayload w.entropy with
  | error f =>
    rw [hrun, hp]
    exact .unprepared (d.ordinarily_descriptor code initPayload _ f hp)
  | ok p =>
    cases hmade : Wallet.derive d.config with
    | error f =>
      rw [hrun, hp, hmade]
      exact .unprepared (Wallet.ordinarily_derive d.config f hmade)
    | ok made =>
      rw [hrun, hp, hmade]
      simp only [Outcome.settle_ok]
      cases hu : ((d.upload p.toValue made.1).run w n).result with
      | error f =>
        rw [run_bind_of_error w n hu]
        exact .failed _ rfl hu
      | ok u =>
        rw [run_bind_of_ok w n hu]
        obtain ⟨told, htold, hconclude⟩ := run_conclude
          (Identity.ofParts p.code (Program.drawSalt w.entropy)) w
          ((d.upload p.toValue made.1).run w n).opened fun v hv => h v (.upload hp hmade hu hv)
        rw [hconclude, Outcome.after_mk, Outcome.after_mk, ← List.append_assoc]
        exact .told _ rfl hu htold

theorem concludes_of_isUploading {d : Deployer} {program : Value} {signer : Account} {e : Event}
    (h : IsUploading d program signer e) : e.concludes = false := by
  cases h with
  | connecting provider => simp [Event.concludes, List.isPrefixOf]
  | composing made =>
    obtain ⟨rest, rfl⟩ := UploadCall.summary_eq made
    simp [Event.concludes, List.isPrefixOf]
  | signed => simp [Event.concludes, List.isPrefixOf]
  | _ => rfl

theorem concludes_of_opening {made : Account × String} {i : Identity} {e : Event}
    (h : e ∈ Wallet.accountLine made :: i.lines) : e.concludes = false := by
  simp only [Wallet.accountLine, Identity.lines, List.mem_cons, List.not_mem_nil, or_false] at h
  rcases h with rfl | rfl | rfl | rfl <;> simp [Event.concludes, List.isPrefixOf]

inductive Verdict where
  | failed
  | pending
  | accepted
  | rejected

inductive Ended (s : Script) (raised : Except Fault Deployment) :
    Verdict → Except Fault (Option Deployment) → List Event → Prop where
  | failed {f : Fault} {text : String} {es : List Event} (fault : raised = .error f)
      (shown : f.text = .ok text) (trace : EndsWith es [.failed text])
      (closed : .close ∈ es → ∀ g, s.close = some g → f = g.fromWorker) :
      Ended s raised .failed (.ok none) es
  | pending {x : Deployment} {errorMessage : Value} {sent : String} {es : List Event}
      (receipt : s.receipt.upload = .ok ⟨x.extrinsicHash, x.blockHash, x.success, errorMessage, x.events⟩)
      (block : x.blockHash = .null) (success : x.success = .null) (events : x.events = [])
      (hash : x.extrinsicHash.shown = .ok sent) (trace : EndsWith es [.sent sent]) :
      Ended s raised .pending (.ok (some x)) es
  | accepted {x : Deployment} {errorMessage : Value} {sent block : String} {events : List String}
      {es : List Event}
      (receipt : s.receipt.upload = .ok ⟨x.extrinsicHash, x.blockHash, x.success, errorMessage, x.events⟩)
      (included : x.blockHash ≠ .null) (success : x.success.isTruthy = true)
      (hash : x.extrinsicHash.shown = .ok sent) (triggered : x.events.mapM Value.shown = .ok events)
      (shown : x.blockHash.shown = .ok block)
      (trace : EndsWith es (.sent sent :: events.map .triggered ++ Event.uploaded x.programId block)) :
      Ended s raised .accepted (.ok (some x)) es
  | rejected {x : Deployment} {errorMessage : Value} {sent message : String} {events : List String}
      {es : List Event}
      (receipt : s.receipt.upload = .ok ⟨x.extrinsicHash, x.blockHash, x.success, errorMessage, x.events⟩)
      (included : x.blockHash ≠ .null) (success : x.success.isTruthy = false)
      (hash : x.extrinsicHash.shown = .ok sent) (triggered : x.events.mapM Value.shown = .ok events)
      (shown : errorMessage.shown = .ok message)
      (trace : EndsWith es (.sent sent :: events.map .triggered ++ [.rejected message])) :
      Ended s raised .rejected (.ok (some x)) es

theorem Ended.unique {s : Script} {raised : Except Fault Deployment} {v v' : Verdict}
    {result : Except Fault (Option Deployment)} {es : List Event} (h : Ended s raised v result es)
    (h' : Ended s raised v' result es) : v' = v := by
  cases h <;> cases h' <;> simp_all

theorem Ended.of_isTold {s : Script} (raised : Except Fault Deployment) {i : Identity} {u : Upload}
    {told shown : List Event} (hreceipt : s.receipt.upload = .ok u) (h : u.IsTold i.programId told)
    (hshown : ∀ e ∈ shown, e.concludes = false) :
    ∃ v, Ended s raised v (.ok (some (i.deployment u))) (shown ++ told) := by
  have hends : EndsWith (shown ++ told) told := ⟨shown, rfl, hshown⟩
  cases h with
  | pending block hash =>
    obtain ⟨hblock, hpending⟩ := Receipt.blockHash_of_upload hreceipt
    have hpending := hpending (hblock ▸ block)
    exact ⟨_, .pending hreceipt block hpending.1 hpending.2 hash hends⟩
  | accepted included success hash triggered shown =>
    exact ⟨_, .accepted hreceipt included success hash triggered shown hends⟩
  | rejected included success hash triggered shown =>
    exact ⟨_, .rejected hreceipt included success hash triggered shown hends⟩

theorem filter_isCall_of_isTold {u : Upload} {programId : String} {told : List Event}
    (h : u.IsTold programId told) : told.filter Event.isCall = [] := by
  have hevents (events : List String) : (events.map Event.triggered).filter Event.isCall = [] := by
    simp [List.filter_map, Function.comp_def, Event.triggered]
  cases h <;> simp [hevents, Event.sent, Event.uploaded, Event.rejected]

theorem interrupts_opening (s : Script) (made : Account × String) (i : Identity) (es : List Event)
    {told : List Event} (h : told.filter Event.isCall = []) :
    s.Interrupts (Wallet.accountLine made :: i.lines ++ es ++ told) ↔ s.Interrupts es := by
  apply s.interrupts_congr
  simp [List.filter_append, h, Wallet.accountLine, Identity.lines]

section Creating

variable (d : Deployer) (code initPayload : Value) (w : World) (n : Nat)

theorem run_create_of_ok {o : Outcome Deployment} {x : Deployment}
    (hrun : (d.deploy code initPayload).run w n = o) (hx : o.result = .ok x) :
    (d.create code initPayload).run w n = ⟨.ok (some x), o.trace, o.opened⟩ := by
  rw [create, run_handling, run_map, hrun, hx]
  rfl

theorem run_create_of_interrupt {o : Outcome Deployment} {f : Fault}
    (hrun : (d.deploy code initPayload).run w n = o) (hf : o.result = .error f)
    (hinterrupt : f.isInterrupt = true) :
    (d.create code initPayload).run w n = ⟨.error f, o.trace, o.opened⟩ := by
  rw [create, run_handling, run_map, hrun, hf]
  simp [Except.map, hinterrupt]

theorem run_create_of_fault {o : Outcome Deployment} {f : Fault} {text : String}
    (hrun : (d.deploy code initPayload).run w n = o) (hf : o.result = .error f)
    (hcaught : f.isInterrupt = false) (htext : f.text = .ok text) :
    (d.create code initPayload).run w n = ⟨.ok none, o.trace ++ [.failed text], o.opened⟩ := by
  rw [create, run_handling, run_map, hrun, hf]
  simp [Except.map, hcaught, logFault, run_bind, htext, Event.failed]

def Settles (s : Script) (raised : Except Fault Deployment) (o : Outcome (Option Deployment)) : Prop :=
  (∃ f, o.result = .error f ∧ f.isInterrupt = true ∧ s.Interrupts o.trace) ∨
    ¬ s.Interrupts o.trace ∧ ∃ v x, o.result = .ok x ∧ Ended s raised v (.ok x) o.trace

theorem interrupts_failed (s : Script) (es : List Event) (text : String) :
    s.Interrupts (es ++ [.failed text]) ↔ s.Interrupts es := by
  apply s.interrupts_congr
  simp [Event.failed]

theorem settles_of_fault {s : Script} {f : Fault} {es : List Event} {m : Nat}
    (hrun : (d.deploy code initPayload).run w n = ⟨.error f, es, m⟩)
    (hquiet : ∀ e ∈ es, e.concludes = false) (hinterrupt : f.isInterrupt = true ↔ s.Interrupts es)
    (htext : f.isInterrupt = false → ∃ text, f.text = .ok text)
    (hclosed : .close ∈ es → ∀ g, s.close = some g → f = g.fromWorker) :
    Settles s (.error f) ((d.create code initPayload).run w n) := by
  cases hi : f.isInterrupt with
  | true =>
    rw [d.run_create_of_interrupt code initPayload w n hrun rfl hi]
    exact .inl ⟨f, rfl, hi, hinterrupt.mp hi⟩
  | false =>
    obtain ⟨text, htext⟩ := htext hi
    rw [d.run_create_of_fault code initPayload w n hrun rfl hi htext]
    refine .inr ⟨?_, .failed, none, rfl, .failed rfl htext ⟨es, rfl, hquiet⟩ fun hclose => hclosed ?_⟩
    · rw [interrupts_failed, ← hinterrupt, hi]
      exact Bool.false_ne_true
    · simpa [Event.failed] using hclose

theorem concludes_before_told {program : Value} {made : Account × String} {i : Identity}
    {o : Outcome Upload} (h : (d.upload program made.1).run w n = o) :
    ∀ e ∈ Wallet.accountLine made :: i.lines ++ o.trace, e.concludes = false := by
  intro e he
  rcases List.mem_append.mp he with he | he
  · exact concludes_of_opening he
  · rw [← h] at he
    exact concludes_of_isUploading (d.isUploading_of_mem_trace program made.1 he)

theorem create_settles (h : ∀ v, d.Renders code initPayload w n v → v.IsWritable) :
    Settles (w.network.session n) ((d.deploy code initPayload).run w n).result
      ((d.create code initPayload).run w n) := by
  have hruns := deploy_runs w n d code initPayload h
  have hwritable {f : Fault} (hf : ((d.deploy code initPayload).run w n).result = .error f)
      (hi : f.isInterrupt = false) : ∃ text, f.text = .ok text :=
    Fault.text_of_isWritable fun v hv => h v (.fault hf hi hv)
  generalize hdeploy : (d.deploy code initPayload).run w n = o at hruns hwritable ⊢
  -- Without a session there is no interrupt; from the upload on, its own result decides.
  cases hruns with
  | unprepared ordinary =>
    refine d.settles_of_fault code initPayload w n hdeploy (by simp) ?_ (hwritable rfl) (by simp)
    simp [Fault.isInterrupt_of_isOrdinary ordinary, Script.Interrupts]
  | @failed program made o f i upload result =>
    have hinterrupt := d.upload_isInterrupt_iff program made.1 w n
    have hclosed (g : Fault) := d.result_of_upload_of_close program made.1 (w := w) (n := n) (g := g)
    rw [upload, result] at hinterrupt hclosed
    apply d.settles_of_fault code initPayload w n hdeploy (d.concludes_before_told w n upload) ?_
      (hwritable rfl)
    · intro hclose g hg
      have hmem : .close ∈ o.trace := by simpa [Wallet.accountLine, Identity.lines] using hclose
      exact Except.error.inj (hclosed g hg hmem)
    · have hnone : ([] : List Event).filter Event.isCall = [] := rfl
      have hopening := interrupts_opening (w.network.session n) made i o.trace hnone
      rw [List.append_nil] at hopening
      rw [hopening, ← hinterrupt]
      simp
  | @told program made o u told i upload result isTold =>
    have hreceipt := d.receipt_of_upload program made.1 (w := w) (n := n) (u := u)
    have hinterrupt := d.upload_isInterrupt_iff program made.1 w n
    rw [upload, result] at hreceipt hinterrupt
    rw [d.run_create_of_ok code initPayload w n hdeploy rfl]
    obtain ⟨v, hv⟩ := Ended.of_isTold (.ok (i.deployment u)) (hreceipt rfl) isTold
      (d.concludes_before_told w n (i := i) upload)
    refine .inr ⟨?_, v, _, rfl, hv⟩
    rw [interrupts_opening _ made i o.trace (filter_isCall_of_isTold isTold), ← hinterrupt]
    simp

/-- A deployment raises an interrupt or nothing, an interrupt just if its session is interrupted,
and otherwise ends in one of four ways. -/
theorem create_ends (h : ∀ v, d.Renders code initPayload w n v → v.IsWritable) :
    let s := w.network.session n
    let raised := ((d.deploy code initPayload).run w n).result
    let o := (d.create code initPayload).run w n
    (∀ f, o.result = .error f → f.isInterrupt = true) ∧
      ((∃ f, o.result = .error f) ↔ s.Interrupts o.trace) ∧
      (¬ s.Interrupts o.trace → ∃ v, Ended s raised v o.result o.trace ∧
        ∀ v', Ended s raised v' o.result o.trace → v' = v) := by
  intro s raised o
  rcases d.create_settles code initPayload w n h with ⟨f, hf, hinterrupt, hs⟩ | ⟨hs, v, x, hx, hended⟩
  · refine ⟨fun g hg => ?_, ⟨fun _ => hs, fun _ => ⟨f, hf⟩⟩, fun hn => absurd hs hn⟩
    rw [hf] at hg
    cases hg
    exact hinterrupt
  · rw [← hx] at hended
    refine ⟨fun g hg => ?_, ⟨fun ⟨g, hg⟩ => ?_, fun hi => absurd hi hs⟩, fun _ => ⟨v, hended, ?_⟩⟩
    · rw [hx] at hg
      cases hg
    · rw [hx] at hg
      cases hg
    · exact fun v' hv' => hended.unique hv'

end Creating

def including : Script :=
  { Script.plain with receipt :=
    ⟨.text "0xa1", .text "0xb2", .ok (.bool true), .ok .null, .ok (.list [.text "ProgramChanged"])⟩ }

theorem create_ends_including :
    let w : World := ⟨.empty, .empty, [7], [including]⟩
    let o := (seeded.create (.bytes [0]) .null).run w 0
    (∀ v, seeded.Renders (.bytes [0]) .null w 0 v → v.IsWritable) ∧
      ((∃ f, o.result = .error f) ↔ including.Interrupts o.trace) := by
  intro w o
  have hanswers : (w.network.session 0).Answers := by
    refine ⟨rfl, rfl, fun c => ?_⟩
    cases c with
    | read field => cases field <;> rfl
    | _ => rfl
  have hwritable (v : Value) (h : seeded.Renders (.bytes [0]) .null w 0 v) : v.IsWritable := by
    cases h with
    | upload descriptor derived result mem =>
      have hreceipt := seeded.receipt_of_upload _ _ result
      cases hreceipt
      have hmem : v ∈ [.text "0xa1", .text "0xb2", .text "ProgramChanged"] := mem
      simp only [List.mem_cons, List.not_mem_nil, or_false] at hmem
      rcases hmem with rfl | rfl | rfl <;> simp [Value.IsWritable, Value.integers]
    | fault result caught mem =>
      have hordinary := seeded.ordinarily_deploy (.bytes [0]) .null hanswers _ result
      rw [Fault.rendered_of_isOrdinary hordinary] at mem
      cases mem
  exact ⟨hwritable, (seeded.create_ends (.bytes [0]) .null w 0 hwritable).2.1⟩

end Deployer

end ProgramDeploy
