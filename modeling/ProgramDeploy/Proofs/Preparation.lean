import ProgramDeploy.Proofs.CallSequences
import ProgramDeploy.Proofs.SessionDiscipline

namespace ProgramDeploy

open ProgramDeploy.Action

namespace Action

variable {α β : Type}

theorem Opens.filter_isCall {a : Action α} (ha : a.Opens []) (w : World) (n : Nat) :
    (a.run w n).trace.filter Event.isCall = [] ∧ (a.run w n).opened = n :=
  (ha w n).eq_of_no_purpose

theorem Opens.not_mem_trace {a : Action α} (ha : a.Opens []) {e : Event} (he : e.isCall = true)
    (w : World) (n : Nat) : e ∉ (a.run w n).trace := by
  intro hmem
  have hcall := List.mem_filter.mpr ⟨hmem, he⟩
  rw [(ha.filter_isCall w n).1] at hcall
  cases hcall

theorem run_bind_of_quiet {a : Action α} {x : α} (ha : a.Opens []) {w : World} {n : Nat}
    (hx : (a.run w n).result = .ok x) (next : α → Action β) :
    (a >>= next).run w n = ((next x).run w n).after (a.run w n).trace := by
  rw [run_bind_of_ok w n hx, (ha.filter_isCall w n).2]

theorem run_bind_of_quiet_error {a : Action α} {f : Fault} (ha : a.Opens []) {w : World} {n : Nat}
    (hf : (a.run w n).result = .error f) (next : α → Action β) :
    (a >>= next).run w n = ⟨.error f, (a.run w n).trace, n⟩ := by
  rw [run_bind_of_error w n hf, (ha.filter_isCall w n).2]

theorem Opens.opened_of_call {a : Action α} {p : Purpose} (ha : a.Opens [p]) {e : Event}
    (hcall : e.isCall = true) {w : World} {n : Nat} (he : e ∈ (a.run w n).trace) :
    (a.run w n).opened = n + 1 := by
  have hmem := List.mem_filter.mpr ⟨he, hcall⟩
  have hsessions := ha w n
  generalize (a.run w n).trace.filter Event.isCall = es at hmem hsessions
  cases hsessions with
  | skip rest =>
    rw [rest.eq_of_no_purpose.1] at hmem
    cases hmem
  | block first behind => exact behind.eq_of_no_purpose.2

theorem calls_of_bind_quiet {a : Action α} {next : α → Action β} (hnext : ∀ x, (next x).Opens [])
    {w : World} {n : Nat} {x : α} (hx : (a.run w n).result = .ok x) :
    ((a >>= next).run w n).trace.filter Event.isCall = (a.run w n).trace.filter Event.isCall ∧
      ((a >>= next).run w n).opened = (a.run w n).opened := by
  obtain ⟨hquiet, hopened⟩ := (hnext x).filter_isCall w (a.run w n).opened
  rw [run_bind_of_ok w n hx]
  exact ⟨by rw [Outcome.trace_after, List.filter_append, hquiet, List.append_nil], hopened⟩

end Action

structure Artifact.Loads (fs : Files) (path : Value) (code : Bytes) : Prop where
  found : fs.contains path = .ok true
  read : fs.read path = .ok code
  nonempty : code.isEmpty = false
  shown : ∃ s, path.shown = .ok s

theorem Artifact.result_load_iff (path : Value) (w : World) (n : Nat) (code : Bytes) :
    ((load path).run w n).result = .ok code ↔ Loads w.files path code := by
  have hworld (next : World → Action Bytes) : (world >>= next).run w n = (next w).run w n := by
    rw [run_bind, run_world]
    rfl
  rw [load, hworld]
  constructor
  · intro h
    obtain ⟨found, hfound, h⟩ := (result_bind_eq_ok_iff _ _ _ _).mp h
    cases found with
    | false =>
      obtain ⟨s, -, h⟩ := (result_bind_eq_ok_iff _ _ _ _).mp h
      cases h
    | true =>
      obtain ⟨bs, hread, h⟩ := (result_bind_eq_ok_iff _ _ _ _).mp h
      cases hempty : bs.isEmpty with
      | true =>
        rw [if_pos hempty] at h
        obtain ⟨s, -, h⟩ := (result_bind_eq_ok_iff _ _ _ _).mp h
        cases h
      | false =>
        rw [hempty] at h
        obtain ⟨s, hs, h⟩ := (result_bind_eq_ok_iff _ _ _ _).mp h
        cases h
        exact ⟨hfound, hread, hempty, s, hs⟩
  · rintro ⟨hfound, hread, hempty, s, hs⟩
    refine (result_bind_eq_ok_iff _ _ _ _).mpr ⟨true, hfound, ?_⟩
    refine (result_bind_eq_ok_iff _ _ _ _).mpr ⟨code, hread, ?_⟩
    rw [hempty]
    exact (result_bind_eq_ok_iff _ _ _ _).mpr ⟨s, hs, rfl⟩

theorem Value.contains_of_field {v u : Value} {name : String} (h : v.field name = .ok u) :
    v.contains name = .ok true := by
  cases v with
  | dict t =>
    cases hget : Table.get? t name with
    | none => simp [field, hget] at h
    | some u => simp [contains, hget]
  | _ => cases h

theorem ActorId.eq_text_of_decode {v : Value} {bs : Bytes} (h : decode v = .ok bs) : ∃ s, v = .text s := by
  obtain ⟨s, hs, -⟩ := bind_eq_ok_iff.mp h
  unfold source at hs
  split at hs
  · cases hs
  · cases v with
    | text s => exact ⟨s, rfl⟩
    | _ => cases hs

namespace RouterInit

def Names (router : Value) (ids : Bytes) : Prop :=
  ∃ factory wvara a b, router.field "factory" = .ok factory ∧ router.field "wvara" = .ok wvara ∧
    ActorId.decode factory = .ok a ∧ ActorId.decode wvara = .ok b ∧ ids = a ++ b

inductive Resolves (program : Value) : Value → Prop where
  | router {router : Value} {ids : Bytes} (given : program.fieldOrNull "router_init" = .ok router)
      (truthy : router.isTruthy = true) (names : Names router ids) : Resolves program (.bytes ids)
  | plain {router payload : Value} (given : program.fieldOrNull "router_init" = .ok router)
      (falsy : router.isTruthy = false) (own : program.fieldOrNull "init_payload" = .ok payload) :
      Resolves program payload

theorem meets_encode {w : World} {router factory wvara : Value}
    (hfactory : router.field "factory" = .ok factory) (hwvara : router.field "wvara" = .ok wvara) :
    Meets w (fun _ => True) (Names router) (encode factory wvara) := by
  apply Meets.liftM_bind
  intro bs hbs
  apply Meets.log_bind trivial
  apply meets_pure
  simp only [payload, bind_eq_ok_iff, pure_eq_ok_iff] at hbs
  obtain ⟨a, ha, b, hb, rfl⟩ := hbs
  exact ⟨factory, wvara, a, b, hfactory, hwvara, ha, hb, rfl⟩

theorem meets_encodeConfigured {w : World} (router : Value) :
    Meets w (fun _ => True) (Names router) (encodeConfigured router) := by
  apply Meets.liftM_bind
  intro both _
  split
  · exact (meets_throw _).bind fun _ h => absurd h id
  · apply Meets.liftM_bind
    intro factory _
    apply Meets.liftM_bind
    intro _ _
    apply Meets.liftM_bind
    intro wvara _
    apply Meets.liftM_bind
    intro _ _
    apply Meets.log_bind trivial
    apply Meets.liftM_bind
    intro factory' hfactory
    apply Meets.liftM_bind
    intro wvara' hwvara
    exact meets_encode hfactory hwvara

theorem meets_resolve {w : World} (program : Value) :
    Meets w (fun _ => True) (Resolves program) (resolve program) := by
  apply Meets.liftM_bind
  intro router hrouter
  split
  · rename_i htruthy
    apply (meets_encodeConfigured router).bind
    intro ids hids
    exact meets_pure (.router hrouter htruthy hids)
  · rename_i hfalsy
    refine meets_liftM.mono (fun _ h => h) fun payload hpayload => ?_
    exact .plain hrouter (by simpa using hfalsy) hpayload

theorem result_encodeConfigured_of_names {router : Value} {ids : Bytes} (h : Names router ids) (w : World)
    (n : Nat) : ((encodeConfigured router).run w n).result = .ok ids := by
  obtain ⟨factory, wvara, a, b, hfactory, hwvara, ha, hb, rfl⟩ := h
  obtain ⟨s, rfl⟩ := ActorId.eq_text_of_decode ha
  obtain ⟨s', rfl⟩ := ActorId.eq_text_of_decode hb
  have hboth : namesBoth router = .ok true := by
    rw [namesBoth, Value.contains_of_field hfactory]
    exact Value.contains_of_field hwvara
  have hpayload : payload (.text s) (.text s') = .ok (a ++ b) := by
    rw [payload, ha, hb]
    rfl
  have hencode (m : Nat) : ((encode (.text s) (.text s')).run w m).result = .ok (a ++ b) := by
    simp [encode, run_bind, hpayload]
  simp [encodeConfigured, run_bind, hboth, hfactory, hwvara, Value.shown, Value.display, hencode]

theorem result_resolve_iff (program payload : Value) (w : World) (n : Nat) :
    ((resolve program).run w n).result = .ok payload ↔ Resolves program payload := by
  constructor
  · exact (meets_resolve program).returns n payload
  · rintro (⟨given, truthy, names⟩ | ⟨given, falsy, own⟩)
    · have hids := result_encodeConfigured_of_names names w n
      simp [resolve, run_bind, given, truthy, hids]
    · simp [resolve, run_bind, given, falsy, own]

end RouterInit

namespace Client

theorem calls_of_reportNodeInfo {c : Client} {w : World} {n : Nat} {i : NodeInfo}
    (h : (c.reportNodeInfo.run w n).result = .ok i) :
    (c.reportNodeInfo.run w n).trace.filter Event.isCall = c.infoSession ∧
      (c.reportNodeInfo.run w n).opened = n + 1 := by
  cases hinfo : (c.nodeInfo.run w n).result with
  | error f =>
    rw [reportNodeInfo, run_bind_of_error w n hinfo] at h
    cases h
  | ok info =>
    obtain ⟨hcalls, hopened⟩ := calls_of_nodeInfo hinfo
    rw [← hcalls, ← hopened]
    exact calls_of_bind_quiet (by grind) hinfo

theorem infoAnswered_of_reportNodeInfo {c : Client} {w : World} {n : Nat} {i : NodeInfo}
    (h : (c.reportNodeInfo.run w n).result = .ok i) : InfoAnswered (w.network.session n) := by
  obtain ⟨info, hinfo, -⟩ := (result_bind_eq_ok_iff w n _ _).mp h
  exact infoAnswered_of_nodeInfo hinfo

theorem meets_reportNodeInfo (c : Client) {w : World} {P : Event → Prop}
    (hlog : ∀ level message, P (.log level message))
    (hconnect : P (.connect c.providerAddress c.format)) (hrequest : ∀ method, P (.request method))
    (hclose : P .close) : Meets w P (fun _ => True) c.reportNodeInfo := by
  have hresult (s : Script) (method : String) : Meets w P (fun _ => True) (requestResult s method) := by
    apply Meets.call_bind (hrequest method)
    exact fun _ _ => meets_liftM.mono (fun _ h => h) fun _ _ => trivial
  have hquery (s : Script) : Meets w P (fun _ => True) (queryNodeInfo s) := by
    apply (hresult s _).bind
    intro _ _
    apply (hresult s _).bind
    intro _ _
    apply (hresult s _).bind
    exact fun _ _ => meets_pure trivial
  have hinfo : Meets w P (fun _ => True) c.nodeInfo :=
    (c.meets_withSession (fun _ => hlog _ _) hconnect hclose hquery).inWorker
  apply hinfo.bind
  intro info _
  apply Meets.liftM_bind
  intro _ _
  apply Meets.liftM_bind
  intro _ _
  apply Meets.liftM_bind
  intro _ _
  apply Meets.log_bind (hlog _ _)
  exact meets_pure trivial

theorem submit_not_mem_reportNodeInfo (c : Client) (w : World) (n : Nat) (waits waits' : Value) :
    .submit waits waits' ∉ (c.reportNodeInfo.run w n).trace := by
  have hreport : Meets w (· ≠ .submit waits waits') (fun _ => True) c.reportNodeInfo :=
    c.meets_reportNodeInfo (fun _ _ => Event.noConfusion) Event.noConfusion (fun _ => Event.noConfusion)
      Event.noConfusion
  exact fun h => hreport.shows n _ h rfl

end Client

end ProgramDeploy
