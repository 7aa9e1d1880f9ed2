import ProgramDeploy.Proofs.AddressRoundTrip
import ProgramDeploy.Proofs.Preparation
import ProgramDeploy.Proofs.ProgramIdentity

namespace ProgramDeploy

theorem Program.build_payload (code gasLimit value salt : Value) (ids : Bytes) (e : Entropy) :
    build code (.bytes ids) gasLimit value salt e =
      (build code .null gasLimit value salt e).map fun p => { p with initPayload := ids } := by
  unfold build
  cases code.isTruthy with
  | false => rfl
  | true =>
    cases isAmount gasLimit with
    | false => cases gasLimit.shown <;> rfl
    | true =>
      cases isAmount value with
      | false => cases value.shown <;> rfl
      | true => cases code.toBytes <;> rfl

theorem UploadCall.initPayload_of_ofValue {p : Program} {keepAlive : Value} {call : UploadCall}
    (h : ofValue p.toValue keepAlive = .ok call) : Hex.unmarked? call.initPayload = some p.initPayload := by
  have hfield : hexField p.toValue "initPayload" = .ok (Hex.marked p.initPayload) := rfl
  simp only [ofValue, bind_eq_ok_iff, pure_eq_ok_iff] at h
  obtain ⟨_, -, _, -, text, htext, _, -, _, -, rfl⟩ := h
  rw [hfield] at htext
  cases htext
  exact Hex.unmarked?_marked p.initPayload

namespace RouterInit

inductive Configures : Value → Value → Value → Prop where
  | router {t r : Table} {factory wvara : Value} {label label' : String}
      (hrouter : Table.get? t "router_init" = some (.dict r)) (hfactory : Table.get? r "factory" = some factory)
      (hwvara : Table.get? r "wvara" = some wvara) (hlabel : factory.shown = .ok label)
      (hlabel' : wvara.shown = .ok label') : Configures (.dict t) factory wvara

theorem payload_eq_ok_iff {factory wvara : Value} {ids : Bytes} :
    payload factory wvara = .ok ids ↔
      ∃ a b, ActorId.decode factory = .ok a ∧ ActorId.decode wvara = .ok b ∧ ids = a ++ b := by
  simp only [payload, bind_eq_ok_iff, pure_eq_ok_iff]
  constructor
  · rintro ⟨a, ha, b, hb, rfl⟩
    exact ⟨a, b, ha, hb, rfl⟩
  · rintro ⟨a, b, ha, hb, rfl⟩
    exact ⟨a, ha, b, hb, rfl⟩

theorem exists_payload_iff {factory wvara : Value} :
    (∃ ids, payload factory wvara = .ok ids) ↔
      (∃ a, ActorId.decode factory = .ok a) ∧ ∃ b, ActorId.decode wvara = .ok b := by
  simp only [payload_eq_ok_iff]
  constructor
  · rintro ⟨_, a, b, ha, hb, -⟩
    exact ⟨⟨a, ha⟩, b, hb⟩
  · rintro ⟨⟨a, ha⟩, b, hb⟩
    exact ⟨_, a, b, ha, hb, rfl⟩

theorem payload_of_factory_error {factory wvara : Value} {f : Fault}
    (h : ActorId.decode factory = .error f) : payload factory wvara = .error f := by
  rw [payload, h]
  rfl

theorem payload_of_wvara_error {factory wvara : Value} {a : Bytes} {f : Fault}
    (ha : ActorId.decode factory = .ok a) (h : ActorId.decode wvara = .error f) :
    payload factory wvara = .error f := by
  rw [payload, ha, h]
  rfl

theorem layout_of_payload {factory wvara : Value} {ids : Bytes} (h : payload factory wvara = .ok ids) :
    ids.length = 64 ∧ ActorId.decode factory = .ok (ids.take 32) ∧
      ActorId.decode wvara = .ok (ids.drop 32) := by
  obtain ⟨a, b, ha, hb, rfl⟩ := payload_eq_ok_iff.mp h
  -- No mark stands between the two ids: their lengths tell where the second one starts.
  have hlength : a.length = 32 := ActorId.length_of_decode ha
  have hlength' : b.length = 32 := ActorId.length_of_decode hb
  rw [List.take_left' hlength, List.drop_left' hlength, List.length_append]
  exact ⟨by omega, ha, hb⟩

theorem payload_eq_iff {factory wvara factory' wvara' : Value} :
    (∃ ids, payload factory wvara = .ok ids ∧ payload factory' wvara' = .ok ids) ↔
      (∃ a, ActorId.decode factory = .ok a ∧ ActorId.decode factory' = .ok a) ∧
        ∃ b, ActorId.decode wvara = .ok b ∧ ActorId.decode wvara' = .ok b := by
  constructor
  · rintro ⟨ids, h, h'⟩
    obtain ⟨-, hfactory, hwvara⟩ := layout_of_payload h
    obtain ⟨-, hfactory', hwvara'⟩ := layout_of_payload h'
    exact ⟨⟨_, hfactory, hfactory'⟩, _, hwvara, hwvara'⟩
  · rintro ⟨⟨a, ha, ha'⟩, b, hb, hb'⟩
    exact ⟨a ++ b, payload_eq_ok_iff.mpr ⟨a, b, ha, hb, rfl⟩, payload_eq_ok_iff.mpr ⟨a, b, ha', hb', rfl⟩⟩

def told : Except Fault Bytes → List Event
  | .ok ids => [.log .debug ("Router init payload: " ++ Hex.marked ids)]
  | .error _ => []

theorem run_encode (factory wvara : Value) (w : World) (n : Nat) :
    (encode factory wvara).run w n = ⟨payload factory wvara, told (payload factory wvara), n⟩ := by
  rw [encode, Action.run_bind_liftM]
  cases payload factory wvara <;> rfl

theorem Configures.exists_shown {program factory wvara : Value} (h : Configures program factory wvara) :
    ∃ label label', factory.shown = .ok label ∧ wvara.shown = .ok label' := by
  cases h with
  | router _ _ _ hlabel hlabel' => exact ⟨_, _, hlabel, hlabel'⟩

theorem run_resolve {program factory wvara : Value} (h : Configures program factory wvara)
    {label label' : String} (hlabel : factory.shown = .ok label) (hlabel' : wvara.shown = .ok label')
    (w : World) (n : Nat) :
    (resolve program).run w n =
      ⟨(payload factory wvara).map .bytes,
        .log .info ("Router init: factory " ++ label ++ ", wvara " ++ label') ::
          told (payload factory wvara), n⟩ := by
  cases h with
  | @router t r _ _ _ _ hrouter hfactory hwvara =>
    have hgiven : (Value.dict t).fieldOrNull "router_init" = .ok (.dict r) := by
      simp [Value.fieldOrNull, hrouter]
    have hfield : (Value.dict r).field "factory" = .ok factory := by simp [Value.field, hfactory]
    have hfield' : (Value.dict r).field "wvara" = .ok wvara := by simp [Value.field, hwvara]
    have htruthy : (Value.dict r).isTruthy = true := by
      cases r with
      | nil => cases hfactory
      | cons e r => rfl
    have hboth : namesBoth (.dict r) = .ok true := by
      rw [namesBoth, Value.contains_of_field hfield]
      exact Value.contains_of_field hfield'
    have hconfigured : (encodeConfigured (.dict r)).run w n =
        ((encode factory wvara).run w n).after
          [.log .info ("Router init: factory " ++ label ++ ", wvara " ++ label')] := by
      simp [encodeConfigured, Action.run_bind, hboth, hfield, hfield', hlabel, hlabel']
    rw [resolve, Action.run_bind_liftM, hgiven, Outcome.settle_ok, if_pos htruthy, Action.run_bind,
      hconfigured, run_encode]
    cases payload factory wvara <;> rfl

/-- The payload of a router is made of the ids of its two actors, whatever their spellings and whatever
else the section holds, and the two can be told from it. It becomes the payload of the program byte by
byte, and that of the call. -/
theorem router_payload_is_faithful {program factory wvara : Value}
    (h : Configures program factory wvara) (w : World) (n : Nat) :
    let o := (resolve program).run w n
    ((∃ v, o.result = .ok v) ↔
      (∃ a, ActorId.decode factory = .ok a) ∧ ∃ b, ActorId.decode wvara = .ok b) ∧
    (∀ f, ActorId.decode factory = .error f → o.result = .error f) ∧
    (∀ a f, ActorId.decode factory = .ok a → ActorId.decode wvara = .error f →
      o.result = .error f) ∧
    (∀ v, o.result = .ok v → ∃ ids, v = .bytes ids ∧ ids.length = 64 ∧
      ActorId.decode factory = .ok (ids.take 32) ∧
      ActorId.decode wvara = .ok (ids.drop 32) ∧
      ∀ code gasLimit value salt e,
        Program.build code v gasLimit value salt e =
          (Program.build code .null gasLimit value salt e).map (fun p => { p with initPayload := ids }) ∧
        ∀ p keepAlive call, Program.build code v gasLimit value salt e = .ok p →
          UploadCall.ofValue p.toValue keepAlive = .ok call →
          Hex.unmarked? call.initPayload = some ids) ∧
    (∀ program', Configures program' factory wvara → (resolve program').run w n = o) ∧
    ∀ program' factory' wvara', Configures program' factory' wvara' →
      ((∃ v, o.result = .ok v ∧ ((resolve program').run w n).result = .ok v) ↔
        (∃ a, ActorId.decode factory = .ok a ∧ ActorId.decode factory' = .ok a) ∧
          ∃ b, ActorId.decode wvara = .ok b ∧ ActorId.decode wvara' = .ok b) := by
  intro o
  obtain ⟨label, label', hlabel, hlabel'⟩ := h.exists_shown
  have hrun := run_resolve h hlabel hlabel' w n
  have hresult : o.result = (payload factory wvara).map .bytes := congrArg Outcome.result hrun
  simp only [hresult]
  refine ⟨?_, ?_, ?_, ?_, ?_, ?_⟩
  · rw [← exists_payload_iff]
    cases payload factory wvara <;> simp [Except.map]
  · intro f hf
    rw [payload_of_factory_error hf]
    rfl
  · intro a f ha hf
    rw [payload_of_wvara_error ha hf]
    rfl
  · intro v hv
    obtain ⟨ids, hids, rfl⟩ := map_eq_ok_iff.mp hv
    obtain ⟨hlength, hfactory, hwvara⟩ := layout_of_payload hids
    refine ⟨ids, rfl, hlength, hfactory, hwvara, fun code gasLimit value salt e => ?_⟩
    have hbuild := Program.build_payload code gasLimit value salt ids e
    refine ⟨hbuild, fun p keepAlive call hp hcall => ?_⟩
    rw [hbuild] at hp
    obtain ⟨q, -, rfl⟩ := map_eq_ok_iff.mp hp
    exact UploadCall.initPayload_of_ofValue hcall
  · intro program' h'
    exact (run_resolve h' hlabel hlabel' w n).trans hrun.symm
  · intro program' factory' wvara' h'
    obtain ⟨_, _, hshown, hshown'⟩ := h'.exists_shown
    rw [run_resolve h' hshown hshown' w n, ← payload_eq_iff]
    constructor
    · rintro ⟨v, hv, hv'⟩
      obtain ⟨ids, hids, rfl⟩ := map_eq_ok_iff.mp hv
      obtain ⟨ids', hids', hbytes⟩ := map_eq_ok_iff.mp hv'
      cases hbytes
      exact ⟨ids, hids, hids'⟩
    · rintro ⟨ids, hids, hids'⟩
      exact ⟨.bytes ids, map_eq_ok_iff.mpr ⟨ids, hids, rfl⟩, map_eq_ok_iff.mpr ⟨ids, hids', rfl⟩⟩

def routing (factory wvara : String) (own : Value) : Value :=
  .dict [("init_payload", own), ("router_init", .dict [("factory", .text factory), ("wvara", .text wvara)])]

def markLike : Bytes :=
  0x30 :: 0x78 :: List.replicate 30 7

theorem router_payload_is_faithful_respelled :
    let w : World := ⟨.empty, .empty, [], []⟩
    let other : Bytes := List.replicate 32 1
    let marked := routing (Hex.marked markLike) (Hex.marked other) (.text "PING")
    let addressed := routing (Address.encode markLike 137) (Address.encode other 42) .null
    ((resolve marked).run w 0).result = .ok (.bytes (markLike ++ other)) ∧
      ((resolve addressed).run w 0).result = .ok (.bytes (markLike ++ other)) ∧
      (Program.build (.bytes [0]) (.bytes (markLike ++ other)) (.int 1) (.int 0) .null [7]).map
        Program.initPayload = .ok (markLike ++ other) := by
  intro w other marked addressed
  have hlength : markLike.length = 32 := rfl
  have hlength' : other.length = 32 := rfl
  have hfactory := ActorId.decode_marked hlength
  have hwvara := ActorId.decode_marked hlength'
  have hfactory' := ActorId.decode_address (f := 137) hlength (by decide) (by decide)
  have hwvara' := ActorId.decode_address (f := 42) hlength' (by decide) (by decide)
  have hmarked : Configures marked (.text (Hex.marked markLike)) (.text (Hex.marked other)) :=
    .router rfl rfl rfl rfl rfl
  have haddressed : Configures addressed (.text (Address.encode markLike 137))
      (.text (Address.encode other 42)) := .router rfl rfl rfl rfl rfl
  obtain ⟨-, -, -, hlayout, -, hsame⟩ := router_payload_is_faithful hmarked w 0
  obtain ⟨v, hv, hv'⟩ := (hsame _ _ _ haddressed).mpr ⟨⟨_, hfactory, hfactory'⟩, _, hwvara, hwvara'⟩
  obtain ⟨ids, rfl, -, htake, hdrop, hbuild⟩ := hlayout v hv
  rw [hfactory] at htake
  rw [hwvara] at hdrop
  have hids : ids = markLike ++ other := by
    rw [Except.ok.inj htake, Except.ok.inj hdrop, List.take_append_drop]
  rw [← hids, (hbuild _ _ _ _ _).1]
  exact ⟨hv, hv', rfl⟩

end RouterInit

end ProgramDeploy
