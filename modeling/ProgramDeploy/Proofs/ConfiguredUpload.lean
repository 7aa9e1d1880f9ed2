import ProgramDeploy.Proofs.ConfigPrecedence
import ProgramDeploy.Proofs.DeploymentTerms
import ProgramDeploy.Proofs.Preparation

namespace ProgramDeploy

theorem Program.drawSalt_eq_self {e : Entropy} (h : e.length = 20) : drawSalt e = e := by
  apply List.ext_getElem
  · rw [length_drawSalt, h]
    rfl
  · intro i hi _
    have hlt : i < e.length := by
      rw [length_drawSalt] at hi
      rw [h]
      exact hi
    simp [drawSalt, Entropy.draw, Nat.mod_eq_of_lt hlt, List.getElem?_eq_getElem hlt]

inductive Settings.Payload (setting : Settings) : Bytes → Prop where
  | router {router : Value} {ids : Bytes} (given : setting "program" "router_init" = some router)
      (truthy : router.isTruthy = true) (names : RouterInit.Names router ids) : Payload setting ids
  | plain {router payload : Value} {bs : Bytes} (given : setting "program" "router_init" = some router)
      (falsy : router.isTruthy = false) (own : setting "program" "init_payload" = some payload)
      (encoded : ProgramDeploy.Payload.encode payload = .ok bs) : Payload setting bs

inductive Settings.Signer (setting : Settings) (env : Environment) : Account → Prop where
  | mnemonic {raw : String} {name format : Value} {a : Account}
      (set : env.get? .deployerMnemonic = some raw) (named : setting "account" "name" = some name)
      (formatted : setting "node" "ss58_format" = some format)
      (made : Account.ofMnemonic (.text raw) name format = .ok a) : Signer setting env a
  | seed {raw : String} {name format : Value} {a : Account}
      (unset : env.get? .deployerMnemonic = none) (set : env.get? .deployerSeed = some raw)
      (named : setting "account" "name" = some name)
      (formatted : setting "node" "ss58_format" = some format)
      (made : Account.ofSeed (.text raw) name format = .ok a) : Signer setting env a

structure Settings.Call (setting : Settings) (w : World) (artifact : Value) (call : UploadCall) :
    Prop where
  code : ∃ bs, w.files.read artifact = .ok bs ∧ call.code = Hex.marked bs
  salt : call.salt = Hex.marked (Program.drawSalt w.entropy)
  whole : w.entropy.length = 20 → call.salt = Hex.marked w.entropy
  initPayload : ∃ bs, setting.Payload bs ∧ call.initPayload = Hex.marked bs
  gasLimit : setting "program" "gas_limit" = some call.gasLimit ∧ Program.isAmount call.gasLimit = true
  value : setting "program" "value" = some call.value ∧ Program.isAmount call.value = true
  keepAlive : ∃ v, setting "program" "keep_alive" = some v ∧ call.keepAlive = UploadCall.given v

namespace Config.Holds

variable {c : Config} {w : World} {document : Option Value}
  (hc : c.Holds (effective w.environment document))

include hc

theorem effective_of_field {name key : String} {s v : Value} (hs : c.toValue.field name = .ok s)
    (h : s.field key = .ok v) : effective w.environment document name key = some v := by
  obtain ⟨-, rfl⟩ := (field_toValue_iff c name).mp hs
  rw [← hc (.text _) (.text _)]
  exact (field_sectionOf_iff c name key).mp h

theorem effective_of_fieldOrNull {name key : String} {s v v₀ : Value}
    (hset : default.setting name key = some v₀) (hsecret : ¬ (name = "account" ∧ key ∈ secretKeys))
    (hs : c.toValue.field name = .ok s) (h : s.fieldOrNull key = .ok v) :
    effective w.environment document name key = some v := by
  obtain ⟨-, rfl⟩ := (field_toValue_iff c name).mp hs
  have hv := (fieldOrNull_sectionOf_iff c name key).mp h
  obtain ⟨u, hu⟩ := exists_effective w.environment document hset (by simpa using hsecret)
  rw [hc (.text _) (.text _), hu] at hv
  rw [hu, hv]
  rfl

theorem payload_of_resolves {program payload : Value} {bs : Bytes}
    (hprogram : c.toValue.field "program" = .ok program) (h : RouterInit.Resolves program payload)
    (hbs : Payload.encode payload = .ok bs) :
    Settings.Payload (effective w.environment document) bs := by
  have hfield {key : String} {v v₀ : Value} (hset : default.setting "program" key = some v₀)
      (hv : program.fieldOrNull key = .ok v) :
      effective w.environment document "program" key = some v :=
    hc.effective_of_fieldOrNull hset (by simp) hprogram hv
  cases h with
  | router given truthy names =>
    cases hbs
    exact .router (hfield rfl given) truthy names
  | plain given falsy own => exact .plain (hfield rfl given) falsy (hfield rfl own) hbs

theorem secret_of_field {v : Variable} (hv : v = .deployerMnemonic ∨ v = .deployerSeed)
    {account x : Value} (haccount : c.toValue.field "account" = .ok account)
    (hx : account.field v.target.2 = .ok x) : ∃ raw, w.environment.get? v = some raw ∧ x = .text raw := by
  have hset := hc.effective_of_field haccount hx
  rw [effective_secret _ _ hv] at hset
  obtain ⟨raw, hraw, htext⟩ := Option.map_eq_some_iff.mp hset
  exact ⟨raw, hraw, htext.symm⟩

theorem unset_of_fieldOrNull {v : Variable} (hv : v = .deployerMnemonic ∨ v = .deployerSeed)
    {account x : Value} (haccount : c.toValue.field "account" = .ok account)
    (hx : account.fieldOrNull v.target.2 = .ok x) (hfalsy : x.isTruthy = false) :
    w.environment.get? v = none := by
  obtain ⟨-, rfl⟩ := (field_toValue_iff c _).mp haccount
  have hvalue := (fieldOrNull_sectionOf_iff c _ _).mp hx
  rw [hc (.text _) (.text _), effective_secret _ _ hv] at hvalue
  cases hraw : w.environment.get? v with
  | none => rfl
  | some raw =>
    have htruthy := isEmpty_of_get? hraw
    rw [hvalue, hraw] at hfalsy
    simp [Value.isTruthy, htruthy] at hfalsy

theorem signer_of_derive {made : Account × String} (h : Wallet.derive c.toValue = .ok made) :
    Settings.Signer (effective w.environment document) w.environment made.1 := by
  simp only [Wallet.derive, bind_eq_ok_iff, pure_eq_ok_iff] at h
  obtain ⟨account, haccount, node, hnode, format, hformat, name, hname, a, ha, s, -, rfl⟩ := h
  have hnamed := hc.effective_of_field haccount hname
  have hformatted := hc.effective_of_field hnode hformat
  unfold Wallet.choose at ha
  obtain ⟨mnemonic, hmnemonic, ha⟩ := bind_eq_ok_iff.mp ha
  split at ha
  · obtain ⟨x, hx, ha⟩ := bind_eq_ok_iff.mp ha
    obtain ⟨raw, hraw, rfl⟩ := hc.secret_of_field (.inl rfl) haccount hx
    exact .mnemonic hraw hnamed hformatted ha
  · rename_i hfalsy
    have hunset := hc.unset_of_fieldOrNull (.inl rfl) haccount hmnemonic (by simpa using hfalsy)
    obtain ⟨seed, -, ha⟩ := bind_eq_ok_iff.mp ha
    split at ha
    · obtain ⟨x, hx, ha⟩ := bind_eq_ok_iff.mp ha
      obtain ⟨raw, hraw, rfl⟩ := hc.secret_of_field (.inr rfl) haccount hx
      exact .seed hunset hraw hnamed hformatted ha
    · cases ha

theorem call_of_terms {d : Deployer} {payload artifact : Value} {code : Bytes} {p : Program} {t : Terms}
    (hprogram : c.toValue.field "program" = .ok d.program) (hcode : w.files.read artifact = .ok code)
    (hpayload : RouterInit.Resolves d.program payload)
    (hbuilds : d.Builds (.bytes code) payload w.entropy p) (ht : t.Of d) :
    Settings.Call (effective w.environment document) w artifact
      (t.call code (Program.drawSalt w.entropy) p.initPayload) := by
  have hgas : Program.isAmount t.gasLimit = true := by
    rw [← Except.ok.inj (hbuilds.gasLimit.symm.trans ht.gasLimit)]
    exact hbuilds.gasAmount
  have hvalue : Program.isAmount t.value = true := by
    rw [← Except.ok.inj (hbuilds.value.symm.trans ht.value)]
    exact hbuilds.valueAmount
  refine ⟨⟨code, hcode, rfl⟩, rfl, fun hlength => ?_, ⟨p.initPayload, ?_, rfl⟩, ⟨?_, hgas⟩, ⟨?_, hvalue⟩,
    ⟨t.keepAlive, ?_, rfl⟩⟩
  · rw [Terms.call, Program.drawSalt_eq_self hlength]
  · exact hc.payload_of_resolves hprogram hpayload hbuilds.initPayload
  · exact hc.effective_of_field hprogram ht.gasLimit
  · exact hc.effective_of_field hprogram ht.value
  · exact hc.effective_of_fieldOrNull rfl (by simp) hprogram ht.keepAlive

end Config.Holds

end ProgramDeploy
