import ProgramDeploy.Config
import ProgramDeploy.Proofs.AccountRefusals
import ProgramDeploy.Proofs.LoadedConfigs
import ProgramDeploy.RouterInit

namespace ProgramDeploy

def Fault.IsKeyless (f : Fault) : Prop :=
  f.isOrdinary = true ∧ f.kind ≠ .key

theorem Fault.isKeyless_misuse (type : String) (m : Misuse) : (misuse type m).IsKeyless := by
  cases m <;> exact ⟨rfl, nofun⟩

abbrev Keyless {α : Type} (x : Except Fault α) : Prop :=
  FailsWith Fault.IsKeyless x

theorem keyless_of_eq_ok {α : Type} {x : Except Fault α} {y : α} (h : x = .ok y) : Keyless x :=
  h ▸ .ok y

theorem Fault.keyless_text (f : Fault) : Keyless f.text :=
  .mapError fun _ => ⟨rfl, nofun⟩

namespace Value

variable (v : Value) (name : String)

theorem keyless_shown : Keyless v.shown :=
  .mapError fun _ => ⟨rfl, nofun⟩

theorem keyless_fieldOrNull : Keyless (v.fieldOrNull name) := by
  cases v with
  | dict t => exact .ok _
  | _ => exact .error (Fault.isKeyless_misuse ..)

theorem keyless_contains : Keyless (v.contains name) := by
  cases v with
  | dict | list | text | torn => exact .ok _
  | bytes | buffer => exact .error ⟨rfl, nofun⟩
  | _ => exact .error (Fault.isKeyless_misuse ..)

theorem keyless_length : Keyless v.length := by
  cases v with
  | text | torn | bytes | buffer | list | dict => exact .ok _
  | _ => exact .error (Fault.isKeyless_misuse ..)

theorem keyless_items : Keyless v.items := by
  cases v with
  | text | torn | bytes | buffer | list | dict => exact .ok _
  | _ => exact .error (Fault.isKeyless_misuse ..)

variable {v name} in
theorem keyless_field_of_contains (h : v.contains name = .ok true) : Keyless (v.field name) := by
  cases v with
  | dict t =>
    have hsome : (Table.get? t name).isSome = true := Except.ok.inj h
    obtain ⟨u, hu⟩ := Option.isSome_iff_exists.mp hsome
    exact keyless_of_eq_ok (y := u) (by simp [field, hu])
  | _ => exact .error (Fault.isKeyless_misuse ..)

theorem keyless_of_noBytes {f : Fault} (h : NoBytes f) : f.IsKeyless := by
  cases h with
  | notInteger | notBytes => exact Fault.isKeyless_misuse ..
  | _ => exact ⟨rfl, nofun⟩

theorem keyless_toBytes : Keyless v.toBytes :=
  fun f hf => keyless_of_noBytes (noBytes_toBytes v f hf)

theorem keyless_bytesPart : Keyless v.bytesPart := by
  cases v with
  | bytes | buffer => exact .ok _
  | _ => exact .error (Fault.isKeyless_misuse ..)

theorem keyless_readInteger (literal : String) (cs : List Char) : Keyless (readInteger literal cs) := by
  unfold readInteger
  split
  · exact .ok _
  · exact .error ⟨rfl, nofun⟩
  · exact .error ⟨rfl, nofun⟩

theorem keyless_toInteger : Keyless v.toInteger := by
  cases v with
  | bool | int => exact .ok _
  | float x =>
    cases x with
    | finite => exact .ok _
    | _ => exact .error ⟨rfl, nofun⟩
  | text | torn | bytes | buffer => exact keyless_readInteger _ _
  | _ => exact .error (Fault.isKeyless_misuse ..)

theorem keyless_atLeast (n : Int) : Keyless (v.atLeast n) := by
  unfold atLeast
  split
  · exact .ok _
  · exact .error ⟨rfl, nofun⟩

end Value

namespace Files

variable (fs : Files) (path : Value)

theorem keyless_contains : Keyless (fs.contains path) := by
  cases path with
  | text | torn | bytes | buffer | bool => exact .ok _
  | int n =>
    unfold contains
    dsimp only
    split
    · exact .error ⟨rfl, nofun⟩
    · split
      · exact .error ⟨rfl, nofun⟩
      · exact .ok _
  | _ => exact .error (Fault.isKeyless_misuse ..)

theorem keyless_read : Keyless (fs.read path) := by
  have hdirectory : Keyless (path.literal.mapError Fault.numeral >>= fun literal =>
      throw (.badPath .isDirectory literal) : Except Fault Bytes) :=
    FailsWith.bind (.mapError fun _ => ⟨rfl, nofun⟩) fun _ _ => .error ⟨rfl, nofun⟩
  unfold read
  dsimp only
  split
  · rw [pure_bind]
    split
    · exact .ok _
    · exact hdirectory
  · rw [pure_bind]
    split
    · exact .ok _
    · exact hdirectory
  · split
    · rw [pure_bind]
      split
      · exact .ok _
      · exact hdirectory
    · exact .error ⟨rfl, nofun⟩
  · exact .error (Fault.isKeyless_misuse ..)

end Files

namespace Account

theorem keyless_of_refusal {name : Value} {f : Fault} (h : Refusal name f) : f.IsKeyless := by
  cases h with
  | noFormat h =>
    cases h with
    | notInteger => exact Fault.isKeyless_misuse ..
    | _ => exact ⟨rfl, nofun⟩
  | noBytes h => exact Value.keyless_of_noBytes h
  | notText | notStripped => exact Fault.isKeyless_misuse ..
  | _ => exact ⟨rfl, nofun⟩

end Account

theorem Payload.isKeyless_refused (t : Text.Torn) : (refused t).IsKeyless := by
  unfold refused
  split <;> exact ⟨rfl, nofun⟩

theorem Payload.keyless_encode (payload : Value) : Keyless (encode payload) := by
  cases payload with
  | null | bytes | buffer => exact .ok _
  | text s =>
    unfold encode
    dsimp only
    split
    · exact .ok _
    · exact .mapError fun _ => ⟨rfl, nofun⟩
  | torn t => exact .error (isKeyless_refused t)
  | _ => exact .error ⟨rfl, nofun⟩

namespace ActorId

theorem isKeyless_refused (t : Text.Torn) : (refused t).IsKeyless := by
  unfold refused
  split <;> exact ⟨rfl, nofun⟩

theorem keyless_bytesOfText (s : String) : Keyless (bytesOfText s) := by
  unfold bytesOfText
  split
  · exact .mapError fun _ => ⟨rfl, nofun⟩
  · refine .mapError fun f => ?_
    split
    · rename_i hf
      rw [hf]
      exact ⟨rfl, nofun⟩
    · exact ⟨rfl, nofun⟩

theorem keyless_source (v : Value) : Keyless (source v) := by
  unfold source
  split
  · exact .error ⟨rfl, nofun⟩
  · split
    · exact .ok _
    · exact .error (isKeyless_refused _)
    · exact .error ⟨rfl, nofun⟩
    · exact .error ⟨rfl, nofun⟩
    · exact .error (Fault.isKeyless_misuse ..)

theorem keyless_decode (v : Value) : Keyless (decode v) := by
  refine (keyless_source v).bind fun s _ => (keyless_bytesOfText s).bind fun bs _ => ?_
  split
  · exact .ok _
  · exact .error ⟨rfl, nofun⟩

end ActorId

namespace RouterInit

theorem keyless_payload (factory wvara : Value) : Keyless (payload factory wvara) :=
  (ActorId.keyless_decode factory).bind fun _ _ => (ActorId.keyless_decode wvara).bind fun _ _ => .ok _

theorem keyless_namesBoth (router : Value) : Keyless (namesBoth router) := by
  refine (Value.keyless_contains router "factory").bind fun found _ => ?_
  split
  · exact Value.keyless_contains router "wvara"
  · exact .ok _

theorem contains_of_namesBoth {router : Value} (h : namesBoth router = .ok true) :
    router.contains "factory" = .ok true ∧ router.contains "wvara" = .ok true := by
  obtain ⟨found, hfactory, h⟩ := bind_eq_ok_iff.mp h
  cases found with
  | true => exact ⟨hfactory, h⟩
  | false => cases h

end RouterInit

namespace Program

theorem keyless_build (code initPayload gasLimit value salt : Value) (e : Entropy) :
    Keyless (build code initPayload gasLimit value salt e) := by
  unfold build
  dsimp only
  split
  · exact .error (f := .emptyCode) ⟨rfl, nofun⟩
  · split
    · exact (Value.keyless_shown gasLimit).bind fun shown _ => .error (f := .badGasLimit shown) ⟨rfl, nofun⟩
    · split
      · exact (Value.keyless_shown value).bind fun shown _ => .error (f := .badValue shown) ⟨rfl, nofun⟩
      · exact (Value.keyless_toBytes code).bind fun _ _ =>
          (Payload.keyless_encode initPayload).bind fun _ _ => .ok _

variable (p : Program)

theorem keyless_ofValue (keepAlive : Value) : Keyless (UploadCall.ofValue p.toValue keepAlive) := by
  have hhex (name : String) {v : Value} (hv : p.toValue.field name = .ok v) :
      Keyless (UploadCall.hexField p.toValue name) := by
    refine (keyless_of_eq_ok hv).bind fun u _ => ?_
    exact (Value.keyless_toBytes u).bind fun _ _ => .ok _
  refine (hhex "code" rfl).bind fun code _ => ?_
  refine (hhex "salt" rfl).bind fun salt _ => ?_
  refine (hhex "initPayload" rfl).bind fun initPayload _ => ?_
  refine (keyless_of_eq_ok (y := p.gasLimit) rfl).bind fun gasLimit _ => ?_
  exact (keyless_of_eq_ok (y := p.value) rfl).bind fun value _ => .ok _

theorem keyless_summary (call : UploadCall) : Keyless (call.summary p.toValue) := by
  refine (keyless_of_eq_ok (y := Value.bytes p.code) rfl).bind fun code _ => ?_
  refine (Value.keyless_length code).bind fun size _ => ?_
  refine (Value.keyless_shown call.gasLimit).bind fun gasLimit _ => ?_
  exact (Value.keyless_shown call.value).bind fun value _ => .ok _

theorem keyless_compute (codeId salt : Value) : Keyless (ProgramId.compute codeId salt) :=
  (Value.keyless_bytesPart codeId).bind fun _ _ => (Value.keyless_bytesPart salt).bind fun _ _ => .ok _

end Program

namespace Config

theorem keyless_keyOf (v : Value) : Keyless (keyOf v) := by
  unfold keyOf
  split
  · exact .ok _
  · exact .error (Fault.isKeyless_misuse ..)

theorem keyless_entryOf (index : Nat) (v : Value) : Keyless (entryOf index v) := by
  unfold entryOf
  split
  · exact .error ⟨rfl, nofun⟩
  · exact (keyless_keyOf _).bind fun _ _ => .ok _
  · exact .error ⟨rfl, nofun⟩

theorem keyless_entriesFrom (index : Nat) (vs : List Value) : Keyless (entriesFrom index vs) := by
  induction vs generalizing index with
  | nil => exact .ok _
  | cons v vs ih => exact (keyless_entryOf index v).bind fun _ _ => (ih _).bind fun _ _ => .ok _

theorem keyless_entriesOf (v : Value) : Keyless (entriesOf v) := by
  unfold entriesOf
  split
  · exact .ok _
  · exact (Value.keyless_items v).bind fun vs _ => keyless_entriesFrom 0 vs

theorem keyless_overlayAll (c : Config) (t : Table) : Keyless (c.overlayAll t) := by
  induction t generalizing c with
  | nil => exact .ok _
  | cons e t ih =>
    refine FailsWith.bind ?_ fun c _ => ih c
    exact (keyless_entriesOf e.2).bind fun _ _ => .ok _

theorem keyless_overlayDocument (c : Config) (v : Value) : Keyless (c.overlayDocument v) := by
  unfold overlayDocument
  split
  · exact keyless_overlayAll c _
  · exact .error (Fault.isKeyless_misuse ..)

theorem keyless_documentOf (outer : Nat) (content : Bytes) : Keyless (documentOf outer content) := by
  refine FailsWith.bind (.mapError fun _ => ⟨rfl, nofun⟩) fun cs _ => ?_
  refine .mapError fun f => ?_
  cases f with
  | malformed | numeral | tooDeep => exact ⟨rfl, nofun⟩

theorem keyless_overrideAll (env : Environment) (c : Config) : Keyless (overrideAll env c) := by
  refine .foldlM (fun c v => ?_) c Variable.all
  unfold override
  split
  · exact .ok _
  · refine FailsWith.bind ?_ fun _ _ => .ok _
    unfold overrideValue
    split
    · split
      · exact .ok _
      · exact .error ⟨rfl, nofun⟩
    · exact .ok _

section Looking

variable {c : Config} (hc : c.Complete) {name key : String}

include hc

theorem Complete.keyless_section (hname : .text name ∈ default.names) : Keyless (c.toValue.field name) :=
  keyless_of_eq_ok (hc.field_toValue hname)

theorem Complete.keyless_field (hname : .text name ∈ default.names)
    (hkey : (default.setting name key).isSome = true) {s : Value} (hs : c.toValue.field name = .ok s) :
    Keyless (s.field key) := by
  rw [hc.field_toValue hname] at hs
  cases hs
  obtain ⟨v, hv⟩ := hc.exists_field hkey
  exact keyless_of_eq_ok hv

theorem Complete.keyless_derive : Keyless (Wallet.derive c.toValue) := by
  refine (hc.keyless_section (by decide)).bind fun account haccount => ?_
  refine (hc.keyless_section (by decide)).bind fun node hnode => ?_
  refine (hc.keyless_field (by decide) rfl hnode).bind fun format _ => ?_
  refine (hc.keyless_field (by decide) rfl haccount).bind fun name _ => ?_
  have hsection : c.toValue.field "account" = .ok (.dict (c.sectionOf "account")) :=
    hc.field_toValue (by decide)
  rw [hsection] at haccount
  cases haccount
  refine FailsWith.bind (fun f hf => ?_) fun a _ => (Value.keyless_shown name).bind fun _ _ => .ok _
  exact Account.keyless_of_refusal (Account.refusal_choose name _ format f hf)

end Looking

end Config

end ProgramDeploy
