import ProgramDeploy.Proofs.HexRoundTrip
import ProgramDeploy.Proofs.OrdinaryFaults
import ProgramDeploy.Proofs.SessionBodies

namespace ProgramDeploy

theorem Value.kind_of_shown {v : Value} {f : Fault} (h : v.shown = .error f) : f.kind = .value := by
  obtain ⟨g, -, rfl⟩ := mapError_eq_error_iff.mp h
  rfl

namespace Program

def saltOf (e : Entropy) : Value → Value
  | .null => .bytes (drawSalt e)
  | given => given

section Building

variable {code initPayload gasLimit value salt : Value} {e : Entropy}

theorem build_of_amounts (hcode : code.isTruthy = true) (hgas : isAmount gasLimit = true)
    (hvalue : isAmount value = true) :
    build code initPayload gasLimit value salt e =
      code.toBytes >>= fun bs =>
        (Payload.encode initPayload).map fun payload => ⟨bs, gasLimit, value, payload, saltOf e salt⟩ := by
  unfold build
  rw [hcode, hgas, hvalue]
  cases code.toBytes with
  | error f => rfl
  | ok bs => cases Payload.encode initPayload <;> cases salt <;> rfl

theorem build_of_refused
    (h : ¬ (code.isTruthy = true ∧ isAmount gasLimit = true ∧ isAmount value = true)) :
    ∃ f, build code initPayload gasLimit value salt e = .error f ∧ f.kind = .value := by
  unfold build
  cases hcode : code.isTruthy with
  | false => exact ⟨.emptyCode, rfl, rfl⟩
  | true =>
    cases hgas : isAmount gasLimit with
    | false =>
      cases hshown : gasLimit.shown with
      | error f => exact ⟨f, rfl, gasLimit.kind_of_shown hshown⟩
      | ok s => exact ⟨.badGasLimit s, rfl, rfl⟩
    | true =>
      cases hvalue : isAmount value with
      | false =>
        cases hshown : value.shown with
        | error f => exact ⟨f, rfl, value.kind_of_shown hshown⟩
        | ok s => exact ⟨.badValue s, rfl, rfl⟩
      | true => exact absurd ⟨hcode, hgas, hvalue⟩ h

theorem build_eq_ok_iff {p : Program} :
    build code initPayload gasLimit value salt e = .ok p ↔
      code.isTruthy = true ∧ isAmount gasLimit = true ∧ isAmount value = true ∧
        ∃ bs payload, code.toBytes = .ok bs ∧ Payload.encode initPayload = .ok payload ∧
          p = ⟨bs, gasLimit, value, payload, saltOf e salt⟩ := by
  by_cases hamounts : code.isTruthy = true ∧ isAmount gasLimit = true ∧ isAmount value = true
  · obtain ⟨hcode, hgas, hvalue⟩ := hamounts
    rw [build_of_amounts hcode hgas hvalue]
    simp only [bind_eq_ok_iff, map_eq_ok_iff, hcode, hgas, hvalue, true_and]
    constructor
    · rintro ⟨bs, hbs, payload, hpayload, rfl⟩
      exact ⟨bs, payload, hbs, hpayload, rfl⟩
    · rintro ⟨bs, payload, hbs, hpayload, rfl⟩
      exact ⟨bs, hbs, payload, hpayload, rfl⟩
  · constructor
    · intro h
      obtain ⟨f, hf, -⟩ := build_of_refused hamounts
      rw [h] at hf
      cases hf
    · rintro ⟨hcode, hgas, hvalue, -⟩
      exact absurd ⟨hcode, hgas, hvalue⟩ hamounts

end Building

end Program

namespace Wallet

def choose (account name format : Value) : Except Fault Account := do
  if (← account.fieldOrNull "mnemonic").isTruthy then
    Account.ofMnemonic (← account.field "mnemonic") name format
  else if (← account.fieldOrNull "seed").isTruthy then
    Account.ofSeed (← account.field "seed") name format
  else throw .noSecret

theorem choose_eq_ofSeed {t : Table} {mnemonic seed : Value} (name format : Value)
    (hmnemonic : (Value.dict t).fieldOrNull "mnemonic" = .ok mnemonic) (hfalsy : mnemonic.isTruthy = false)
    (hseed : Table.get? t "seed" = some seed) (htruthy : seed.isTruthy = true) :
    choose (.dict t) name format = Account.ofSeed seed name format := by
  have hfield : (Value.dict t).field "seed" = .ok seed := by simp [Value.field, hseed]
  have hnull : (Value.dict t).fieldOrNull "seed" = .ok seed := by simp [Value.fieldOrNull, hseed]
  simp [choose, hmnemonic, hfalsy, hnull, htruthy, hfield, bind, Except.bind]

def derive (config : Value) : Except Fault (Account × String) := do
  let account ← config.field "account"
  let format ← (← config.field "node").field "ss58_format"
  let name ← account.field "name"
  let a ← choose account name format
  return (a, ← name.shown)

theorem exists_derive {config node mnemonic name format : Value} {t : Table} {seed : Bytes} {s : String}
    {n : Nat} (haccount : config.field "account" = .ok (.dict t)) (hnode : config.field "node" = .ok node)
    (hformat : node.field "ss58_format" = .ok format)
    (hname : (Value.dict t).field "name" = .ok name)
    (hmnemonic : (Value.dict t).fieldOrNull "mnemonic" = .ok mnemonic) (hfalsy : mnemonic.isTruthy = false)
    (hseed : Table.get? t "seed" = some (.text (Hex.marked seed))) (hlength : seed.length = Secret.size)
    (hnumber : Account.formatNumber format = .ok n) (hshown : name.shown = .ok s) :
    ∃ made, derive config = .ok made := by
  obtain ⟨a, ha⟩ := Account.exists_ofSeed name hlength hnumber
  have hmarked : (Value.text (Hex.marked seed)).isTruthy = true := by
    simp [Value.isTruthy, Hex.marked, Hex.encode]
  have hchoose : choose (.dict t) name format = .ok a := by
    rw [choose_eq_ofSeed name format hmnemonic hfalsy hseed hmarked, ha]
  refine ⟨(a, s), ?_⟩
  simp only [derive, bind_eq_ok_iff, pure_eq_ok_iff]
  exact ⟨_, haccount, _, hnode, _, hformat, _, hname, a, hchoose, s, hshown, rfl⟩

def accountLine (made : Account × String) : Event :=
  .log .info ("Account " ++ made.2 ++ ": " ++ made.1.address)

theorem ordinarily_choose (account name format : Value) : Ordinarily (choose account name format) := by
  unfold choose
  refine Ordinarily.bind_iff.mpr ⟨by simp, fun mnemonic _ => ?_⟩
  split
  · simp [Account.ordinarily_ofMnemonic]
  · refine Ordinarily.bind_iff.mpr ⟨by simp, fun seed _ => ?_⟩
    split
    · simp [Account.ordinarily_ofSeed]
    · simp [Fault.isOrdinary]

theorem ordinarily_derive (config : Value) : Ordinarily (derive config) := by
  simp [derive, ordinarily_choose]

theorem run_report (made : Except Fault Account) (name : Value) (w : World) (n : Nat) :
    (report made name).run w n =
      .settle n made fun a => .settle n name.shown fun s => ⟨.ok a, [accountLine (a, s)], n⟩ := by
  simp only [report, Action.run_bind_liftM]
  cases name.shown <;> simp [Action.run_bind, accountLine]

theorem run_deployer (config : Value) (w : World) (n : Nat) :
    (deployer config).run w n =
      .settle n (derive config) fun made => ⟨.ok made.1, [accountLine made], n⟩ := by
  simp only [deployer, derive, choose, fromMnemonic, fromSeed, Action.run_bind_liftM, Action.run_ite,
    Action.run_throw, run_report, Outcome.settle_bind, Outcome.settle_ite, Outcome.settle_throw,
    Outcome.settle_pure]

theorem result_deployer_iff (config : Value) (w : World) (n : Nat) (a : Account) :
    ((deployer config).run w n).result = .ok a ↔ ∃ name, derive config = .ok (a, name) := by
  rw [run_deployer]
  cases derive config with
  | error f => simp
  | ok made =>
    constructor
    · rintro h
      cases h
      exact ⟨made.2, rfl⟩
    · rintro ⟨name, h⟩
      cases h
      rfl

theorem result_deployer_error_iff (config : Value) (w : World) (n : Nat) (f : Fault) :
    ((deployer config).run w n).result = .error f ↔ derive config = .error f := by
  rw [run_deployer]
  cases derive config <;> simp

end Wallet

structure Identity where
  programId : String
  codeId : String
  salt : String

namespace Identity

def ofParts (code salt : Bytes) : Identity :=
  ⟨Hex.marked (ProgramId.ofParts (CodeId.ofCode code) salt), Hex.marked (CodeId.ofCode code),
    Hex.marked salt⟩

def lines (i : Identity) : List Event :=
  [.log .info ("🚀 create_program ~ programId " ++ i.programId),
   .log .info ("🚀 create_program ~ codeId " ++ i.codeId),
   .log .info ("🚀 create_program ~ salt " ++ i.salt)]

def deployment (i : Identity) (u : Upload) : Deployment :=
  ⟨i.programId, i.codeId, i.salt, u.extrinsicHash, u.blockHash, u.isSuccess, u.events⟩

end Identity

namespace Deployer

def descriptor (d : Deployer) (code initPayload : Value) (e : Entropy) : Except Fault Program := do
  let gasLimit ← d.program.field "gas_limit"
  let value ← d.program.field "value"
  Program.build code initPayload gasLimit value .null e

def conclude (i : Identity) (u : Upload) : Action Deployment := do
  Action.log .info ("Transaction sent: " ++ (← u.extrinsicHash.shown))
  if !isNull u.blockHash then reportUpload i.programId u
  return i.deployment u

variable (d : Deployer) (code initPayload : Value)

theorem ordinarily_descriptor (e : Entropy) : Ordinarily (d.descriptor code initPayload e) := by
  simp [descriptor, Program.ordinarily_build]

structure Builds (e : Entropy) (p : Program) : Prop where
  given : code.isTruthy = true
  code : code.toBytes = .ok p.code
  gasLimit : d.program.field "gas_limit" = .ok p.gasLimit
  gasAmount : Program.isAmount p.gasLimit = true
  value : d.program.field "value" = .ok p.value
  valueAmount : Program.isAmount p.value = true
  initPayload : Payload.encode initPayload = .ok p.initPayload
  salt : p.salt = .bytes (Program.drawSalt e)

theorem descriptor_eq_ok_iff (e : Entropy) (p : Program) :
    d.descriptor code initPayload e = .ok p ↔ d.Builds code initPayload e p := by
  simp only [descriptor, bind_eq_ok_iff, Program.build_eq_ok_iff]
  constructor
  · rintro ⟨gasLimit, hgas, value, hvalue, hgiven, hgasAmount, hvalueAmount, bs, payload, hbs, hpayload, rfl⟩
    exact ⟨hgiven, hbs, hgas, hgasAmount, hvalue, hvalueAmount, hpayload, rfl⟩
  · intro h
    obtain ⟨bs, gasLimit, value, payload, salt⟩ := p
    refine ⟨gasLimit, h.gasLimit, value, h.value, h.given, h.gasAmount, h.valueAmount, bs, payload, h.code,
      h.initPayload, ?_⟩
    rw [Program.mk.injEq]
    exact ⟨rfl, rfl, rfl, rfl, h.salt⟩

theorem salt_of_descriptor {e : Entropy} {p : Program}
    (h : d.descriptor code initPayload e = .ok p) : p.salt = .bytes (Program.drawSalt e) :=
  ((d.descriptor_eq_ok_iff code initPayload e p).mp h).salt

theorem run_buildProgram (w : World) (n : Nat) :
    (d.buildProgram code initPayload).run w n = ⟨d.descriptor code initPayload w.entropy, [], n⟩ := by
  simp only [buildProgram, descriptor, Action.run_bind]
  cases d.program.field "gas_limit" with
  | error f => rfl
  | ok gasLimit => cases d.program.field "value" <;> rfl

theorem run_deploy (w : World) (n : Nat) :
    (d.deploy code initPayload).run w n =
      .settle n (d.descriptor code initPayload w.entropy) fun p =>
        .settle n (Wallet.derive d.config) fun made =>
          let i := Identity.ofParts p.code (Program.drawSalt w.entropy)
          ((d.upload p.toValue made.1 >>= conclude i).run w n).after
            (Wallet.accountLine made :: i.lines) := by
  rw [deploy, Action.run_bind, run_buildProgram]
  cases hp : d.descriptor code initPayload w.entropy with
  | error f => rfl
  | ok p =>
    have hsalt := d.salt_of_descriptor code initPayload hp
    have hid : ProgramId.compute (.bytes (CodeId.ofCode p.code)) p.salt =
        .ok (ProgramId.ofParts (CodeId.ofCode p.code) (Program.drawSalt w.entropy)) := by
      rw [hsalt]
      rfl
    have hbytes : p.salt.toBytes = .ok (Program.drawSalt w.entropy) := by
      rw [hsalt]
      rfl
    dsimp only
    rw [Outcome.after_nil, Action.run_bind, Wallet.run_deployer]
    cases Wallet.derive d.config with
    | error f => rfl
    | ok made =>
      simp only [hid, hbytes, Outcome.settle_ok, Action.run_bind_liftM, Action.run_bind_log,
        Outcome.after_after]
      rfl

def seeded : Deployer where
  client := some .default
  config := .dict [("node", .dict [("ss58_format", .int 137)]),
    ("account", .dict [("name", .text "Anme"), ("seed", .text (Hex.marked (List.replicate 32 1)))])]
  program := .dict [("gas_limit", .int 1000000), ("value", .int 1000), ("keep_alive", .bool true)]
  submission := .dict [("wait_for_inclusion", .bool true), ("wait_for_finalization", .bool false)]

theorem exists_derive_seeded : ∃ made, Wallet.derive seeded.config = .ok made := by
  have hlength : (List.replicate 32 (1 : UInt8)).length = Secret.size := rfl
  have hnumber : Account.formatNumber (.int 137) = .ok 137 := rfl
  have hmnemonic : (Value.dict [("name", .text "Anme"),
      ("seed", .text (Hex.marked (List.replicate 32 1)))]).fieldOrNull "mnemonic" = .ok .null := rfl
  exact Wallet.exists_derive rfl rfl rfl rfl hmnemonic rfl rfl hlength hnumber rfl

end Deployer

end ProgramDeploy
