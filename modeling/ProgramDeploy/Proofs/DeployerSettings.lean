import ProgramDeploy.Proofs.AlikeRuns
import ProgramDeploy.Proofs.DeploymentStages

namespace ProgramDeploy

theorem Value.field_of_fieldOrNull {v u : Value} {name : String} (h : v.fieldOrNull name = .ok u)
    (htruthy : u.isTruthy = true) : v.field name = .ok u := by
  cases v with
  | dict t =>
    cases hget : Table.get? t name with
    | none =>
      simp only [fieldOrNull, hget, Option.getD_none, Except.ok.injEq] at h
      rw [← h] at htruthy
      cases htruthy
    | some u' => simpa [fieldOrNull, field, hget] using h
  | _ => cases h

def Value.accountEntries (account : Value) : Except Fault Value × Except Fault Value × Except Fault Value :=
  (account.field "name", account.fieldOrNull "mnemonic", account.fieldOrNull "seed")

namespace Wallet

theorem choose_eq (account name format : Value) : choose account name format = (do
    let mnemonic ← account.fieldOrNull "mnemonic"
    if mnemonic.isTruthy then Account.ofMnemonic mnemonic name format
    else
      let seed ← account.fieldOrNull "seed"
      if seed.isTruthy then Account.ofSeed seed name format else throw .noSecret) := by
  unfold choose
  cases hmnemonic : account.fieldOrNull "mnemonic" with
  | error f => rfl
  | ok mnemonic =>
    cases htruthy : mnemonic.isTruthy with
    | true =>
      have hfield := Value.field_of_fieldOrNull hmnemonic htruthy
      simp [bind, Except.bind, htruthy, hfield]
    | false =>
      cases hseed : account.fieldOrNull "seed" with
      | error f => simp [bind, Except.bind, htruthy]
      | ok seed =>
        cases htruthy' : seed.isTruthy with
        | true =>
          have hfield := Value.field_of_fieldOrNull hseed htruthy'
          simp [bind, Except.bind, htruthy, htruthy', hfield]
        | false => simp [bind, Except.bind, htruthy, htruthy']

theorem derive_congr {config config' : Value}
    (haccount : (config.field "account").map Value.accountEntries =
      (config'.field "account").map Value.accountEntries)
    (hformat : (config.field "node" >>= fun node => node.field "ss58_format") =
      config'.field "node" >>= fun node => node.field "ss58_format") : derive config = derive config' := by
  have hsplit (config : Value) : derive config = (do
      let account ← config.field "account"
      let format ← config.field "node" >>= fun node => node.field "ss58_format"
      let name ← account.field "name"
      let a ← choose account name format
      return (a, ← name.shown)) := by
    simp only [derive, bind_assoc]
  rw [hsplit config, hsplit config', hformat]
  cases h : config.field "account" with
  | error f =>
    cases h' : config'.field "account" with
    | error f' =>
      rw [h, h'] at haccount
      cases haccount
      rfl
    | ok account' =>
      rw [h, h'] at haccount
      cases haccount
  | ok account =>
    cases h' : config'.field "account" with
    | error f' =>
      rw [h, h'] at haccount
      cases haccount
    | ok account' =>
      rw [h, h'] at haccount
      simp only [Except.map, Except.ok.injEq, Value.accountEntries, Prod.mk.injEq] at haccount
      obtain ⟨hname, hmnemonic, hseed⟩ := haccount
      have hok {β : Type} (x : Value) (next : Value → Except Fault β) : (.ok x >>= next) = next x := rfl
      simp only [hok, choose_eq, hname, hmnemonic, hseed]

end Wallet

namespace Deployer

structure Agrees (d d' : Deployer) : Prop where
  client : d.client = d'.client
  gasLimit : d.program.field "gas_limit" = d'.program.field "gas_limit"
  value : d.program.field "value" = d'.program.field "value"
  keepAlive : d.program.fieldOrNull "keep_alive" = d'.program.fieldOrNull "keep_alive"
  inclusion : d.submission.field "wait_for_inclusion" = d'.submission.field "wait_for_inclusion"
  finalization : d.submission.field "wait_for_finalization" = d'.submission.field "wait_for_finalization"
  account : (d.config.field "account").map Value.accountEntries =
    (d'.config.field "account").map Value.accountEntries
  format : (d.config.field "node" >>= fun node => node.field "ss58_format") =
    d'.config.field "node" >>= fun node => node.field "ss58_format"

theorem Agrees.refl (d : Deployer) : d.Agrees d := by
  constructor <;> rfl

namespace Agrees

variable {d d' : Deployer} (h : d.Agrees d')

include h

theorem upload_eq (program : Value) (signer : Account) : d.upload program signer = d'.upload program signer := by
  have hbody (s : Script) : d.uploadIn program signer s = d'.uploadIn program signer s := by
    simp only [uploadIn, h.keepAlive, h.inclusion, h.finalization]
  simp only [upload, h.client, funext hbody]

theorem create_eq (code initPayload : Value) : d.create code initPayload = d'.create code initPayload := by
  have hdescriptor (e : Entropy) : d.descriptor code initPayload e = d'.descriptor code initPayload e := by
    simp only [descriptor, h.gasLimit, h.value]
  have hdeploy : d.deploy code initPayload = d'.deploy code initPayload := by
    funext w n
    show (d.deploy code initPayload).run w n = (d'.deploy code initPayload).run w n
    rw [run_deploy, run_deploy, hdescriptor, Wallet.derive_congr h.account h.format]
    simp only [h.upload_eq]
  simp only [create, hdeploy]

theorem run_create_eq (code initPayload : Value) {w w' : World} (hentropy : w.entropy = w'.entropy)
    (hnetwork : w.network = w'.network) (n : Nat) :
    (d.create code initPayload).run w n = (d'.create code initPayload).run w' n := by
  rw [h.create_eq]
  exact (d'.alike_create code initPayload hentropy.symm).run_eq_of_network hnetwork.symm n

end Agrees

end Deployer

end ProgramDeploy
