import ProgramDeploy.Proofs.DeploymentStages

namespace ProgramDeploy

namespace Account

structure IsFormat (format : Value) (k : Nat) : Prop where
  number : format.toInt? = some ↑k
  inRange : k ≤ 16383
  unreserved : k ≠ 46 ∧ k ≠ 47

def ofSecret (s : Secret) (format : Value) (k : Nat) : Account :=
  ⟨s.publicKey, Address.encode s.publicKey k, format⟩

theorem formatNumber_of_isFormat {format : Value} {k : Nat} (h : IsFormat format k) :
    formatNumber format = .ok k := by
  have hfree : ¬ ((k : Int) < 0 ∨ (Address.greatestFormat : Int) < k ∨ Address.isReserved k = true) := by
    have hle := h.inRange
    simp only [Address.isReserved, Address.greatestFormat, Bool.or_eq_true, decide_eq_true_eq]
    have hfree := h.unreserved
    omega
  unfold formatNumber
  split
  · cases h.number
  · rw [h.number]
    exact if_neg hfree

theorem ofPublicKey_of_isFormat {format : Value} {k : Nat} (h : IsFormat format k) (s : Secret) :
    ofPublicKey s.publicKey format = .ok (ofSecret s format k) := by
  rw [ofPublicKey, formatNumber_of_isFormat h]
  rfl

end Account

namespace Wallet

variable {made : Except Fault Account} {name : Value} (w : World) (n : Nat)

theorem run_report_of_ok {a : Account} {label : String} (ha : made = .ok a) (hname : name.shown = .ok label) :
    (report made name).run w n = ⟨.ok a, [accountLine (a, label)], n⟩ := by
  rw [run_report, ha, hname]
  rfl

theorem run_report_of_unshown {a : Account} {f : Fault} (ha : made = .ok a) (hname : name.shown = .error f) :
    (report made name).run w n = ⟨.error f, [], n⟩ := by
  rw [run_report, ha, hname]
  rfl

theorem run_report_of_error {f : Fault} (hf : made = .error f) :
    (report made name).run w n = ⟨.error f, [], n⟩ := by
  rw [run_report, hf]
  rfl

def Labelled (config name format : Value) : Prop :=
  ∃ account node, config.field "account" = .ok account ∧ config.field "node" = .ok node ∧
    node.field "ss58_format" = .ok format ∧ account.field "name" = .ok name

theorem run_deployer_of_found {config account node name format : Value}
    (haccount : config.field "account" = .ok account) (hnode : config.field "node" = .ok node)
    (hformat : node.field "ss58_format" = .ok format) (hname : account.field "name" = .ok name) :
    (deployer config).run w n = (report (choose account name format) name).run w n := by
  have hok {β : Type} (x : Value) (next : Value → Except Fault β) : (.ok x >>= next) = next x := rfl
  rw [run_deployer, run_report, derive, haccount, hnode]
  simp only [hok, hformat, hname, Outcome.settle_bind, Outcome.settle_pure]

end Wallet

end ProgramDeploy
