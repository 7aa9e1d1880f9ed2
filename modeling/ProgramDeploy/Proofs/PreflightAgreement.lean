import ProgramDeploy.Proofs.Readiness

namespace ProgramDeploy

open ProgramDeploy.Action

theorem Event.exists_log_of_isCall {e : Event} (h : e.isCall = false) :
    ∃ level message, e = .log level message := by
  cases e with
  | log level message => exact ⟨level, message, rfl⟩
  | _ => simp [isCall] at h

theorem Value.atLeast_of_toInt? {v : Value} {k : Int} (h : v.toInt? = some k) (n : Int) :
    v.atLeast n = .ok (decide (n ≤ k)) := by
  have hcompare : v.compareInt? n = some (some (compare k n)) := by
    cases v with
    | bool b =>
      cases h
      rfl
    | int m =>
      cases h
      rfl
    | _ => cases h
  have horder : (some (compare k n) = some Ordering.eq ∨ some (compare k n) = some .gt) ↔ n ≤ k := by
    simp only [Option.some.injEq, Int.compare_eq_eq, Int.compare_eq_gt]
    omega
  rw [atLeast, hcompare]
  simp [← horder]

theorem Action.Meets.of_quiet {α : Type} {a : Action α} (ha : a.Opens []) {w : World} {P : Event → Prop}
    (hlog : ∀ level message, P (.log level message)) : Meets w P (fun _ => True) a := by
  refine ⟨fun n e he => ?_, fun _ _ _ => trivial⟩
  cases hcall : e.isCall with
  | true => exact absurd he (ha.not_mem_trace hcall w n)
  | false =>
    obtain ⟨level, message, rfl⟩ := Event.exists_log_of_isCall hcall
    exact hlog level message

namespace Client

theorem result_freeBalance {c : Client} {provider : String} {w : World} {n : Nat} {info data : Value} {b : Int}
    (hprovider : c.providerAddress.shown = .ok provider) (hconnect : (w.network.session n).connect = none)
    (hclose : (w.network.session n).close = none) (hinfo : (w.network.session n).accountInfo = .ok info)
    (hdata : info.field "data" = .ok data) (hfree : data.field "free" = .ok (.int b)) (address : Value) :
    ((c.freeBalance address).run w n).result = .ok b := by
  have hsession : ((c.withSession fun s => call (.query address) s.accountInfo).run w n).result =
      .ok info := by
    rw [run_withSession, hprovider, Outcome.settle_ok, hconnect]
    simp only [hclose, hinfo, Option.elim_none, run_call]
  refine (result_bind_eq_ok_iff _ _ _ _).mpr ⟨info, hsession, ?_⟩
  refine (result_bind_eq_ok_iff _ _ _ _).mpr ⟨data, hdata, ?_⟩
  exact (result_bind_eq_ok_iff _ _ _ _).mpr ⟨_, hfree, rfl⟩

end Client

namespace Preflight

section Probes

variable {config : Value} {w : World} {n : Nat}

end Probes

section Running

variable {w : World} {n : Nat}

theorem run_runCheck (name : String) (check : Action Bool) (w : World) (n : Nat) :
    ∃ result tail, (runCheck name check).run w n =
        ⟨result, .log .info "" :: (check.run w n).trace ++ tail, (check.run w n).opened⟩ ∧
      (∀ e ∈ tail, e.isCall = false) ∧ (∀ r, result = .ok r → r.1 = name) ∧
      ∀ b, (check.run w n).result = .ok b → result = .ok (name, b) := by
  rw [runCheck, run_bind_log, run_bind, run_handling]
  cases (check.run w n).result with
  | ok b => exact ⟨.ok (name, b), [], by simp, by simp, by simp, by simp⟩
  | error f =>
    cases hi : f.isInterrupt with
    | true => exact ⟨.error f, [], by simp [hi], by simp, by simp, by simp⟩
    | false =>
      cases htext : f.text with
      | error g =>
        exact ⟨.error g, [], by simp [hi, Deployer.logFault, run_bind, htext], by simp, by simp, by simp⟩
      | ok text =>
        refine ⟨.ok (name, false), [.log .error ("Error in " ++ name ++ ": " ++ text)], ?_, by simp,
          by simp, by simp⟩
        simp [hi, Deployer.logFault, run_bind, htext]

end Running

section Command

variable {w : World} {n : Nat}

theorem opened_checkNode {config : Value} {client : Client} {provider : String}
    (hclient : Client.ofConfig config = .ok client) (hprovider : client.providerAddress.shown = .ok provider)
    (w : World) (n : Nat) : ((checkNode config).run w n).opened = n + 1 := by
  have hinfo : .connect client.providerAddress client.format ∈ (client.nodeInfo.run w n).trace := by
    rw [Client.nodeInfo, run_inWorker]
    apply (client.opening_prefix_withSession _ w n hprovider).mem
    simp [Client.opening]
  have hreport : .connect client.providerAddress client.format ∈
      (((fun _ => true) <$> client.reportNodeInfo).run w n).trace := by
    rw [run_map]
    exact mem_trace_bind_of_mem w n hinfo
  apply (opens_checkNode config).opened_of_call (Event.isCall_connect _ _)
  apply mem_trace_bind_of_ok w n rfl
  apply mem_trace_bind_of_ok (a := liftM (Client.ofConfig config)) w n hclient
  apply mem_trace_bind_of_mem
  exact (trace_prefix_handling w n _ _).mem hreport

theorem result_checkBalance_of_free {config program value info data : Value} {client : Client}
    {provider : String} {made : Account × String} {k b : Int} (hmade : Wallet.derive config = .ok made)
    (hclient : Client.ofConfig config = .ok client) (hprovider : client.providerAddress.shown = .ok provider)
    (hprogram : config.field "program" = .ok program) (hvalue : program.field "value" = .ok value)
    (hint : value.toInt? = some k) (hwritable : value.IsWritable)
    (hconnect : (w.network.session n).connect = none) (hclose : (w.network.session n).close = none)
    (hinfo : (w.network.session n).accountInfo = .ok info) (hdata : info.field "data" = .ok data)
    (hfree : data.field "free" = .ok (.int b)) (hshort : Numeral.IsShort b) :
    ((checkBalance config).run w n).result = .ok (decide (k < b)) := by
  obtain ⟨shown, hshown⟩ := Value.shown_int_of_isShort hshort
  obtain ⟨needed, hneeded⟩ := Value.shown_of_isWritable hwritable
  have hderived : (Wallet.deployer config).run w n = ⟨.ok made.1, [Wallet.accountLine made], n⟩ := by
    rw [Wallet.run_deployer, hmade]
    rfl
  have hbalance := Client.result_freeBalance hprovider hconnect hclose hinfo hdata hfree
    (.text made.1.address)
  have hcompared := Value.atLeast_of_toInt? hint b
  rw [checkBalance, run_bind_log, Outcome.result_after, run_bind_of_run w n hderived, Outcome.result_after,
    run_bind_liftM, hclient, Outcome.settle_ok, run_bind_of_ok w n hbalance, Outcome.result_after,
    run_bind_liftM, hshown, Outcome.settle_ok, run_bind_log, Outcome.result_after]
  simp only [run_bind_liftM, hprogram, hvalue, hcompared, Outcome.settle_ok]
  by_cases hle : b ≤ k
  · have hless : ¬ k < b := by omega
    simp [hle, hless, run_bind, hvalue, hneeded]
  · have hless : k < b := by omega
    simp [hle, hless, run_bind]

end Command

end Preflight

namespace Run

end Run

end ProgramDeploy
