import ProgramDeploy.Preflight
import ProgramDeploy.Proofs.Preparation

namespace ProgramDeploy

open ProgramDeploy.Action

namespace Preflight

theorem meets_logFault (heading : String) (f : Fault) (w : World) :
    Meets w (fun _ => True) (fun _ => True) (Deployer.logFault heading f) := by
  apply Meets.liftM_bind
  intro _ _
  exact meets_log trivial

section Checks

variable {config : Value} {w : World} {n : Nat}

theorem result_checkEnvironment_iff : (checkEnvironment.run w n).result = .ok true ↔
    (w.environment.get? .deployerMnemonic).isSome ∨ (w.environment.get? .deployerSeed).isSome := by
  simp only [checkEnvironment, run_bind, run_log, run_world, Outcome.result_after]
  cases w.environment.get? .deployerMnemonic <;> cases w.environment.get? .deployerSeed <;> simp [run_bind]

theorem result_checkNode_iff : ((checkNode config).run w n).result = .ok true ↔
    ∃ client info provider, Client.ofConfig config = .ok client ∧
      (client.reportNodeInfo.run w n).result = .ok info ∧ shownProvider config = .ok provider := by
  simp only [checkNode, result_bind_eq_ok_iff, run_log, run_liftM, run_handling, run_map]
  constructor
  · rintro ⟨_, -, client, hclient, answered, hanswered, h⟩
    cases hinfo : (client.reportNodeInfo.run w n).result with
    | ok info =>
      rw [hinfo] at hanswered
      cases hanswered
      obtain ⟨provider, hprovider, -⟩ := (result_bind_eq_ok_iff _ _ _ _).mp h
      exact ⟨client, info, provider, hclient, hinfo, hprovider⟩
    | error f =>
      have hfailed : Meets w (fun _ => True) (· = false) (do
          let provider ← shownProvider config
          log .error ("  ✗ " ++ provider ++ ": " ++ (← f.text))
          return false) := by
        apply Meets.liftM_bind
        intro _ _
        apply Meets.liftM_bind
        intro _ _
        exact Meets.log_bind trivial (meets_pure rfl)
      simp only [hinfo, Except.map] at hanswered
      split at hanswered
      · cases hanswered
      · have hfalse := hfailed.returns _ answered hanswered
        subst hfalse
        cases h
  · rintro ⟨client, info, provider, hclient, hinfo, hprovider⟩
    refine ⟨(), trivial, client, hclient, true, by rw [hinfo]; rfl, ?_⟩
    exact (result_bind_eq_ok_iff _ _ _ _).mpr ⟨provider, hprovider, rfl⟩

theorem result_checkArtifact_iff : ((checkArtifact config).run w n).result = .ok true ↔
    ∃ program path code, config.field "program" = .ok program ∧ program.field "wasm_path" = .ok path ∧
      Artifact.Loads w.files path code := by
  simp only [checkArtifact, result_bind_eq_ok_iff, run_log, run_liftM, run_continueWith, run_map]
  constructor
  · rintro ⟨_, -, program, hprogram, path, hpath, loaded, hloaded, h⟩
    cases hcode : ((Artifact.load path).run w n).result with
    | ok code =>
      rw [Artifact.result_load_iff] at hcode
      exact ⟨program, path, code, hprogram, hpath, hcode⟩
    | error f =>
      have hfailed : Meets w (fun _ => True) (· = false) (do
          Deployer.logFault "  ✗ " f
          log .info "  Build the program first: cargo build"
          return false) := by
        apply (meets_logFault _ f w).bind
        intro _ _
        exact Meets.log_bind trivial (meets_pure rfl)
      simp only [hcode, Except.map] at hloaded
      split at hloaded
      · have hfalse := hfailed.returns _ loaded hloaded
        subst hfalse
        cases h
      · cases hloaded
  · rintro ⟨program, path, code, hprogram, hpath, hcode⟩
    obtain ⟨s, hs⟩ := hcode.shown
    rw [← Artifact.result_load_iff path w n] at hcode
    refine ⟨(), trivial, program, hprogram, path, hpath, true, by rw [hcode]; rfl, ?_⟩
    exact (result_bind_eq_ok_iff _ _ _ _).mpr ⟨s, hs, rfl⟩

theorem result_checkBalance_iff : ((checkBalance config).run w n).result = .ok true ↔
    ∃ made client balance shown program value, Wallet.derive config = .ok made ∧
      Client.ofConfig config = .ok client ∧
      ((client.freeBalance (.text made.1.address)).run w n).result = .ok balance ∧
      (Value.int balance).shown = .ok shown ∧ config.field "program" = .ok program ∧
      program.field "value" = .ok value ∧ value.atLeast balance = .ok false := by
  simp only [checkBalance, result_bind_eq_ok_iff, run_log, run_liftM, Wallet.run_deployer]
  constructor
  · rintro ⟨_, -, account, haccount, h⟩
    cases hmade : Wallet.derive config with
    | error f =>
      rw [hmade] at haccount
      cases haccount
    | ok made =>
      rw [hmade] at haccount h
      cases haccount
      obtain ⟨client, hclient, balance, hbalance, shown, hshown, _, -, program, hprogram, value, hvalue,
        covered, hcovered, h⟩ := h
      cases covered with
      | false =>
        exact ⟨made, client, balance, shown, program, value, rfl, hclient, hbalance, hshown, hprogram, hvalue,
          hcovered⟩
      | true =>
        simp only [if_true, result_bind_eq_ok_iff] at h
        obtain ⟨_, -, _, -, _, -, _, -, h⟩ := h
        cases h
  · rintro ⟨made, client, balance, shown, program, value, hmade, hclient, hbalance, hshown, hprogram, hvalue,
      hless⟩
    rw [hmade]
    exact ⟨(), trivial, made.1, rfl, client, hclient, balance, hbalance, shown, hshown, (), trivial, program,
      hprogram, value, hvalue, false, hless, rfl⟩

end Checks

section Command

variable {w : World} {n : Nat}

theorem result_runCheck_iff {name s : String} {check : Action Bool} :
    ((runCheck name check).run w n).result = .ok (s, true) ↔
      s = name ∧ (check.run w n).result = .ok true := by
  have hfailed (f : Fault) : Meets w (fun _ => True) (· = false) (do
      Deployer.logFault ("Error in " ++ name ++ ": ") f
      return false) :=
    (meets_logFault _ f w).bind fun _ _ => meets_pure rfl
  simp only [runCheck, result_bind_eq_ok_iff, run_log, run_handling]
  constructor
  · rintro ⟨_, -, passed, hpassed, h⟩
    cases h
    cases hcheck : (check.run w n).result with
    | ok b =>
      rw [hcheck] at hpassed
      cases hpassed
      exact ⟨rfl, rfl⟩
    | error f =>
      simp only [hcheck] at hpassed
      split at hpassed
      · cases hpassed
      · have hfalse := (hfailed f).returns _ true hpassed
        cases hfalse
  · rintro ⟨rfl, hcheck⟩
    exact ⟨(), trivial, true, by rw [hcheck], rfl⟩

theorem passed_of_runChecks {named : List (String × Action Bool)} {results : List (String × Bool)}
    (h : ((runChecks named).run w n).result = .ok results) (hall : results.all (·.2) = true) :
    ∀ entry ∈ named, ∃ m, (entry.2.run w m).result = .ok true := by
  induction named generalizing n results with
  | nil => simp
  | cons entry named ih =>
    obtain ⟨result, hresult, h⟩ := (result_bind_eq_ok_iff _ _ _ _).mp h
    obtain ⟨rest, hrest, h⟩ := (result_bind_eq_ok_iff _ _ _ _).mp h
    cases h
    obtain ⟨name, passed⟩ := result
    simp only [List.all_cons, Bool.and_eq_true] at hall
    obtain ⟨rfl, hrests⟩ := hall
    exact List.forall_mem_cons.mpr ⟨⟨n, (result_runCheck_iff.mp hresult).2⟩, ih hrest hrests⟩

theorem exists_runChecks_of_passed {named : List (String × Action Bool)}
    (h : ∀ entry ∈ named, ∀ m, (entry.2.run w m).result = .ok true) :
    ∃ results, ((runChecks named).run w n).result = .ok results ∧ results.all (·.2) = true := by
  induction named generalizing n with
  | nil => exact ⟨[], rfl, rfl⟩
  | cons entry named ih =>
    obtain ⟨name, check⟩ := entry
    obtain ⟨hcheck, hnamed⟩ := List.forall_mem_cons.mp h
    have hresult : ((runCheck name check).run w n).result = .ok (name, true) :=
      result_runCheck_iff.mpr ⟨rfl, hcheck n⟩
    obtain ⟨rest, hrest, hall⟩ := ih (n := ((runCheck name check).run w n).opened) hnamed
    refine ⟨(name, true) :: rest, ?_, hall⟩
    refine (result_bind_eq_ok_iff _ _ _ _).mpr ⟨_, hresult, ?_⟩
    exact (result_bind_eq_ok_iff _ _ _ _).mpr ⟨rest, hrest, rfl⟩

theorem result_summarize (results : List (String × Bool)) :
    ((summarize results).run w n).result = .ok () := by
  have hlines (m : Nat) :
      ((results.forM fun result => log .info (summaryLine result)).run w m).result = .ok () := by
    induction results generalizing m with
    | nil => rfl
    | cons result results ih =>
      exact (result_bind_eq_ok_iff _ _ _ _).mpr ⟨(), rfl, ih m⟩
  simp only [summarize, heading, result_bind_eq_ok_iff, run_log, true_and, exists_const]
  exact ⟨(), hlines _, trivial⟩

theorem passed_of_command (h : (command.run w n).result = .ok 0) :
    ∃ c m, ((Config.load commandLevels Config.defaultPath).run w m).result = .ok c ∧
      ∀ entry ∈ checks c.toValue, ∃ m, (entry.2.run w m).result = .ok true := by
  obtain ⟨_, -, h⟩ := (result_bind_eq_ok_iff _ _ _ _).mp h
  obtain ⟨c, hc, h⟩ := (result_bind_eq_ok_iff _ _ _ _).mp h
  obtain ⟨results, hresults, h⟩ := (result_bind_eq_ok_iff _ _ _ _).mp h
  obtain ⟨_, -, h⟩ := (result_bind_eq_ok_iff _ _ _ _).mp h
  refine ⟨c, _, hc, passed_of_runChecks hresults ?_⟩
  split at h
  · assumption
  · obtain ⟨_, -, h⟩ := (result_bind_eq_ok_iff _ _ _ _).mp h
    cases h

theorem shown_of_shownProvider {config : Value} {client : Client} {provider : String}
    (hclient : Client.ofConfig config = .ok client) (h : shownProvider config = .ok provider) :
    client.providerAddress.shown = .ok provider := by
  simp only [Client.ofConfig, bind_eq_ok_iff, pure_eq_ok_iff] at hclient
  obtain ⟨node, hnode, url, hurl, -, -, -, -, rfl⟩ := hclient
  simpa [shownProvider, bind_eq_ok_iff, hnode, hurl] using h

structure Ready (fs : Files) (config : Value) : Prop where
  client : ∃ c s, Client.ofConfig config = .ok c ∧ c.providerAddress.shown = .ok s
  artifact : ∃ program path code, config.field "program" = .ok program ∧
    program.field "wasm_path" = .ok path ∧ Artifact.Loads fs path code
  account : ∃ made, Wallet.derive config = .ok made

theorem ready_of_command (h : (command.run w n).result = .ok 0) :
    ∃ c m, ((Config.load commandLevels Config.defaultPath).run w m).result = .ok c ∧
      Ready w.files c.toValue := by
  obtain ⟨c, m, hc, hpassed⟩ := passed_of_command h
  obtain ⟨-, ⟨m₁, hnode⟩, ⟨m₂, hartifact⟩, m₃, hbalance⟩ := by
    simpa only [checks, List.forall_mem_cons, List.not_mem_nil, false_imp_iff, implies_true, and_true]
      using hpassed
  obtain ⟨client, info, provider, hclient, -, hprovider⟩ := result_checkNode_iff.mp hnode
  obtain ⟨made, _, _, _, _, _, hmade, -⟩ := result_checkBalance_iff.mp hbalance
  exact ⟨c, m, hc, ⟨client, provider, hclient, shown_of_shownProvider hclient hprovider⟩,
    result_checkArtifact_iff.mp hartifact, made, hmade⟩

theorem result_command_of_passed {c : Config}
    (hc : ∀ m, ((Config.load commandLevels Config.defaultPath).run w m).result = .ok c)
    (h : ∀ entry ∈ checks c.toValue, ∀ m, (entry.2.run w m).result = .ok true) :
    (command.run w n).result = .ok 0 := by
  refine (result_bind_eq_ok_iff _ _ _ _).mpr ⟨(), rfl, ?_⟩
  refine (result_bind_eq_ok_iff _ _ _ _).mpr ⟨c, hc _, ?_⟩
  obtain ⟨results, hresults, hall⟩ := exists_runChecks_of_passed h
  refine (result_bind_eq_ok_iff _ _ _ _).mpr ⟨results, hresults, ?_⟩
  refine (result_bind_eq_ok_iff _ _ _ _).mpr ⟨(), result_summarize results, ?_⟩
  rw [if_pos hall]
  rfl

end Command

end Preflight

end ProgramDeploy
