import ProgramDeploy.Proofs.AlikeRuns
import ProgramDeploy.Proofs.ConfigLookups
import ProgramDeploy.Proofs.LocalValidity
import ProgramDeploy.Proofs.PreflightAgreement
import ProgramDeploy.Proofs.SecretSelection

namespace ProgramDeploy

open ProgramDeploy.Action

theorem Script.isCalm_of_refusal {s : Script} (hconnect : ∀ f, s.connect = some f → f.isInterrupt = false)
    (hcalls : ∀ c, s.failure? c = none) (hclose : s.close = none) : s.IsCalm := by
  intro f h
  cases h with
  | connect failure => exact hconnect f failure
  | call failure => cases (hcalls _).symm.trans failure
  | close failure => cases hclose.symm.trans failure

theorem Script.failure?_plain (c : Call) : plain.failure? c = none := by
  cases c with
  | read field => cases field <;> rfl
  | _ => rfl

namespace Network

theorem not_causes_nil (f : Fault) : ¬ Causes [] f := by
  intro h
  induction h with
  | raised raises =>
    cases raises with
    | connect failure => cases failure
    | call failure => cases (Script.failure?_plain _).symm.trans failure
    | close failure => cases failure
  | fromWorker caused ih => exact ih
  | balance answered missing =>
    cases answered
    cases missing

theorem Causes.isInterrupt_eq_false {network : Network} (hcalm : ∀ n, (network.session n).IsCalm) {f : Fault}
    (h : network.Causes f) : f.isInterrupt = false := by
  induction h with
  | raised raises => exact hcalm _ _ raises
  | fromWorker caused ih =>
    rw [Fault.isInterrupt_fromWorker]
    exact ih
  | @balance n info f answered missing =>
    have hordinary : Ordinarily (do (← info.field "data").field "free") := by simp
    exact Fault.isInterrupt_of_isOrdinary (hordinary f missing)

end Network

namespace Fault

theorem Accountable.isOrdinary {f : Fault} (h : f.Accountable []) : f.isOrdinary = true :=
  (h.resolve_right (Network.not_causes_nil f)).1

theorem Accountable.isInterrupt_eq_false {network : Network} (hcalm : ∀ n, (network.session n).IsCalm)
    {f : Fault} (h : f.Accountable network) : f.isInterrupt = false := by
  obtain hkeyless | hcaused := h
  · exact isInterrupt_of_isOrdinary hkeyless.1
  · exact hcaused.isInterrupt_eq_false hcalm

end Fault

namespace Outcome

def passes (o : Outcome Bool) : Bool :=
  match o.result with
  | .ok b => b
  | .error _ => false

theorem passes_iff {o : Outcome Bool} : o.passes = true ↔ o.result = .ok true := by
  unfold passes
  cases o.result <;> simp

def IsTellable {α : Type} (o : Outcome α) : Prop :=
  ∀ f, o.result = .error f → f.isInterrupt = false ∧ ∃ text, f.text = .ok text

theorem isTellable_of_ok {α : Type} {o : Outcome α} {x : α} (h : o.result = .ok x) : o.IsTellable := by
  intro f hf
  cases h.symm.trans hf

theorem isTellable_of_ordinary {α : Type} {o : Outcome α}
    (h : ∀ f, o.result = .error f → f.isOrdinary = true) : o.IsTellable :=
  fun f hf => ⟨Fault.isInterrupt_of_isOrdinary (h f hf), Fault.exists_text_of_isOrdinary (h f hf)⟩

end Outcome

theorem Config.Complete.exists_client {c : Config} (hc : c.Complete) : ∃ client provider,
    Client.ofConfig c.toValue = .ok client ∧ client.providerAddress.shown = .ok provider := by
  have hnode : c.toValue.field "node" = .ok (.dict (c.sectionOf "node")) := hc.field_toValue (by decide)
  obtain ⟨url, hurl⟩ : ∃ v, (Value.dict (c.sectionOf "node")).field "provider_address" = .ok v :=
    hc.exists_field rfl
  obtain ⟨format, hformat⟩ : ∃ v, (Value.dict (c.sectionOf "node")).field "ss58_format" = .ok v :=
    hc.exists_field rfl
  have hwritable := hc.isWritable_of_setting ((c.field_sectionOf_iff _ _).mp hurl)
  obtain ⟨provider, hprovider⟩ := Value.shown_of_isWritable hwritable
  refine ⟨⟨url, format⟩, provider, ?_, hprovider⟩
  simp only [Client.ofConfig, hnode, hurl, hformat, bind, Except.bind]
  rfl

namespace Preflight

inductive IsReported (name : String) (o : Outcome Bool) : List Event → Prop where
  | returned {b : Bool} (result : o.result = .ok b) : IsReported name o (.log .info "" :: o.trace)
  | failed {f : Fault} {text : String} (result : o.result = .error f) (caught : f.isInterrupt = false)
      (written : f.text = .ok text) :
      IsReported name o (.log .info "" :: o.trace ++ [.log .error ("Error in " ++ name ++ ": " ++ text)])

inductive AreReported : List (String × Outcome Bool) → List Event → Prop where
  | nil : AreReported [] []
  | cons {name : String} {o : Outcome Bool} {found : List (String × Outcome Bool)} {first rest : List Event}
      (reported : IsReported name o first) (others : AreReported found rest) :
      AreReported ((name, o) :: found) (first ++ rest)

inductive ComeTo (w : World) : Nat → List (String × Action Bool) → List (String × Outcome Bool) → Nat → Prop where
  | nil (n : Nat) : ComeTo w n [] [] n
  | cons {n m k : Nat} {name : String} {check : Action Bool} {o : Outcome Bool}
      {named : List (String × Action Bool)} {found : List (String × Outcome Bool)}
      (run : check.run w n = ⟨o.result, o.trace, m⟩) (others : ComeTo w m named found k) :
      ComeTo w n ((name, check) :: named) ((name, o) :: found) k

def results (found : List (String × Outcome Bool)) : List (String × Bool) :=
  found.map fun entry => (entry.1, entry.2.passes)

theorem all_results_iff (found : List (String × Outcome Bool)) :
    (results found).all (·.2) = true ↔ ∀ entry ∈ found, entry.2.result = .ok true := by
  simp only [results, List.all_map, List.all_eq_true, Function.comp, Outcome.passes_iff]

section Reports

variable {w : World} {n m : Nat} {name : String} {o : Outcome Bool} {told : List Event}

theorem exists_report (name : String) (h : o.IsTellable) : ∃ told, IsReported name o told := by
  cases hresult : o.result with
  | ok b => exact ⟨_, .returned hresult⟩
  | error f =>
    obtain ⟨hcaught, text, htext⟩ := h f hresult
    exact ⟨_, .failed hresult hcaught htext⟩

theorem exists_reports {found : List (String × Outcome Bool)} (h : ∀ entry ∈ found, entry.2.IsTellable) :
    ∃ told, AreReported found told := by
  induction found with
  | nil => exact ⟨[], .nil⟩
  | cons entry found ih =>
    obtain ⟨hentry, hfound⟩ := List.forall_mem_cons.mp h
    obtain ⟨first, hfirst⟩ := exists_report entry.1 hentry
    obtain ⟨rest, hrest⟩ := ih hfound
    exact ⟨first ++ rest, .cons hfirst hrest⟩

theorem AreReported.exists_infix {found : List (String × Outcome Bool)} (h : AreReported found told)
    {entry : String × Outcome Bool} (hentry : entry ∈ found) :
    ∃ report, IsReported entry.1 entry.2 report ∧ report <:+: told := by
  induction h with
  | nil => cases hentry
  | cons reported others ih =>
    cases hentry with
    | head => exact ⟨_, reported, List.prefix_append _ _ |>.isInfix⟩
    | tail _ hentry =>
      obtain ⟨report, hreport, hinfix⟩ := ih hentry
      exact ⟨report, hreport, List.infix_append_of_infix_right hinfix⟩

theorem IsReported.run_runCheck (h : IsReported name o told) {check : Action Bool}
    (hrun : check.run w n = ⟨o.result, o.trace, m⟩) :
    (runCheck name check).run w n = ⟨.ok (name, o.passes), told, m⟩ := by
  rw [runCheck, run_bind_log, run_bind, run_handling, hrun]
  cases h with
  | returned result => simp [result, Outcome.passes]
  | failed result caught written =>
    simp [result, caught, written, Outcome.passes, Deployer.logFault, run_bind]

theorem ComeTo.run_runChecks {named : List (String × Action Bool)} {found : List (String × Outcome Bool)}
    (h : ComeTo w n named found m) (htold : AreReported found told) :
    (runChecks named).run w n = ⟨.ok (results found), told, m⟩ := by
  induction h generalizing told with
  | nil n =>
    cases htold
    rfl
  | cons run others ih =>
    cases htold with
    | cons reported rest =>
      rw [runChecks, run_bind_of_run w _ (reported.run_runCheck run), run_bind_of_run w _ (ih rest)]
      simp [results]

end Reports

/-- What the checks come to on their own. Two of them ask a node, each in the only session there is; the others
have no network. -/
def alone (w : World) (config : Value) (first second : Script) : List (String × Outcome Bool) :=
  [("Environment Variables", checkEnvironment.run (w.on []) 0),
   ("Node Connection", (checkNode config).run (w.on [first]) 0),
   ("Program Artifact", (checkArtifact config).run (w.on []) 0),
   ("Deployer Balance", (checkBalance config).run (w.on [second]) 0)]

theorem comeTo_alone {config : Value} {client : Client} {provider : String}
    (hclient : Client.ofConfig config = .ok client) (hprovider : client.providerAddress.shown = .ok provider)
    (w : World) (n : Nat) :
    ∃ m, ComeTo w n (checks config) (alone w config (w.network.session n) (w.network.session (n + 1))) m := by
  have hvariables : Alike (fun _ => false) 0 w (w.on []) checkEnvironment := alike_checkEnvironment rfl
  have hfiles : Alike (fun _ => false) 0 w (w.on []) (checkArtifact config) :=
    alike_checkArtifact fun program path _ _ => ⟨rfl, rfl⟩
  have henvironment := hvariables.run_eq_on n
  have hnode := (alike_checkNode config).run_eq_alone (w := w) (n := n)
  have hartifact := hfiles.run_eq_on (n + 1)
  -- The node is asked in one session, whatever comes of it, so the balance is asked for in the next one.
  have hbalance := (alike_checkBalance config).run_eq_alone (w := w) (n := n + 1)
  dsimp only at hnode
  rw [opened_checkNode hclient hprovider, Nat.zero_add] at hnode
  exact ⟨_, .cons henvironment (.cons hnode (.cons hartifact (.cons hbalance (.nil _))))⟩

section Faults

variable {w : World} {n : Nat}

theorem isOrdinary_of_checkNode {config : Value} {f : Fault} (hcaught : f.isInterrupt = false)
    (h : ((checkNode config).run w n).result = .error f) : f.isOrdinary = true := by
  have hclient : Ordinarily (Client.ofConfig config) := by simp [Client.ofConfig]
  have hshown : Ordinarily (shownProvider config) := by simp [shownProvider]
  have htext (g : Fault) : Ordinarily g.text := .mapError fun _ => rfl
  rcases (result_bind_eq_error_iff w n _ _).mp h with h | ⟨_, -, h⟩
  · cases h
  rcases (result_bind_eq_error_iff w _ _ _).mp h with h | ⟨client, -, h⟩
  · exact hclient f h
  rcases (result_bind_eq_error_iff w _ _ _).mp h with h | ⟨answered, -, h⟩
  · rw [run_handling] at h
    split at h
    · cases h
    · rename_i g _
      split at h
      · rename_i hinterrupt
        cases h
        cases hcaught.symm.trans hinterrupt
      · refine Performs.isOrdinary (s := .plain) ?_ h
        apply (performs_liftM hshown).behind
        intro provider
        apply (performs_liftM (htext g)).behind
        intro text
        exact (performs_log _ _).behind fun _ => performs_pure _
  · refine Performs.isOrdinary (s := .plain) ?_ h
    split
    · apply (performs_liftM hshown).behind
      intro provider
      exact (performs_log _ _).behind fun _ => performs_pure _
    · exact performs_pure _

theorem isTellable_alone {outer : Nat} {path : Value} {c : Config}
    (hload : ((Config.load outer path).run w n).result = .ok c) {first second : Script}
    (hfirst : first.IsCalm) (hsecond : second.IsCalm)
    (hwritten : ∀ f, ((checkBalance c.toValue).run (w.on [second]) 0).result = .error f →
      ∃ text, f.text = .ok text) :
    ∀ entry ∈ alone w c.toValue first second, entry.2.IsTellable := by
  have hloaded (network : Network) : ((Config.load outer path).run (w.on network) n).result = .ok c :=
    Config.load_of_le (w := w) rfl rfl (Nat.le_refl outer) hload
  have hcalm {s : Script} (hs : s.IsCalm) (m : Nat) : (Network.session [s] m).IsCalm := by
    rw [Network.session_singleton]
    exact hs
  simp only [alone, List.forall_mem_cons, List.not_mem_nil, false_imp_iff, implies_true, and_true]
  refine ⟨?_, ?_, ?_, ?_⟩
  · exact Outcome.isTellable_of_ok (result_checkEnvironment _ 0)
  · have haccounts := (accounts_checkNode (hloaded [first])).fails 0
    apply Outcome.isTellable_of_ordinary
    intro f hf
    exact isOrdinary_of_checkNode ((haccounts f hf).isInterrupt_eq_false (hcalm hfirst)) hf
  · have haccounts := (accounts_checkArtifact (hloaded [])).fails 0
    apply Outcome.isTellable_of_ordinary
    intro f hf
    exact (haccounts f hf).isOrdinary
  · have haccounts := (accounts_checkBalance (hloaded [second])).fails 0
    intro f hf
    exact ⟨(haccounts f hf).isInterrupt_eq_false (hcalm hsecond), hwritten f hf⟩

end Faults

def banner (text : String) : List Event :=
  [.log .info rule, .log .info text, .log .info rule]

def verdictLine (result : String × Bool) : Event :=
  .log .info ((if result.2 then "  ✓ PASS: " else "  ✗ FAIL: ") ++ result.1)

def summary (results : List (String × Bool)) : List Event :=
  .log .info "" :: banner "Summary" ++ results.map verdictLine ++
    [.log .info "", .log .info s!"Total: {results.countP (·.2)}/{results.length} checks passed",
      if results.all (·.2) then .log .success "✅ Ready to deploy: python main.py"
      else .log .error "❌ Not ready - fix issues above"]

theorem run_heading (text : String) (w : World) (n : Nat) : (heading text).run w n = ⟨.ok (), banner text, n⟩ := by
  rw [heading, run_bind_log, run_bind_log, run_log]
  rfl

theorem log_summaryLine (result : String × Bool) : .log .info (summaryLine result) = verdictLine result := by
  obtain ⟨name, passed⟩ := result
  cases passed <;> rfl

theorem run_forM_verdictLine (results : List (String × Bool)) (w : World) (n : Nat) :
    (results.forM fun result => log .info (summaryLine result)).run w n =
      ⟨.ok (), results.map verdictLine, n⟩ := by
  induction results with
  | nil => rfl
  | cons result results ih =>
    show (log .info (summaryLine result) >>= fun _ => results.forM _).run w n = _
    rw [run_bind_log, ih, log_summaryLine]
    rfl

theorem run_summarize_bind {α : Type} (results : List (String × Bool)) (next : Unit → Action α) (w : World)
    (n : Nat) : (summarize results >>= next).run w n = ((next ()).run w n).after
      (.log .info "" :: banner "Summary" ++ results.map verdictLine ++
        [.log .info "", .log .info s!"Total: {results.countP (·.2)}/{results.length} checks passed"]) := by
  apply run_bind_of_run
  rw [summarize, run_bind_log, run_bind_of_run w n (run_heading _ w n),
    run_bind_of_run w n (run_forM_verdictLine results w n), run_bind_log, run_log]
  simp

theorem run_command {w : World} {n m : Nat} {c : Config} {found : List (String × Outcome Bool)} {told : List Event}
    (hload : ((Config.load commandLevels Config.defaultPath).run w n).result = .ok c)
    (hfound : ComeTo w n (checks c.toValue) found m) (htold : AreReported found told) :
    command.run w n = ⟨.ok (if (results found).all (·.2) then 0 else 1), banner "Vara Program Deployer Check" ++
      ((Config.load commandLevels Config.defaultPath).run w n).trace ++ told ++ summary (results found), m⟩ := by
  rw [command, run_bind_of_run w n (run_heading _ w n), run_bind_of_quiet (Config.opens_load _ _) hload,
    run_bind_of_run w n (hfound.run_runChecks htold), run_summarize_bind, summary]
  cases (results found).all (·.2) <;> simp [run_bind_log]

/-- The verdict of the checks is the conjunction of what they come to on their own, each with the script of its
own session. All are run and reported, whatever the others come to. A fault that ends a check has a text unless
a node has raised it, and only the balance may end in such a one. -/
theorem verdict_is_that_of_all_checks {w : World} {n : Nat} {c : Config}
    (hload : ((Config.load commandLevels Config.defaultPath).run w n).result = .ok c)
    (hfirst : (w.network.session n).IsCalm) (hsecond : (w.network.session (n + 1)).IsCalm)
    (hwritten : ∀ f, ((checkBalance c.toValue).run (w.on [w.network.session (n + 1)]) 0).result = .error f →
      ∃ text, f.text = .ok text) :
    let found := alone w c.toValue (w.network.session n) (w.network.session (n + 1))
    let o := command.run w n
    (∃ told, AreReported found told ∧ o.trace = banner "Vara Program Deployer Check" ++
      ((Config.load commandLevels Config.defaultPath).run w n).trace ++ told ++
        summary (results found)) ∧
    (o.result = .ok 0 ∨ o.result = .ok 1) ∧
    (o.result = .ok 0 ↔ ∀ entry ∈ found, entry.2.result = .ok true) := by
  intro found o
  obtain ⟨client, provider, hclient, hprovider⟩ :=
    (Config.complete_of_load hload).exists_client
  obtain ⟨m, hfound⟩ := comeTo_alone hclient hprovider w n
  obtain ⟨told, htold⟩ := exists_reports (isTellable_alone hload hfirst hsecond hwritten)
  have hrun := run_command hload hfound htold
  have hresult : o.result = .ok (if (results found).all (·.2) then 0 else 1) := congrArg Outcome.result hrun
  refine ⟨⟨told, htold, congrArg Outcome.trace hrun⟩, ?_, ?_⟩
  · rw [hresult]
    split
    · exact .inl rfl
    · exact .inr rfl
  · rw [hresult, ← all_results_iff]
    cases (results found).all (·.2) <;> simp

namespace Obstructed

def refusal : Fault :=
  .raised (.system .connection) [.text "refused"] []

def refusing : Script :=
  { Script.plain with connect := some refusal }

def world : World :=
  ⟨⟨[([Text.Utf8.encode "dex.wasm"], .directory)]⟩, Run.Funded.environment "5", [7], [refusing, Run.Funded.funded]⟩

def config : Config := Run.Funded.config 5

theorem result_load : ((Config.load commandLevels Config.defaultPath).run world 0).result = .ok config := by
  have hmissing : world.files.contains Config.defaultPath = .ok false := rfl
  obtain ⟨shown, -, hfile⟩ : ∃ shown, Config.defaultPath.shown = .ok shown ∧
      Config.fromFile world.files commandLevels Config.defaultPath = .ok (Config.default, _) :=
    Config.fromFile_of_missing hmissing
  rw [Config.result_load, hfile]
  rfl

theorem isCalm_refusing : refusing.IsCalm := by
  refine Script.isCalm_of_refusal (fun f hf => ?_) (fun c => Script.failure?_plain c) rfl
  cases hf
  rfl

theorem isCalm_funded : Run.Funded.funded.IsCalm := by
  refine Script.isCalm_of_refusal (fun f hf => ?_) (fun c => ?_) rfl
  · cases hf
  · cases c with
    | read field => cases field <;> rfl
    | _ => rfl

theorem result_checkNode : ((checkNode config.toValue).run (world.on [refusing]) 0).result = .ok false := rfl

theorem result_checkArtifact : ((checkArtifact config.toValue).run (world.on []) 0).result =
    .error (.badPath .isDirectory "'dex.wasm'") := by
  have hquoted : "'dex.wasm'" = Text.quoted "dex.wasm" := by decide +kernel
  rw [hquoted]
  rfl

theorem result_checkBalance : ((checkBalance config.toValue).run (world.on [Run.Funded.funded]) 0).result =
    .ok true := by
  obtain ⟨made, hmade⟩ := Run.Funded.exists_derive 5
  have hshort : Numeral.IsShort 2000 := Numeral.isShort_of_lt (k := 4) (by decide) (by decide)
  have hvalue : config.setting "program" "value" = some (.int 1000) := rfl
  have hwritable := (Config.complete_of_load result_load).isWritable_of_setting hvalue
  exact result_checkBalance_of_free hmade rfl rfl rfl rfl rfl hwritable rfl rfl rfl rfl rfl hshort

theorem results_alone : results (alone world config.toValue refusing Run.Funded.funded) =
    [("Environment Variables", true), ("Node Connection", false), ("Program Artifact", false),
      ("Deployer Balance", true)] := by
  simp only [results, alone, List.map_cons, Outcome.passes, result_checkNode, result_checkArtifact, result_checkBalance]
  rfl

end Obstructed

theorem verdict_is_that_of_all_checks_obstructed :
    let o := command.run Obstructed.world 0
    o.result = .ok 1 ∧
      .log .error "Error in Program Artifact: [Errno 21] Is a directory: 'dex.wasm'" ∈ o.trace ∧
      [.log .info "  ✓ PASS: Environment Variables", .log .info "  ✗ FAIL: Node Connection",
        .log .info "  ✗ FAIL: Program Artifact", .log .info "  ✓ PASS: Deployer Balance", .log .info "",
        .log .info "Total: 2/4 checks passed", .log .error "❌ Not ready - fix issues above"] <:+ o.trace := by
  intro o
  have hwritten (f : Fault) (hf : ((checkBalance Obstructed.config.toValue).run
      (Obstructed.world.on [Run.Funded.funded]) 0).result = .error f) : ∃ text, f.text = .ok text := by
    cases Obstructed.result_checkBalance.symm.trans hf
  obtain ⟨⟨told, htold, htrace⟩, hcode, hready⟩ :=
    verdict_is_that_of_all_checks Obstructed.result_load Obstructed.isCalm_refusing Obstructed.isCalm_funded hwritten
  refine ⟨hcode.resolve_left fun hzero => ?_, ?_, ?_⟩
  · have hpassed := hready.mp hzero _ (.tail _ (.head _))
    cases Obstructed.result_checkNode.symm.trans hpassed
  · obtain ⟨report, hreport, hinfix⟩ := htold.exists_infix (.tail _ (.tail _ (.head _)))
    have hmem : .log .error "Error in Program Artifact: [Errno 21] Is a directory: 'dex.wasm'" ∈ report := by
      cases hreport with
      | returned result => cases Obstructed.result_checkArtifact.symm.trans result
      | failed result caught written =>
        cases Obstructed.result_checkArtifact.symm.trans result
        cases written
        exact List.mem_append_right _ (.head _)
    have htold := hinfix.mem hmem
    rw [htrace]
    simp [htold]
  · rw [htrace]
    refine List.IsSuffix.trans ?_ (List.suffix_append _ _)
    show _ <:+ summary (results (alone Obstructed.world Obstructed.config.toValue Obstructed.refusing
      Run.Funded.funded))
    rw [Obstructed.results_alone]
    exact List.suffix_append (.log .info "" :: banner "Summary") _

end Preflight

end ProgramDeploy
