import ProgramDeploy.Proofs.DeployableConfigs
import ProgramDeploy.Proofs.DeploymentTerms

namespace ProgramDeploy

open ProgramDeploy.Action

def Outcome.IsHalted {α : Type} (o : Outcome α) : Prop :=
  (∃ f, o.result = .error f) ∧ ∀ waits waits', .submit waits waits' ∉ o.trace

namespace Run

section Stages

variable (outer : Nat) (path : Value) (w : World) (n : Nat)

def loading : Outcome Config :=
  (Config.load (outer + levels) path).run w n

def reading (artifact : Value) : Outcome Bytes :=
  (Artifact.load artifact).run w n

def resolving (program : Value) : Outcome Value :=
  (RouterInit.resolve program).run w n

def asking (client : Client) : Outcome NodeInfo :=
  client.reportNodeInfo.run w n

structure Plan where
  config : Config
  program : Value
  artifact : Value
  client : Client

structure Plan.Loaded (p : Plan) : Prop where
  config : (loading outer path w n).result = .ok p.config
  program : p.config.toValue.field "program" = .ok p.program
  artifact : p.program.field "wasm_path" = .ok p.artifact
  client : Client.ofConfig p.config.toValue = .ok p.client

structure Plan.Ready (p : Plan) (code : Bytes) (payload : Value) : Prop
    extends p.Loaded outer path w n where
  code : (reading w n p.artifact).result = .ok code
  payload : (resolving w n p.program).result = .ok payload

def Plan.shown (p : Plan) : List Event :=
  (loading outer path w n).trace ++ (reading w n p.artifact).trace ++ (resolving w n p.program).trace

/-- The ways of a deployment through its stages: one of them fails and nothing comes behind it, or all
have returned and the program is created behind them. -/
inductive Proceeds : Outcome (Option Deployment) → Prop where
  | unloaded {f : Fault} (load : (loading outer path w n).result = .error f) :
      Proceeds ⟨.error f, (loading outer path w n).trace, n⟩
  | unread {p : Plan} {f : Fault} (loaded : p.Loaded outer path w n)
      (read : (reading w n p.artifact).result = .error f) :
      Proceeds ⟨.error f, (loading outer path w n).trace ++ (reading w n p.artifact).trace, n⟩
  | unresolved {p : Plan} {code : Bytes} {f : Fault} (loaded : p.Loaded outer path w n)
      (read : (reading w n p.artifact).result = .ok code)
      (resolve : (resolving w n p.program).result = .error f) :
      Proceeds ⟨.error f, p.shown outer path w n, n⟩
  | unanswered {p : Plan} {code : Bytes} {payload : Value} {f : Fault}
      (ready : p.Ready outer path w n code payload)
      (ask : (asking w n p.client).result = .error f) :
      Proceeds ⟨.error f, p.shown outer path w n ++ (asking w n p.client).trace,
        (asking w n p.client).opened⟩
  | answered {p : Plan} {code : Bytes} {payload : Value} {info : NodeInfo} {d : Deployer}
      (ready : p.Ready outer path w n code payload)
      (ask : (asking w n p.client).result = .ok info)
      (deployer : Deployer.ofConfig (some p.client) p.config.toValue = .ok d) :
      Proceeds (((d.create (.bytes code) payload).run w (n + 1)).after
        (p.shown outer path w n ++ (asking w n p.client).trace))

end Stages

variable {outer : Nat} {path : Value} {w : World} {n : Nat}

theorem exists_loaded {c : Config} (h : (loading outer path w n).result = .ok c) :
    ∃ p : Plan, p.Loaded outer path w n ∧ p.config = c := by
  have hc : c.Complete := Config.complete_of_load h
  have hdefault (name key : String) (hd : (Config.default.setting name key).isSome = true) :=
    hc.exists_field hd
  obtain ⟨artifact, hartifact⟩ := hdefault "program" "wasm_path" rfl
  obtain ⟨provider, hprovider⟩ := hdefault "node" "provider_address" rfl
  obtain ⟨format, hformat⟩ := hdefault "node" "ss58_format" rfl
  have hnode := hc.field_toValue (show .text "node" ∈ Config.default.names by decide)
  refine ⟨⟨c, _, artifact, ⟨provider, format⟩⟩, ⟨h, hc.field_toValue (by decide), hartifact, ?_⟩, rfl⟩
  simp only [Client.ofConfig, hnode, hprovider, hformat, bind, Except.bind, pure, Except.pure]

theorem proceeds_deploy (outer : Nat) (path : Value) (w : World) (n : Nat) :
    Proceeds outer path w n ((deploy outer path).run w n) := by
  have hloads : (Config.load (outer + levels) path).Opens [] := Config.opens_load _ path
  unfold deploy
  cases hload : (loading outer path w n).result with
  | error f =>
    rw [run_bind_of_quiet_error hloads hload]
    exact .unloaded hload
  | ok c =>
    obtain ⟨p, hloaded, rfl⟩ := exists_loaded hload
    have hc : p.config.Complete := Config.complete_of_load hload
    rw [run_bind_of_quiet hloads hload]
    simp only [run_bind_liftM, hloaded.program, hloaded.artifact, Outcome.settle_ok]
    cases hread : (reading w n p.artifact).result with
    | error f =>
      rw [run_bind_of_quiet_error (Artifact.opens_load p.artifact) hread, Outcome.after_mk]
      exact .unread hloaded hread
    | ok code =>
      rw [run_bind_of_quiet (Artifact.opens_load p.artifact) hread, Outcome.after_after, run_bind_liftM,
        Outcome.settle_ok]
      cases hresolve : (resolving w n p.program).result with
      | error f =>
        rw [run_bind_of_quiet_error (RouterInit.opens_resolve p.program) hresolve, Outcome.after_mk]
        exact .unresolved hloaded hread hresolve
      | ok payload =>
        have hready : p.Ready outer path w n code payload := ⟨hloaded, hread, hresolve⟩
        rw [run_bind_of_quiet (RouterInit.opens_resolve p.program) hresolve, Outcome.after_after,
          run_bind_liftM, hloaded.client, Outcome.settle_ok]
        cases hask : (asking w n p.client).result with
        | error f =>
          rw [run_bind_of_error w n hask, Outcome.after_mk]
          exact .unanswered hready hask
        | ok info =>
          rw [run_bind_of_ok w n hask, (Client.calls_of_reportNodeInfo hask).2, run_bind_liftM,
            hc.deployer_ofConfig, Outcome.settle_ok, Outcome.after_after]
          exact .answered hready hask (hc.deployer_ofConfig _)

theorem Plan.Loaded.unique {p p' : Plan} (h : p.Loaded outer path w n) (h' : p'.Loaded outer path w n) :
    p = p' := by
  obtain ⟨c, program, artifact, client⟩ := p
  obtain ⟨c', program', artifact', client'⟩ := p'
  obtain rfl : c = c' := Except.ok.inj (h.config.symm.trans h'.config)
  obtain rfl : program = program' := Except.ok.inj (h.program.symm.trans h'.program)
  obtain rfl : artifact = artifact' := Except.ok.inj (h.artifact.symm.trans h'.artifact)
  obtain rfl : client = client' := Except.ok.inj (h.client.symm.trans h'.client)
  rfl

theorem loading_quiet : (loading outer path w n).trace.filter Event.isCall = [] :=
  ((Config.opens_load _ path).filter_isCall w n).1

theorem reading_quiet (artifact : Value) : (reading w n artifact).trace.filter Event.isCall = [] :=
  ((Artifact.opens_load artifact).filter_isCall w n).1

theorem Plan.shown_quiet (p : Plan) : (p.shown outer path w n).filter Event.isCall = [] := by
  have hresolving := ((RouterInit.opens_resolve p.program).filter_isCall w n).1
  rw [shown, List.filter_append, List.filter_append, loading_quiet, reading_quiet]
  exact hresolving

structure Parts extends Plan where
  code : Bytes
  payload : Value
  deployer : Deployer

structure Parts.Found (p : Parts) (outer : Nat) (path : Value) (w : World) (n : Nat) : Prop
    extends p.toPlan.Ready outer path w n p.code p.payload where
  info : ∃ info, (asking w n p.client).result = .ok info
  deployer : Deployer.ofConfig (some p.client) p.config.toValue = .ok p.deployer

def Parts.creation (p : Parts) (w : World) (n : Nat) : Outcome (Option Deployment) :=
  (p.deployer.create (.bytes p.code) p.payload).run w (n + 1)

theorem submit_mem_iff_filter {waits waits' : Value} (es : List Event) :
    .submit waits waits' ∈ es ↔ .submit waits waits' ∈ es.filter Event.isCall := by
  simp [List.mem_filter, Event.isCall]

theorem exists_found_or_isHalted (outer : Nat) (path : Value) (w : World) (n : Nat) :
    (∃ p : Parts, p.Found outer path w n) ∨ ((deploy outer path).run w n).IsHalted := by
  have hproceeds := proceeds_deploy outer path w n
  generalize (deploy outer path).run w n = o at hproceeds
  cases hproceeds with
  | unloaded load =>
    refine .inr ⟨⟨_, rfl⟩, fun waits waits' => ?_⟩
    simp [submit_mem_iff_filter, loading_quiet]
  | unread loaded read =>
    refine .inr ⟨⟨_, rfl⟩, fun waits waits' => ?_⟩
    simp [submit_mem_iff_filter, loading_quiet, reading_quiet]
  | @unresolved p _ _ loaded read resolve =>
    refine .inr ⟨⟨_, rfl⟩, fun waits waits' => ?_⟩
    simp [submit_mem_iff_filter, p.shown_quiet]
  | @unanswered p _ _ _ ready ask =>
    refine .inr ⟨⟨_, rfl⟩, fun waits waits' h => ?_⟩
    rcases List.mem_append.mp h with h | h
    · rw [submit_mem_iff_filter, p.shown_quiet] at h
      cases h
    · exact p.client.submit_not_mem_reportNodeInfo w n waits waits' h
  | @answered p code payload info d ready ask deployer =>
    exact .inl ⟨⟨p, code, payload, d⟩, ready, ⟨info, ask⟩, deployer⟩

namespace Parts.Found

variable {p : Parts} (h : p.Found outer path w n)

include h

theorem loads : Artifact.Loads w.files p.artifact p.code :=
  (Artifact.result_load_iff p.artifact w n p.code).mp h.code

theorem resolves : RouterInit.Resolves p.program p.payload :=
  (RouterInit.result_resolve_iff p.program p.payload w n).mp h.payload

theorem deployer_eq : ∃ submission, p.config.toValue.field "submission" = .ok submission ∧
    p.deployer = ⟨some p.client, p.config.toValue, p.program, submission⟩ := by
  have hd := h.deployer
  simp only [Deployer.ofConfig, bind_eq_ok_iff, pure_eq_ok_iff] at hd
  obtain ⟨program, hprogram, submission, hsubmission, hd⟩ := hd
  obtain rfl : program = p.program := Except.ok.inj (hprogram.symm.trans h.program)
  exact ⟨submission, hsubmission, hd.symm⟩

theorem run_deploy : (deploy outer path).run w n =
    (p.creation w n).after (p.shown outer path w n ++ (asking w n p.client).trace) := by
  obtain ⟨info, hinfo⟩ := h.info
  have hproceeds := proceeds_deploy outer path w n
  generalize (deploy outer path).run w n = o at hproceeds
  cases hproceeds with
  | unloaded load => cases load.symm.trans h.config
  | unread loaded read =>
    cases h.unique loaded
    cases read.symm.trans h.code
  | unresolved loaded read resolve =>
    cases h.unique loaded
    cases resolve.symm.trans h.payload
  | unanswered ready ask =>
    cases h.unique ready.toLoaded
    cases ask.symm.trans hinfo
  | answered ready ask deployer =>
    cases h.unique ready.toLoaded
    cases ready.code.symm.trans h.code
    cases ready.payload.symm.trans h.payload
    cases deployer.symm.trans h.deployer
    rfl

theorem result_deploy : ((deploy outer path).run w n).result = (p.creation w n).result := by
  rw [h.run_deploy, Outcome.result_after]

theorem calls_deploy : ((deploy outer path).run w n).trace.filter Event.isCall =
    p.client.infoSession ++ (p.creation w n).trace.filter Event.isCall := by
  obtain ⟨info, hinfo⟩ := h.info
  rw [h.run_deploy, Outcome.trace_after, List.filter_append, List.filter_append, p.shown_quiet, List.nil_append,
    asking, (Client.calls_of_reportNodeInfo hinfo).1]

theorem submit_mem_deploy_iff (waits waits' : Value) :
    .submit waits waits' ∈ ((deploy outer path).run w n).trace ↔
      .submit waits waits' ∈ (p.creation w n).trace := by
  rw [submit_mem_iff_filter, h.calls_deploy, submit_mem_iff_filter (p.creation w n).trace]
  simp [Client.infoSession, Client.infoMethods]

end Parts.Found

theorem exists_found_of_result {x : Option Deployment} (h : ((deploy outer path).run w n).result = .ok x) :
    ∃ p : Parts, p.Found outer path w n ∧ (p.creation w n).result = .ok x := by
  rcases exists_found_or_isHalted outer path w n with ⟨p, hp⟩ | ⟨⟨f, hf⟩, -⟩
  · rw [hp.result_deploy] at h
    exact ⟨p, hp, h⟩
  · rw [hf] at h
    cases h

theorem exists_found_of_submit {waits waits' : Value}
    (h : .submit waits waits' ∈ ((deploy outer path).run w n).trace) :
    ∃ p : Parts, p.Found outer path w n ∧ .submit waits waits' ∈ (p.creation w n).trace := by
  rcases exists_found_or_isHalted outer path w n with ⟨p, hp⟩ | ⟨-, hnone⟩
  · exact ⟨p, hp, (hp.submit_mem_deploy_iff waits waits').mp h⟩
  · exact absurd h (hnone waits waits')

theorem exists_calls_of_submit {waits waits' : Value}
    (h : .submit waits waits' ∈ ((deploy outer path).run w n).trace) :
    ∃ (p : Parts) (q : Program) (t : Terms) (fields : List ReceiptField), p.Found outer path w n ∧
      p.deployer.Builds (.bytes p.code) p.payload w.entropy q ∧ t.Of p.deployer ∧ t.client = p.client ∧
      fields <+: Deployer.receiptFields ∧
      ((deploy outer path).run w n).trace.filter Event.isCall = p.client.infoSession ++
        (t.calls p.code (Program.drawSalt w.entropy) q.initPayload ++ fields.map .read ++ [.close]) := by
  obtain ⟨p, hp, hcreation⟩ := exists_found_of_submit h
  obtain ⟨q, t, fields, hq, ht, hfields, hcalls⟩ := Deployer.calls_create_of_submit hcreation
  have hcode : p.code = q.code := Except.ok.inj hq.code
  have hclient : t.client = p.client := by
    obtain ⟨submission, -, hd⟩ := hp.deployer_eq
    have hsome := ht.client
    rw [hd] at hsome
    exact (Option.some.inj hsome).symm
  refine ⟨p, q, t, fields, hp, hq, ht, hclient, hfields, ?_⟩
  rw [hp.calls_deploy, Parts.creation, hcalls, hcode]

end Run

end ProgramDeploy
