import ProgramDeploy.Proofs.SessionGrammar

namespace ProgramDeploy

variable {α β : Type}

/-- How far planned calls come in a session, and what is the result then. -/
inductive Goes (s : Script) (plan : List Call) : List Call → Except Fault α → Prop where
  | through (x : α) (answered : ∀ c ∈ plan, s.failure? c = none) : Goes s plan plan (.ok x)
  | stopped {made : List Call} {f : Fault} (planned : made <+: plan)
      (answered : ∀ c ∈ made, s.failure? c = none) (ordinary : f.isOrdinary = true) :
      Goes s plan made (.error f)
  | failed (made : List Call) {c : Call} {f : Fault} (planned : made ++ [c] <+: plan)
      (answered : ∀ c ∈ made, s.failure? c = none) (failure : s.failure? c = some f) :
      Goes s plan (made ++ [c]) (.error f)

namespace Goes

variable {s : Script} {plan : List Call} {made : List Call} {x : Except Fault α}

theorem planned (h : Goes s plan made x) : made <+: plan := by
  cases h with
  | through y answered => exact List.prefix_rfl
  | stopped planned answered ordinary => exact planned
  | failed made planned answered failure => exact planned

theorem answered (h : Goes s plan made x) : ∀ c ∈ made.dropLast, s.failure? c = none := by
  cases h with
  | through y answered => exact fun c hc => answered c (List.dropLast_subset _ hc)
  | stopped planned answered ordinary => exact fun c hc => answered c (List.dropLast_subset _ hc)
  | failed made planned answered failure => simpa using answered

theorem isInterrupt_iff (h : Goes s plan made x) :
    (∃ f, x = .error f ∧ f.isInterrupt = true) ↔
      ∃ c ∈ made, ∃ f, s.failure? c = some f ∧ f.isInterrupt = true := by
  cases h with
  | through y answered => simp_all
  | stopped planned answered ordinary => simp_all [Fault.isInterrupt_of_isOrdinary ordinary]
  | failed made planned answered failure => simp_all [or_and_right, exists_or]

end Goes

namespace Action

def Performs (s : Script) (plan : List Call) (a : Action α) : Prop :=
  ∀ w n, (a.run w n).opened = n ∧ ∃ made, Goes s plan made (a.run w n).result ∧
    ((a.run w n).trace.filter Event.isCall).map Event.call? = made.map some

variable {s : Script} {plan : List Call}

theorem performs_pure (x : α) : Performs s [] (pure x) :=
  fun _ _ => ⟨rfl, [], .through x (by simp), rfl⟩

theorem performs_liftM {x : Except Fault α} (h : Ordinarily x) : Performs s [] (liftM x) := by
  refine fun w n => ⟨rfl, [], ?_, rfl⟩
  cases x with
  | ok y => exact .through y (by simp)
  | error f => exact .stopped List.prefix_rfl (by simp) (h f rfl)

theorem performs_log (level : Level) (message : String) : Performs s [] (log level message) :=
  fun _ _ => ⟨rfl, [], .through () (by simp), rfl⟩

theorem performs_call {e : Event} {c : Call} {answer : Answer} (he : e.call? = some c)
    (hs : s.failure? c = failureIn answer) : Performs s [c] (call e answer) := by
  have hcall : e.isCall = true := by cases e <;> simp_all [Event.call?, Event.isCall]
  refine fun w n => ⟨rfl, [c], ?_, by simp [hcall, he]⟩
  cases answer with
  | ok x =>
    have hnone : s.failure? c = none := hs
    exact .through x (by simpa using hnone)
  | error f => exact .failed [] List.prefix_rfl (by simp) hs

theorem performs_callUnit {e : Event} {c : Call} {failure : Option Fault} (he : e.call? = some c)
    (hs : s.failure? c = failure) : Performs s [c] (callUnit e failure) := by
  have hcall : e.isCall = true := by cases e <;> simp_all [Event.call?, Event.isCall]
  refine fun w n => ⟨by simp, [c], ?_, by simp [hcall, he]⟩
  rw [run_callUnit]
  cases failure with
  | none => exact .through () (by simpa using hs)
  | some f => exact .failed [] List.prefix_rfl (by simp) hs

theorem Performs.bind {a : Action α} {next : α → Action β} {rest : List Call}
    (ha : Performs s plan a) (hnext : ∀ x, Performs s rest (next x)) :
    Performs s (plan ++ rest) (a >>= next) := by
  intro w n
  obtain ⟨hopened, made, hgoes, hmade⟩ := ha w n
  have hlonger {l : List Call} (h : l <+: plan) : l <+: plan ++ rest :=
    h.trans (List.prefix_append plan rest)
  cases hr : (a.run w n).result with
  | ok x =>
    obtain ⟨hopened', made', hgoes', hmade'⟩ := hnext x w (a.run w n).opened
    rw [run_bind_of_ok w n hr]
    rw [hr] at hgoes
    cases hgoes with
    | through _ answered =>
      refine ⟨hopened'.trans hopened, plan ++ made', ?_, by simp [hmade, hmade']⟩
      simp only [Outcome.result_after]
      -- The plan of the first part was gone through, and the second part ends it as it ends its own.
      generalize ((next x).run w (a.run w n).opened).result = y at hgoes'
      cases hgoes' with
      | through y answered' => exact .through y (by simpa [or_imp, forall_and] using ⟨answered, answered'⟩)
      | stopped planned answered' ordinary =>
        exact .stopped (by simpa using planned)
          (by simpa [or_imp, forall_and] using ⟨answered, answered'⟩) ordinary
      | failed made planned answered' failure =>
        rw [← List.append_assoc]
        exact .failed _ (by simpa using planned)
          (by simpa [or_imp, forall_and] using ⟨answered, answered'⟩) failure
  | error f =>
    rw [run_bind_of_error w n hr]
    rw [hr] at hgoes
    refine ⟨hopened, made, ?_, hmade⟩
    cases hgoes with
    | stopped planned answered ordinary => exact .stopped (hlonger planned) answered ordinary
    | failed made planned answered failure => exact .failed made (hlonger planned) answered failure

theorem Performs.behind {a : Action α} {next : α → Action β} (ha : Performs s [] a)
    (hnext : ∀ x, Performs s plan (next x)) : Performs s plan (a >>= next) :=
  ha.bind hnext

theorem Performs.isOrdinary {a : Action α} (ha : Performs s [] a) {w : World} {n : Nat} {f : Fault}
    (h : (a.run w n).result = .error f) : f.isOrdinary = true := by
  obtain ⟨-, made, hgoes, -⟩ := ha w n
  rw [h] at hgoes
  cases hgoes with
  | stopped planned answered ordinary => exact ordinary
  | failed made planned answered failure => simp at planned

theorem performs_forM (xs : List α) {f : α → Action PUnit} (hf : ∀ x, Performs s [] (f x)) :
    Performs s [] (xs.forM f) := by
  induction xs with
  | nil => exact performs_pure _
  | cons x xs ih => exact (hf x).behind fun _ => ih

def Serves (s : Script) (p : Purpose) (a : Action α) : Prop :=
  ∀ w n, (a.run w n).opened = n ∧ ∃ made, p.Plans s made ∧
    (∀ c ∈ made.dropLast, s.failure? c = none) ∧
    ((a.run w n).trace.filter Event.isCall).map Event.call? = made.map some

theorem Performs.serves {a : Action α} {p : Purpose} (h : Performs s plan a)
    (hp : ∀ made, made <+: plan → p.Plans s made) : Serves s p a := by
  intro w n
  obtain ⟨hopened, made, hgoes, hmade⟩ := h w n
  exact ⟨hopened, made, hp made hgoes.planned, hgoes.answered, hmade⟩

end Action

namespace Client

theorem run_connect (c : Client) (w : World) (n : Nat) :
    c.connect.run w n = .settle n c.providerAddress.shown fun provider =>
      ⟨(w.network.session n).connect.elim (.ok (w.network.session n)) .error,
        [.log .debug ("Connecting to " ++ provider), .connect c.providerAddress c.format], n + 1⟩ := by
  rw [connect, Action.run_bind_liftM]
  congr 1
  funext provider
  cases h : (w.network.session n).connect <;> simp [Action.run_bind, h]

theorem run_withSession (c : Client) (body : Script → Action α) (w : World) (n : Nat) :
    (c.withSession body).run w n = .settle n c.providerAddress.shown fun provider =>
      match (w.network.session n).connect with
      | some f =>
        ⟨.error f, [.log .debug ("Connecting to " ++ provider),
          .connect c.providerAddress c.format], n + 1⟩
      | none =>
        let o := (body (w.network.session n)).run w (n + 1)
        ⟨(w.network.session n).close.elim o.result .error,
          .log .debug ("Connecting to " ++ provider) :: .connect c.providerAddress c.format ::
            o.trace ++ [.close], o.opened⟩ := by
  rw [withSession, Action.run_bind, run_connect]
  cases c.providerAddress.shown with
  | error f => rfl
  | ok provider =>
    cases (w.network.session n).connect <;> simp [Action.run_ensuring]

theorem run_withSession_of_ok {c : Client} {body : Script → Action α} {w : World} {n : Nat} {x : α}
    (h : ((c.withSession body).run w n).result = .ok x) :
    let o := (body (w.network.session n)).run w (n + 1)
    (w.network.session n).connect = none ∧ (w.network.session n).close = none ∧ o.result = .ok x ∧
      ∃ provider, (c.withSession body).run w n =
        ⟨.ok x, .log .debug ("Connecting to " ++ provider) :: .connect c.providerAddress c.format ::
          o.trace ++ [.close], o.opened⟩ := by
  rw [run_withSession] at h ⊢
  cases hprovider : c.providerAddress.shown with
  | error f => simp [hprovider] at h
  | ok provider =>
    cases hconnect : (w.network.session n).connect with
    | some f => simp [hprovider, hconnect] at h
    | none =>
      cases hclose : (w.network.session n).close with
      | some f => simp [hprovider, hconnect, hclose] at h
      | none =>
        simp only [hprovider, hconnect, hclose, Outcome.settle_ok, Option.elim_none] at h
        refine ⟨rfl, rfl, h, provider, ?_⟩
        simp only [Outcome.settle_ok, Option.elim_none, h]

def opening (c : Client) (provider : String) : List Event :=
  [.log .debug ("Connecting to " ++ provider), .connect c.providerAddress c.format]

theorem opening_prefix_withSession (c : Client) (body : Script → Action α) (w : World) (n : Nat)
    {provider : String} (h : c.providerAddress.shown = .ok provider) :
    c.opening provider <+: ((c.withSession body).run w n).trace := by
  rw [run_withSession, h, Outcome.settle_ok]
  cases (w.network.session n).connect with
  | some f => exact List.prefix_rfl
  | none => exact ⟨_, rfl⟩

theorem meets_withSession (c : Client) {w : World} {P : Event → Prop} {Q : α → Prop}
    {body : Script → Action α} (hconnecting : ∀ provider, P (.log .debug ("Connecting to " ++ provider)))
    (hconnect : P (.connect c.providerAddress c.format)) (hclose : P .close)
    (hbody : ∀ s, Action.Meets w P Q (body s)) : Action.Meets w P Q (c.withSession body) := by
  constructor
  · intro n e he
    rw [run_withSession] at he
    cases hprovider : c.providerAddress.shown with
    | error f => simp [hprovider] at he
    | ok provider =>
      cases hc : (w.network.session n).connect with
      | some f =>
        simp only [hprovider, hc, Outcome.settle_ok, List.mem_cons, List.not_mem_nil, or_false] at he
        rcases he with rfl | rfl
        · exact hconnecting provider
        · exact hconnect
      | none =>
        simp only [hprovider, hc, Outcome.settle_ok, List.cons_append, List.mem_cons, List.mem_append,
          List.not_mem_nil, or_false] at he
        rcases he with rfl | rfl | he | rfl
        · exact hconnecting provider
        · exact hconnect
        · exact (hbody _).shows _ e he
        · exact hclose
  · intro n x hx
    rw [run_withSession] at hx
    cases hprovider : c.providerAddress.shown with
    | error f => simp [hprovider] at hx
    | ok provider =>
      cases hc : (w.network.session n).connect with
      | some f => simp [hprovider, hc] at hx
      | none =>
        cases hclosing : (w.network.session n).close with
        | some f => simp [hprovider, hc, hclosing] at hx
        | none =>
          simp only [hprovider, hc, hclosing, Outcome.settle_ok, Option.elim_none] at hx
          exact (hbody _).returns _ x hx

theorem opens_withSession (c : Client) {p : Purpose} {body : Script → Action α}
    (h : ∀ s, Action.Serves s p (body s)) : (c.withSession body).Opens [p] := by
  intro w n
  rw [run_withSession]
  cases c.providerAddress.shown with
  | error f => exact .empty [p] n
  | ok provider =>
    cases hc : (w.network.session n).connect with
    | some f => exact .block (.refused _ _ f hc) (.done _)
    | none =>
      obtain ⟨hopened, made, hplanned, hanswered, hmade⟩ := h (w.network.session n) w (n + 1)
      have hblock := IsBlock.closed c.providerAddress c.format made _ hc hplanned hanswered hmade
      have hsession := Sessions.block hblock (.done (n + 1))
      simpa [hopened] using hsession

theorem performs_requestResult (s : Script) (method : String) :
    Action.Performs s [.request method] (requestResult s method) := by
  apply (Action.performs_call rfl rfl).bind
  exact fun response => Action.performs_liftM (by simp)

theorem performs_queryNodeInfo (s : Script) : Action.Performs s infoCalls (queryNodeInfo s) := by
  apply (performs_requestResult s _).bind
  intro chain
  apply (performs_requestResult s _).bind
  intro name
  apply (performs_requestResult s _).bind
  exact fun version => Action.performs_pure _

end Client

end ProgramDeploy
