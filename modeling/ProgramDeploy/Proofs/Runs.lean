import ProgramDeploy.Action

namespace ProgramDeploy

theorem bind_eq_ok_iff {α β ε : Type} {x : Except ε α} {next : α → Except ε β} {z : β} :
    x >>= next = .ok z ↔ ∃ y, x = .ok y ∧ next y = .ok z := by
  cases x with
  | error e => simp [bind, Except.bind]
  | ok y => simp [bind, Except.bind]

theorem pure_eq_ok_iff {α ε : Type} {x y : α} : (pure x : Except ε α) = .ok y ↔ x = y := by
  simp [pure, Except.pure]

theorem map_eq_ok_iff {α β ε : Type} {x : Except ε α} {f : α → β} {z : β} :
    x.map f = .ok z ↔ ∃ y, x = .ok y ∧ f y = z := by
  cases x <;> simp [Except.map]

@[simp] theorem mapError_ok {α ε δ : Type} (f : ε → δ) (x : α) :
    (Except.ok x : Except ε α).mapError f = .ok x := rfl

@[simp] theorem mapError_error {α ε δ : Type} (f : ε → δ) (e : ε) :
    (Except.error e : Except ε α).mapError f = .error (f e) := rfl

theorem mapError_eq_ok_iff {α ε δ : Type} {x : Except ε α} {f : ε → δ} {z : α} :
    x.mapError f = .ok z ↔ x = .ok z := by
  cases x <;> simp

theorem mapError_eq_error_iff {α ε δ : Type} {x : Except ε α} {f : ε → δ} {d : δ} :
    x.mapError f = .error d ↔ ∃ e, x = .error e ∧ f e = d := by
  cases x <;> simp

namespace Outcome

variable {α β : Type}

def after (shown : List Event) (o : Outcome α) : Outcome α :=
  ⟨o.result, shown ++ o.trace, o.opened⟩

@[simp] theorem result_after (shown : List Event) (o : Outcome α) :
    (o.after shown).result = o.result := rfl

@[simp] theorem trace_after (shown : List Event) (o : Outcome α) :
    (o.after shown).trace = shown ++ o.trace := rfl

@[simp] theorem opened_after (shown : List Event) (o : Outcome α) :
    (o.after shown).opened = o.opened := rfl

@[simp] theorem after_nil (o : Outcome α) : o.after [] = o := rfl

@[simp] theorem after_mk (shown : List Event) (x : Except Fault α) (t : List Event) (n : Nat) :
    after shown ⟨x, t, n⟩ = ⟨x, shown ++ t, n⟩ := rfl

@[simp] theorem after_after (s t : List Event) (o : Outcome α) :
    (o.after t).after s = o.after (s ++ t) := by
  simp [after]

def settle (n : Nat) (x : Except Fault α) (next : α → Outcome β) : Outcome β :=
  match x with
  | .ok y => next y
  | .error f => ⟨.error f, [], n⟩

@[simp] theorem settle_ok (n : Nat) (y : α) (next : α → Outcome β) :
    settle n (.ok y) next = next y := rfl

@[simp] theorem settle_error (n : Nat) (f : Fault) (next : α → Outcome β) :
    settle n (.error f) next = ⟨.error f, [], n⟩ := rfl

@[simp] theorem settle_pure (n : Nat) (y : α) (next : α → Outcome β) :
    settle n (pure y) next = next y := rfl

@[simp] theorem settle_throw (n : Nat) (f : Fault) (next : α → Outcome β) :
    settle n (throw f) next = ⟨.error f, [], n⟩ := rfl

@[simp] theorem settle_bind {γ : Type} (n : Nat) (x : Except Fault α) (g : α → Except Fault γ)
    (next : γ → Outcome β) : settle n (x >>= g) next = settle n x fun y => settle n (g y) next := by
  cases x <;> rfl

theorem settle_ite (n : Nat) (c : Prop) [Decidable c] (x y : Except Fault α)
    (next : α → Outcome β) :
    settle n (if c then x else y) next = if c then settle n x next else settle n y next := by
  split <;> rfl

end Outcome

namespace Action

variable {α β : Type}

section Running

variable (w : World) (n : Nat)

@[simp] theorem run_liftM (x : Except Fault α) : (liftM x : Action α).run w n = ⟨x, [], n⟩ := rfl

@[simp] theorem run_log (level : Level) (message : String) :
    (log level message).run w n = ⟨.ok (), [.log level message], n⟩ := rfl

@[simp] theorem run_callUnit (e : Event) (failure : Option Fault) :
    (callUnit e failure).run w n = ⟨failure.elim (.ok ()) .error, [e], n⟩ := by
  cases failure <;> rfl

theorem run_ite (c : Prop) [Decidable c] (a b : Action α) :
    (if c then a else b).run w n = if c then a.run w n else b.run w n := by
  split <;> rfl

theorem run_bind (a : Action α) (next : α → Action β) :
    (a >>= next).run w n =
      match (a.run w n).result with
      | .ok x => ((next x).run w (a.run w n).opened).after (a.run w n).trace
      | .error f => ⟨.error f, (a.run w n).trace, (a.run w n).opened⟩ := by
  cases h : (a.run w n).result with
  | ok x => exact run_bind_ok w n (t := (a.run w n).trace) (m := (a.run w n).opened) (by rw [← h]) next
  | error f => exact run_bind_error w n (by rw [← h]) next

theorem run_bind_liftM (x : Except Fault α) (next : α → Action β) :
    (liftM x >>= next).run w n = .settle n x fun y => (next y).run w n := by
  rw [run_bind]
  cases x <;> rfl

theorem run_bind_log (level : Level) (message : String) (next : Unit → Action β) :
    (log level message >>= next).run w n = ((next ()).run w n).after [.log level message] := by
  rw [run_bind]
  rfl

theorem run_bind_of_ok {a : Action α} {x : α} (h : (a.run w n).result = .ok x)
    (next : α → Action β) :
    (a >>= next).run w n = ((next x).run w (a.run w n).opened).after (a.run w n).trace := by
  rw [run_bind, h]

theorem run_bind_of_run {a : Action α} {x : α} {t : List Event} {m : Nat}
    (h : a.run w n = ⟨.ok x, t, m⟩) (next : α → Action β) :
    (a >>= next).run w n = ((next x).run w m).after t := by
  rw [run_bind, h]

theorem run_bind_of_error {a : Action α} {f : Fault} (h : (a.run w n).result = .error f)
    (next : α → Action β) :
    (a >>= next).run w n = ⟨.error f, (a.run w n).trace, (a.run w n).opened⟩ := by
  rw [run_bind, h]

theorem result_bind_eq_ok_iff (a : Action α) (next : α → Action β) {y : β} :
    ((a >>= next).run w n).result = .ok y ↔
      ∃ x, (a.run w n).result = .ok x ∧
        ((next x).run w (a.run w n).opened).result = .ok y := by
  rw [run_bind]
  cases (a.run w n).result <;> simp

theorem result_bind_eq_error_iff (a : Action α) (next : α → Action β) {f : Fault} :
    ((a >>= next).run w n).result = .error f ↔
      (a.run w n).result = .error f ∨
        ∃ x, (a.run w n).result = .ok x ∧ ((next x).run w (a.run w n).opened).result = .error f := by
  rw [run_bind]
  cases (a.run w n).result <;> simp

theorem run_map (g : α → β) (a : Action α) :
    (g <$> a).run w n = ⟨(a.run w n).result.map g, (a.run w n).trace, (a.run w n).opened⟩ := by
  show (a >>= pure ∘ g).run w n = _
  rw [run_bind]
  cases (a.run w n).result <;> simp [Except.map, Outcome.after]

theorem run_inWorker (a : Action α) :
    a.inWorker.run w n =
      ⟨(a.run w n).result.mapError Fault.fromWorker, (a.run w n).trace, (a.run w n).opened⟩ := by
  simp [inWorker, run_continueWith]

theorem run_ensuring (a : Action α) (e : Event) (failure : Option Fault) :
    (a.ensuring (callUnit e failure)).run w n =
      ⟨failure.elim (a.run w n).result .error, (a.run w n).trace ++ [e], (a.run w n).opened⟩ := by
  cases failure <;> simp [ensuring, run_continueWith]

theorem run_handling (a : Action α) (handler : Fault → Action α) :
    (a.handling handler).run w n =
      match (a.run w n).result with
      | .ok x => ⟨.ok x, (a.run w n).trace, (a.run w n).opened⟩
      | .error f =>
        if f.isInterrupt then ⟨.error f, (a.run w n).trace, (a.run w n).opened⟩
        else ((handler f).run w (a.run w n).opened).after (a.run w n).trace := by
  rw [handling, run_continueWith]
  cases (a.run w n).result with
  | ok x => simp
  | error f => cases h : f.isInterrupt <;> simp [h, Outcome.after]

theorem trace_prefix_handling (a : Action α) (handler : Fault → Action α) :
    (a.run w n).trace <+: ((a.handling handler).run w n).trace := by
  rw [run_handling]
  split
  · exact List.prefix_rfl
  · split
    · exact List.prefix_rfl
    · exact ⟨_, rfl⟩

theorem reached_of_mem_trace {a : Action α} {next : α → Action β} {e : Event}
    (ha : e ∉ (a.run w n).trace) (he : e ∈ ((a >>= next).run w n).trace) :
    ∃ x, (a.run w n).result = .ok x ∧ e ∈ ((next x).run w (a.run w n).opened).trace ∧
      (a >>= next).run w n = ((next x).run w (a.run w n).opened).after (a.run w n).trace := by
  cases h : (a.run w n).result with
  | ok x =>
    have hrun := run_bind_of_ok w n h next
    rw [hrun, Outcome.trace_after, List.mem_append] at he
    exact ⟨x, rfl, he.resolve_left ha, hrun⟩
  | error f =>
    rw [run_bind_of_error w n h next] at he
    exact absurd he ha

theorem trace_prefix_bind (a : Action α) (next : α → Action β) :
    (a.run w n).trace <+: ((a >>= next).run w n).trace := by
  rw [run_bind]
  split
  · exact ⟨_, rfl⟩
  · exact List.prefix_rfl

theorem mem_trace_bind_of_mem {a : Action α} {next : α → Action β} {e : Event}
    (he : e ∈ (a.run w n).trace) : e ∈ ((a >>= next).run w n).trace :=
  (trace_prefix_bind w n a next).mem he

theorem mem_trace_bind_of_ok {a : Action α} {next : α → Action β} {x : α} {e : Event}
    (hx : (a.run w n).result = .ok x) (he : e ∈ ((next x).run w (a.run w n).opened).trace) :
    e ∈ ((a >>= next).run w n).trace := by
  rw [run_bind_of_ok w n hx]
  exact List.mem_append_right _ he

end Running

structure Meets (w : World) (P : Event → Prop) (Q : α → Prop) (a : Action α) : Prop where
  shows : ∀ n, ∀ e ∈ (a.run w n).trace, P e
  returns : ∀ n x, (a.run w n).result = .ok x → Q x

section Meeting

variable {w : World} {P : Event → Prop} {Q : α → Prop} {Q' : β → Prop}

theorem meets_pure {x : α} (hx : Q x) : Meets w P Q (pure x) :=
  ⟨by simp, fun _ y h => by cases h; exact hx⟩

theorem meets_throw (f : Fault) : Meets w P Q (throw f) :=
  ⟨by simp, fun _ _ h => (nomatch h)⟩

theorem meets_log {level : Level} {message : String} (h : P (.log level message)) :
    Meets w P (fun _ => True) (log level message) :=
  ⟨by simpa using h, fun _ _ _ => trivial⟩

theorem Meets.bind {a : Action α} {next : α → Action β} (ha : Meets w P Q a)
    (hnext : ∀ x, Q x → Meets w P Q' (next x)) : Meets w P Q' (a >>= next) := by
  constructor
  · intro n e he
    cases h : (a.run w n).result with
    | ok x =>
      rw [run_bind_of_ok w n h, Outcome.trace_after, List.mem_append] at he
      exact he.elim (ha.shows n e) ((hnext x (ha.returns n x h)).shows _ e)
    | error f =>
      rw [run_bind_of_error w n h] at he
      exact ha.shows n e he
  · intro n y hy
    cases h : (a.run w n).result with
    | ok x =>
      rw [run_bind_of_ok w n h] at hy
      exact (hnext x (ha.returns n x h)).returns _ y hy
    | error f =>
      rw [run_bind_of_error w n h] at hy
      cases hy

theorem Meets.mono {P' : Event → Prop} {Q'' : α → Prop} {a : Action α} (ha : Meets w P Q a)
    (hP : ∀ e, P e → P' e) (hQ : ∀ x, Q x → Q'' x) : Meets w P' Q'' a :=
  ⟨fun n e he => hP e (ha.shows n e he), fun n x hx => hQ x (ha.returns n x hx)⟩

theorem meets_liftM {x : Except Fault α} : Meets w P (x = .ok ·) (liftM x) :=
  ⟨by simp, fun _ _ h => h⟩

theorem Meets.liftM_bind {x : Except Fault α} {next : α → Action β}
    (hnext : ∀ y, x = .ok y → Meets w P Q' (next y)) : Meets w P Q' (liftM x >>= next) :=
  meets_liftM.bind hnext

theorem Meets.log_bind {level : Level} {message : String} {next : Unit → Action β}
    (h : P (.log level message)) (hnext : Meets w P Q' (next ())) :
    Meets w P Q' (log level message >>= next) :=
  (meets_log h).bind fun _ _ => hnext

theorem Meets.call_bind {e : Event} {x : Except Fault α} {next : α → Action β} (he : P e)
    (hnext : ∀ y, x = .ok y → Meets w P Q' (next y)) : Meets w P Q' (call e x >>= next) := by
  have hx : Meets w P (x = .ok ·) (call e x) := ⟨by simpa using he, fun _ _ h => h⟩
  exact hx.bind hnext

theorem Meets.callUnit_bind {e : Event} {failure : Option Fault} {next : Unit → Action β} (he : P e)
    (hnext : Meets w P Q' (next ())) : Meets w P Q' (callUnit e failure >>= next) :=
  Meets.call_bind he fun _ _ => hnext

theorem Meets.inWorker {a : Action α} (ha : Meets w P Q a) : Meets w P Q a.inWorker := by
  refine ⟨fun n e he => ha.shows n e (by simpa [run_inWorker] using he), fun n x hx => ha.returns n x ?_⟩
  rw [run_inWorker] at hx
  exact mapError_eq_ok_iff.mp hx

theorem Meets.handling {a : Action α} {handler : Fault → Action α} (ha : Meets w P Q a)
    (hhandler : ∀ f, Meets w P Q (handler f)) : Meets w P Q (a.handling handler) := by
  constructor
  · intro n e he
    rw [run_handling] at he
    split at he
    · exact ha.shows n e he
    · split at he
      · exact ha.shows n e he
      · exact (List.mem_append.mp he).elim (ha.shows n e) ((hhandler _).shows _ e)
  · intro n x hx
    rw [run_handling] at hx
    split at hx
    · rename_i y hy
      exact ha.returns n x (hy.trans hx)
    · split at hx
      · cases hx
      · exact (hhandler _).returns _ x hx

theorem meets_forM (xs : List α) {f : α → Action PUnit} (hf : ∀ x, Meets w P (fun _ => True) (f x)) :
    Meets w P (fun _ => True) (xs.forM f) := by
  induction xs with
  | nil => exact meets_pure trivial
  | cons x xs ih => exact (hf x).bind fun _ _ => ih

end Meeting

end Action

end ProgramDeploy
