import ProgramDeploy.Environment
import ProgramDeploy.Event
import ProgramDeploy.Files
import ProgramDeploy.Network

namespace ProgramDeploy

structure World where
  files : Files
  environment : Environment
  entropy : Entropy
  network : Network

/-- What a run gives: its result, what it showed and how many sessions have been opened after it. -/
structure Outcome (α : Type) where
  result : Except Fault α
  trace : List Event
  opened : Nat

def Action (α : Type) : Type :=
  World → Nat → Outcome α

namespace Action

def run {α : Type} (a : Action α) (w : World) (n : Nat) : Outcome α :=
  a w n

def lift {α : Type} (x : Except Fault α) : Action α :=
  fun _ n => ⟨x, [], n⟩

def continueWith {α β : Type} (a : Action α) (next : Except Fault α → Action β) : Action β :=
  fun w n =>
    let first := a.run w n
    let second := (next first.result).run w first.opened
    ⟨second.result, first.trace ++ second.trace, second.opened⟩

instance : Monad Action where
  pure x := lift (.ok x)
  bind a next := a.continueWith fun
    | .ok x => next x
    | .error f => lift (.error f)

instance : MonadExceptOf Fault Action where
  throw f := lift (.error f)
  tryCatch a handler := a.continueWith fun
    | .ok x => lift (.ok x)
    | .error f => handler f

instance : MonadLift (Except Fault) Action := ⟨lift⟩

def world : Action World :=
  fun w n => ⟨.ok w, [], n⟩

def emit (e : Event) : Action Unit :=
  fun _ n => ⟨.ok (), [e], n⟩

def log (level : Level) (message : String) : Action Unit :=
  emit (.log level message)

def nextSession : Action Script :=
  fun w n => ⟨.ok (w.network.session n), [], n + 1⟩

def ensuring {α : Type} (a : Action α) (closing : Action Unit) : Action α :=
  a.continueWith fun x => closing.continueWith fun
    | .ok () => lift x
    | .error f => lift (.error f)

def handling {α : Type} (a : Action α) (handler : Fault → Action α) : Action α :=
  a.continueWith fun
    | .ok x => lift (.ok x)
    | .error f => if f.isInterrupt then lift (.error f) else handler f

def inWorker {α : Type} (a : Action α) : Action α :=
  a.continueWith fun x => lift (x.mapError Fault.fromWorker)

def call {α : Type} (e : Event) (answer : Except Fault α) : Action α :=
  (emit e).continueWith fun _ => lift answer

def callUnit (e : Event) (failure : Option Fault) : Action Unit :=
  call e (match failure with
    | some f => .error f
    | none => .ok ())

section Running

variable {α β : Type} (w : World) (n : Nat)

@[simp] theorem run_lift (x : Except Fault α) : (lift x).run w n = ⟨x, [], n⟩ := rfl

@[simp] theorem run_pure (x : α) : (pure x : Action α).run w n = ⟨.ok x, [], n⟩ := rfl

@[simp] theorem run_throw (f : Fault) : (throw f : Action α).run w n = ⟨.error f, [], n⟩ := rfl

@[simp] theorem run_emit (e : Event) : (emit e).run w n = ⟨.ok (), [e], n⟩ := rfl

@[simp] theorem run_world : world.run w n = ⟨.ok w, [], n⟩ := rfl

@[simp] theorem run_nextSession :
    nextSession.run w n = ⟨.ok (w.network.session n), [], n + 1⟩ := rfl

@[simp] theorem run_call (e : Event) (x : Except Fault α) : (call e x).run w n = ⟨x, [e], n⟩ := rfl

theorem run_continueWith (a : Action α) (next : Except Fault α → Action β) :
    (a.continueWith next).run w n =
      ⟨((next (a.run w n).result).run w (a.run w n).opened).result,
        (a.run w n).trace ++ ((next (a.run w n).result).run w (a.run w n).opened).trace,
        ((next (a.run w n).result).run w (a.run w n).opened).opened⟩ := rfl

theorem run_bind_ok {a : Action α} {x : α} {t : List Event} {m : Nat}
    (h : a.run w n = ⟨.ok x, t, m⟩) (next : α → Action β) :
    (a >>= next).run w n =
      ⟨((next x).run w m).result, t ++ ((next x).run w m).trace, ((next x).run w m).opened⟩ := by
  show (a.continueWith _).run w n = _
  rw [run_continueWith, h]

theorem run_bind_error {a : Action α} {f : Fault} {t : List Event} {m : Nat}
    (h : a.run w n = ⟨.error f, t, m⟩) (next : α → Action β) :
    (a >>= next).run w n = ⟨.error f, t, m⟩ := by
  show (a.continueWith _).run w n = _
  rw [run_continueWith, h]
  simp

end Running

end Action

end ProgramDeploy
