import ProgramDeploy.Proofs.OrdinaryFaults
import ProgramDeploy.Proofs.Runs

/-!
The grammar of sessions. Calls on a node come in blocks, one for each session: a session that is
refused is a block alone, and any other is closed once, at its end, whatever has failed in it.
-/

namespace ProgramDeploy

inductive Call where
  | request (method : String)
  | query
  | compose
  | sign
  | submit
  | read (field : ReceiptField)

@[simp] theorem Event.isCall_log (level : Level) (message : String) :
    (log level message).isCall = false := rfl

@[simp] theorem Event.isCall_connect (url format : Value) : (connect url format).isCall = true := by
  simp [isCall]

@[simp] theorem Event.isCall_close : close.isCall = true := by
  simp [isCall]

def Event.call? : Event → Option Call
  | request method => some (.request method)
  | query _ => some .query
  | compose _ => some .compose
  | sign _ => some .sign
  | submit .. => some .submit
  | read field => some (.read field)
  | log .. | connect .. | close => none

def failureIn : Answer → Option Fault
  | .ok _ => none
  | .error f => some f

def Script.failure? (s : Script) : Call → Option Fault
  | .request method => failureIn (s.request method)
  | .query => failureIn s.accountInfo
  | .compose => s.compose
  | .sign => s.sign
  | .submit => s.submit
  | .read .isSuccess => failureIn s.receipt.isSuccess
  | .read .errorMessage => failureIn s.receipt.errorMessage
  | .read .triggeredEvents => failureIn s.receipt.triggeredEvents

inductive Script.Raises (s : Script) : Fault → Prop where
  | connect {f : Fault} (failure : s.connect = some f) : Raises s f
  | call {c : Call} {f : Fault} (failure : s.failure? c = some f) : Raises s f
  | close {f : Fault} (failure : s.close = some f) : Raises s f

def Script.IsCalm (s : Script) : Prop :=
  ∀ f, s.Raises f → f.isInterrupt = false

inductive Purpose where
  | info
  | balance
  | upload

def Receipt.reads (r : Receipt) : List Call :=
  if Deployer.isNull r.blockHash then []
  else [.read .isSuccess, .read .errorMessage, .read .triggeredEvents]

def infoCalls : List Call :=
  [.request "system_chain", .request "system_name", .request "system_version"]

def Script.uploadCalls (s : Script) : List Call :=
  .compose :: .sign :: .submit :: s.receipt.reads

def Purpose.Plans (s : Script) (made : List Call) : Purpose → Prop
  | info => made <+: infoCalls
  | balance => made = [.query]
  | upload => made <+: s.uploadCalls

inductive IsBlock (p : Purpose) (s : Script) : List Event → Prop where
  | refused (url format : Value) (f : Fault) (connect : s.connect = some f) :
      IsBlock p s [.connect url format]
  | closed (url format : Value) (made : List Call) (es : List Event)
      (connect : s.connect = none) (planned : p.Plans s made)
      (answered : ∀ c ∈ made.dropLast, s.failure? c = none)
      (shown : es.map Event.call? = made.map some) :
      IsBlock p s (.connect url format :: es ++ [.close])

/-- Events that are a block for each session opened, for some of the purposes in their order. The
session that is opened after `n` others goes by the script of that number. -/
inductive Sessions (network : Network) : List Purpose → Nat → List Event → Nat → Prop where
  | done (n : Nat) : Sessions network [] n [] n
  | skip {p : Purpose} {ps : List Purpose} {n m : Nat} {es : List Event}
      (rest : Sessions network ps n es m) : Sessions network (p :: ps) n es m
  | block {p : Purpose} {ps : List Purpose} {n m : Nat} {es rest : List Event}
      (first : IsBlock p (network.session n) es) (behind : Sessions network ps (n + 1) rest m) :
      Sessions network (p :: ps) n (es ++ rest) m

namespace Sessions

variable {network : Network}

theorem append {ps qs : List Purpose} {n m k : Nat} {es fs : List Event}
    (h : Sessions network ps n es m) (h' : Sessions network qs m fs k) :
    Sessions network (ps ++ qs) n (es ++ fs) k := by
  induction h with
  | done n => exact h'
  | skip rest ih => exact .skip (ih h')
  | block first behind ih =>
    rw [List.append_assoc]
    exact .block first (ih h')

theorem empty (ps : List Purpose) (n : Nat) : Sessions network ps n [] n := by
  induction ps with
  | nil => exact .done n
  | cons p ps ih => exact .skip ih

theorem eq_of_no_purpose {n m : Nat} {es : List Event} (h : Sessions network [] n es m) :
    es = [] ∧ m = n := by
  cases h
  exact ⟨rfl, rfl⟩

theorem eq_nil_or_isBlock {p : Purpose} {n m : Nat} {es : List Event}
    (h : Sessions network [p] n es m) : es = [] ∨ IsBlock p (network.session n) es := by
  cases h with
  | skip rest => exact .inl rest.eq_of_no_purpose.1
  | block first behind =>
    obtain ⟨rfl, -⟩ := behind.eq_of_no_purpose
    rw [List.append_nil]
    exact .inr first

end Sessions

namespace Action

variable {α β : Type}

def Opens (a : Action α) (ps : List Purpose) : Prop :=
  ∀ w n, Sessions w.network ps n ((a.run w n).trace.filter Event.isCall) (a.run w n).opened

theorem Opens.continueWith {a : Action α} {next : Except Fault α → Action β} {ps qs : List Purpose}
    (ha : a.Opens ps) (hnext : ∀ x, (next x).Opens qs) :
    (a.continueWith next).Opens (ps ++ qs) := by
  intro w n
  rw [run_continueWith, List.filter_append]
  exact (ha w n).append (hnext _ w _)

theorem opens_lift (x : Except Fault α) : (lift x).Opens [] := fun _ n => .done n

@[grind .] theorem opens_liftM (x : Except Fault α) : (liftM x : Action α).Opens [] := opens_lift x

@[grind .] theorem opens_pure (x : α) : (pure x : Action α).Opens [] := opens_lift (.ok x)

@[grind .] theorem opens_throw (f : Fault) : (throw f : Action α).Opens [] := opens_lift (.error f)

@[grind .] theorem opens_world : world.Opens [] := fun _ n => .done n

@[grind .] theorem opens_log (level : Level) (message : String) : (log level message).Opens [] :=
  fun _ n => .done n

theorem Opens.bind {a : Action α} {next : α → Action β} {ps qs : List Purpose} (ha : a.Opens ps)
    (hnext : ∀ x, (next x).Opens qs) : (a >>= next).Opens (ps ++ qs) := by
  apply ha.continueWith
  intro x
  cases x with
  | ok x => exact hnext x
  | error f => exact fun w n => .empty qs n

theorem Opens.map {a : Action α} {ps : List Purpose} (ha : a.Opens ps) (f : α → β) :
    (f <$> a).Opens ps := by
  have h := ha.bind fun x => opens_pure (f x)
  rwa [List.append_nil] at h

@[grind ←] theorem Opens.bind_quiet {a : Action α} {next : α → Action β} (ha : a.Opens [])
    (hnext : ∀ x, (next x).Opens []) : (a >>= next).Opens [] :=
  ha.bind hnext

@[grind ←] theorem Opens.handling {a : Action α} {handler : Fault → Action α} {ps : List Purpose}
    (ha : a.Opens ps) (hh : ∀ f, (handler f).Opens []) : (a.handling handler).Opens ps := by
  rw [← List.append_nil ps]
  apply ha.continueWith
  intro x
  cases x with
  | ok x => exact opens_lift _
  | error f =>
    dsimp only
    split
    · exact opens_lift _
    · exact hh f

theorem Opens.inWorker {a : Action α} {ps : List Purpose} (ha : a.Opens ps) :
    a.inWorker.Opens ps := by
  rw [← List.append_nil ps]
  exact ha.continueWith fun _ => opens_lift _

theorem Opens.of_quiet {a : Action α} (ha : a.Opens []) (ps : List Purpose) : a.Opens ps := by
  intro w n
  obtain ⟨hs, hm⟩ := (ha w n).eq_of_no_purpose
  rw [hs, hm]
  exact .empty ps n

@[grind ←] theorem opens_forM (xs : List α) {f : α → Action PUnit} (hf : ∀ x, (f x).Opens []) :
    (xs.forM f).Opens [] := by
  induction xs with
  | nil => exact opens_pure _
  | cons x xs ih => exact (hf x).bind_quiet fun _ => ih

end Action

end ProgramDeploy
