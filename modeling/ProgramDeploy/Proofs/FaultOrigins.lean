import ProgramDeploy.Preflight
import ProgramDeploy.Proofs.FaultTexts
import ProgramDeploy.Proofs.SessionBodies

/-!
Where the faults of a run come from, and what a run tells about them. A fault is accounted for if it arises
without a node and without a missing key, or if a node has brought it about. The line of an error is one of a
few, tells of an upload that failed, or has such a fault behind it.
-/

namespace ProgramDeploy

inductive Network.Causes (network : Network) : Fault → Prop where
  | raised {n : Nat} {f : Fault} (raises : (network.session n).Raises f) : Causes network f
  | fromWorker {f : Fault} (caused : Causes network f) : Causes network f.fromWorker
  | balance {n : Nat} {info : Value} {f : Fault} (answered : (network.session n).accountInfo = .ok info)
      (missing : (do (← info.field "data").field "free") = .error f) : Causes network f

def Fault.Accountable (network : Network) (f : Fault) : Prop :=
  f.IsKeyless ∨ network.Causes f

theorem Fault.Accountable.fromWorker {network : Network} {f : Fault} (h : f.Accountable network) :
    f.fromWorker.Accountable network := by
  obtain hkeyless | hcaused := h
  · rw [fromWorker_of_isOrdinary hkeyless.1]
    exact .inl hkeyless
  · exact .inr hcaused.fromWorker

theorem Fault.Accountable.causes_of_text {network : Network} {f : Fault} (h : f.Accountable network)
    {name : String} (hname : ¬ Text.HasBlank name) (htext : f.text = (missingKey (Text.quoted name)).text) :
    network.Causes f :=
  h.resolve_left fun hkeyless => hkeyless.text_ne hname htext

theorem Network.accountable_of_failureIn {network : Network} {n : Nat} {c : Call} {answer : Answer}
    (h : (network.session n).failure? c = failureIn answer) :
    FailsWith (Fault.Accountable network) answer := by
  rintro f rfl
  exact .inr (.raised (.call h))

inductive IsHeading (w : World) : String → Prop where
  | creation : IsHeading w "🚀 create_program ~ error: "
  | deployment : IsHeading w "Fatal error in main: "
  | artifact : IsHeading w "  ✗ "
  | node {outer n : Nat} {path : Value} {c : Config} {provider : String}
      (loaded : ((Config.load outer path).run w n).result = .ok c)
      (shown : Preflight.shownProvider c.toValue = .ok provider) : IsHeading w ("  ✗ " ++ provider ++ ": ")
  | check {name : String} (named : name ∈ (Preflight.checks .null).map (·.1)) :
      IsHeading w ("Error in " ++ name ++ ": ")

inductive TellsError (w : World) : String → Prop where
  | noSecret : TellsError w "DEPLOYER_MNEMONIC or DEPLOYER_SEED must be set"
  | notReady : TellsError w "❌ Not ready - fix issues above"
  | upload {n : Nat} {reason : Value} {text : String}
      (told : (w.network.session n).receipt.errorMessage = .ok reason) (written : reason.shown = .ok text) :
      TellsError w ("❌ Program upload failed: " ++ text)
  | fault {heading text : String} {f : Fault} (heads : IsHeading w heading)
      (accountable : f.Accountable w.network) (written : f.text = .ok text) : TellsError w (heading ++ text)

def Event.Tells (w : World) (e : Event) : Prop :=
  ∀ message, e = .log .error message → TellsError w message

structure Outcome.IsAccounted {α : Type} (w : World) (o : Outcome α) : Prop where
  fails : FailsWith (Fault.Accountable w.network) o.result
  told : ∀ message, .log .error message ∈ o.trace → TellsError w message

namespace Action

variable {α β : Type}

structure Accounts (w : World) (Q : α → Prop) (a : Action α) : Prop extends Meets w (Event.Tells w) Q a where
  fails : ∀ n, FailsWith (Fault.Accountable w.network) (a.run w n).result

abbrev Accounted (w : World) (a : Action α) : Prop :=
  Accounts w (fun _ => True) a

section Accounting

variable {w : World} {Q : α → Prop} {Q' : β → Prop}

theorem Accounts.mono {Q'' : α → Prop} {a : Action α} (ha : Accounts w Q a) (hQ : ∀ x, Q x → Q'' x) :
    Accounts w Q'' a :=
  ⟨ha.toMeets.mono (fun _ h => h) hQ, ha.fails⟩

theorem Accounts.isAccounted {a : Action α} (ha : Accounts w Q a) (n : Nat) : (a.run w n).IsAccounted w :=
  ⟨ha.fails n, fun message he => ha.shows n _ he message rfl⟩

theorem Accounts.returning {a : Action α} (ha : Accounts w Q a) :
    Accounts w (fun x => ∃ n, (a.run w n).result = .ok x) a :=
  ⟨⟨ha.shows, fun n _ h => ⟨n, h⟩⟩, ha.fails⟩

theorem accounts_pure {x : α} (hx : Q x) : Accounts w Q (pure x) :=
  ⟨meets_pure hx, fun _ => .ok x⟩

theorem accounts_throw {f : Fault} (h : f.Accountable w.network) : Accounts w Q (throw f : Action α) :=
  ⟨meets_throw f, fun _ => .error h⟩

theorem accounts_liftM {x : Except Fault α} (hx : FailsWith (Fault.Accountable w.network) x)
    (hQ : ∀ y, x = .ok y → Q y) : Accounts w Q (liftM x) :=
  ⟨⟨by simp, fun _ => hQ⟩, fun _ => hx⟩

theorem accounts_keyless {x : Except Fault α} (hx : Keyless x) (hQ : ∀ y, x = .ok y → Q y) :
    Accounts w Q (liftM x) :=
  accounts_liftM (fun f hf => .inl (hx f hf)) hQ

theorem accounts_log {level : Level} {message : String}
    (h : level = .error → TellsError w message) : Accounted w (log level message) := by
  refine ⟨meets_log ?_, fun _ => .ok ()⟩
  rintro _ ⟨⟩
  exact h rfl

theorem accounts_call {e : Event} {x : Except Fault α} (he : e.isCall = true)
    (hx : FailsWith (Fault.Accountable w.network) x) : Accounts w (x = .ok ·) (call e x) := by
  refine ⟨⟨fun n e' he' => ?_, fun _ _ h => h⟩, fun _ => hx⟩
  rw [run_call, List.mem_singleton] at he'
  subst he'
  rintro _ rfl
  cases he

theorem accounts_callUnit {e : Event} {failure : Option Fault} (he : e.isCall = true)
    (hfailure : ∀ f, failure = some f → f.Accountable w.network) :
    Accounted w (callUnit e failure) := by
  refine (accounts_call he ?_).mono fun _ _ => trivial
  cases failure with
  | none => exact .ok ()
  | some f => exact .error (hfailure f rfl)

theorem Accounts.bind {a : Action α} {next : α → Action β} (ha : Accounts w Q a)
    (hnext : ∀ x, Q x → Accounts w Q' (next x)) : Accounts w Q' (a >>= next) := by
  refine ⟨ha.toMeets.bind fun x hx => (hnext x hx).toMeets, fun n => ?_⟩
  cases h : (a.run w n).result with
  | ok x =>
    rw [run_bind_of_ok w n h]
    exact (hnext x (ha.returns n x h)).fails _
  | error f =>
    rw [run_bind_of_error w n h]
    exact .error (ha.fails n f h)

theorem Accounts.map {a : Action α} (ha : Accounts w Q a) {g : α → β} (hg : ∀ x, Q x → Q' (g x)) :
    Accounts w Q' (g <$> a) :=
  ha.bind fun x hx => accounts_pure (hg x hx)

theorem Accounts.world_bind {next : World → Action β} (hnext : Accounts w Q' (next w)) :
    Accounts w Q' (world >>= next) := by
  have hworld : Accounts w (· = w) world := ⟨⟨by simp, fun _ _ h => by cases h; rfl⟩, fun _ => .ok w⟩
  exact hworld.bind fun _ h => h ▸ hnext

theorem Accounts.keyless_bind {x : Except Fault α} {next : α → Action β} (hx : Keyless x)
    (hnext : ∀ y, x = .ok y → Accounts w Q' (next y)) : Accounts w Q' (liftM x >>= next) :=
  (accounts_keyless hx fun _ h => h).bind hnext

theorem Accounts.throw_bind {f : Fault} {next : α → Action β} (hf : f.IsKeyless) :
    Accounts w Q' (throw f >>= next) :=
  have hthrow : Accounts w (fun _ => False) (throw f : Action α) := accounts_throw (.inl hf)
  hthrow.bind fun _ h => h.elim

theorem Accounts.log_bind {level : Level} {message : String} {next : Unit → Action β}
    (h : level ≠ .error) (hnext : Accounts w Q' (next ())) :
    Accounts w Q' (log level message >>= next) :=
  (accounts_log fun he => absurd he h).bind fun _ _ => hnext

theorem Accounts.inWorker {a : Action α} (ha : Accounts w Q a) : Accounts w Q a.inWorker := by
  refine ⟨ha.toMeets.inWorker, fun n => ?_⟩
  rw [run_inWorker]
  intro f hf
  obtain ⟨g, hg, rfl⟩ := mapError_eq_error_iff.mp hf
  exact (ha.fails n g hg).fromWorker

theorem Accounts.continueWith {a : Action α} {next : Except Fault α → Action β} (ha : Accounts w Q a)
    (hok : ∀ x, Q x → Accounts w Q' (next (.ok x)))
    (herror : ∀ f, f.Accountable w.network → Accounts w Q' (next (.error f))) :
    Accounts w Q' (a.continueWith next) := by
  -- What comes next gets a result of that sort or an accountable fault, and nothing else.
  have hnext (n : Nat) : Accounts w Q' (next (a.run w n).result) := by
    cases h : (a.run w n).result with
    | ok x => exact hok x (ha.returns n x h)
    | error f => exact herror f (ha.fails n f h)
  constructor
  · constructor
    · intro n e he
      rw [run_continueWith] at he
      exact (List.mem_append.mp he).elim (ha.shows n e) ((hnext n).shows _ e)
    · intro n x hx
      exact (hnext n).returns _ x hx
  · exact fun n => (hnext n).fails _

theorem Accounts.handling {a : Action α} {handler : Fault → Action α} (ha : Accounts w Q a)
    (hhandler : ∀ f, f.Accountable w.network → Accounts w Q (handler f)) :
    Accounts w Q (a.handling handler) := by
  apply ha.continueWith
  · exact fun x hx => accounts_pure hx
  · intro f hf
    dsimp only
    split
    · exact accounts_throw hf
    · exact hhandler f hf

theorem Accounts.ensuring {a : Action α} {closing : Action Unit} (ha : Accounts w Q a)
    (hclosing : Accounted w closing) : Accounts w Q (a.ensuring closing) := by
  apply ha.continueWith
  · intro x hx
    exact hclosing.continueWith (fun _ _ => accounts_pure hx) fun f hf => accounts_throw hf
  · intro f hf
    exact hclosing.continueWith (fun _ _ => accounts_throw hf) fun f hf => accounts_throw hf

theorem accounts_forM (xs : List α) {f : α → Action PUnit} (hf : ∀ x ∈ xs, Accounted w (f x)) :
    Accounted w (xs.forM f) := by
  induction xs with
  | nil => exact accounts_pure trivial
  | cons x xs ih =>
    obtain ⟨hx, hxs⟩ := List.forall_mem_cons.mp hf
    exact hx.bind fun _ _ => ih hxs

end Accounting

end Action

end ProgramDeploy
