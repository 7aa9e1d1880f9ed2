import ProgramDeploy.Preflight
import ProgramDeploy.Proofs.Runs
import ProgramDeploy.Run

namespace ProgramDeploy

open ProgramDeploy.Action

def Outcome.without {α : Type} (hidden : Event → Bool) (o : Outcome α) : Outcome α :=
  ⟨o.result, o.trace.filter fun e => !hidden e, o.opened⟩

def World.on (w : World) (network : Network) : World :=
  { w with network }

theorem Network.session_singleton (s : Script) (n : Nat) : Network.session [s] n = s := by
  cases n <;> rfl

namespace Action

variable {α β : Type}

/-- An action comes to the same in two worlds, but for hidden events, wherever it finds the same scripts there
for the sessions that it opens, of which there are up to `k`. -/
def Alike (hidden : Event → Bool) (k : Nat) (w w' : World) (a : Action α) : Prop :=
  ∀ n m, (∀ i < k, w'.network.session (m + i) = w.network.session (n + i)) →
    ∃ j ≤ k, (a.run w n).opened = n + j ∧
      (a.run w' m).without hidden =
        ⟨(a.run w n).result, (a.run w n).trace.filter fun e => !hidden e, m + j⟩

variable {hidden : Event → Bool} {k l : Nat} {w w' : World}

theorem Alike.mono {a : Action α} (ha : Alike hidden k w w' a) (hle : k ≤ l) : Alike hidden l w w' a := by
  intro n m h
  obtain ⟨j, hj, hruns⟩ := ha n m fun i hi => h i (by omega)
  exact ⟨j, by omega, hruns⟩

theorem Alike.continueWith_result {a : Action α} {next : Except Fault α → Action β} (ha : Alike hidden k w w' a)
    (hnext : ∀ n, Alike hidden l w w' (next (a.run w n).result)) :
    Alike hidden (k + l) w w' (a.continueWith next) := by
  intro n m h
  obtain ⟨j, hj, hopened, hrun⟩ := ha n m fun i hi => h i (by omega)
  obtain ⟨hresult, htrace, hopened'⟩ := Outcome.mk.inj hrun
  -- The second part goes on behind the sessions that the first has opened, in both worlds.
  have hbehind : ∀ i < l, w'.network.session (m + j + i) = w.network.session (n + j + i) := by
    intro i hi
    simpa only [Nat.add_assoc] using h (j + i) (by omega)
  obtain ⟨j', hj', hsecond, hrun'⟩ := hnext n (n + j) (m + j) hbehind
  obtain ⟨hresult', htrace', hsecond'⟩ := Outcome.mk.inj hrun'
  refine ⟨j + j', by omega, ?_, ?_⟩
  · rw [run_continueWith, hopened, hsecond]
    omega
  · rw [run_continueWith, run_continueWith, hresult, hopened', hopened]
    simp only [Outcome.without, List.filter_append, htrace, hresult', htrace', hsecond', Nat.add_assoc]

theorem Alike.continueWith {a : Action α} {next : Except Fault α → Action β} (ha : Alike hidden k w w' a)
    (hnext : ∀ x, Alike hidden l w w' (next x)) : Alike hidden (k + l) w w' (a.continueWith next) :=
  ha.continueWith_result fun _ => hnext _

@[grind .] theorem alike_lift (x : Except Fault α) : Alike hidden 0 w w' (lift x) := by
  intro n m _
  exact ⟨0, Nat.le_refl 0, rfl, rfl⟩

@[grind .] theorem alike_liftM (x : Except Fault α) : Alike hidden 0 w w' (liftM x : Action α) := alike_lift x

@[grind .] theorem alike_pure (x : α) : Alike hidden 0 w w' (pure x : Action α) := alike_lift (.ok x)

@[grind .] theorem alike_throw (f : Fault) : Alike hidden 0 w w' (throw f : Action α) := alike_lift (.error f)

theorem alike_emit (e : Event) : Alike hidden 0 w w' (emit e) := by
  intro n m _
  exact ⟨0, Nat.le_refl 0, rfl, rfl⟩

@[grind .] theorem alike_log (level : Level) (message : String) : Alike hidden 0 w w' (log level message) :=
  alike_emit _

@[grind .] theorem alike_call (e : Event) (x : Except Fault α) : Alike hidden 0 w w' (call e x) :=
  (alike_emit e).continueWith fun _ => alike_lift x

@[grind .] theorem alike_callUnit (e : Event) (failure : Option Fault) :
    Alike hidden 0 w w' (callUnit e failure) :=
  alike_call e _

theorem alike_nextSession : Alike hidden 1 w w' nextSession := by
  intro n m h
  have hscript : w'.network.session m = w.network.session n := h 0 (by decide)
  refine ⟨1, Nat.le_refl 1, rfl, ?_⟩
  rw [run_nextSession, run_nextSession, hscript]
  rfl

theorem Alike.world_bind {next : World → Action β} (heq : next w' = next w)
    (h : Alike hidden k w w' (next w)) : Alike hidden k w w' (world >>= next) := by
  have hrun (u : World) (n : Nat) : (world >>= next).run u n = (next u).run u n := by
    rw [run_bind, run_world]
    rfl
  intro n m hscripts
  rw [hrun, hrun, heq]
  exact h n m hscripts

theorem Alike.bind {a : Action α} {next : α → Action β} (ha : Alike hidden k w w' a)
    (hnext : ∀ x, Alike hidden l w w' (next x)) : Alike hidden (k + l) w w' (a >>= next) := by
  apply ha.continueWith
  intro x
  cases x with
  | ok x => exact hnext x
  | error f => exact (alike_lift _).mono (Nat.zero_le l)

@[grind ←] theorem Alike.before {a : Action α} {next : α → Action β} (ha : Alike hidden 0 w w' a)
    (hnext : ∀ x, Alike hidden k w w' (next x)) : Alike hidden k w w' (a >>= next) := by
  rw [← Nat.zero_add k]
  exact ha.bind hnext

theorem Alike.before_result {a : Action α} {next : α → Action β} (ha : Alike hidden 0 w w' a)
    (hnext : ∀ n x, (a.run w n).result = .ok x → Alike hidden k w w' (next x)) :
    Alike hidden k w w' (a >>= next) := by
  rw [← Nat.zero_add k]
  apply ha.continueWith_result
  intro n
  cases hx : (a.run w n).result with
  | ok x => exact hnext n x hx
  | error f => exact (alike_lift _).mono (Nat.zero_le k)

theorem Alike.behind {a : Action α} {next : α → Action β} (ha : Alike hidden k w w' a)
    (hnext : ∀ x, Alike hidden 0 w w' (next x)) : Alike hidden k w w' (a >>= next) :=
  ha.bind hnext

theorem Alike.map {a : Action α} (ha : Alike hidden k w w' a) (f : α → β) : Alike hidden k w w' (f <$> a) :=
  ha.behind fun _ => alike_pure _

theorem Alike.handling {a : Action α} {handler : Fault → Action α} (ha : Alike hidden k w w' a)
    (hhandler : ∀ f, Alike hidden 0 w w' (handler f)) : Alike hidden k w w' (a.handling handler) := by
  apply ha.continueWith (l := 0)
  intro x
  cases x with
  | ok x => exact alike_lift _
  | error f =>
    dsimp only
    split
    · exact alike_lift _
    · exact hhandler f

theorem Alike.ensuring {a : Action α} {closing : Action Unit} (ha : Alike hidden k w w' a)
    (hclosing : Alike hidden 0 w w' closing) : Alike hidden k w w' (a.ensuring closing) := by
  apply ha.continueWith (l := 0)
  intro x
  apply hclosing.continueWith (l := 0)
  intro y
  cases y <;> exact alike_lift _

theorem Alike.inWorker {a : Action α} (ha : Alike hidden k w w' a) : Alike hidden k w w' a.inWorker :=
  ha.continueWith fun _ => alike_lift _

@[grind ←] theorem alike_forM (xs : List α) {f : α → Action PUnit} (hf : ∀ x, Alike hidden 0 w w' (f x)) :
    Alike hidden 0 w w' (xs.forM f) := by
  induction xs with
  | nil => exact alike_pure _
  | cons x xs ih => exact (hf x).before fun _ => ih

theorem Alike.without_eq {a : Action α} (ha : Alike hidden k w w' a) (hnetwork : w'.network = w.network) (n : Nat) :
    (a.run w n).without hidden = (a.run w' n).without hidden := by
  obtain ⟨j, -, hopened, hrun⟩ := ha n n fun i _ => by rw [hnetwork]
  rw [hrun, ← hopened]
  rfl

section Nothing

variable {a : Action α}

theorem Alike.run_eq {n m : Nat} (ha : Alike (fun _ => false) k w w' a)
    (h : ∀ i < k, w'.network.session (m + i) = w.network.session (n + i)) :
    ∃ j ≤ k, (a.run w n).opened = n + j ∧ a.run w' m = ⟨(a.run w n).result, (a.run w n).trace, m + j⟩ := by
  have hall (t : List Event) : t.filter (fun _ => !false) = t := List.filter_eq_self.mpr fun _ _ => rfl
  obtain ⟨j, hj, hopened, hrun⟩ := ha n m h
  simp only [Outcome.without, hall] at hrun
  exact ⟨j, hj, hopened, hrun⟩

theorem Alike.run_eq_of_network (ha : Alike (fun _ => false) k w w' a) (hnetwork : w'.network = w.network) (n : Nat) :
    a.run w n = a.run w' n := by
  obtain ⟨j, -, hopened, hrun⟩ := ha.run_eq (n := n) (m := n) fun i _ => by rw [hnetwork]
  rw [hrun, ← hopened]

variable {network : Network}

theorem Alike.run_eq_start {n : Nat} (ha : Alike (fun _ => false) k w (w.on network) a)
    (h : ∀ i < k, network.session i = w.network.session (n + i)) :
    a.run w n = ⟨(a.run (w.on network) 0).result, (a.run (w.on network) 0).trace,
      n + (a.run (w.on network) 0).opened⟩ := by
  obtain ⟨j, -, hopened, hrun⟩ := ha.run_eq (n := n) (m := 0) fun i hi => by rw [Nat.zero_add]; exact h i hi
  rw [hrun, Nat.zero_add, ← hopened]

theorem Alike.run_eq_on (ha : Alike (fun _ => false) 0 w (w.on network) a) (n : Nat) :
    a.run w n = ⟨(a.run (w.on network) 0).result, (a.run (w.on network) 0).trace, n⟩ := by
  obtain ⟨j, hj, hopened, hrun⟩ := ha.run_eq (n := n) (m := 0) fun i hi => absurd hi (Nat.not_lt_zero i)
  obtain rfl : j = 0 := Nat.le_zero.mp hj
  rw [hrun]
  exact congrArg (Outcome.mk _ _) hopened

theorem Alike.run_eq_alone {n : Nat} (ha : Alike (fun _ => false) 1 w (w.on [w.network.session n]) a) :
    let o := a.run (w.on [w.network.session n]) 0
    a.run w n = ⟨o.result, o.trace, n + o.opened⟩ := by
  apply ha.run_eq_start
  intro i hi
  obtain rfl : i = 0 := by omega
  rw [Network.session_singleton, Nat.add_zero]

end Nothing

end Action

variable {hidden : Event → Bool} {k : Nat} {w w' : World}

namespace Client

theorem alike_withSession {α : Type} (c : Client) {body : Script → Action α}
    (hbody : ∀ s, Alike hidden 0 w w' (body s)) : Alike hidden 1 w w' (c.withSession body) := by
  have hconnect : Alike hidden 1 w w' c.connect := by
    apply (alike_liftM _).before
    intro provider
    apply (alike_log _ _).before
    intro _
    apply alike_nextSession.behind
    grind
  apply hconnect.behind
  intro s
  exact (hbody s).ensuring (alike_callUnit _ _)

theorem alike_reportNodeInfo (c : Client) : Alike hidden 1 w w' c.reportNodeInfo := by
  have hrequest (s : Script) (method : String) : Alike hidden 0 w w' (requestResult s method) := by
    unfold requestResult
    grind
  have hinfo : Alike hidden 1 w w' c.nodeInfo := by
    apply Alike.inWorker
    apply c.alike_withSession
    intro s
    unfold queryNodeInfo
    grind
  apply hinfo.behind
  grind

theorem alike_freeBalance (c : Client) (address : Value) : Alike hidden 1 w w' (c.freeBalance address) := by
  apply (c.alike_withSession fun s => alike_call _ _).behind
  grind

end Client

theorem Wallet.alike_deployer (config : Value) : Alike hidden 0 w w' (deployer config) := by
  have hreport (made : Except Fault Account) (name : Value) : Alike hidden 0 w w' (report made name) := by
    unfold report
    grind
  unfold deployer fromMnemonic fromSeed
  grind

namespace Deployer

@[grind .] theorem alike_logFault (heading : String) (f : Fault) :
    Alike hidden 0 w w' (logFault heading f) := by
  unfold logFault
  grind

theorem alike_uploadIn (d : Deployer) (program : Value) (signer : Account) (s : Script) :
    Alike hidden 0 w w' (d.uploadIn program signer s) := by
  have hcompose (keepAlive : Value) : Alike hidden 0 w w' (composeUpload s program keepAlive) := by
    unfold composeUpload
    grind
  have hread : Alike hidden 0 w w' (readReceipt s.receipt) := by
    unfold readReceipt
    grind
  unfold uploadIn
  grind

theorem alike_upload (d : Deployer) (program : Value) (signer : Account) :
    Alike hidden 1 w w' (d.upload program signer) := by
  unfold upload
  split
  · exact (alike_throw _).mono (Nat.zero_le 1)
  · exact (Client.alike_withSession _ (d.alike_uploadIn program signer)).inWorker

theorem alike_deploy (d : Deployer) (code initPayload : Value) (hentropy : w'.entropy = w.entropy) :
    Alike hidden 1 w w' (d.deploy code initPayload) := by
  have hbuild : Alike hidden 0 w w' (d.buildProgram code initPayload) := by
    apply (alike_liftM _).before
    intro gasLimit
    apply (alike_liftM _).before
    intro value
    apply Alike.world_bind
    · rw [hentropy]
    · exact alike_liftM _
  have hreport (programId : String) (u : Upload) : Alike hidden 0 w w' (reportUpload programId u) := by
    unfold reportUpload
    grind
  apply hbuild.before
  intro p
  apply (Wallet.alike_deployer d.config).before
  intro signer
  apply (alike_liftM _).before
  intro programId
  apply (alike_liftM _).before
  intro salt
  iterate 3
    apply (alike_log _ _).before
    intro _
  apply (d.alike_upload p.toValue signer).behind
  grind

theorem alike_create (d : Deployer) (code initPayload : Value) (hentropy : w'.entropy = w.entropy) :
    Alike hidden 1 w w' (d.create code initPayload) := by
  apply ((d.alike_deploy code initPayload hentropy).map some).handling
  grind

end Deployer

theorem RouterInit.alike_resolve (program : Value) : Alike hidden 0 w w' (resolve program) := by
  have hencode (factory wvara : Value) : Alike hidden 0 w w' (encode factory wvara) := by
    unfold encode
    grind
  have hconfigured (router : Value) : Alike hidden 0 w w' (encodeConfigured router) := by
    apply (alike_liftM _).before
    intro both
    split
    · exact (alike_throw _).before (by grind)
    · grind
  unfold resolve
  grind

theorem Artifact.alike_load {path : Value} (hcontains : w'.files.contains path = w.files.contains path)
    (hread : w'.files.read path = w.files.read path) : Alike hidden 0 w w' (load path) := by
  have hrest (code : Bytes) : Alike hidden 0 w w' (do
      if code.isEmpty then throw (.artifactEmpty (← path.shown))
      Action.log .info (s!"Loaded {code.length} bytes from " ++ (← path.shown))
      return code) := by
    split <;> grind
  apply Alike.world_bind
  · rw [hcontains, hread]
  · apply (alike_liftM _).before
    intro found
    split
    · grind
    · exact (alike_liftM _).before hrest

namespace Preflight

theorem alike_checkEnvironment (henvironment : w'.environment = w.environment) :
    Alike hidden 0 w w' checkEnvironment := by
  apply (alike_log _ _).before
  intro _
  apply Alike.world_bind
  · rw [henvironment]
  · split <;> grind

theorem alike_checkNode (config : Value) : Alike hidden 1 w w' (checkNode config) := by
  apply (alike_log _ _).before
  intro _
  apply (alike_liftM _).before
  intro client
  apply ((client.alike_reportNodeInfo.map _).handling _).behind
  · intro answered
    split <;> grind
  · grind

theorem alike_checkArtifact {config : Value} (h : ∀ program path, config.field "program" = .ok program →
      program.field "wasm_path" = .ok path →
      w'.files.contains path = w.files.contains path ∧ w'.files.read path = w.files.read path) :
    Alike hidden 0 w w' (checkArtifact config) := by
  apply (alike_log _ _).before
  intro _
  apply (alike_liftM _).before_result
  intro _ program hprogram
  apply (alike_liftM _).before_result
  intro _ path hpath
  obtain ⟨hcontains, hread⟩ := h program path hprogram hpath
  apply Alike.before
  · apply ((Artifact.alike_load hcontains hread).map _).continueWith (l := 0)
    intro x
    cases x with
    | ok found => exact alike_pure _
    | error f =>
      dsimp only
      split <;> grind
  · intro loaded
    split <;> grind

theorem alike_checkBalance (config : Value) : Alike hidden 1 w w' (checkBalance config) := by
  apply (alike_log _ _).before
  intro _
  apply (Wallet.alike_deployer config).before
  intro account
  apply (alike_liftM _).before
  intro client
  apply (client.alike_freeBalance _).behind
  intro balance
  refine (alike_liftM _).before fun shown => (alike_log _ _).before fun _ => ?_
  refine (alike_liftM _).before fun program => (alike_liftM _).before fun value => ?_
  apply (alike_liftM _).before
  intro covered
  split <;> grind

theorem alike_runChecks (named : List (String × Action Bool))
    (h : ∀ entry ∈ named, Alike hidden k w w' entry.2) :
    Alike hidden (named.length * k) w w' (runChecks named) := by
  have hrun (name : String) {check : Action Bool} (hcheck : Alike hidden k w w' check) :
      Alike hidden k w w' (runCheck name check) := by
    apply (alike_log _ _).before
    intro _
    apply (hcheck.handling _).behind
    · grind
    · grind
  induction named with
  | nil => exact (alike_pure _).mono (Nat.zero_le _)
  | cons entry named ih =>
    have hfirst := hrun entry.1 (h entry List.mem_cons_self)
    have hothers := ih fun entry he => h entry (List.mem_cons_of_mem _ he)
    rw [List.length_cons, Nat.succ_mul, Nat.add_comm]
    apply hfirst.bind
    exact fun result => hothers.behind fun results => alike_pure _

theorem alike_heading (text : String) : Alike hidden 0 w w' (heading text) := by
  unfold heading
  grind

theorem alike_summarize (results : List (String × Bool)) : Alike hidden 0 w w' (summarize results) := by
  apply (alike_log _ _).before
  intro _
  apply (alike_heading _).before
  intro _
  apply (alike_forM results fun result => alike_log _ _).before
  grind

end Preflight

end ProgramDeploy
