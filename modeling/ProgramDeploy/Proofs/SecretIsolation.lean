import ProgramDeploy.Console
import ProgramDeploy.Proofs.AccountRefusals
import ProgramDeploy.Proofs.Tables

namespace ProgramDeploy

open ProgramDeploy.Action

namespace Value

def EqualBut (names : List String) (v v' : Value) : Prop :=
  v = v' ∨ ∃ t t', v = .dict t ∧ v' = .dict t' ∧
    ∀ name, name ∉ names → Table.get? t name = Table.get? t' name

def EqualButIn (key : String) (names : List String) (v v' : Value) : Prop :=
  v = v' ∨ ∃ t t', v = .dict t ∧ v' = .dict t' ∧
    (∀ name, name ≠ key → Table.get? t name = Table.get? t' name) ∧
    Option.Rel (EqualBut names) (Table.get? t key) (Table.get? t' key)

theorem EqualBut.mono {names names' : List String} {v v' : Value} (h : EqualBut names v v')
    (hnames : names ⊆ names') : EqualBut names' v v' := by
  obtain rfl | ⟨t, t', rfl, rfl, hget⟩ := h
  · exact .inl rfl
  · exact .inr ⟨t, t', rfl, rfl, fun name hname => hget name fun hmem => hname (hnames hmem)⟩

theorem EqualButIn.mono {key : String} {names names' : List String} {v v' : Value}
    (h : EqualButIn key names v v') (hnames : names ⊆ names') : EqualButIn key names' v v' := by
  obtain rfl | ⟨t, t', rfl, rfl, hget, hrel⟩ := h
  · exact .inl rfl
  · refine .inr ⟨t, t', rfl, rfl, hget, ?_⟩
    generalize Table.get? t key = u, Table.get? t' key = u' at hrel
    cases hrel with
    | none => exact .none
    | some hsame => exact .some (hsame.mono hnames)

theorem EqualBut.field {names : List String} {v v' : Value} (h : EqualBut names v v') {name : String}
    (hname : name ∉ names) : v.field name = v'.field name := by
  obtain rfl | ⟨t, t', rfl, rfl, hget⟩ := h
  · rfl
  · simp only [Value.field, hget name hname]

theorem EqualButIn.field {key : String} {names : List String} {v v' : Value} (h : EqualButIn key names v v')
    {name : String} (hname : name ≠ key) : v.field name = v'.field name := by
  obtain rfl | ⟨t, t', rfl, rfl, hget, -⟩ := h
  · rfl
  · simp only [Value.field, hget name hname]

theorem EqualButIn.field_key {key : String} {names : List String} {v v' : Value}
    (h : EqualButIn key names v v') :
    v.field key = v'.field key ∨ ∃ t t', v.field key = .ok (.dict t) ∧ v'.field key = .ok (.dict t') ∧
      EqualBut names (.dict t) (.dict t') := by
  obtain rfl | ⟨t, t', rfl, rfl, -, hrel⟩ := h
  · exact .inl rfl
  · simp only [Value.field]
    generalize Table.get? t key = u, Table.get? t' key = u' at hrel ⊢
    cases hrel with
    | none => exact .inl rfl
    | some hsame =>
      obtain rfl | ⟨s, s', rfl, rfl, hentries⟩ := hsame
      · exact .inl rfl
      · exact .inr ⟨s, s', rfl, rfl, .inr ⟨s, s', rfl, rfl, hentries⟩⟩

end Value

namespace Outcome

variable {α : Type}

def seen (o : Outcome α) : Except (Except Fault String) α × List Event :=
  (o.result.mapError Fault.text, o.trace)

def told (o : Outcome α) : Except (Kind × Option Kind × Except Fault String) α × List Event × Nat :=
  (o.result.mapError fun f => (f.kind, f.cause?, f.text), o.trace, o.opened)

end Outcome

namespace Wallet

inductive Alike : Except Fault (Account × String) → Except Fault (Account × String) → Prop where
  | made {made made' : Account × String} (haccount : made.1 = made'.1)
      (hline : accountLine made = accountLine made') : Alike (.ok made) (.ok made')
  | refused {f f' : Fault} (hkind : f.kind = f'.kind) (hcause : f.cause? = f'.cause?)
      (htext : f.text = f'.text) : Alike (.error f) (.error f')

theorem Alike.refl (x : Except Fault (Account × String)) : Alike x x := by
  cases x with
  | ok made => exact .made rfl rfl
  | error f => exact .refused rfl rfl rfl

variable {config config' : Value}

theorem derive_refusals (h : config.EqualButIn "account" ["mnemonic", "seed"] config') :
    derive config = derive config' ∨
      ∃ name, FailsWith (Account.Refusal name) (derive config) ∧
        FailsWith (Account.Refusal name) (derive config') := by
  have hnode : config.field "node" = config'.field "node" := h.field (by decide)
  unfold derive
  rw [← hnode]
  obtain haccount | ⟨t, t', ht, ht', hsame⟩ := h.field_key
  · rw [haccount]
    exact .inl rfl
  · have hname : (Value.dict t).field "name" = (Value.dict t').field "name" := hsame.field (by decide)
    rw [ht, ht']
    cases config.field "node" with
    | error f => exact .inl rfl
    | ok node =>
      cases hformat : node.field "ss58_format" with
      | error f => exact .inl (by simp [bind, Except.bind, hformat])
      | ok format =>
        cases hnamed : (Value.dict t).field "name" with
        | error f =>
          rw [hnamed] at hname
          exact .inl (by simp [bind, Except.bind, hformat, hnamed, ← hname])
        | ok name =>
          rw [hnamed] at hname
          have hfails (t : Table) : FailsWith (Account.Refusal name) (do
              let a ← choose (.dict t) name format
              return (a, ← name.shown)) :=
            (Account.refusal_choose name t format).bind fun _ _ =>
              (Account.refusal_shown name).bind fun _ _ => .ok _
          refine .inr ⟨name, ?_, ?_⟩
          · simpa [bind, Except.bind, hformat, hnamed] using hfails t
          · simpa [bind, Except.bind, hformat, ← hname] using hfails t'

def GivesPhrase (config : Value) : Prop :=
  ∃ account mnemonic, config.field "account" = .ok account ∧ account.field "mnemonic" = .ok mnemonic ∧
    mnemonic.isTruthy = true

theorem choose_of_phrase {account mnemonic : Value} (h : account.field "mnemonic" = .ok mnemonic)
    (htruthy : mnemonic.isTruthy = true) (name format : Value) :
    choose account name format = Account.ofMnemonic mnemonic name format := by
  obtain ⟨t, rfl⟩ : ∃ t, account = .dict t := by
    cases account with
    | dict t => exact ⟨t, rfl⟩
    | _ => cases h
  have hnull : (Value.dict t).fieldOrNull "mnemonic" = .ok mnemonic := by
    cases hget : Table.get? t "mnemonic" with
    | none => simp [Value.field, hget] at h
    | some u => simpa [Value.field, Value.fieldOrNull, hget] using h
  rw [choose_eq, hnull]
  simp [bind, Except.bind, htruthy]

theorem derive_eq_of_phrase (h : config.EqualButIn "account" ["seed"] config') (hphrase : GivesPhrase config) :
    derive config = derive config' := by
  have hnode : config.field "node" = config'.field "node" := h.field (by decide)
  obtain ⟨account, mnemonic, haccount, hmnemonic, htruthy⟩ := hphrase
  unfold derive
  rw [← hnode]
  obtain heq | ⟨t, t', ht, ht', hsame⟩ := h.field_key
  · rw [heq]
  · rw [ht] at haccount
    cases haccount
    have hname : (Value.dict t).field "name" = (Value.dict t').field "name" := hsame.field (by decide)
    have hmnemonic' : (Value.dict t').field "mnemonic" = .ok mnemonic := by
      rw [← hmnemonic]
      exact (hsame.field (by decide)).symm
    have hok {β : Type} (x : Value) (next : Value → Except Fault β) : (.ok x >>= next) = next x := rfl
    simp only [ht, ht', hok, hname, choose_of_phrase hmnemonic htruthy, choose_of_phrase hmnemonic' htruthy]

theorem alike_of_seen (h : config.EqualButIn "account" ["mnemonic", "seed"] config') {w : World} {n : Nat}
    (hseen : ((deployer config).run w n).seen = ((deployer config').run w n).seen) :
    Alike (derive config) (derive config') := by
  rw [run_deployer, run_deployer] at hseen
  -- Where they differ, either is refused under one name, and the text of a refusal tells its kind.
  obtain heq | ⟨name, hfails, hfails'⟩ := derive_refusals h
  · rw [heq]
    exact .refl _
  · cases hx : derive config with
    | ok made =>
      cases hx' : derive config' with
      | ok made' =>
        rw [hx, hx'] at hseen
        simp only [Outcome.seen, Outcome.settle_ok, mapError_ok, Prod.mk.injEq, Except.ok.injEq,
          List.cons.injEq, and_true] at hseen
        exact .made hseen.1 hseen.2
      | error f' =>
        rw [hx, hx'] at hseen
        cases hseen
    | error f =>
      cases hx' : derive config' with
      | ok made' =>
        rw [hx, hx'] at hseen
        cases hseen
      | error f' =>
        rw [hx, hx'] at hseen
        simp only [Outcome.seen, Outcome.settle_error, mapError_error, Prod.mk.injEq, Except.error.injEq,
          and_true] at hseen
        obtain ⟨hkind, hcause⟩ := Account.report_eq_of_text name (hfails f hx) (hfails' f' hx') hseen
        exact .refused hkind hcause hseen

end Wallet

namespace Deployer

variable (d : Deployer) (code initPayload : Value) (w : World) (n : Nat)

def withConfig (config : Value) : Deployer :=
  { d with config }

theorem run_create_of_run_deploy {d' : Deployer}
    (h : (d.deploy code initPayload).run w n = (d'.deploy code initPayload).run w n) :
    (d.create code initPayload).run w n = (d'.create code initPayload).run w n := by
  rw [create, create, run_handling, run_handling, run_map, run_map, h]

theorem run_create_of_refusals {d' : Deployer} {f f' : Fault}
    (hrun : (d.deploy code initPayload).run w n = ⟨.error f, [], n⟩)
    (hrun' : (d'.deploy code initPayload).run w n = ⟨.error f', [], n⟩)
    (hcaught : f.isInterrupt = false) (hkind : f.kind = f'.kind) (htext : f.text = f'.text) :
    (d.create code initPayload).run w n = (d'.create code initPayload).run w n := by
  have hcaught' : f'.isInterrupt = false := by rwa [Fault.isInterrupt, ← hkind]
  rw [create, create, run_handling, run_handling, run_map, run_map, hrun, hrun']
  simp only [Except.map, hcaught, hcaught', logFault, htext, Bool.false_eq_true, if_false]

theorem run_create_of_alike {config : Value}
    (h : Wallet.Alike (Wallet.derive d.config) (Wallet.derive config)) :
    (d.create code initPayload).run w n = ((d.withConfig config).create code initPayload).run w n := by
  have hrun := d.run_deploy code initPayload w n
  have hrun' := (d.withConfig config).run_deploy code initPayload w n
  have hdescriptor : (d.withConfig config).descriptor code initPayload w.entropy =
      d.descriptor code initPayload w.entropy := rfl
  have hupload : (d.withConfig config).upload = d.upload := rfl
  have hconfig : (d.withConfig config).config = config := rfl
  rw [hdescriptor, hupload, hconfig] at hrun'
  cases hp : d.descriptor code initPayload w.entropy with
  | error f =>
    apply d.run_create_of_run_deploy
    rw [hrun, hrun', hp]
    rfl
  | ok p =>
    rw [hp] at hrun hrun'
    generalize hx : Wallet.derive d.config = x, Wallet.derive config = x' at h hrun hrun'
    cases h with
    | made haccount hline =>
      apply d.run_create_of_run_deploy
      simp only [hrun, hrun', Outcome.settle_ok, haccount, hline]
    | refused hkind hcause htext =>
      have hcaught := Fault.isInterrupt_of_isOrdinary (Wallet.ordinarily_derive d.config _ hx)
      exact d.run_create_of_refusals code initPayload w n hrun hrun' hcaught hkind htext

end Deployer

namespace Preflight

def judge (config : Value) (account : Account) : Action Bool := do
  let client ← Client.ofConfig config
  let balance ← client.freeBalance (.text account.address)
  Action.log .info ("  Free balance: " ++ (← (Value.int balance).shown))
  if ← (← (← config.field "program").field "value").atLeast balance then
    let value ← (← config.field "program").field "value"
    Action.log .warning
      ("  ⚠ Balance does not cover program value (" ++ (← value.shown) ++ ") and fees")
    return false
  Action.log .success "  ✓ Deployer balance sufficient"
  return true

theorem checkBalance_eq (config : Value) : checkBalance config = (do
    Action.log .info "Checking deployer balance..."
    let account ← Wallet.deployer config
    judge config account) := rfl

variable {config config' : Value} (h : config.EqualButIn "account" ["mnemonic", "seed"] config')

include h

theorem judge_eq (account : Account) : judge config account = judge config' account := by
  have hnode : config.field "node" = config'.field "node" := h.field (by decide)
  have hprogram : config.field "program" = config'.field "program" := h.field (by decide)
  simp only [judge, Client.ofConfig, hnode, hprogram]

theorem told_checkBalance_eq (halike : Wallet.Alike (Wallet.derive config) (Wallet.derive config'))
    (w : World) (n : Nat) : ((checkBalance config).run w n).told = ((checkBalance config').run w n).told := by
  rw [checkBalance_eq, checkBalance_eq, run_bind_log, run_bind_log, run_bind, run_bind, Wallet.run_deployer,
    Wallet.run_deployer, funext (judge_eq h)]
  generalize Wallet.derive config = x, Wallet.derive config' = x' at halike
  cases halike with
  | made haccount hline => simp only [Outcome.settle_ok, haccount, hline]
  | refused hkind hcause htext => simp [Outcome.told, hkind, hcause, htext]

end Preflight

namespace Action

variable {α β : Type} {a a' : Action α} {w : World} {n : Nat}

theorem run_bind_congr (h : a.run w n = a'.run w n) (next : α → Action β) :
    (a >>= next).run w n = (a' >>= next).run w n := by
  rw [run_bind, run_bind, h]

theorem told_bind_congr (h : (a.run w n).told = (a'.run w n).told) (next : α → Action β) :
    ((a >>= next).run w n).told = ((a' >>= next).run w n).told := by
  rw [run_bind, run_bind]
  generalize a.run w n = o, a'.run w n = o' at h
  obtain ⟨x, t, m⟩ := o
  obtain ⟨x', t', m'⟩ := o'
  cases x with
  | ok y =>
    cases x' with
    | ok y' =>
      cases h
      rfl
    | error f' => cases h
  | error f =>
    cases x' with
    | ok y' => cases h
    | error f' =>
      simp only [Outcome.told, mapError_error, Prod.mk.injEq, Except.error.injEq] at h ⊢
      exact h

end Action

namespace Console

variable {config config' : Value}

theorem run_createProgram_of_alike (h : config.EqualButIn "account" ["mnemonic", "seed"] config')
    (halike : Wallet.Alike (Wallet.derive config) (Wallet.derive config')) (s : State)
    (code initPayload : Value) (w : World) (n : Nat) :
    (perform s (.createProgram (some config) code initPayload)).run w n =
      (perform s (.createProgram (some config') code initPayload)).run w n := by
  have hprogram : config.field "program" = config'.field "program" := h.field (by decide)
  have hsubmission : config.field "submission" = config'.field "submission" := h.field (by decide)
  simp only [perform, deployerFor]
  cases s.deployer with
  | some d => rfl
  | none =>
    dsimp only [Option.getD_some]
    rw [run_bind_liftM, run_bind_liftM]
    simp only [Deployer.ofConfig, hprogram, hsubmission]
    cases config'.field "program" with
    | error f => rfl
    | ok program =>
      cases config'.field "submission" with
      | error f => rfl
      | ok submission =>
        let d : Deployer := ⟨some (s.client.getD .default), config, program, submission⟩
        exact run_bind_congr (d.run_create_of_alike code initPayload w n halike) _

/-- What comes behind the account depends on the secrets only through the account, or the text of the fault
in its place; and a seed beside a phrase does not come into anything. -/
theorem secrets_reach_the_account_only (s : State) (code initPayload : Value) (w : World) (n : Nat) :
    (∀ config config', config.EqualButIn "account" ["mnemonic", "seed"] config' →
      ((Wallet.deployer config).run w n).seen = ((Wallet.deployer config').run w n).seen →
      (perform s (.createProgram (some config) code initPayload)).run w n =
          (perform s (.createProgram (some config') code initPayload)).run w n ∧
        ((perform s (.checkBalance (some config))).run w n).told =
          ((perform s (.checkBalance (some config'))).run w n).told) ∧
    ∀ config config', config.EqualButIn "account" ["seed"] config' → Wallet.GivesPhrase config →
      (perform s (.loadDeployerAccount (some config))).run w n =
          (perform s (.loadDeployerAccount (some config'))).run w n ∧
        (perform s (.createProgram (some config) code initPayload)).run w n =
          (perform s (.createProgram (some config') code initPayload)).run w n ∧
        (perform s (.checkBalance (some config))).run w n =
          (perform s (.checkBalance (some config'))).run w n := by
  constructor
  · intro config config' h hseen
    have halike := Wallet.alike_of_seen h hseen
    exact ⟨run_createProgram_of_alike h halike s code initPayload w n,
      told_bind_congr (Preflight.told_checkBalance_eq h halike w n) _⟩
  · intro config config' h hphrase
    have hsecrets := h.mono (show ["seed"] ⊆ ["mnemonic", "seed"] by simp)
    have hderive := Wallet.derive_eq_of_phrase h hphrase
    have halike : Wallet.Alike (Wallet.derive config) (Wallet.derive config') := hderive ▸ .refl _
    have hdeployer : (Wallet.deployer config).run w n = (Wallet.deployer config').run w n := by
      rw [Wallet.run_deployer, Wallet.run_deployer, hderive]
    have hbalance : (Preflight.checkBalance config).run w n = (Preflight.checkBalance config').run w n := by
      rw [Preflight.checkBalance_eq, Preflight.checkBalance_eq, run_bind_log, run_bind_log,
        funext (Preflight.judge_eq hsecrets), run_bind_congr hdeployer]
    exact ⟨run_bind_congr hdeployer _, run_createProgram_of_alike hsecrets halike s code initPayload w n,
      run_bind_congr hbalance _⟩

def secretly (secrets : Table) : Value :=
  .dict [("node", .dict [("provider_address", .text "ws://node"), ("ss58_format", .int 137)]),
    ("account", .dict (("name", .text "Anme") :: secrets)),
    ("program", .dict [("gas_limit", .int 1000000), ("value", .int 1000)]),
    ("submission", .dict [("wait_for_inclusion", .bool true), ("wait_for_finalization", .bool false)])]

theorem equalButIn_secretly {names : List String} {secrets secrets' : Table}
    (h : ∀ name, name ∉ names → Table.get? secrets name = Table.get? secrets' name) :
    (secretly secrets).EqualButIn "account" names (secretly secrets') := by
  refine .inr ⟨_, _, rfl, rfl, fun name hname => ?_, ?_⟩
  · simp [Table.get?_cons (.text name), Ne.symm hname]
  · refine .some (.inr ⟨_, _, rfl, rfl, fun name hname => ?_⟩)
    simp only [Table.get?_cons (.text name), h name hname]

theorem derive_secretly (seed : Value) (htruthy : seed.isTruthy = true) :
    Wallet.derive (secretly [("seed", seed)]) =
      (Account.ofSeed seed (.text "Anme") (.int 137)).map fun a => (a, "Anme") := by
  have hchoose := Wallet.choose_eq_ofSeed (t := [("name", .text "Anme"), ("seed", seed)]) (.text "Anme")
    (.int 137) rfl rfl rfl htruthy
  have hderive : Wallet.derive (secretly [("seed", seed)]) = (do
      let a ← Wallet.choose (.dict [("name", .text "Anme"), ("seed", seed)]) (.text "Anme") (.int 137)
      return (a, "Anme")) := rfl
  rw [hderive, hchoose]
  cases Account.ofSeed seed (.text "Anme") (.int 137) <;> rfl

theorem secrets_reach_the_account_only_respelled :
    let w : World := ⟨.empty, .empty, [7], []⟩
    let s : State := .start .empty .empty []
    let seed : Bytes := List.replicate 32 1
    (perform s (.createProgram (some (secretly [("seed", .text (Hex.marked seed))])) (.bytes [0]) .null)).run w 0 =
        (perform s (.createProgram (some (secretly [("seed", .bytes seed)])) (.bytes [0]) .null)).run w 0 ∧
      (perform s (.checkBalance (some (secretly [("mnemonic", .text "phrase")])))).run w 0 =
        (perform s (.checkBalance
          (some (secretly [("mnemonic", .text "phrase"), ("seed", .bytes seed)])))).run w 0 := by
  intro w s seed
  have hmarked : (Value.text (Hex.marked seed)).isTruthy = true := by
    simp [Value.isTruthy, Hex.marked, Hex.encode]
  have hsame : Account.ofSeed (.text (Hex.marked seed)) (.text "Anme") (.int 137) =
      Account.ofSeed (.bytes seed) (.text "Anme") (.int 137) := by
    unfold Account.ofSeed
    rw [Account.seedBytes_marked]
    rfl
  have hseen : ((Wallet.deployer (secretly [("seed", .text (Hex.marked seed))])).run w 0).seen =
      ((Wallet.deployer (secretly [("seed", .bytes seed)])).run w 0).seen := by
    rw [Wallet.run_deployer, Wallet.run_deployer, derive_secretly _ hmarked, derive_secretly _ rfl, hsame]
  obtain ⟨hsecrets, hphrase⟩ := secrets_reach_the_account_only s (.bytes [0]) .null w 0
  have hseeds : (secretly [("seed", .text (Hex.marked seed))]).EqualButIn "account" ["mnemonic", "seed"]
      (secretly [("seed", .bytes seed)]) := equalButIn_secretly fun name hname => by
    simp only [List.mem_cons, not_or] at hname
    simp [Table.get?_cons (.text name), Ne.symm hname.2.1]
  have hbeside : (secretly [("mnemonic", .text "phrase")]).EqualButIn "account" ["seed"]
      (secretly [("mnemonic", .text "phrase"), ("seed", .bytes seed)]) := equalButIn_secretly fun name hname => by
    simp only [List.mem_cons, not_or] at hname
    simp [Table.get?_cons (.text name), Ne.symm hname.1]
  exact ⟨(hsecrets _ _ hseeds hseen).1, (hphrase _ _ hbeside ⟨_, _, rfl, rfl, rfl⟩).2.2⟩

end Console

end ProgramDeploy
