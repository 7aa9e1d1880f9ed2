import Mathlib
import ProgramDeploy.Proofs.AccountReports
import ProgramDeploy.Proofs.LoadedConfigs
import ProgramDeploy.Proofs.PhraseWords
import ProgramDeploy.Proofs.PreflightChecks

namespace ProgramDeploy

open ProgramDeploy.Action

def Outcome.FindsNoSecret {α : Type} (o : Outcome α) : Prop :=
  ∃ f, o.result = .error f ∧ o.trace = [] ∧ f.kind = .value ∧ f.cause? = none ∧
    f.text = .ok "DEPLOYER_MNEMONIC or DEPLOYER_SEED must be set in .env"

namespace Account

variable (s : String) (name format : Value)

theorem ne_noSecret_shown : FailsWith (· ≠ .noSecret) name.shown :=
  .mapError fun _ => nofun

theorem ne_noSecret_ofPublicKey (key : Bytes) : FailsWith (· ≠ .noSecret) (ofPublicKey key format) := by
  refine FailsWith.bind (fun f hf => ?_) fun _ _ => .ok _
  cases noFormat_formatNumber format f hf <;> exact nofun

theorem ne_noSecret_ofMnemonic : FailsWith (· ≠ .noSecret) (ofMnemonic (.text s) name format) := by
  have hwords : FailsWith (· ≠ .noSecret) (phraseWords (.text s)) := by
    unfold phraseWords
    split <;> exact .ok _
  refine hwords.bind fun words _ => ?_
  split
  · exact (ne_noSecret_shown name).bind fun _ _ => .error nofun
  · exact (FailsWith.mapError fun _ => nofun).bind fun _ _ => ne_noSecret_ofPublicKey format _

theorem ne_noSecret_ofSeed : FailsWith (· ≠ .noSecret) (ofSeed (.text s) name format) := by
  have hbytes : FailsWith (· ≠ .noSecret) (seedBytes (.text s) name) := by
    unfold seedBytes
    dsimp only
    split
    · exact .ok _
    · exact (ne_noSecret_shown name).bind fun _ _ => .error nofun
  refine hbytes.bind fun bs _ => ?_
  split
  · exact ne_noSecret_ofPublicKey format _
  · exact (ne_noSecret_shown name).bind fun _ _ => .error nofun

end Account

namespace Wallet

variable {c : Config} {w : World} {outer : Nat} {path : Value} {n : Nat} (name format : Value)

theorem fails_otherwise {made : Except Fault Account} (hmade : FailsWith (Account.Refusal name) made)
    (hne : FailsWith (· ≠ .noSecret) made) (w : World) (n : Nat) :
    ¬ ((report made name).run w n).FindsNoSecret := by
  rintro ⟨f, hresult, -, -, -, htext⟩
  have hrefused : Account.Refusal name f ∧ f ≠ .noSecret := by
    rw [run_report] at hresult
    cases hx : made with
    | error g =>
      rw [hx] at hresult
      cases hresult
      exact ⟨hmade f hx, hne f hx⟩
    | ok a =>
      cases hshown : name.shown with
      | error g =>
        rw [hx, hshown] at hresult
        cases hresult
        exact ⟨Account.refusal_shown name f hshown, Account.ne_noSecret_shown name f hshown⟩
      | ok label =>
        rw [hx, hshown] at hresult
        cases hresult
  -- Of the refusals only this one and that of an empty phrase start with a capital of these two.
  have hinitial : f.initial = some 'D' := by
    rw [Fault.initial_of_text htext]
    rfl
  obtain rfl | ⟨s, rfl⟩ | hother := Account.startsOtherwise_of_refusal name hrefused.1
  · exact hrefused.2 rfl
  · have hempty : (Fault.emptyMnemonic s).initial = some 'M' := by
      rw [Fault.initial_of_text rfl]
      simp
    rw [hempty] at hinitial
    cases hinitial
  · exact hother.1 hinitial

section Loading

variable (h : ((Config.load outer path).run w n).result = .ok c)

include h

theorem setting_secret {v : Variable} (hv : v = .deployerMnemonic ∨ v = .deployerSeed) :
    Table.get? (c.sectionOf "account") v.target.2 = (w.environment.get? v).map .text :=
  (Config.holds_load h (.text _) (.text _)).trans (Config.effective_secret _ _ hv)

theorem secret_or_null {v : Variable} (hv : v = .deployerMnemonic ∨ v = .deployerSeed) :
    (Value.dict (c.sectionOf "account")).fieldOrNull v.target.2 =
      .ok (((w.environment.get? v).map .text).getD .null) := by
  rw [Value.fieldOrNull, setting_secret h hv]

theorem choose_of_mnemonic {raw : String} (hraw : w.environment.get? .deployerMnemonic = some raw) :
    choose (.dict (c.sectionOf "account")) name format = Account.ofMnemonic (.text raw) name format := by
  have hget := setting_secret h (.inl rfl)
  rw [hraw] at hget
  refine choose_of_phrase ((Config.field_sectionOf_iff c "account" "mnemonic").mpr hget) ?_ name format
  simp [Value.isTruthy, Config.isEmpty_of_get? hraw]

theorem choose_of_seed (hnone : w.environment.get? .deployerMnemonic = none) {raw : String}
    (hraw : w.environment.get? .deployerSeed = some raw) :
    choose (.dict (c.sectionOf "account")) name format = Account.ofSeed (.text raw) name format := by
  have hmnemonic := secret_or_null h (.inl rfl)
  have hseed := setting_secret h (.inr rfl)
  rw [hnone] at hmnemonic
  rw [hraw] at hseed
  apply choose_eq_ofSeed name format hmnemonic rfl hseed
  simp [Value.isTruthy, Config.isEmpty_of_get? hraw]

theorem choose_of_neither (hmnemonic : w.environment.get? .deployerMnemonic = none)
    (hseed : w.environment.get? .deployerSeed = none) :
    choose (.dict (c.sectionOf "account")) name format = .error .noSecret := by
  have hnull := secret_or_null h (.inl rfl)
  have hnull' := secret_or_null h (.inr rfl)
  rw [hmnemonic] at hnull
  rw [hseed] at hnull'
  have hmnemonic' : (Value.dict (c.sectionOf "account")).fieldOrNull "mnemonic" = .ok .null := hnull
  have hseed' : (Value.dict (c.sectionOf "account")).fieldOrNull "seed" = .ok .null := hnull'
  rw [choose_eq, hmnemonic', hseed']
  rfl

theorem exists_labels : ∃ name format,
    Config.effective w.environment (Config.documentAt w outer path) "account" "name" = some name ∧
      Config.effective w.environment (Config.documentAt w outer path) "node" "ss58_format" = some format ∧
      Labelled c.toValue name format ∧ ∀ w n,
        (deployer c.toValue).run w n = (report (choose (.dict (c.sectionOf "account")) name format) name).run w n := by
  have hc := Config.complete_of_load h
  have hsection (name : String) (hname : .text name ∈ Config.default.names) :
      c.toValue.field name = .ok (.dict (c.sectionOf name)) := hc.field_toValue hname
  have haccount := hsection "account" (by decide)
  have hnode := hsection "node" (by decide)
  obtain ⟨name, hname⟩ : ∃ v, (Value.dict (c.sectionOf "account")).field "name" = .ok v := hc.exists_field rfl
  obtain ⟨format, hformat⟩ : ∃ v, (Value.dict (c.sectionOf "node")).field "ss58_format" = .ok v :=
    hc.exists_field rfl
  refine ⟨name, format, ?_, ?_, ⟨_, _, haccount, hnode, hformat, hname⟩, fun w n => ?_⟩
  · rw [← Config.holds_load h (.text _) (.text _)]
    exact (Config.field_sectionOf_iff c _ _).mp hname
  · rw [← Config.holds_load h (.text _) (.text _)]
    exact (Config.field_sectionOf_iff c _ _).mp hformat
  · exact run_deployer_of_found w n haccount hnode hformat hname

end Loading

end Wallet

namespace Preflight

variable {w : World} {outer : Nat} {path : Value} {n : Nat} {c : Config}

theorem result_checkEnvironment (w : World) (n : Nat) : (checkEnvironment.run w n).result =
    .ok ((w.environment.get? .deployerMnemonic).isSome || (w.environment.get? .deployerSeed).isSome) := by
  simp only [checkEnvironment, run_bind, run_log, run_world, Outcome.result_after]
  cases w.environment.get? .deployerMnemonic <;> cases w.environment.get? .deployerSeed <;> simp [run_bind]

/-- The check of the environment is not passed just if the account finds no secret; if it is passed, the account
is that of the phrase in its variable, or else of the seed in its own, whatever stands in the file. -/
theorem environment_check_agrees_with_deployer (h : ((Config.load outer path).run w n).result = .ok c)
    (n' : Nat) :
    (∃ passed, (checkEnvironment.run w n').result = .ok passed) ∧
      ((checkEnvironment.run w n').result = .ok false ↔
        ((Wallet.deployer c.toValue).run w n').FindsNoSecret) ∧
      ((checkEnvironment.run w n').result = .ok true → ∃ name format,
        Config.effective w.environment (Config.documentAt w outer path) "account" "name" = some name ∧
          Config.effective w.environment (Config.documentAt w outer path) "node" "ss58_format" =
            some format ∧
          Wallet.Labelled c.toValue name format ∧
          (∀ raw, w.environment.get? .deployerMnemonic = some raw →
            (Wallet.deployer c.toValue).run w n' = (Wallet.fromMnemonic (.text raw) name format).run w n') ∧
          (w.environment.get? .deployerMnemonic = none →
            ∃ raw, w.environment.get? .deployerSeed = some raw ∧
              (Wallet.deployer c.toValue).run w n' =
                (Wallet.fromSeed (.text raw) name format).run w n')) := by
  obtain ⟨name, format, hname, hformat, hlabelled, hrun⟩ := Wallet.exists_labels h
  have hcheck := result_checkEnvironment w n'
  refine ⟨⟨_, hcheck⟩, ?_, fun hpassed => ⟨name, format, hname, hformat, hlabelled, ?_, ?_⟩⟩
  · rw [hcheck, hrun]
    cases hm : w.environment.get? .deployerMnemonic with
    | some raw =>
      rw [Wallet.choose_of_mnemonic name format h hm]
      have hother := Wallet.fails_otherwise name (Account.refusal_ofMnemonic name (.text raw) format)
        (Account.ne_noSecret_ofMnemonic raw name format) w n'
      simp [hother]
    | none =>
      cases hs : w.environment.get? .deployerSeed with
      | some raw =>
        rw [Wallet.choose_of_seed name format h hm hs]
        have hother := Wallet.fails_otherwise name (Account.refusal_ofSeed name (.text raw) format)
          (Account.ne_noSecret_ofSeed raw name format) w n'
        simp [hother]
      | none =>
        rw [Wallet.choose_of_neither name format h hm hs, Wallet.run_report_of_error w n' rfl]
        simp only [Option.isSome_none, Bool.or_self, true_iff]
        exact ⟨_, rfl, rfl, rfl, rfl, rfl⟩
  · intro raw hm
    rw [hrun, Wallet.choose_of_mnemonic name format h hm, Wallet.fromMnemonic]
  · intro hm
    rw [hcheck, hm] at hpassed
    obtain ⟨raw, hs⟩ : ∃ raw, w.environment.get? .deployerSeed = some raw := by
      simpa [Option.isSome_iff_exists] using hpassed
    refine ⟨raw, hs, ?_⟩
    rw [hrun, Wallet.choose_of_seed name format h hm hs, Wallet.fromSeed]

namespace Leaked

def document : Value :=
  .dict [(.text "account", .list [.list [.text "mnemonic", .text "m"], .list [.text "name", .text "B"]])]

def content : Bytes :=
  Text.Utf8.encode "\x7b\"account\":[[\"mnemonic\",\"m\"],[\"name\",\"B\"]]\x7d"

def environment : Environment
  | .deployerSeed => some "ab"
  | _ => none

def world : World :=
  ⟨⟨[([Text.Utf8.encode "deploy.json"], .file content)]⟩, environment, [7], []⟩

def loaded : Config :=
  Config.default.modify "account" fun _ => [(.text "name", .text "B"), (.text "seed", .text "ab")]

theorem documentAt_world : Config.documentAt world 3 (.text "deploy.json") = some document := by
  have hdocument : Config.documentOf 3 content = .ok document := by cbv
  have hcontains : world.files.contains (.text "deploy.json") = .ok true := rfl
  have hread : world.files.read (.text "deploy.json") = .ok content := rfl
  simp only [Config.documentAt, hcontains, hread, bind, Except.bind, hdocument]
  rfl

theorem result_load : ((Config.load 3 (.text "deploy.json")).run world 0).result = .ok loaded := by
  have hlaid : Config.default.overlayDocument document = .ok (Config.default.modify "account" fun _ =>
      [(.text "name", .text "B"), (.text "mnemonic", .text "m")]) := rfl
  obtain ⟨shown, -, hfile⟩ := Config.fromFile_of_overlay documentAt_world hlaid
  rw [Config.result_load, hfile]
  rfl

end Leaked

theorem environment_check_agrees_with_deployer_leaked :
    ((Config.load 3 (.text "deploy.json")).run Leaked.world 0).result = .ok Leaked.loaded ∧
      (checkEnvironment.run Leaked.world 0).result = .ok true ∧
      (Wallet.deployer Leaked.loaded.toValue).run Leaked.world 0 =
        (Wallet.fromSeed (.text "ab") (.text "B") (.int 137)).run Leaked.world 0 := by
  have hload := Leaked.result_load
  have hpassed : (checkEnvironment.run Leaked.world 0).result = .ok true :=
    result_checkEnvironment Leaked.world 0
  obtain ⟨-, -, hagree⟩ := environment_check_agrees_with_deployer hload 0
  obtain ⟨name, format, hname, hformat, -, -, hseed⟩ := hagree hpassed
  rw [Leaked.documentAt_world] at hname hformat
  cases hname
  cases hformat
  obtain ⟨raw, hraw, hrun⟩ := hseed rfl
  cases hraw
  exact ⟨hload, hpassed, hrun⟩

end Preflight

end ProgramDeploy
