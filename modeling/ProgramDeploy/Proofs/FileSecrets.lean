import Mathlib
import ProgramDeploy.Proofs.AlikeRuns
import ProgramDeploy.Proofs.ConfigLoading
import ProgramDeploy.Proofs.ConfiguredUpload
import ProgramDeploy.Proofs.OtherFiles

namespace ProgramDeploy

open ProgramDeploy.Action

def Event.warnsOf (key : String) : Event → Bool
  | .log .warning message => ("Ignoring account " ++ key).toList.isPrefixOf message.toList
  | _ => false

def Event.isSecretWarning (e : Event) : Bool :=
  Config.secretKeys.any fun key => e.warnsOf key

namespace Config

def withoutSecrets (d : Config) : Config :=
  d.map fun s => (s.1, if s.1 = .text "account" then s.2.without secretKeys else s.2)

theorem warnsOf_ignoring (shown : String) {key key' : String} (hkey : key ∈ secretKeys)
    (hkey' : key' ∈ secretKeys) : (ignoring shown key).warnsOf key' = decide (key = key') := by
  simp only [secretKeys, List.mem_cons, List.not_mem_nil, or_false] at hkey hkey'
  rcases hkey with rfl | rfl <;> rcases hkey' with rfl | rfl <;>
    simp [ignoring, Event.warnsOf, List.isPrefixOf]

theorem isSecretWarning_ignoring (shown : String) {key : String} (hkey : key ∈ secretKeys) :
    (ignoring shown key).isSecretWarning = true := by
  refine List.any_eq_true.mpr ⟨key, hkey, ?_⟩
  simp [warnsOf_ignoring shown hkey hkey]

theorem dropping_laid {c d : Config} (hc : .text "account" ∈ c.names) (hd : ∀ s ∈ d, s.2.Named) :
    (c.laid d).dropping secretKeys = (c.dropping secretKeys).laid d.withoutSecrets := by
  induction d generalizing c with
  | nil => rfl
  | cons s d ih =>
    obtain ⟨name, entries⟩ := s
    have hentries : entries.Named := hd _ List.mem_cons_self
    let c' := c.modify name fun t => t.merge entries
    have haccount : .text "account" ∈ c'.names := mem_names_modify _ hc
    have hfirst : c'.dropping secretKeys = (c.dropping secretKeys).modify name fun t =>
        t.merge (if name = .text "account" then entries.without secretKeys else entries) := by
      by_cases hname : name = .text "account"
      · subst hname
        rw [if_pos rfl, dropping, dropping, modify_modify, modify_modify]
        simp only [Table.without_merge _ hentries]
      · rw [if_neg hname]
        exact modify_comm _ _ hname hc
    show (laid c' d).dropping secretKeys = _
    rw [ih haccount fun s hs => hd s (List.mem_cons_of_mem _ hs), hfirst]
    rfl

section Loading

variable {w : World} {fs : Files} {outer : Nat} {path : Value} {d d' : Config}

theorem run_load_of_documentAt (h : documentAt w outer path = some d.toValue) (n : Nat) :
    ∃ shown, path.shown = .ok shown ∧ (load outer path).run w n =
      ⟨overrideAll w.environment (default.laid d.withoutSecrets),
        .log .debug ("Loaded config from " ++ shown) ::
          (secretKeys.filter d.givesSecret).map (ignoring shown), n⟩ := by
  obtain ⟨shown, hshown, hfile⟩ := fromFile_of_documentAt h
  refine ⟨shown, hshown, ?_⟩
  have hdropping : (default.laid d).dropping secretKeys = default.laid d.withoutSecrets :=
    dropping_laid (by decide) (plain_of_documentAt h).named
  have hgives : secretKeys.filter (default.laid d).givesSecret = secretKeys.filter d.givesSecret :=
    List.filter_congr fun key hkey => givesSecret_laid h hkey
  rw [run_load, hfile, Outcome.settle_ok, hdropping, hgives, hshown]
  rfl

theorem warns_load_iff (h : documentAt w outer path = some d.toValue) (n : Nat) {key : String}
    (hkey : key ∈ secretKeys) :
    (∃ e ∈ ((load outer path).run w n).trace, e.warnsOf key = true) ↔ d.givesSecret key = true := by
  obtain ⟨shown, -, hrun⟩ := run_load_of_documentAt h n
  rw [hrun]
  constructor
  · rintro ⟨e, he, hwarns⟩
    rcases List.mem_cons.mp he with rfl | he
    · cases hwarns
    · obtain ⟨key', hkey', rfl⟩ := List.mem_map.mp he
      obtain ⟨hsecret, hgiven⟩ := List.mem_filter.mp hkey'
      rw [warnsOf_ignoring shown hsecret hkey, decide_eq_true_eq] at hwarns
      rw [← hwarns]
      exact hgiven
  · intro hgiven
    refine ⟨ignoring shown key, List.mem_cons_of_mem _ ?_, ?_⟩
    · exact List.mem_map_of_mem (List.mem_filter.mpr ⟨hkey, hgiven⟩)
    · rw [warnsOf_ignoring shown hkey hkey, decide_eq_true_eq]

def AgreeButSecrets (w : World) (fs : Files) (outer : Nat) (path : Value) : Prop :=
  ∃ d d' : Config, documentAt w outer path = some d.toValue ∧
    documentAt { w with files := fs } outer path = some d'.toValue ∧
    d.withoutSecrets = d'.withoutSecrets

theorem without_load (h : documentAt w outer path = some d.toValue) (n : Nat) :
    ∃ shown, path.shown = .ok shown ∧ ((load outer path).run w n).without Event.isSecretWarning =
      ⟨overrideAll w.environment (default.laid d.withoutSecrets),
        [.log .debug ("Loaded config from " ++ shown)], n⟩ := by
  obtain ⟨shown, hshown, hrun⟩ := run_load_of_documentAt h n
  refine ⟨shown, hshown, ?_⟩
  have hhidden : ((secretKeys.filter d.givesSecret).map (ignoring shown)).filter
      (fun e => !e.isSecretWarning) = [] := by
    rw [List.filter_eq_nil_iff]
    intro e he
    obtain ⟨key, hkey, rfl⟩ := List.mem_map.mp he
    simp [isSecretWarning_ignoring shown (List.mem_filter.mp hkey).1]
  have hloaded : (Event.log .debug ("Loaded config from " ++ shown)).isSecretWarning = false := rfl
  rw [hrun, Outcome.without, List.filter_cons, hhidden, hloaded]
  rfl

theorem AgreeButSecrets.alike_load (h : AgreeButSecrets w fs outer path) :
    Alike Event.isSecretWarning 0 w { w with files := fs } (load outer path) := by
  obtain ⟨d, d', hd, hd', hagree⟩ := h
  intro n m _
  obtain ⟨shown, hshown, hload⟩ := without_load hd n
  obtain ⟨shown', hshown', hload'⟩ := without_load hd' m
  have hsame : shown' = shown := Except.ok.inj (hshown'.symm.trans hshown)
  obtain ⟨hresult, htrace, hopened⟩ := Outcome.mk.inj hload
  refine ⟨0, Nat.le_refl 0, hopened, ?_⟩
  rw [hload', hresult, htrace, hagree, hsame]
  rfl

theorem artifact_eq {place : List Bytes} (hfiles : w.files.SameBut fs place)
    (hartifact : ∀ v, effective w.environment (documentAt w outer path) "program" "wasm_path" = some v →
      ¬ w.files.LeadsTo v place) {n : Nat} {c : Config} (hc : ((load outer path).run w n).result = .ok c)
    {program artifact : Value} (hprogram : c.toValue.field "program" = .ok program)
    (hpath : program.field "wasm_path" = .ok artifact) :
    fs.contains artifact = w.files.contains artifact ∧ fs.read artifact = w.files.read artifact := by
  have haside := hartifact artifact ((holds_load hc).effective_of_field hprogram hpath)
  exact ⟨hfiles.contains_eq haside, hfiles.read_eq haside⟩

end Loading

end Config

section Running

variable {w : World} {fs : Files} {place : List Bytes}

theorem Run.alike_deploy {outer : Nat} {path : Value}
    (h : Config.AgreeButSecrets w fs (outer + levels) path) (hfiles : w.files.SameBut fs place)
    (hartifact : ∀ v, Config.effective w.environment (Config.documentAt w (outer + levels) path)
      "program" "wasm_path" = some v → ¬ w.files.LeadsTo v place) :
    Alike Event.isSecretWarning 2 w { w with files := fs } (deploy outer path) := by
  apply h.alike_load.before_result
  intro n c hc
  apply (alike_liftM _).before_result
  intro _ program hprogram
  apply (alike_liftM _).before_result
  intro _ artifact hpath
  obtain ⟨hcontains, hread⟩ := Config.artifact_eq hfiles hartifact hc hprogram hpath
  have hload : Alike Event.isSecretWarning 0 w { w with files := fs } (Artifact.load artifact) :=
    Artifact.alike_load hcontains hread
  apply hload.before
  intro code
  apply (alike_liftM _).before
  intro program
  apply (RouterInit.alike_resolve program).before
  intro payload
  apply (alike_liftM _).before
  intro client
  refine Alike.bind (k := 1) (l := 1) client.alike_reportNodeInfo fun _ => ?_
  apply (alike_liftM _).before
  exact fun d => d.alike_create _ payload rfl

theorem Preflight.alike_command
    (h : Config.AgreeButSecrets w fs commandLevels Config.defaultPath)
    (hfiles : w.files.SameBut fs place)
    (hartifact : ∀ v, Config.effective w.environment
      (Config.documentAt w commandLevels Config.defaultPath) "program" "wasm_path" = some v →
        ¬ w.files.LeadsTo v place) :
    Alike Event.isSecretWarning 4 w { w with files := fs } command := by
  apply (alike_heading _).before
  intro _
  apply h.alike_load.before_result
  intro n c hc
  have hchecks : ∀ entry ∈ checks c.toValue, Alike Event.isSecretWarning 1 w { w with files := fs } entry.2 := by
    simp only [checks, List.forall_mem_cons, List.not_mem_nil, false_imp_iff, implies_true, and_true]
    have hsame : Alike Event.isSecretWarning 0 w { w with files := fs } (checkArtifact c.toValue) :=
      alike_checkArtifact fun program path => Config.artifact_eq hfiles hartifact hc
    refine ⟨?_, alike_checkNode _, hsame.mono (Nat.zero_le 1), alike_checkBalance _⟩
    exact Alike.mono (alike_checkEnvironment rfl) (Nat.zero_le 1)
  have hrun := (alike_runChecks _ hchecks).mono (l := 4) (by simp [checks])
  apply hrun.behind
  intro results
  apply (alike_summarize results).before
  grind

end Running

namespace Config

/-- Two files that agree but for the secrets of the account give one configuration, in which secrets are
only those of the variables, and the same runs but for the warnings of what they give themselves. -/
theorem file_secrets_have_no_influence (w : World) (fs : Files) (n : Nat) :
    let w' : World := { w with files := fs }
    (∀ outer path (d d' : Config), documentAt w outer path = some d.toValue →
      documentAt w' outer path = some d'.toValue → d.withoutSecrets = d'.withoutSecrets →
      let o := (load outer path).run w n
      let o' := (load outer path).run w' n
      o.without Event.isSecretWarning = o'.without Event.isSecretWarning ∧
      (∀ key ∈ secretKeys, ((∃ e ∈ o.trace, e.warnsOf key = true) ↔ d.givesSecret key = true) ∧
        ((∃ e ∈ o'.trace, e.warnsOf key = true) ↔ d'.givesSecret key = true)) ∧
      ∀ c, o.result = .ok c → ∀ v, v = .deployerMnemonic ∨ v = .deployerSeed →
        c.setting "account" v.target.2 = (w.environment.get? v).map .text) ∧
    ∀ place, w.files.SameBut fs place →
      (∀ outer path, AgreeButSecrets w fs (outer + Run.levels) path →
        (∀ v, effective w.environment (documentAt w (outer + Run.levels) path) "program" "wasm_path" =
          some v → ¬ w.files.LeadsTo v place) →
        ((Run.deploy outer path).run w n).without Event.isSecretWarning =
          ((Run.deploy outer path).run w' n).without Event.isSecretWarning) ∧
      (AgreeButSecrets w fs Preflight.commandLevels defaultPath →
        (∀ v, effective w.environment (documentAt w Preflight.commandLevels defaultPath) "program"
          "wasm_path" = some v → ¬ w.files.LeadsTo v place) →
        (Preflight.command.run w n).without Event.isSecretWarning =
          (Preflight.command.run w' n).without Event.isSecretWarning) := by
  intro w'
  constructor
  · intro outer path d d' hd hd' hagree o o'
    have hagrees : AgreeButSecrets w fs outer path := ⟨d, d', hd, hd', hagree⟩
    refine ⟨hagrees.alike_load.without_eq rfl n, fun key hkey => ?_, fun c hc v hv => ?_⟩
    · exact ⟨warns_load_iff hd n hkey, warns_load_iff hd' n hkey⟩
    · rw [holds_load hc (.text _) (.text _), effective_secret _ _ hv]
  · intro place hfiles
    constructor
    · intro outer path hagrees hartifact
      exact (Run.alike_deploy hagrees hfiles hartifact).without_eq rfl n
    · intro hagrees hartifact
      exact (Preflight.alike_command hagrees hfiles hartifact).without_eq rfl n

namespace Leak

def leaking : Config :=
  [("account", [(.text "mnemonic", .text "m"), (.text "name", .text "A")])]

def blank : Config :=
  [("account", [(.text "name", .text "A"), (.text "seed", .int 0)])]

def leakingContent : Bytes :=
  Text.Utf8.encode "\x7b\"account\": \x7b\"mnemonic\": \"m\", \"name\": \"A\"\x7d\x7d"

def blankContent : Bytes :=
  Text.Utf8.encode "\x7b\"account\": \x7b\"name\": \"A\", \"seed\": 0\x7d\x7d"

def place : List Bytes :=
  [Text.Utf8.encode "config", Text.Utf8.encode "deploy_config.json"]

def filesWith (content : Bytes) : Files :=
  ⟨[([Text.Utf8.encode "dex.wasm"], .file [0]), ([Text.Utf8.encode "config"], .directory),
    (place, .file content)]⟩

def environment : Environment
  | .wasmPath => some "dex.wasm"
  | .deployerSeed => some (Hex.marked (List.replicate 32 1))
  | _ => none

def world : World :=
  ⟨filesWith leakingContent, environment, [7], []⟩

theorem documentAt_filesWith {content : Bytes} {d : Config} {outer : Nat}
    (h : documentOf outer content = .ok d.toValue) :
    documentAt { world with files := filesWith content } outer defaultPath = some d.toValue := by
  have hcontains : (filesWith content).contains defaultPath = .ok true := rfl
  have hread : (filesWith content).read defaultPath = .ok content := rfl
  simp only [documentAt, hcontains, hread, bind, Except.bind, h]
  rfl

theorem sameBut_filesWith (content content' : Bytes) :
    (filesWith content).SameBut (filesWith content') place := by
  refine ⟨⟨content, rfl⟩, ⟨content', rfl⟩, fun names hnames => ?_⟩
  simp [Files.entry?, filesWith, List.find?_cons, Ne.symm hnames]

theorem agreeButSecrets {outer : Nat} (hleaking : documentOf outer leakingContent = .ok leaking.toValue)
    (hblank : documentOf outer blankContent = .ok blank.toValue) :
    AgreeButSecrets world (filesWith blankContent) outer defaultPath :=
  ⟨leaking, blank, documentAt_filesWith hleaking, documentAt_filesWith hblank, rfl⟩

theorem artifact_aside {outer : Nat} {v : Value}
    (h : effective world.environment (documentAt world outer defaultPath) "program" "wasm_path" = some v) :
    ¬ world.files.LeadsTo v place := by
  cases h
  rintro ⟨bs, hbs, hplace⟩
  cases hbs
  cases hplace

end Leak

theorem leaked_phrase_has_no_influence :
    let w := Leak.world
    let w' := { w with files := Leak.filesWith Leak.blankContent }
    (∃ e ∈ ((load 9 defaultPath).run w 0).trace, e.warnsOf "mnemonic" = true) ∧
      (¬ ∃ e ∈ ((load 9 defaultPath).run w' 0).trace, e.warnsOf "seed" = true) ∧
      ((load 9 defaultPath).run w 0).result = ((load 9 defaultPath).run w' 0).result ∧
      ((Run.deploy 0 defaultPath).run w 0).without Event.isSecretWarning =
        ((Run.deploy 0 defaultPath).run w' 0).without Event.isSecretWarning ∧
      (Preflight.command.run w 0).without Event.isSecretWarning =
        (Preflight.command.run w' 0).without Event.isSecretWarning := by
  intro w w'
  have hleaking : documentOf 9 Leak.leakingContent = .ok Leak.leaking.toValue := by cbv
  have hblank : documentOf 9 Leak.blankContent = .ok Leak.blank.toValue := by cbv
  have hleaking' : documentOf 6 Leak.leakingContent = .ok Leak.leaking.toValue := by cbv
  have hblank' : documentOf 6 Leak.blankContent = .ok Leak.blank.toValue := by cbv
  obtain ⟨hload, hruns⟩ := file_secrets_have_no_influence w w'.files 0
  obtain ⟨halike, hwarns, -⟩ := hload 9 defaultPath Leak.leaking Leak.blank
    (Leak.documentAt_filesWith hleaking) (Leak.documentAt_filesWith hblank) rfl
  obtain ⟨hdeploy, hcheck⟩ := hruns Leak.place (Leak.sameBut_filesWith _ _)
  have hresult : ((load 9 defaultPath).run w 0).result = ((load 9 defaultPath).run w' 0).result :=
    congrArg (fun o => o.result) halike
  refine ⟨(hwarns "mnemonic" (by decide)).1.mpr rfl, ?_, hresult, ?_, ?_⟩
  · intro hseed
    have hgiven := (hwarns "seed" (by decide)).2.mp hseed
    cases hgiven
  · exact hdeploy 0 defaultPath (Leak.agreeButSecrets hleaking hblank) fun v => Leak.artifact_aside
  · exact hcheck (Leak.agreeButSecrets hleaking' hblank') fun v => Leak.artifact_aside

end Config

end ProgramDeploy
