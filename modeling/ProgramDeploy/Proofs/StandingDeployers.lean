import ProgramDeploy.Console
import ProgramDeploy.Proofs.ConfigEdits
import ProgramDeploy.Proofs.ConfigLoading
import ProgramDeploy.Proofs.DeployerSettings
import ProgramDeploy.Proofs.DeploymentTerms

namespace ProgramDeploy

open ProgramDeploy.Action

namespace Held

inductive Is (config : Value) (name : String) : Held → Value → Prop where
  | live {v : Value} (found : config.field name = .ok v) : Is config name .live v
  | kept (v : Value) : Is config name (.kept v) v

def follow (h : Held) (e : Edit) (config : Value) (name : String) : Held :=
  if e.replaces name then h.keep (Console.sectionOf config name) else h

def Follows (h : Held) (name : String) (es : List Edit) (v v' : Value) : Prop :=
  match h with
  | live => Edit.applyAll (Edit.inside name es) v = .ok v'
  | kept _ => v' = v

variable {config v : Value} {name : String} {h : Held}

theorem Is.value_eq (hv : h.Is config name v) : h.value (Console.sectionOf config name) = v := by
  cases hv with
  | live found => simp [value, Console.sectionOf, found]
  | kept v => rfl

theorem Follows.nil (h : Held) (name : String) (v : Value) : h.Follows name [] v v := by
  cases h <;> rfl

theorem Follows.live_unique {es es' : List Edit} {u u' : Value}
    (hes : Edit.inside name es = Edit.inside name es') (h : live.Follows name es v u)
    (h' : live.Follows name es' v u') : u = u' := by
  simp only [Follows] at h h'
  rw [hes, h'] at h
  exact (Except.ok.inj h).symm

theorem kept_follow (v : Value) (e : Edit) (config : Value) (name : String) :
    (kept v).follow e config name = kept v := by
  unfold follow
  split <;> rfl

theorem Is.follow {t : Table} {e : Edit} (hv : h.Is (.dict t) name v) (he : e.apply (.dict t) = .ok config) :
    ∃ u, (h.follow e (.dict t) name).Is config name u ∧
      ∀ es v', (h.follow e (.dict t) name).Follows name es u v' → h.Follows name (e :: es) v v' := by
  cases hreplaces : e.replaces name with
  | true =>
    have hkept : h.follow e (.dict t) name = .kept v := by
      rw [Held.follow, if_pos hreplaces, keep, hv.value_eq]
    rw [hkept]
    refine ⟨v, .kept v, fun es v' hfollows => ?_⟩
    cases hv with
    | kept v => exact hfollows
    | live found =>
      simp only [Follows] at hfollows ⊢
      rw [Edit.inside, if_pos hreplaces, hfollows]
      rfl
  | false =>
    have hsame : h.follow e (.dict t) name = h := by simp [Held.follow, hreplaces]
    rw [hsame]
    cases hv with
    | kept v => exact ⟨v, .kept v, fun es v' hfollows => hfollows⟩
    | live found =>
      cases hunder : e.isUnder name with
      | false =>
        have hfound := Edit.field_of_apply_aside he hunder
        refine ⟨v, .live (hfound.trans found), fun es v' hfollows => ?_⟩
        simpa [Follows, Edit.inside, hreplaces, hunder] using hfollows
      | true =>
        obtain ⟨u, u', hu, hinner, hu'⟩ := Edit.exists_inner_of_apply he hunder hreplaces
        obtain rfl : u = v := Except.ok.inj (hu.symm.trans found)
        refine ⟨u', .live hu', fun es v' hfollows => ?_⟩
        simp only [Follows, Edit.inside, hreplaces, hunder, Bool.false_eq_true, if_false, if_true]
        exact bind_eq_ok_iff.mpr ⟨u', hinner, hfollows⟩

end Held

namespace Console

def after (s : State) (steps : List Step) : State :=
  steps.foldl (fun s t => (step s t).2) s

theorem run_append (s : State) (before steps : List Step) :
    run s (before ++ steps) = run s before ++ run (after s before) steps := by
  induction before generalizing s with
  | nil => rfl
  | cons t before ih =>
    show (step s t).1 :: run (step s t).2 (before ++ steps) = _
    rw [ih]
    rfl

def Step.isNewDeployer : Step → Bool
  | newDeployer => true
  | _ => false

def Step.isLocal : Step → Bool
  | operate _ (.loadConfig _) | newClient _ | showConfig | editConfig .. | writeFile .. | addDirectory _
  | deleteFile _ | setEnvironment _ => true
  | _ => false

def loads (s : State) : Step → Bool
  | .operate entropy (.loadConfig path) =>
    ((Config.load 0 path).run ⟨s.files, s.environment, entropy, s.network⟩ s.opened).result.toOption.isSome
  | _ => false

def made (s : State) : Step → List Edit
  | .editConfig path change => if (s.config.edit change path).toOption.isSome then [⟨path, change⟩] else []
  | _ => []

def edits (s : State) : List Step → List Edit
  | [] => []
  | t :: steps => if loads s t then [] else made s t ++ edits (step s t).2 steps

inductive Moves (s : State) (t : Step) : State → Prop where
  | loads (config : Value) (opened : Nat) (loaded : loads s t = true) :
      Moves s t (replaceConfig { s with opened } config)
  | edits {path : List Value} {change : Value.Change} {config : Value}
      (edited : (⟨path, change⟩ : Edit).apply s.config = .ok config) (aside : Console.loads s t = false)
      (one : made s t = [⟨path, change⟩]) : Moves s t (editConfig s path config)
  | keeps {s' : State} (config : s'.config = s.config) (deployer : s'.deployer = s.deployer)
      (aside : Console.loads s t = false) (none : made s t = []) : Moves s t s'

theorem moves {s : State} {t : Step} (h : t.isNewDeployer = false) : Moves s t (step s t).2 := by
  cases t with
  | newDeployer => cases h
  | editConfig path change =>
    cases hedit : s.config.edit change path with
    | ok config =>
      have hstep : (step s (.editConfig path change)).2 = editConfig s path config := by
        simp [step, hedit]
      rw [hstep]
      exact .edits hedit rfl (by simp [made, hedit, Except.toOption])
    | error f =>
      have hstep : (step s (.editConfig path change)).2 = s := by simp [step, hedit]
      rw [hstep]
      exact .keeps rfl rfl rfl (by simp [made, hedit, Except.toOption])
  | operate entropy operation =>
    cases operation with
    | loadConfig path =>
      cases hload : ((Config.load 0 path).run ⟨s.files, s.environment, entropy, s.network⟩ s.opened).result with
      | ok c =>
        have hperform := run_bind_of_ok _ _ hload fun c => pure (Reply.value c.toValue)
        have hstep : (step s (.operate entropy (.loadConfig path))).2 =
            replaceConfig { s with opened := ((Config.load 0 path).run
              ⟨s.files, s.environment, entropy, s.network⟩ s.opened).opened } c.toValue := by
          simp [step, perform, hperform, afterOperation]
        rw [hstep]
        exact .loads _ _ (by simp [loads, hload, Except.toOption])
      | error f =>
        have hperform := run_bind_of_error _ _ hload fun c => pure (Reply.value c.toValue)
        refine .keeps ?_ ?_ ?_ rfl
        · simp [step, perform, hperform, afterOperation]
        · simp [step, perform, hperform, afterOperation]
        · simp [loads, hload, Except.toOption]
    | _ => exact .keeps rfl rfl rfl rfl
  | _ => exact .keeps rfl rfl rfl rfl

theorem editConfig_deployer (s : State) (path : List Value) (change : Value.Change) (config : Value) :
    (editConfig s path config).deployer = s.deployer.map fun held =>
      { held with
        program := held.program.follow ⟨path, change⟩ s.config "program"
        submission := held.submission.follow ⟨path, change⟩ s.config "submission" } := by
  match path with
  | [] | [_] | _ :: _ :: _ => rfl

def State.standing (s : State) : Option Deployer :=
  s.deployer.map (Console.standing s.config)

structure Attached (s : State) (d : Deployer) (program submission : Held) : Prop where
  deployer : s.deployer = some ⟨d.client, .live, program, submission⟩
  config : s.config = d.config
  isTable : ∃ t : Table, d.config = .dict t
  program : program.Is d.config "program" d.program
  submission : submission.Is d.config "submission" d.submission

structure Becomes (program submission : Held) (es : List Edit) (d d' : Deployer) : Prop where
  client : d'.client = d.client
  config : Edit.applyAll es d.config = .ok d'.config
  program : program.Follows "program" es d.program d'.program
  submission : submission.Follows "submission" es d.submission d'.submission

variable {s s' : State} {d d' : Deployer} {program submission : Held}

theorem Attached.standing_eq (h : Attached s d program submission) : s.standing = some d := by
  have hprogram : program.value (sectionOf s.config "program") = d.program := by
    rw [h.config]
    exact h.program.value_eq
  have hsubmission : submission.value (sectionOf s.config "submission") = d.submission := by
    rw [h.config]
    exact h.submission.value_eq
  rw [State.standing, h.deployer]
  simp only [Option.map_some, Console.standing, hprogram, hsubmission]
  rw [Held.value, h.config]

theorem Becomes.nil (program submission : Held) (d : Deployer) : Becomes program submission [] d d :=
  ⟨rfl, rfl, .nil _ _ _, .nil _ _ _⟩

theorem standing_replaceConfig (s : State) (opened : Nat) (config : Value) :
    (replaceConfig { s with opened } config).deployer = s.standing.map fun d =>
      ⟨d.client, .kept d.config, .kept d.program, .kept d.submission⟩ := by
  cases h : s.deployer <;> simp [replaceConfig, State.standing, Console.standing, Held.keep, h]

theorem Attached.edit (h : Attached s d program submission) {path : List Value} {change : Value.Change}
    {config : Value} (hedit : (⟨path, change⟩ : Edit).apply s.config = .ok config) :
    ∃ d' program' submission', Attached (editConfig s path config) d' program' submission' ∧
      ∀ es d'', Becomes program' submission' es d' d'' →
        Becomes program submission (⟨path, change⟩ :: es) d d'' := by
  obtain ⟨t, ht⟩ := h.isTable
  rw [h.config, ht] at hedit
  obtain ⟨t', rfl, -⟩ := Edit.exists_table_of_apply hedit "program"
  have hprogram := h.program
  have hsubmission := h.submission
  rw [ht] at hprogram hsubmission
  obtain ⟨p, hp, hp'⟩ := hprogram.follow hedit
  obtain ⟨q, hq, hq'⟩ := hsubmission.follow hedit
  refine ⟨⟨d.client, .dict t', p, q⟩, _, _, ⟨?_, rfl, ⟨t', rfl⟩, hp, hq⟩, fun es d'' hbecomes => ?_⟩
  · rw [editConfig_deployer s path change, h.deployer, h.config, ht]
    rfl
  · constructor
    · exact hbecomes.client
    · rw [ht]
      exact bind_eq_ok_iff.mpr ⟨_, hedit, hbecomes.config⟩
    · exact hp' es _ hbecomes.program
    · exact hq' es _ hbecomes.submission

theorem standing_after_of_kept {client : Option Client} {c p q : Value}
    (hs : s.deployer = some ⟨client, .kept c, .kept p, .kept q⟩) {steps : List Step}
    (hsteps : ∀ t ∈ steps, t.isNewDeployer = false) : (after s steps).standing = some ⟨client, c, p, q⟩ := by
  induction steps generalizing s with
  | nil =>
    show s.standing = _
    rw [State.standing, hs]
    rfl
  | cons t steps ih =>
    have hmoves := moves (s := s) (hsteps t (.head _))
    show (after (step s t).2 steps).standing = _
    generalize (step s t).2 = s' at hmoves
    apply ih _ fun t' ht' => hsteps t' (.tail _ ht')
    cases hmoves with
    | loads config opened loaded =>
      rw [standing_replaceConfig, State.standing, hs]
      rfl
    | @edits path change config edited aside one =>
      rw [editConfig_deployer s path change, hs, Option.map_some, Held.kept_follow, Held.kept_follow]
    | keeps config deployer aside none => rwa [deployer]

theorem Attached.standing_after (h : Attached s d program submission) {steps : List Step}
    (hsteps : ∀ t ∈ steps, t.isNewDeployer = false) :
    ∃ d', (after s steps).standing = some d' ∧ Becomes program submission (edits s steps) d d' := by
  -- A step leaves the deployer attached, or out of reach for good once another configuration is loaded.
  induction steps generalizing s d program submission with
  | nil => exact ⟨d, h.standing_eq, .nil _ _ _⟩
  | cons t steps ih =>
    have hrest : ∀ t' ∈ steps, t'.isNewDeployer = false := fun t' ht' => hsteps t' (.tail _ ht')
    have hmoves := moves (s := s) (hsteps t (.head _))
    show ∃ d', (after (step s t).2 steps).standing = some d' ∧ _
    rw [edits]
    generalize (step s t).2 = s' at hmoves
    cases hmoves with
    | loads config opened loaded =>
      rw [if_pos loaded]
      have hkept : (replaceConfig { s with opened } config).deployer =
          some ⟨d.client, .kept d.config, .kept d.program, .kept d.submission⟩ := by
        rw [standing_replaceConfig, h.standing_eq]
        rfl
      exact ⟨d, standing_after_of_kept hkept hrest, .nil _ _ _⟩
    | edits edited aside one =>
      obtain ⟨d₁, program₁, submission₁, hattached, hbecomes⟩ := h.edit edited
      obtain ⟨d', hd', hd''⟩ := ih hattached hrest
      rw [if_neg (by simp [aside]), one]
      exact ⟨d', hd', hbecomes _ _ hd''⟩
    | keeps config deployer aside none =>
      have hattached : Attached s' d program submission :=
        { h with deployer := deployer.trans h.deployer, config := config.trans h.config }
      rw [if_neg (by simp [aside]), none]
      exact ih hattached hrest

def heeded (es : List Edit) : List Edit :=
  Edit.heeding "submission" (Edit.heeding "program" es)

theorem inside_program_heeded (es : List Edit) :
    Edit.inside "program" (heeded es) = Edit.inside "program" es := by
  rw [heeded, Edit.inside_heeding_of_ne (by decide), Edit.inside_heeding_self]

theorem inside_submission_heeded (es : List Edit) :
    Edit.inside "submission" (heeded es) = Edit.inside "submission" es := by
  rw [heeded, Edit.inside_heeding_self, Edit.inside_heeding_of_ne (by decide)]

theorem filter_heeded {name : String} (hprogram : name ≠ "program") (hsubmission : name ≠ "submission")
    (es : List Edit) : (heeded es).filter (Edit.isUnder name) = es.filter (Edit.isUnder name) := by
  rw [heeded, Edit.filter_heeding hsubmission, Edit.filter_heeding hprogram]

theorem Becomes.agrees {d₁ d₂ : Deployer} {es es' : List Edit} (htable : ∃ t : Table, d.config = .dict t)
    (h : Becomes .live .live es d d₁) (h' : Becomes .live .live es' d d₂) (hes : heeded es = heeded es') :
    d₁.Agrees d₂ := by
  obtain ⟨t, ht⟩ := htable
  have hprogram : d₁.program = d₂.program := by
    apply Held.Follows.live_unique _ h.program h'.program
    rw [← inside_program_heeded, hes, inside_program_heeded]
  have hsubmission : d₁.submission = d₂.submission := by
    apply Held.Follows.live_unique _ h.submission h'.submission
    rw [← inside_submission_heeded, hes, inside_submission_heeded]
  have hfield (name : String) (hp : name ≠ "program") (hq : name ≠ "submission") :
      d₁.config.field name = d₂.config.field name := by
    have hc := h.config
    have hc' := h'.config
    rw [ht] at hc hc'
    refine Edit.field_eq_of_applyAll hc hc' ?_
    rw [← filter_heeded hp hq, hes, filter_heeded hp hq]
  constructor
  · rw [h.client, h'.client]
  · rw [hprogram]
  · rw [hprogram]
  · rw [hprogram]
  · rw [hsubmission]
  · rw [hsubmission]
  · rw [hfield "account" (by decide) (by decide)]
  · rw [hfield "node" (by decide) (by decide)]

def answer (d : Deployer) (code initPayload : Value) (w : World) (opened : Nat) : Response :=
  let o := (d.create code initPayload).run w opened
  ⟨o.result.map ofDeployment, o.trace⟩

theorem step_create (h : s.standing = some d) (entropy : Entropy) (given : Option Value)
    (code initPayload : Value) :
    (step s (.operate entropy (.createProgram given code initPayload))).1 =
      answer d code initPayload ⟨s.files, s.environment, entropy, s.network⟩ s.opened := by
  have hfor : deployerFor s given = .ok d := by
    obtain ⟨held, hheld, rfl⟩ := Option.map_eq_some_iff.mp h
    rw [deployerFor, hheld]
  have hperform : perform s (.createProgram given code initPayload) =
      ofDeployment <$> d.create code initPayload := by
    simp only [perform, hfor]
    rfl
  simp only [step, hperform, run_map, answer]

theorem opened_performLoad (s : State) (path : Value) (w : World) (n : Nat) :
    ((perform s (.loadConfig path)).run w n).opened = n := by
  have hload : ((Config.load 0 path).run w n).opened = n := by
    rw [Config.run_load]
    cases Config.fromFile w.files 0 path <;> rfl
  have hperform : perform s (.loadConfig path) = (fun c => Reply.value c.toValue) <$> Config.load 0 path := rfl
  rw [hperform, run_map]
  exact hload

theorem step_of_isLocal (s : State) {t : Step} (h : t.isLocal = true) :
    (step s t).2.network = s.network ∧ (step s t).2.opened = s.opened := by
  cases t with
  | operate entropy operation =>
    cases operation with
    | loadConfig path =>
      have hopened := opened_performLoad s path ⟨s.files, s.environment, entropy, s.network⟩ s.opened
      simp only [step, afterOperation]
      split <;> exact ⟨rfl, hopened⟩
    | _ => cases h
  | editConfig path change =>
    simp only [step]
    split <;> exact ⟨rfl, rfl⟩
  | newDeployer => cases h
  | setNetwork network => cases h
  | _ => exact ⟨rfl, rfl⟩

theorem after_of_isLocal (s : State) {steps : List Step} (h : ∀ t ∈ steps, t.isLocal = true) :
    (after s steps).network = s.network ∧ (after s steps).opened = s.opened := by
  induction steps generalizing s with
  | nil => exact ⟨rfl, rfl⟩
  | cons t steps ih =>
    have hstep := step_of_isLocal s (h t (.head _))
    have hsteps := ih (step s t).2 fun t' ht' => h t' (.tail _ ht')
    exact ⟨hsteps.1.trans hstep.1, hsteps.2.trans hstep.2⟩

def answerBehind (s : State) (steps : List Step) (entropy : Entropy) (given : Option Value)
    (code initPayload : Value) : Option Response :=
  (run s (.newDeployer :: steps ++ [.operate entropy (.createProgram given code initPayload)])).getLast?

theorem answerBehind_eq {made : State} (hmade : (step s .newDeployer).2 = made) (hs' : after made steps = s')
    (h : s'.standing = some d') (hagrees : d.Agrees d') (files : Files) (environment : Environment)
    (entropy : Entropy) (given : Option Value) (code initPayload : Value) :
    answerBehind s steps entropy given code initPayload =
      some (answer d code initPayload ⟨files, environment, entropy, s'.network⟩ s'.opened) := by
  have hafter : after s (.newDeployer :: steps) = s' := by
    rw [← hs', ← hmade]
    rfl
  have hcreate := step_create h entropy given code initPayload
  have hrun : (d.create code initPayload).run ⟨files, environment, entropy, s'.network⟩ s'.opened =
      (d'.create code initPayload).run ⟨s'.files, s'.environment, entropy, s'.network⟩ s'.opened :=
    hagrees.run_create_eq code initPayload (by rfl) (by rfl) _
  rw [answerBehind, run_append, hafter]
  show (_ ++ [(step s' (.operate entropy (.createProgram given code initPayload))).1]).getLast? = _
  rw [List.getLast?_concat, hcreate, answer, answer, hrun]

/-- A deployer takes the settings of a program and of its submission from the two sections that it was made
with. The edits made inside them reach it until they are replaced, or another configuration is loaded, and
nothing else does. The account and the format of addresses are those that its configuration has in the end.
Its calls are those of these terms, and are made as soon as nothing in them stops a deployment. -/
theorem standing_deployer_follows_its_sections {s₀ : State} {program₀ submission₀ : Value}
    (hprogram : s₀.config.field "program" = .ok program₀)
    (hsubmission : s₀.config.field "submission" = .ok submission₀) {steps steps' : List Step}
    (hsteps : ∀ t ∈ steps, t.isNewDeployer = false) (hsteps' : ∀ t ∈ steps', t.isNewDeployer = false) :
    let made := (step s₀ .newDeployer).2
    let es := edits made steps
    let s := after made steps
    let s' := after made steps'
    (∃ c program submission, Edit.applyAll es s₀.config = .ok c ∧
      Edit.applyAll (Edit.inside "program" es) program₀ = .ok program ∧
      Edit.applyAll (Edit.inside "submission" es) submission₀ = .ok submission ∧
      (∀ seen : Deployer, seen.Agrees ⟨s₀.client, c, program, submission⟩ →
        ∀ files environment entropy given code initPayload,
          answerBehind s₀ steps entropy given code initPayload =
            some (answer seen code initPayload ⟨files, environment, entropy, s.network⟩ s.opened)) ∧
      ∀ entropy given code initPayload, ∃ r, answerBehind s₀ steps entropy given code initPayload = some r ∧
        Deployer.GoesBy ⟨s₀.client, c, program, submission⟩ r.trace ∧
        ∀ t : Terms, t.Of ⟨s₀.client, c, program, submission⟩ → t.IsSound →
          ∀ bs payload, code.isTruthy = true → code.toBytes = .ok bs → Payload.encode initPayload = .ok payload →
            (s.network.session s.opened).Submits →
              ∃ fields, fields <+: [.isSuccess, .errorMessage, .triggeredEvents] ∧
                r.trace.filter Event.isCall =
                  t.calls bs (Program.drawSalt entropy) payload ++ fields.map .read ++ [.close]) ∧
    (heeded es = heeded (edits made steps') → s.network = s'.network → s.opened = s'.opened →
      ∀ entropy given code initPayload, answerBehind s₀ steps entropy given code initPayload =
        answerBehind s₀ steps' entropy given code initPayload) ∧
    ((∀ t ∈ steps, t.isLocal = true) → s.network = s₀.network ∧ s.opened = s₀.opened) ∧
    ((∀ t ∈ steps', t.isLocal = true) → s'.network = s₀.network ∧ s'.opened = s₀.opened) := by
  have hmade : (step s₀ .newDeployer).2 =
      { s₀ with deployer := some ⟨s₀.client, .live, .live, .live⟩ } := by
    simp [step, Deployer.ofConfig, hprogram, hsubmission, bind, Except.bind, pure, Except.pure]
  have htable : ∃ t : Table, s₀.config = .dict t := by
    cases hconfig : s₀.config with
    | dict t => exact ⟨t, rfl⟩
    | _ =>
      rw [hconfig] at hprogram
      cases hprogram
  have hattached : Attached (step s₀ .newDeployer).2 ⟨s₀.client, s₀.config, program₀, submission₀⟩ .live .live := by
    rw [hmade]
    exact ⟨rfl, rfl, htable, .live hprogram, .live hsubmission⟩
  generalize hm : (step s₀ .newDeployer).2 = m at hmade hattached
  obtain ⟨d, hd, hbecomes⟩ := hattached.standing_after hsteps
  obtain ⟨d', hd', hbecomes'⟩ := hattached.standing_after hsteps'
  have hlocal {ts : List Step} (h : ∀ t ∈ ts, t.isLocal = true) :
      (after m ts).network = s₀.network ∧ (after m ts).opened = s₀.opened := by
    have hafter := after_of_isLocal m h
    have hnetwork : m.network = s₀.network := by rw [hmade]
    have hopened : m.opened = s₀.opened := by rw [hmade]
    exact ⟨hafter.1.trans hnetwork, hafter.2.trans hopened⟩
  intro made es s s'
  refine ⟨⟨d.config, d.program, d.submission, hbecomes.config, hbecomes.program, hbecomes.submission, ?_, ?_⟩,
    ?_, hlocal, hlocal⟩
  · intro seen hseen files environment entropy given code initPayload
    have hseen' : seen.Agrees d := { hseen with client := hseen.client.trans hbecomes.client.symm }
    exact answerBehind_eq hm rfl hd hseen' files environment entropy given code initPayload
  · intro entropy given code initPayload
    have hclient : d.client = s₀.client := hbecomes.client
    rw [← hclient]
    refine ⟨_, answerBehind_eq hm rfl hd (.refl d) s.files s.environment entropy given code initPayload,
      d.create_goesBy code initPayload _ _, ?_⟩
    intro t ht hsound bs payload hcode hbytes hpayload hsubmits
    exact Deployer.calls_create_of_terms ht hsound hcode hbytes hpayload hsubmits
  · intro hes (hnetwork : (after m steps).network = (after m steps').network)
      (hopened : (after m steps).opened = (after m steps').opened) entropy given code initPayload
    have hagrees := hbecomes.agrees htable hbecomes' hes
    rw [answerBehind_eq hm rfl hd (.refl d) s.files s.environment,
      answerBehind_eq hm rfl hd' hagrees s.files s.environment]
    simp only [hnetwork, hopened]

def namedConfig (name : String) (gasLimit : Int) : Value :=
  .dict [("account", .dict [("name", .text name), ("seed", .text (Hex.marked (List.replicate 32 1)))]),
    ("node", .dict [("ss58_format", .int 137)]),
    ("program", .dict [("gas_limit", .int gasLimit), ("value", .int 0)]),
    ("submission", .dict [("wait_for_inclusion", .bool true), ("wait_for_finalization", .bool false)])]

def configured : State :=
  ⟨.empty, .empty, [], 0, namedConfig "Anme" 1000, some .default, none⟩

def heededSteps : List Step :=
  [.editConfig [.text "program", .text "gas_limit"] (.assign (.int 5)),
    .editConfig [.text "account", .text "name"] (.assign (.text "Berta"))]

def ignoredSteps : List Step :=
  [.editConfig [.text "program"] (.assign (.dict [])),
    .editConfig [.text "program", .text "gas_limit"] (.assign (.int 6)),
    .editConfig [.text "submission"] .delete,
    .operate [] (.loadConfig (.text "config.yaml")),
    .editConfig [.text "program", .text "value"] (.assign (.int 7))]

def editedConfig : Value :=
  .dict [("account", .dict [("name", .text "Berta"), ("seed", .text (Hex.marked (List.replicate 32 1)))]),
    ("node", .dict [("ss58_format", .int 137)]), ("program", .dict [("gas_limit", .int 6)])]

theorem exists_derive_editedConfig : ∃ made, Wallet.derive editedConfig = .ok made := by
  have hlength : (List.replicate 32 (1 : UInt8)).length = Secret.size := rfl
  have hnumber : Account.formatNumber (.int 137) = .ok 137 := rfl
  have hmnemonic : (Value.dict [("name", .text "Berta"),
      ("seed", .text (Hex.marked (List.replicate 32 1)))]).fieldOrNull "mnemonic" = .ok .null := rfl
  exact Wallet.exists_derive rfl rfl rfl rfl hmnemonic rfl rfl hlength hnumber rfl

theorem standing_deployer_follows_its_sections_configured :
    (∀ entropy given code initPayload,
      answerBehind configured (heededSteps ++ ignoredSteps) entropy given code initPayload =
        answerBehind configured heededSteps entropy given code initPayload) ∧
    (∃ submission, ∀ files environment entropy given code initPayload,
      answerBehind configured (heededSteps ++ ignoredSteps) entropy given code initPayload =
        some (answer ⟨some .default, editedConfig, .dict [("gas_limit", .int 5), ("value", .int 0)], submission⟩
          code initPayload ⟨files, environment, entropy, []⟩ 0)) ∧
    ∀ entropy given, ∃ r signer name, ∃ fields : List ReceiptField,
      answerBehind configured (heededSteps ++ ignoredSteps) entropy given (.bytes [0]) .null = some r ∧
      Wallet.derive editedConfig = .ok (signer, name) ∧
      r.trace.filter Event.isCall =
        [.connect Client.defaultProvider Account.networkFormat,
          .compose ⟨Hex.marked [0], Hex.marked (Program.drawSalt entropy), Hex.marked [], .int 5, .int 0, none⟩,
          .sign signer, .submit (.bool true) (.bool false)] ++ fields.map .read ++ [.close] := by
  have hprogram : configured.config.field "program" = .ok (.dict [("gas_limit", .int 1000), ("value", .int 0)]) := rfl
  have hsubmission : configured.config.field "submission" =
      .ok (.dict [("wait_for_inclusion", .bool true), ("wait_for_finalization", .bool false)]) := rfl
  have hsteps : ∀ t ∈ heededSteps ++ ignoredSteps, t.isNewDeployer = false := by decide
  have hsteps' : ∀ t ∈ heededSteps, t.isNewDeployer = false := by decide
  obtain ⟨⟨c, p, q, hc, hp, hq, hanswer, hterms⟩, hsame, hlocal, -⟩ :=
    standing_deployer_follows_its_sections hprogram hsubmission hsteps hsteps'
  obtain ⟨hnetwork, hopened⟩ := hlocal (by decide)
  obtain rfl : c = editedConfig := (Except.ok.inj hc).symm
  cases hp
  cases hq
  refine ⟨hsame rfl rfl rfl, ?_, fun entropy given => ?_⟩
  · have h := hanswer _ (.refl _)
    rw [hnetwork, hopened] at h
    exact ⟨_, h⟩
  · obtain ⟨made, hmade⟩ := exists_derive_editedConfig
    obtain ⟨r, hr, -, hcalls⟩ := hterms entropy given (.bytes [0]) .null
    rw [hnetwork, hopened] at hcalls
    have hshort (n : Int) (h : n.natAbs < Nat.pow 10 1) : Numeral.IsShort n :=
      Numeral.isShort_of_lt (by decide) h
    have hshown : ∀ v ∈ [Client.defaultProvider, .int 5, .int 0], ∃ text, Value.shown v = .ok text := by
      simp only [List.forall_mem_cons, List.not_mem_nil, false_imp_iff, implies_true, and_true]
      exact ⟨⟨_, rfl⟩, Value.shown_int_of_isShort (hshort 5 (by decide)),
        Value.shown_int_of_isShort (hshort 0 (by decide))⟩
    obtain ⟨fields, -, htrace⟩ := hcalls
      ⟨.default, .int 5, .int 0, .null, .bool true, .bool false, made.1⟩
      ⟨rfl, rfl, rfl, rfl, rfl, rfl, made.2, hmade⟩ ⟨rfl, rfl, hshown⟩ [0] [] rfl rfl rfl ⟨rfl, rfl, rfl, rfl⟩
    exact ⟨r, made.1, made.2, fields, hr, hmade, htrace⟩

end Console

end ProgramDeploy
