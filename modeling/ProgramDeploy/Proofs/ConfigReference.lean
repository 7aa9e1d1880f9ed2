import Mathlib
import ProgramDeploy.Proofs.ConfigLoading

namespace ProgramDeploy

def Environment.Refuses (env : Environment) (v : Variable) (raw : String) : Prop :=
  v.isNumber = true ∧ env.get? v = some raw ∧ ∃ f, Numeral.read raw.toList = .error f

namespace Config

section Refusing

variable {env : Environment} {c : Config} {v : Variable}

theorem override_eq_error_iff (f : Fault) :
    override env c v = .error f ↔ ∃ raw, env.Refuses v raw ∧ f = .badOverride v.name raw := by
  unfold override Environment.Refuses
  cases hraw : env.get? v with
  | none => simp
  | some raw =>
    have hvalue : overrideValue v raw = .error f ↔
        v.isNumber = true ∧ (∃ g, Numeral.read raw.toList = .error g) ∧ f = .badOverride v.name raw := by
      unfold overrideValue
      cases v.isNumber with
      | false => simp
      | true => cases Numeral.read raw.toList <;> simp [eq_comm]
    have hbind : (overrideValue v raw >>= fun value =>
        (pure (c.modify v.target.1 fun t => t.set (.text v.target.2) value) : Except Fault Config)) = .error f ↔
        overrideValue v raw = .error f := by
      cases overrideValue v raw <;> simp [bind, Except.bind, pure, Except.pure]
    show (overrideValue v raw >>= _) = _ ↔ _
    rw [hbind, hvalue]
    grind

theorem not_refuses_of_override {c' : Config} (h : override env c v = .ok c') (raw : String) :
    ¬ env.Refuses v raw := by
  intro hrefuses
  have herror := (override_eq_error_iff (c := c) _).mpr ⟨raw, hrefuses, rfl⟩
  rw [h] at herror
  cases herror

theorem first_refused_of_error {vs : List Variable} {f : Fault}
    (h : vs.foldlM (override env) c = .error f) :
    ∃ before v after raw, vs = before ++ v :: after ∧ env.Refuses v raw ∧
      (∀ v' ∈ before, ∀ raw', ¬ env.Refuses v' raw') ∧ f = .badOverride v.name raw := by
  induction vs generalizing c with
  | nil => cases h
  | cons v vs ih =>
    rw [List.foldlM_cons] at h
    cases hv : override env c v with
    | error g =>
      rw [hv] at h
      cases h
      obtain ⟨raw, hrefuses, rfl⟩ := (override_eq_error_iff f).mp hv
      exact ⟨[], v, vs, raw, rfl, hrefuses, by simp, rfl⟩
    | ok c' =>
      rw [hv] at h
      obtain ⟨before, v', after, raw, rfl, hrefuses, hbefore, rfl⟩ := ih h
      refine ⟨v :: before, v', after, raw, rfl, hrefuses, ?_, rfl⟩
      exact List.forall_mem_cons.mpr ⟨not_refuses_of_override hv, hbefore⟩

theorem not_refuses_of_ok {vs : List Variable} {c' : Config} (h : vs.foldlM (override env) c = .ok c') :
    ∀ v ∈ vs, ∀ raw, ¬ env.Refuses v raw := by
  induction vs generalizing c with
  | nil => simp
  | cons v vs ih =>
    rw [List.foldlM_cons] at h
    obtain ⟨c₁, hv, hrest⟩ := bind_eq_ok_iff.mp h
    exact List.forall_mem_cons.mpr ⟨not_refuses_of_override hv, ih hrest⟩

end Refusing

section Plain

theorem Plain.modify {c : Config} (h : c.Plain) (name : Key) {f : Table → Table}
    (hf : ∀ t : Table, t.Named → (f t).Named) : Plain (c.modify name f) := by
  constructor
  · rw [names_modify]
    split
    · exact h.distinct
    · rename_i hname
      rw [List.nodup_append]
      refine ⟨h.distinct, by simp, fun a ha b hb => ?_⟩
      rw [List.mem_singleton.mp hb]
      rintro rfl
      exact hname ha
  · intro s hs
    rcases mem_modify hs with hs | ⟨t, rfl, rfl | ht⟩
    · exact h.named s hs
    · exact hf [] .nil
    · exact hf t (h.named _ ht)

theorem Plain.laid {c d : Config} (hc : c.Plain) (hd : ∀ s ∈ d, s.2.Named) : Plain (c.laid d) := by
  induction d generalizing c with
  | nil => exact hc
  | cons s d ih =>
    have hs : s.2.Named := hd s List.mem_cons_self
    exact ih (hc.modify s.1 fun _ ht => Table.named_merge ht hs.names)
      fun u hu => hd u (List.mem_cons_of_mem _ hu)

theorem plain_default : Plain default := by
  refine ⟨by decide, ?_⟩
  simp only [default, List.forall_mem_cons, List.not_mem_nil, false_imp_iff, implies_true, and_true]
  exact ⟨⟨by simp, by simp⟩, ⟨by simp, by simp⟩, ⟨by simp, by simp⟩, ⟨by simp, by simp⟩⟩

theorem override_eq_ok {env : Environment} {c c' : Config} {v : Variable} (h : override env c v = .ok c') :
    c' = c ∨ ∃ value, c' = c.modify v.target.1 fun t => t.set (.text v.target.2) value := by
  unfold override at h
  split at h
  · exact .inl (Except.ok.inj h).symm
  · obtain ⟨value, -, heq⟩ := bind_eq_ok_iff.mp h
    exact .inr ⟨value, (Except.ok.inj heq).symm⟩

theorem names_overrideAll {env : Environment} {vs : List Variable} {c c' : Config}
    (hnames : ∀ name ∈ default.names, name ∈ c.names) (h : vs.foldlM (override env) c = .ok c') :
    c'.names = c.names := by
  induction vs generalizing c with
  | nil =>
    cases h
    rfl
  | cons v vs ih =>
    rw [List.foldlM_cons] at h
    obtain ⟨c₁, hv, hrest⟩ := bind_eq_ok_iff.mp h
    have htarget : .text v.target.1 ∈ default.names := by cases v <;> decide
    have hnames₁ : c₁.names = c.names := by
      rcases override_eq_ok hv with rfl | ⟨value, rfl⟩
      · rfl
      · rw [names_modify, if_pos (hnames _ htarget)]
    rw [ih (by rw [hnames₁]; exact hnames) hrest, hnames₁]

theorem Plain.overrideAll {env : Environment} {vs : List Variable} {c c' : Config} (hc : c.Plain)
    (h : vs.foldlM (override env) c = .ok c') : c'.Plain := by
  induction vs generalizing c with
  | nil =>
    cases h
    exact hc
  | cons v vs ih =>
    rw [List.foldlM_cons] at h
    obtain ⟨c₁, hv, hrest⟩ := bind_eq_ok_iff.mp h
    refine ih ?_ hrest
    rcases override_eq_ok hv with rfl | ⟨value, rfl⟩
    · exact hc
    · exact hc.modify _ fun _ ht => ht.set (.text _) _

end Plain

theorem field_toValue_bind_iff (c : Config) (name key : String) (v : Value) :
    (c.toValue.field name >>= fun t => t.field key) = .ok v ↔ c.setting name key = some v := by
  rw [bind_eq_ok_iff]
  constructor
  · rintro ⟨t, ht, hv⟩
    obtain ⟨-, rfl⟩ := (field_toValue_iff c name).mp ht
    exact (field_sectionOf_iff c name key).mp hv
  · intro hv
    exact ⟨_, (field_toValue_iff c name).mpr ⟨mem_names_of_setting hv, rfl⟩,
      (field_sectionOf_iff c name key).mpr hv⟩

def HoldsSections (w : World) (outer : Nat) (path : Value) : Prop :=
  w.files.contains path = .ok false ∨ ∃ document, documentAt w outer path = some document ∧ document.IsSections

section Loading

variable {w : World} {outer : Nat} {path : Value}

theorem HoldsSections.fromFile (h : HoldsSections w outer path) :
    ∃ d line, fromFile w.files outer path = .ok (default.laid d, line) ∧ (∀ s ∈ d, s.2.Named) ∧
      (d = [] ∧ documentAt w outer path = none ∨ documentAt w outer path = some d.toValue) := by
  rcases h with hmissing | ⟨document, hdocument, hsections⟩
  · obtain ⟨shown, -, hfile⟩ := fromFile_of_missing hmissing
    exact ⟨[], _, hfile, by simp, .inl ⟨rfl, by simp [documentAt, hmissing]⟩⟩
  · obtain ⟨d, rfl, hplain⟩ := exists_plain (isRead_of_documentAt hdocument) hsections
    obtain ⟨shown, -, hfile⟩ := fromFile_of_documentAt hdocument
    exact ⟨d, _, hfile, hplain.named, .inr hdocument⟩

/-- Loading refuses just the numbers that are none, the first of them by its name and text; what it gives
else are the settings that count, in the sections of the defaults and of the file. -/
theorem load_meets_reference (hpath : HoldsSections w outer path) (n : Nat) :
    let o := (load outer path).run w n
    ((∃ f, o.result = .error f) ↔ ∃ v raw, w.environment.Refuses v raw) ∧
    (∀ f, o.result = .error f → ∃ before v after raw, Variable.all = before ++ v :: after ∧
      w.environment.Refuses v raw ∧ (∀ v' ∈ before, ∀ raw', ¬ w.environment.Refuses v' raw') ∧
      f.kind = .value ∧ f.cause? = some .value ∧
      f.text = .ok ("Invalid value for " ++ v.name ++ ": " ++ raw)) ∧
    ∀ c, o.result = .ok c → c.Plain ∧
      (∀ name, name ∈ c.names ↔ name ∈ default.names ∨
        ∃ t, documentAt w outer path = some (.dict t) ∧ name ∈ t.map (·.1)) ∧
      c.Holds (effective w.environment (documentAt w outer path)) ∧
      (∀ name, (∃ t, c.toValue.field name = .ok t) ↔ (∃ t, default.toValue.field name = .ok t) ∨
        ∃ document t, documentAt w outer path = some document ∧ document.field name = .ok t) ∧
      ∀ name key v, (c.toValue.field name >>= fun t => t.field key) = .ok v ↔
        effective w.environment (documentAt w outer path) name key = some v := by
  intro o
  obtain ⟨d, line, hfile, hnamed, hdocument⟩ := hpath.fromFile
  have hresult : o.result = overrideAll w.environment ((default.laid d).dropping secretKeys) := by
    rw [result_load, hfile]
    rfl
  refine ⟨⟨?_, ?_⟩, ?_, ?_⟩
  · rintro ⟨f, hf⟩
    rw [hresult] at hf
    obtain ⟨before, v, after, raw, -, hrefuses, -⟩ := first_refused_of_error hf
    exact ⟨v, raw, hrefuses⟩
  · rintro ⟨v, raw, hrefuses⟩
    cases hload : o.result with
    | error f => exact ⟨f, rfl⟩
    | ok c =>
      rw [hresult] at hload
      exact absurd hrefuses (not_refuses_of_ok hload v v.mem_all raw)
  · intro f hf
    rw [hresult] at hf
    obtain ⟨before, v, after, raw, hall, hrefuses, hbefore, rfl⟩ := first_refused_of_error hf
    exact ⟨before, v, after, raw, hall, hrefuses, hbefore, rfl, rfl, rfl⟩
  · intro c hc
    have hholds := holds_load hc
    rw [hresult] at hc
    have hplain : ((default.laid d).dropping secretKeys).Plain :=
      (plain_default.laid hnamed).modify "account" fun _ ht => ht.without secretKeys
    have hdropped : ((default.laid d).dropping secretKeys).names = (default.laid d).names := by
      rw [dropping, names_modify, if_pos ((mem_names_laid default d _).mpr (.inl (by decide)))]
    have hnames := names_overrideAll (by
      intro name hname
      rw [hdropped]
      exact (mem_names_laid default d name).mpr (.inl hname)) hc
    have hmem (name : Key) : name ∈ c.names ↔ name ∈ default.names ∨ name ∈ d.names := by
      rw [hnames, hdropped, mem_names_laid]
    refine ⟨hplain.overrideAll hc, fun name => ?_, hholds, fun name => ?_, fun name key v => ?_⟩
    · rw [hmem]
      rcases hdocument with ⟨rfl, hnone⟩ | hsome
      · simp [hnone, names]
      · simp [hsome, toValue, names]
    · simp only [field_toValue_iff, exists_and_left, hmem]
      rcases hdocument with ⟨rfl, hnone⟩ | hsome
      · simp [hnone, names]
      · simp [hsome, field_toValue_iff]
    · rw [field_toValue_bind_iff, hholds (.text _) (.text _)]

end Loading

namespace Reference

def document : Config :=
  [("program", [(.text "value", .null)]), ("account", [(.text "seed", .int 1)]), ("extra", [])]

def content : Bytes :=
  Text.Utf8.encode
    "\x7b\"program\":\x7b\"value\":null\x7d,\"account\":\x7b\"seed\":1\x7d,\"extra\":\x7b\x7d\x7d"

def environment : Environment
  | .gasLimit => some "1_2"
  | .deployerMnemonic => some "m"
  | _ => none

def world : World :=
  ⟨⟨[([Text.Utf8.encode "deploy.json"], .file content)]⟩, environment, [7], []⟩

theorem documentAt_world : documentAt world 3 (.text "deploy.json") = some document.toValue := by
  have hdocument : documentOf 3 content = .ok document.toValue := by cbv
  have hcontains : world.files.contains (.text "deploy.json") = .ok true := rfl
  have hread : world.files.read (.text "deploy.json") = .ok content := rfl
  simp only [documentAt, hcontains, hread, bind, Except.bind, hdocument]
  rfl

theorem not_refuses (v : Variable) (raw : String) : ¬ environment.Refuses v raw := by
  rintro ⟨hnumber, hraw, f, hread⟩
  cases v with
  | gasLimit =>
    cases hraw
    cases hread
  | value => cases hraw
  | _ => cases hnumber

end Reference

theorem load_meets_reference_of_document :
    HoldsSections Reference.world 3 (.text "deploy.json") ∧
      ∃ c, ((load 3 (.text "deploy.json")).run Reference.world 0).result = .ok c ∧
        (c.toValue.field "program" >>= fun t => t.field "gas_limit") = .ok (.int 12) ∧
        (c.toValue.field "program" >>= fun t => t.field "value") = .ok .null ∧
        (c.toValue.field "program" >>= fun t => t.field "keep_alive") = .ok (.bool true) ∧
        (¬ ∃ v, (c.toValue.field "account" >>= fun t => t.field "seed") = .ok v) ∧
        ∃ t, c.toValue.field "extra" = .ok t := by
  have hdocument := Reference.documentAt_world
  have hpath : HoldsSections Reference.world 3 (.text "deploy.json") :=
    .inr ⟨_, hdocument, isSections_toValue _⟩
  refine ⟨hpath, ?_⟩
  obtain ⟨hrefused, -, hgiven⟩ := load_meets_reference hpath 0
  cases hload : ((load 3 (.text "deploy.json")).run Reference.world 0).result with
  | error f =>
    obtain ⟨v, raw, hrefuses⟩ := hrefused.mp ⟨f, hload⟩
    exact absurd hrefuses (Reference.not_refuses v raw)
  | ok c =>
    obtain ⟨-, -, -, hsections, hsettings⟩ := hgiven c hload
    simp only [hdocument] at hsettings
    refine ⟨c, rfl, (hsettings ..).mpr rfl, (hsettings ..).mpr rfl, (hsettings ..).mpr rfl, ?_, ?_⟩
    · rintro ⟨v, hv⟩
      have hnone := (hsettings ..).mp hv
      cases hnone
    · exact (hsections "extra").mpr (.inr ⟨_, _, hdocument, rfl⟩)

end Config

end ProgramDeploy
