import ProgramDeploy.Proofs.Documents
import ProgramDeploy.Proofs.Runs

namespace ProgramDeploy

def Value.IsSections (v : Value) : Prop :=
  ∃ t, v = .dict t ∧ ∀ e ∈ t, ∃ entries, e.2 = .dict entries

abbrev Settings := Key → Key → Option Value

def Variable.place (v : Variable) : Key × Key :=
  (.text v.target.1, .text v.target.2)

namespace Config

def names (c : Config) : List Key :=
  c.map (·.1)

def setting (c : Config) (name key : Key) : Option Value :=
  Table.get? (c.sectionOf name) key

/-- The setting in a document. In a section of pairs a key may stand twice, and the last pair counts. -/
def said (document : Option Value) (name key : Key) : Option Value :=
  match document with
  | some (.dict t) => do
    let v ← Table.get? t name
    let entries ← (entriesOf v).toOption
    Table.get? entries.reverse key
  | _ => none

def dictated (env : Environment) (name key : Key) : Option Value := do
  let v ← Variable.all.find? fun v => v.place = (name, key)
  let raw ← env.get? v
  (overrideValue v raw).toOption

def documentAt (w : World) (outer : Nat) (path : Value) : Option Value :=
  match w.files.contains path with
  | .ok true => (w.files.read path >>= documentOf outer).toOption
  | _ => none

/-- The setting that counts: that of a variable, else that of the document, else the default. A secret is
never taken from a document. -/
def effective (env : Environment) (document : Option Value) (name key : Key) : Option Value :=
  (dictated env name key).or <|
    if name = "account" ∧ key ∈ secretKeys.map .text then none
    else (said document name key).or (default.setting name key)

def Holds (c : Config) (settings : Settings) : Prop :=
  ∀ ⦃name key : Key⦄, name.IsName → key.IsName → c.setting name key = settings name key

section Modifying

variable (c : Config) (name name' : Key) (f : Table → Table)

theorem sectionOf_nil : sectionOf [] name = [] := rfl

theorem sectionOf_cons (t : Table) :
    sectionOf ((name, t) :: c) name' = if name = name' then t else sectionOf c name' := by
  by_cases h : name = name' <;> simp [sectionOf, h]

theorem sectionOf_modify :
    sectionOf (c.modify name f) name' =
      if name = name' then f (sectionOf c name) else sectionOf c name' := by
  induction c with
  | nil => simp [modify, sectionOf_cons, sectionOf_nil]
  | cons s c ih =>
    obtain ⟨m, t⟩ := s
    by_cases hm : m = name
    · subst hm
      by_cases hn : m = name' <;> simp [modify, sectionOf_cons, hn]
    · by_cases hn : m = name'
      · subst hn
        simp [modify, sectionOf_cons, hm, Ne.symm hm]
      · simp [modify, sectionOf_cons, hm, hn, ih]

theorem names_modify :
    (c.modify name f).names = if name ∈ c.names then c.names else c.names ++ [name] := by
  induction c with
  | nil => rfl
  | cons s c ih =>
    obtain ⟨m, t⟩ := s
    by_cases hm : m = name
    · simp [modify, names, hm]
    · have hcons : names (modify ((m, t) :: c) name f) = m :: names (modify c name f) := by
        simp [modify, names, hm]
      rw [hcons, ih]
      by_cases hn : name ∈ names c <;> simp_all [names, Ne.symm hm]

variable {c name} in
theorem mem_names_modify {other : Key} (h : name ∈ c.names) : name ∈ (c.modify other f).names := by
  rw [names_modify]
  split
  · exact h
  · exact List.mem_append_left _ h

theorem setting_set (name name' key : Key) {key' : Key} (hkey : key'.IsName) (v : Value) :
    setting (c.modify name fun t => t.set key v) name' key' =
      if (name, key) = (name', key') then some v else setting c name' key' := by
  unfold setting
  rw [sectionOf_modify]
  by_cases hn : name = name'
  · subst hn
    simp [Table.get?_set hkey]
  · simp [hn]

end Modifying

theorem sectionOf_of_not_mem {c : Config} {name : Key} (h : name ∉ c.names) : c.sectionOf name = [] := by
  induction c with
  | nil => rfl
  | cons s c ih =>
    obtain ⟨n, t⟩ := s
    have hn : name ≠ n := List.ne_of_not_mem_cons h
    rw [sectionOf_cons, if_neg hn.symm, ih (List.not_mem_of_not_mem_cons h)]

theorem mem_names_of_setting {c : Config} {name key : Key} {v : Value} (h : c.setting name key = some v) :
    name ∈ c.names := by
  refine Decidable.byContradiction fun hname => ?_
  simp [setting, sectionOf_of_not_mem hname, Table.get?] at h

section Fields

variable (c : Config) (name key : String) {s v : Value}

theorem get?_toValue {name : Key} (hname : name.IsName) :
    Table.get? (c.map fun s => (s.1, .dict s.2)) name =
      if name ∈ c.names then some (.dict (c.sectionOf name)) else none := by
  induction c with
  | nil => rfl
  | cons s c ih =>
    obtain ⟨n, t⟩ := s
    have hnames : names ((n, t) :: c) = n :: names c := rfl
    rw [List.map_cons, Table.get?_cons hname, sectionOf_cons, ih, hnames]
    by_cases hn : n = name
    · simp [hn]
    · simp [hn, Ne.symm hn]

theorem field_toValue_iff :
    c.toValue.field name = .ok s ↔ .text name ∈ c.names ∧ s = .dict (c.sectionOf name) := by
  rw [toValue, Value.field]
  simp only [get?_toValue c (.text name)]
  by_cases hname : .text name ∈ c.names <;> simp [hname, eq_comm]

theorem field_sectionOf_iff :
    (Value.dict (c.sectionOf name)).field key = .ok v ↔ c.setting name key = some v := by
  unfold setting
  cases h : Table.get? (c.sectionOf name) key <;> simp [Value.field, h]

theorem fieldOrNull_sectionOf_iff :
    (Value.dict (c.sectionOf name)).fieldOrNull key = .ok v ↔ v = (c.setting name key).getD .null := by
  unfold Value.fieldOrNull setting
  simp [eq_comm]

end Fields

def NamesOnce (c : Config) : Prop :=
  ∀ name : Key, (c.sectionOf name).NamesOnce

section Laying

variable {c c' : Config}

theorem NamesOnce.modify (h : c.NamesOnce) {name : Key} {f : Table → Table}
    (hf : ∀ t : Table, t.NamesOnce → (f t).NamesOnce) : NamesOnce (c.modify name f) := by
  intro name'
  rw [sectionOf_modify]
  split
  · exact hf _ (h name)
  · exact h name'

theorem namesOnce_default : NamesOnce default := by
  intro name
  simp only [default, sectionOf_cons, sectionOf_nil]
  repeat' split
  all_goals simp [Table.NamesOnce]

theorem overlay_eq_ok {name : Key} {v : Value} (h : c.overlay name v = .ok c') :
    ∃ entries, entriesOf v = .ok entries ∧ c' = c.modify name fun t => t.merge entries := by
  obtain ⟨entries, hentries, heq⟩ := bind_eq_ok_iff.mp h
  exact ⟨entries, hentries, (Except.ok.inj heq).symm⟩

theorem mem_names_overlayAll {t : Table} {name : Key} (hname : name ∈ c.names)
    (h : c.overlayAll t = .ok c') : name ∈ c'.names := by
  induction t generalizing c with
  | nil =>
    cases h
    exact hname
  | cons e t ih =>
    obtain ⟨c₁, hc₁, hrest⟩ := bind_eq_ok_iff.mp h
    obtain ⟨entries, -, rfl⟩ := overlay_eq_ok hc₁
    exact ih (mem_names_modify _ hname) hrest

theorem NamesOnce.overlayAll {t : Table} (hc : c.NamesOnce) (h : c.overlayAll t = .ok c') : c'.NamesOnce := by
  induction t generalizing c with
  | nil =>
    cases h
    exact hc
  | cons e t ih =>
    obtain ⟨c₁, hc₁, hrest⟩ := bind_eq_ok_iff.mp h
    obtain ⟨entries, -, rfl⟩ := overlay_eq_ok hc₁
    exact ih (hc.modify fun _ ht => ht.merge entries) hrest

theorem said_cons (j : Key) (v : Value) (t : Table) {name : Key} (hname : name.IsName) (key : Key) :
    said (some (.dict ((j, v) :: t))) name key =
      if j = name then (entriesOf v).toOption.bind fun entries => Table.get? entries.reverse key
      else said (some (.dict t)) name key := by
  unfold said
  by_cases hj : j = name <;> simp [Table.get?_cons hname, hj]

theorem setting_overlayAll {t : Table} (ht : t.Named) (h : c.overlayAll t = .ok c') {name key : Key}
    (hname : name.IsName) (hkey : key.IsName) :
    c'.setting name key = (said (some (.dict t)) name key).or (c.setting name key) := by
  induction t generalizing c with
  | nil =>
    cases h
    rfl
  | cons e t ih =>
    obtain ⟨j, v⟩ := e
    obtain ⟨c₁, hc₁, hrest⟩ := bind_eq_ok_iff.mp h
    obtain ⟨entries, hentries, rfl⟩ := overlay_eq_ok hc₁
    rw [ih ht.tail hrest, said_cons _ _ _ hname, hentries, setting, sectionOf_modify]
    by_cases hj : j = name
    · subst hj
      -- The section comes once only, so the rest of the document cannot lie over it again.
      have hnone : said (some (.dict t)) j key = none := by
        simp [said, ht.namesOnce.get?_tail hname]
      rw [hnone, if_pos rfl, if_pos rfl, Table.get?_merge_reverse hkey]
      rfl
    · rw [if_neg hj, if_neg hj]
      rfl

theorem setting_override {env : Environment} {v : Variable} (h : override env c v = .ok c') (name : Key)
    {key : Key} (hkey : key.IsName) : c'.setting name key =
      (if v.place = (name, key) then (env.get? v).bind fun raw => (overrideValue v raw).toOption
        else none).or (c.setting name key) := by
  unfold override at h
  split at h
  · rename_i hnone
    cases h
    simp [hnone]
  · rename_i raw hraw
    obtain ⟨value, hvalue, heq⟩ := bind_eq_ok_iff.mp h
    cases heq
    rw [setting_set _ _ _ _ hkey]
    by_cases hplace : v.place = (name, key)
    · have hplace' : (Key.text v.target.1, Key.text v.target.2) = (name, key) := hplace
      simp [hplace, hplace', hraw, hvalue, Except.toOption]
    · have hplace' : (Key.text v.target.1, Key.text v.target.2) ≠ (name, key) := hplace
      simp [hplace, hplace']

theorem setting_overrideAll {env : Environment} {vs : List Variable}
    (hvs : vs.Pairwise fun v v' => v.place ≠ v'.place) (h : vs.foldlM (override env) c = .ok c')
    (name : Key) {key : Key} (hkey : key.IsName) : c'.setting name key =
      ((vs.find? fun v => v.place = (name, key)).bind fun v =>
        (env.get? v).bind fun raw => (overrideValue v raw).toOption).or (c.setting name key) := by
  induction vs generalizing c with
  | nil =>
    cases h
    rfl
  | cons v vs ih =>
    rw [List.foldlM_cons] at h
    obtain ⟨c₁, hv, hrest⟩ := bind_eq_ok_iff.mp h
    obtain ⟨hdistinct, hvs⟩ := List.pairwise_cons.mp hvs
    -- No two variables have one place, so what this one sets is not set again.
    rw [ih hvs hrest, setting_override hv _ hkey]
    by_cases hplace : v.place = (name, key)
    · have hnone : vs.find? (fun v => v.place = (name, key)) = none := by
        rw [List.find?_eq_none]
        intro v' hv'
        simpa [← hplace] using (hdistinct v' hv').symm
      simp [hplace, hnone]
    · simp [hplace]

end Laying

section Counting

variable (env : Environment) (document : Option Value)

theorem exists_effective {name key : Key} {v : Value} (h : default.setting name key = some v)
    (hsecret : ¬ (name = "account" ∧ key ∈ secretKeys.map .text)) :
    ∃ v', effective env document name key = some v' := by
  rw [effective, if_neg hsecret, h]
  cases dictated env name key with
  | some u => exact ⟨u, rfl⟩
  | none => cases said document name key <;> exact ⟨_, rfl⟩

theorem effective_secret {v : Variable} (hv : v = .deployerMnemonic ∨ v = .deployerSeed) :
    effective env document "account" v.target.2 = (env.get? v).map .text := by
  have hdictated : dictated env "account" v.target.2 = (env.get? v).map .text := by
    have hfind : Variable.all.find? (fun v' => v'.place = (.text "account", .text v.target.2)) = some v := by
      rcases hv with rfl | rfl <;> decide
    have htext (raw : String) : overrideValue v raw = .ok (.text raw) := by
      rcases hv with rfl | rfl <;> rfl
    rw [dictated, hfind]
    cases h : env.get? v <;> simp [h, htext, Except.toOption]
  have hsecret : .text v.target.2 ∈ secretKeys.map Key.text := by rcases hv with rfl | rfl <;> decide
  rw [effective, hdictated, if_pos ⟨rfl, hsecret⟩, Option.or_none]

end Counting

theorem isEmpty_of_get? {env : Environment} {v : Variable} {raw : String} (h : env.get? v = some raw) :
    raw.isEmpty = false := by
  have hfilter := (Option.filter_eq_some_iff.mp h).2
  simpa using hfilter

end Config

end ProgramDeploy
