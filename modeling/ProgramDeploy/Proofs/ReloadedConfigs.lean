import ProgramDeploy.Proofs.ConfigReference

/-!
A loaded configuration, written to a file and loaded again. The defaults lie under it in their own order, so
that laying it over them changes nothing; the secrets in it are dropped, and the variables set them again.
-/

namespace ProgramDeploy

namespace Table

def order (t : Table) : List Key :=
  t.map (·.1)

variable {t u : Table} {a : String} {v : Value}

theorem order_prefix_set (t : Table) (k : Key) (v : Value) : t.order <+: (t.set k v).order := by
  induction t with
  | nil => exact List.nil_prefix
  | cons e t ih =>
    obtain ⟨j, w⟩ := e
    rw [set]
    split
    · exact List.prefix_rfl
    · exact (List.prefix_cons_inj j).mpr ih

theorem order_prefix_merge (t u : Table) : t.order <+: (t.merge u).order := by
  induction u generalizing t with
  | nil => exact List.prefix_rfl
  | cons e u ih => exact (order_prefix_set t e.1 e.2).trans (ih _)

theorem order_prefix_erase (h : t.order <+: u.order) (ha : .text a ∉ t.order) :
    t.order <+: (u.erase (.text a)).order := by
  induction t generalizing u with
  | nil => exact List.nil_prefix
  | cons e t ih =>
    obtain ⟨j, w⟩ := e
    cases u with
    | nil => exact absurd h (by simp [order])
    | cons f u =>
      obtain ⟨k, x⟩ := f
      obtain ⟨rfl, hrest⟩ := List.cons_prefix_cons.mp h
      have hj : j ≠ .text a := (List.ne_of_not_mem_cons ha).symm
      rw [erase, Key.same_text, if_neg (by simpa using hj)]
      exact (List.prefix_cons_inj j).mpr (ih hrest (List.not_mem_of_not_mem_cons ha))

theorem order_prefix_without {names : List String} (h : t.order <+: u.order)
    (hnames : ∀ a ∈ names, .text a ∉ t.order) : t.order <+: (u.without names).order := by
  induction names generalizing u with
  | nil => exact h
  | cons a names ih =>
    obtain ⟨ha, hnames⟩ := List.forall_mem_cons.mp hnames
    exact ih (order_prefix_erase h ha) hnames

theorem set_eq_self (h : get? t (.text a) = some v) : t.set (.text a) v = t := by
  induction t with
  | nil => cases h
  | cons e t ih =>
    obtain ⟨j, w⟩ := e
    rw [get?_cons (.text a)] at h
    by_cases hj : j = .text a
    · rw [if_pos hj] at h
      cases h
      simp [set, Key.same_text, hj]
    · rw [if_neg hj] at h
      simp [set, Key.same_text, hj, ih h]

theorem set_append_of_not_mem {before : Table} {k : Key} (hk : k.IsName) (h : k ∉ before.order) :
    set (before ++ t) k v = before ++ t.set k v := by
  induction before with
  | nil => rfl
  | cons e before ih =>
    obtain ⟨j, w⟩ := e
    have hj : j ≠ k := (List.ne_of_not_mem_cons h).symm
    simp [set, Key.same_of_isName _ hk, hj, ih (List.not_mem_of_not_mem_cons h)]

theorem append_merge (before : Table) (hu : u.Named) (h : t.order <+: u.order)
    (hbefore : ∀ e ∈ u, e.1 ∉ before.order) : merge (before ++ t) u = before ++ u := by
  induction u generalizing before t with
  | nil =>
    have ht : t = [] := by simpa [order] using h
    rw [ht]
    rfl
  | cons e u ih =>
    obtain ⟨j, v⟩ := e
    have hname : j.IsName := hu.head
    obtain ⟨ha, hrest⟩ := List.forall_mem_cons.mp hbefore
    obtain ⟨t', ht', hset⟩ : ∃ t' : Table, t'.order <+: order u ∧ t.set j v = (j, v) :: t' := by
      cases t with
      | nil => exact ⟨[], List.nil_prefix, rfl⟩
      | cons f t =>
        obtain ⟨k, w⟩ := f
        obtain ⟨rfl, hprefix⟩ := List.cons_prefix_cons.mp h
        exact ⟨t, hprefix, by simp [set, Key.same_of_isName _ hname]⟩
    have hdistinct := (List.pairwise_cons.mp hu.distinct).1
    have hbehind : ∀ e ∈ u, e.1 ∉ order (before ++ [(j, v)]) := by
      intro e he
      simp only [order, List.map_append, List.map_cons, List.map_nil, List.mem_append, List.mem_singleton,
        not_or]
      exact ⟨hrest e he, (hdistinct e he).symm⟩
    have hmerge : merge (before ++ t) ((j, v) :: u) = merge (set (before ++ t) j v) u := rfl
    rw [hmerge, set_append_of_not_mem hname ha, hset]
    simpa using ih _ hu.tail ht' hbehind

theorem merge_of_order_prefix (hu : u.Named) (h : t.order <+: u.order) : t.merge u = u :=
  append_merge [] hu h fun _ _ => List.not_mem_nil

theorem without_eq_self {names : List String} (h : ∀ a ∈ names, get? t (.text a) = none) :
    t.without names = t := by
  induction names with
  | nil => rfl
  | cons a names ih =>
    obtain ⟨ha, hnames⟩ := List.forall_mem_cons.mp h
    have hcons : t.without (a :: names) = (t.erase (.text a)).without names := rfl
    rw [hcons, erase_eq_self ha, ih hnames]

theorem without_set {names : List String} (ha : a ∈ names) :
    (t.set (.text a) v).without names = t.without names := by
  induction names generalizing t with
  | nil => cases ha
  | cons b names ih =>
    have hcons (t : Table) : t.without (b :: names) = (t.erase (.text b)).without names := rfl
    rw [hcons, hcons]
    by_cases hb : a = b
    · rw [hb, erase_set_self]
    · have htail : a ∈ names := (List.mem_cons.mp ha).resolve_left hb
      rw [erase_set_of_ne t (.text a) (by simpa using hb), ih htail]

end Table

namespace Config

inductive Under : Config → Config → Prop where
  | nil {c : Config} : Under [] c
  | cons {name : Key} {t u : Table} {b c : Config} (horder : t.order <+: u.order) (hrest : Under b c) :
      Under ((name, t) :: b) ((name, u) :: c)

variable {b c c' d : Config} {env : Environment}

theorem Under.refl (c : Config) : Under c c := by
  induction c with
  | nil => exact .nil
  | cons s c ih => exact .cons List.prefix_rfl ih

theorem Under.modify (h : Under b c) {name : Key} {f : Table → Table}
    (hf : ∀ t u : Table, (name, t) ∈ b → t.order <+: u.order → t.order <+: (f u).order) :
    Under b (c.modify name f) := by
  induction h with
  | nil => exact .nil
  | @cons m t u b c horder hrest ih =>
    have hbehind := ih fun t u ht => hf t u (List.mem_cons_of_mem _ ht)
    unfold Config.modify
    split
    · rename_i hm
      subst hm
      exact .cons (hf t u List.mem_cons_self horder) hrest
    · exact .cons horder hbehind

theorem Under.laid (h : Under b c) : Under b (c.laid d) := by
  induction d generalizing c with
  | nil => exact h
  | cons s d ih => exact ih (h.modify fun t u _ ht => ht.trans (Table.order_prefix_merge u s.2))

theorem Under.dropping (h : Under default c) : Under default (c.dropping secretKeys) := by
  apply h.modify
  intro t u ht horder
  apply Table.order_prefix_without horder
  have hname : t = [(.text "name", .text "Anme")] := by simpa [default] using ht
  rw [hname]
  decide

theorem Under.overrideAll {vs : List Variable} (h : Under b c) (hc : vs.foldlM (override env) c = .ok c') :
    Under b c' := by
  induction vs generalizing c with
  | nil =>
    cases hc
    exact h
  | cons v vs ih =>
    rw [List.foldlM_cons] at hc
    obtain ⟨c₁, hv, hrest⟩ := bind_eq_ok_iff.mp hc
    refine ih ?_ hrest
    obtain rfl | ⟨value, rfl⟩ := override_eq_ok hv
    · exact h
    · exact h.modify fun t u _ ht => ht.trans (Table.order_prefix_set u _ value)

theorem modify_append {before : Config} {name : Key} (h : name ∉ before.names) (f : Table → Table) :
    Config.modify (before ++ c) name f = before ++ c.modify name f := by
  induction before with
  | nil => rfl
  | cons s before ih =>
    obtain ⟨m, t⟩ := s
    have hm : m ≠ name := (List.ne_of_not_mem_cons h).symm
    simp [modify, hm, ih (List.not_mem_of_not_mem_cons h)]

theorem append_laid (before : Config) (hc : c.Plain) (h : Under b c) (hbefore : ∀ s ∈ c, s.1 ∉ before.names) :
    laid (before ++ b) c = before ++ c := by
  induction c generalizing before b with
  | nil =>
    cases h
    rfl
  | cons s c ih =>
    obtain ⟨name, u⟩ := s
    obtain ⟨hname, hrest⟩ := List.forall_mem_cons.mp hbefore
    have hu : u.Named := hc.named _ List.mem_cons_self
    -- What lies under either starts with the first section or is empty, so that section comes out first.
    obtain ⟨b', hb', hmodify⟩ : ∃ b', Under b' c ∧
        b.modify name (fun t => t.merge u) = (name, u) :: b' := by
      cases h with
      | nil =>
        have hmerge : Table.merge [] u = u := Table.merge_of_order_prefix hu List.nil_prefix
        exact ⟨[], .nil, by rw [modify, hmerge]⟩
      | @cons _ t _ b _ horder hrest =>
        exact ⟨b, hrest, by simp [modify, Table.merge_of_order_prefix hu horder]⟩
    have hbehind : ∀ s ∈ c, s.1 ∉ names (before ++ [(name, u)]) := by
      intro s hs
      have hne : s.1 ≠ name := by
        intro heq
        have hmem : name ∈ names c := heq ▸ List.mem_map_of_mem hs
        exact (List.nodup_cons.mp hc.distinct).1 hmem
      simp only [names, List.map_append, List.map_cons, List.map_nil, List.mem_append, List.mem_singleton,
        not_or]
      exact ⟨hrest s hs, hne⟩
    have hlaid : laid (before ++ b) ((name, u) :: c) =
        laid (Config.modify (before ++ b) name fun t => t.merge u) c := rfl
    rw [hlaid, modify_append hname, hmodify]
    simpa using ih _ hc.tail hb' hbehind

theorem laid_of_under (hc : c.Plain) (h : Under b c) : b.laid c = c :=
  append_laid [] hc h fun _ _ => List.not_mem_nil

theorem modify_eq_self {name : Key} {f : Table → Table} (hname : name ∈ c.names)
    (hf : f (c.sectionOf name) = c.sectionOf name) : c.modify name f = c := by
  induction c with
  | nil => cases hname
  | cons s c ih =>
    obtain ⟨m, t⟩ := s
    rw [sectionOf_cons] at hf
    by_cases hm : m = name
    · rw [if_pos hm] at hf
      simp [modify, hm, hf]
    · rw [if_neg hm] at hf
      have hrest : name ∈ names c := (List.mem_cons.mp hname).resolve_left (Ne.symm hm)
      simp [modify, hm, ih hrest hf]

theorem dropping_eq_self (haccount : .text "account" ∈ c.names)
    (h : ∀ key ∈ secretKeys, c.setting "account" key = none) : c.dropping secretKeys = c :=
  modify_eq_self haccount (Table.without_eq_self h)

theorem place_injective {v v' : Variable} (h : v.place = v'.place) : v = v' := by
  cases v <;> cases v' <;> first | rfl | exact absurd h (by decide)

theorem overrideValue_of_not_refuses {v : Variable} {raw : String} (hraw : env.get? v = some raw)
    (h : ¬ env.Refuses v raw) : ∃ value, overrideValue v raw = .ok value := by
  unfold overrideValue
  split
  · rename_i hnumber
    cases hread : Numeral.read raw.toList with
    | ok n => exact ⟨.int n, rfl⟩
    | error f => exact absurd ⟨hnumber, hraw, f, hread⟩ h
  · exact ⟨.text raw, rfl⟩

theorem override_eq_self {v : Variable} (hname : .text v.target.1 ∈ c.names)
    (h : ∀ raw, env.get? v = some raw →
      ∃ value, overrideValue v raw = .ok value ∧ c.setting v.target.1 v.target.2 = some value) :
    override env c v = .ok c := by
  unfold override
  cases hraw : env.get? v with
  | none => rfl
  | some raw =>
    obtain ⟨value, hvalue, hsetting⟩ := h raw hraw
    have hmodify : (c.modify v.target.1 fun t => t.set (.text v.target.2) value) = c :=
      modify_eq_self hname (Table.set_eq_self hsetting)
    show (overrideValue v raw >>= fun value =>
      pure (c.modify v.target.1 fun t => t.set (.text v.target.2) value)) = Except.ok c
    rw [hvalue]
    exact congrArg Except.ok hmodify

theorem override_again {vs : List Variable} (hvs : vs.Pairwise fun v v' => v.place ≠ v'.place)
    (hnames : ∀ name ∈ default.names, name ∈ c.names)
    (h : vs.foldlM (override env) c = .ok c') : vs.foldlM (override env) c' = .ok c' := by
  have hstable (v : Variable) (hv : v ∈ vs) : override env c' v = .ok c' := by
    have htarget : .text v.target.1 ∈ default.names := by cases v <;> decide
    apply override_eq_self
    · rw [names_overrideAll hnames h]
      exact hnames _ htarget
    · intro raw hraw
      obtain ⟨value, hvalue⟩ := overrideValue_of_not_refuses hraw (not_refuses_of_ok h v hv raw)
      have hfind : vs.find? (fun v' => v'.place = v.place) = some v := by
        cases hfound : vs.find? (fun v' => v'.place = v.place) with
        | none => exact absurd (List.find?_eq_none.mp hfound v hv) (by simp)
        | some v' =>
          have hplaces : v'.place = v.place := by simpa using List.find?_some hfound
          rw [place_injective hplaces]
      refine ⟨value, hvalue, ?_⟩
      rw [setting_overrideAll hvs h _ (.text _), show (Key.text v.target.1, Key.text v.target.2) = v.place from rfl,
        hfind]
      simp [hraw, hvalue, Except.toOption]
  clear h
  induction vs with
  | nil => rfl
  | cons v vs ih =>
    obtain ⟨hv, hrest⟩ := List.forall_mem_cons.mp hstable
    rw [List.foldlM_cons, hv]
    exact ih (List.pairwise_cons.mp hvs).2 hrest

def openVariables : List Variable :=
  [.providerAddress, .wasmPath, .gasLimit, .value, .deployerName]

def secretVariables : List Variable :=
  [.deployerMnemonic, .deployerSeed]

theorem overrideAll_eq (env : Environment) (c : Config) : overrideAll env c = (do
    let c ← openVariables.foldlM (override env) c
    secretVariables.foldlM (override env) c) := by
  have hall : Variable.all = openVariables ++ secretVariables := rfl
  rw [overrideAll, hall, List.foldlM_append]

theorem dropping_override {vs : List Variable}
    (hvs : ∀ v ∈ vs, v.target.1 = "account" ∧ v.target.2 ∈ secretKeys)
    (h : vs.foldlM (override env) c = .ok c') : c'.dropping secretKeys = c.dropping secretKeys := by
  induction vs generalizing c with
  | nil =>
    cases h
    rfl
  | cons v vs ih =>
    obtain ⟨⟨haccount, hkey⟩, hvs⟩ := List.forall_mem_cons.mp hvs
    rw [List.foldlM_cons] at h
    obtain ⟨c₁, hv, hrest⟩ := bind_eq_ok_iff.mp h
    rw [ih hvs hrest]
    obtain rfl | ⟨value, rfl⟩ := override_eq_ok hv
    · rfl
    · rw [haccount, dropping, modify_modify, dropping]
      simp only [Table.without_set hkey]

theorem overrideAll_dropping (hnames : ∀ name ∈ default.names, name ∈ c.names)
    (hsecret : ∀ key ∈ secretKeys, c.setting "account" key = none) (h : overrideAll env c = .ok c') :
    overrideAll env (c'.dropping secretKeys) = .ok c' := by
  rw [overrideAll_eq] at h
  obtain ⟨c₁, hopen, hsecrets⟩ := bind_eq_ok_iff.mp h
  have hnames₁ := names_overrideAll hnames hopen
  have hfree (key : String) (hkey : key ∈ secretKeys) : c₁.setting "account" key = none := by
    rw [setting_overrideAll (by decide) hopen _ (.text _), hsecret key hkey, Option.or_none]
    simp only [secretKeys, List.mem_cons, List.not_mem_nil, or_false] at hkey
    rcases hkey with rfl | rfl <;> rfl
  have hdropped : c'.dropping secretKeys = c₁ := by
    rw [dropping_override (by decide) hsecrets]
    apply dropping_eq_self
    · rw [hnames₁]
      exact hnames _ (by decide)
    · exact hfree
  rw [hdropped, overrideAll_eq, override_again (by decide) hnames hopen]
  exact hsecrets

theorem load_is_idempotent {w w' : World} {outer outer' : Nat} {path path' : Value} (n n' : Nat)
    (henv : w'.environment = w.environment) (hpath : HoldsSections w outer path)
    (h : ((load outer path).run w n).result = .ok c) (hc : documentAt w' outer' path' = some c.toValue) :
    ((load outer' path').run w' n').result = .ok c := by
  obtain ⟨d, line, hfile, hnamed, -⟩ := hpath.fromFile
  rw [result_load, hfile] at h
  have hoverride : overrideAll w.environment ((default.laid d).dropping secretKeys) = .ok c := h
  have hnames (name : Key) (hname : name ∈ default.names) :
      name ∈ names ((default.laid d).dropping secretKeys) :=
    mem_names_modify _ ((mem_names_laid default d name).mpr (.inl hname))
  have hlaid : default.laid c = c := by
    apply laid_of_under
    · have hplain := plain_default.laid hnamed
      exact (hplain.modify "account" fun _ ht => ht.without secretKeys).overrideAll hoverride
    · exact (Under.refl default).laid.dropping.overrideAll hoverride
  obtain ⟨shown, -, hfile'⟩ := fromFile_of_documentAt hc
  rw [result_load, hfile', henv]
  show overrideAll w.environment ((default.laid c).dropping secretKeys) = .ok c
  rw [hlaid]
  apply overrideAll_dropping hnames _ hoverride
  intro key hkey
  have honce := (setting_fromFile hfile).1
  rw [setting_dropping honce _ _ (.text _), if_pos ⟨rfl, List.mem_map_of_mem hkey⟩]

namespace Reference

def shortening : Environment
  | .providerAddress => some "n"
  | .wasmPath => some "w"
  | .gasLimit => some "1_2"
  | .deployerMnemonic => some "m"
  | _ => none

def shortened : World :=
  { world with environment := shortening }

def loaded : Config :=
  [("node", [(.text "provider_address", .text "n"), (.text "ss58_format", .int 137)]),
   ("program", [(.text "wasm_path", .text "w"), (.text "gas_limit", .int 12), (.text "value", .null),
     (.text "keep_alive", .bool true), (.text "init_payload", .null), (.text "router_init", .null)]),
   ("account", [(.text "name", .text "Anme"), (.text "mnemonic", .text "m")]),
   ("submission", [(.text "wait_for_inclusion", .bool true), (.text "wait_for_finalization", .bool false)]),
   ("extra", [])]

def loadedText : List Char :=
  ["\x7b\"node\":\x7b\"provider_address\":\"n\",\"ss58_format\":137\x7d,",
   "\"program\":\x7b\"wasm_path\":\"w\",\"gas_limit\":12,\"value\":null,",
   "\"keep_alive\":true,\"init_payload\":null,\"router_init\":null\x7d,",
   "\"account\":\x7b\"name\":\"Anme\",\"mnemonic\":\"m\"\x7d,",
   "\"submission\":\x7b\"wait_for_inclusion\":true,\"wait_for_finalization\":false\x7d,",
   "\"extra\":\x7b\x7d\x7d"].flatMap String.toList

def loadedContent : Bytes :=
  loadedText.map fun c => c.toNat.toUInt8

def reloadWorld : World :=
  ⟨⟨[([Text.Utf8.encode "loaded.json"], .file loadedContent)]⟩, shortening, [7], []⟩

set_option maxRecDepth 4000 in
theorem documentOf_loadedContent : documentOf 3 loadedContent = .ok loaded.toValue := by cbv

theorem documentAt_reloadWorld : documentAt reloadWorld 3 (.text "loaded.json") = some loaded.toValue := by
  have hcontains : reloadWorld.files.contains (.text "loaded.json") = .ok true := rfl
  have hread : reloadWorld.files.read (.text "loaded.json") = .ok loadedContent := rfl
  simp only [documentAt, hcontains, hread, bind, Except.bind, documentOf_loadedContent]
  rfl

theorem result_load_shortened :
    ((load 3 (.text "deploy.json")).run shortened 0).result = .ok loaded := by
  have hdocument : documentAt shortened 3 (.text "deploy.json") = some document.toValue := documentAt_world
  obtain ⟨shown, -, hfile⟩ := fromFile_of_documentAt hdocument
  have hoverride : overrideAll shortening ((default.laid document).dropping secretKeys) = .ok loaded := by
    cbv
  rw [result_load, hfile]
  exact hoverride

end Reference

theorem load_is_idempotent_of_document :
    HoldsSections Reference.shortened 3 (.text "deploy.json") ∧
      ((load 3 (.text "deploy.json")).run Reference.shortened 0).result = .ok Reference.loaded ∧
      documentAt Reference.reloadWorld 3 (.text "loaded.json") = some Reference.loaded.toValue ∧
      ((load 3 (.text "loaded.json")).run Reference.reloadWorld 0).result = .ok Reference.loaded := by
  have hpath : HoldsSections Reference.shortened 3 (.text "deploy.json") :=
    .inr ⟨_, Reference.documentAt_world, isSections_toValue _⟩
  have henv : Reference.reloadWorld.environment = Reference.shortened.environment := rfl
  have hload := Reference.result_load_shortened
  have hagain := Reference.documentAt_reloadWorld
  exact ⟨hpath, hload, hagain, load_is_idempotent 0 0 henv hpath hload hagain⟩

end Config

end ProgramDeploy
