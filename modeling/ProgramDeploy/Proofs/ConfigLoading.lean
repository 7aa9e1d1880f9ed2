import ProgramDeploy.Proofs.ConfigPrecedence
import ProgramDeploy.Proofs.Rendering

namespace ProgramDeploy

open ProgramDeploy.Action

namespace Config

section Names

variable (c : Config) (name : Key) (f g : Table → Table)

theorem modify_modify : (c.modify name f).modify name g = c.modify name fun t => g (f t) := by
  induction c with
  | nil => simp [modify]
  | cons s c ih =>
    obtain ⟨m, t⟩ := s
    by_cases hm : m = name
    · simp [modify, hm]
    · simp [modify, hm, ih]

variable {c name} in
theorem modify_comm {other : Key} (hother : other ≠ name) (h : name ∈ c.names) :
    (c.modify other f).modify name g = (c.modify name g).modify other f := by
  induction c with
  | nil => cases h
  | cons s c ih =>
    obtain ⟨m, t⟩ := s
    by_cases hm : m = name
    · subst hm
      simp [modify, Ne.symm hother]
    · have hrest : name ∈ names c := by simpa [names, Ne.symm hm] using h
      by_cases ho : m = other
      · simp [modify, ho, hother]
      · simp [modify, hm, ho, ih hrest]

end Names

theorem mem_modify {c : Config} {name : Key} {f : Table → Table} {s : Key × Table}
    (h : s ∈ c.modify name f) : s ∈ c ∨ ∃ t, s = (name, f t) ∧ (t = [] ∨ (name, t) ∈ c) := by
  induction c with
  | nil =>
    rw [modify, List.mem_singleton] at h
    exact .inr ⟨[], h, .inl rfl⟩
  | cons u c ih =>
    obtain ⟨m, t⟩ := u
    unfold modify at h
    split at h
    · rename_i hm
      rcases List.mem_cons.mp h with rfl | h
      · exact .inr ⟨t, by rw [hm], .inr (by rw [hm]; exact List.mem_cons_self)⟩
      · exact .inl (List.mem_cons_of_mem _ h)
    · rcases List.mem_cons.mp h with rfl | h
      · exact .inl List.mem_cons_self
      · rcases ih h with h | ⟨u, hu, hfrom⟩
        · exact .inl (List.mem_cons_of_mem _ h)
        · exact .inr ⟨u, hu, hfrom.imp_right (List.mem_cons_of_mem _)⟩

def fromFile (fs : Files) (outer : Nat) (path : Value) : Except Fault (Config × Event) := do
  if ← fs.contains path then
    let c ← default.overlayDocument (← documentOf outer (← fs.read path))
    return (c, .log .debug ("Loaded config from " ++ (← path.shown)))
  else
    return (default, .log .warning ("Config file not found: " ++ (← path.shown) ++ ", using defaults"))

theorem run_loadFile (outer : Nat) (path : Value) (w : World) (n : Nat) :
    (loadFile outer path).run w n =
      .settle n (fromFile w.files outer path) fun found => ⟨.ok found.1, [found.2], n⟩ := by
  unfold loadFile fromFile
  rw [run_bind, run_world]
  dsimp only
  rw [Outcome.after_nil, run_bind_liftM]
  cases w.files.contains path with
  | error f => rfl
  | ok found =>
    cases found with
    | true =>
      simp only [Outcome.settle_ok, if_true, run_bind_liftM, Outcome.settle_bind, Outcome.settle_pure,
        run_bind_log, run_pure, Outcome.after_mk, List.append_nil]
    | false =>
      simp only [Outcome.settle_ok, Bool.false_eq_true, if_false, run_bind_liftM, Outcome.settle_bind,
        Outcome.settle_pure, run_bind_log, run_pure, Outcome.after_mk, List.append_nil]

theorem origin_of_fromFile {fs : Files} {outer : Nat} {path : Value} {found : Config × Event}
    (h : fromFile fs outer path = .ok found) : (∃ shown, path.shown = .ok shown) ∧
      (fs.contains path = .ok false ∧ found.1 = default ∨
        ∃ t, fs.contains path = .ok true ∧ (fs.read path >>= documentOf outer) = .ok (.dict t) ∧
          default.overlayAll t = .ok found.1) := by
  unfold fromFile at h
  obtain ⟨there, hthere, h⟩ := bind_eq_ok_iff.mp h
  cases there with
  | true =>
    simp only [if_true, bind_eq_ok_iff, pure_eq_ok_iff] at h
    obtain ⟨content, hcontent, document, hdocument, c, hc, shown, hshown, rfl⟩ := h
    unfold overlayDocument at hc
    split at hc
    · exact ⟨⟨shown, hshown⟩, .inr ⟨_, hthere, bind_eq_ok_iff.mpr ⟨content, hcontent, hdocument⟩, hc⟩⟩
    · cases hc
  | false =>
    obtain ⟨shown, hshown, h⟩ := bind_eq_ok_iff.mp h
    cases h
    exact ⟨⟨shown, hshown⟩, .inl ⟨hthere, rfl⟩⟩

def givesSecret (c : Config) (key : String) : Bool :=
  ((c.setting "account" key).getD .null).isTruthy

def ignoring (shown key : String) : Event :=
  .log .warning ("Ignoring account " ++ key ++ " in " ++ shown ++ ", set it in .env")

def dropping (c : Config) (keys : List String) : Config :=
  c.modify "account" fun t => t.without keys

theorem dropping_nil {c : Config} (h : .text "account" ∈ c.names) : c.dropping [] = c := by
  induction c with
  | nil => cases h
  | cons s c ih =>
    obtain ⟨m, t⟩ := s
    by_cases hm : m = .text "account"
    · simp [dropping, modify, hm, Table.without]
    · have hrest : .text "account" ∈ names c := by simpa [names, Ne.symm hm] using h
      have hnil := ih hrest
      rw [dropping] at hnil
      simp [dropping, modify, hm, hnil]

theorem run_dropSecrets {path : Value} {shown : String} (h : path.shown = .ok shown) {c : Config}
    (haccount : .text "account" ∈ c.names) {keys : List String} (hkeys : keys.Nodup) (w : World) (n : Nat) :
    (dropSecrets path c keys).run w n =
      ⟨.ok (c.dropping keys), (keys.filter c.givesSecret).map (ignoring shown), n⟩ := by
  induction keys generalizing c with
  | nil => rw [dropping_nil haccount]; rfl
  | cons key keys ih =>
    obtain ⟨hkey, hkeys⟩ := List.nodup_cons.mp hkeys
    let c' := c.modify "account" fun t => t.erase (.text key)
    have hgives (k : String) (hk : k ∈ keys) : c'.givesSecret k = c.givesSecret k := by
      have hne : key ≠ k := fun heq => hkey (heq ▸ hk)
      rw [givesSecret, setting, sectionOf_modify, if_pos rfl, Table.get?_erase_of_ne (.text _) _ (by simpa using hne)]
      rfl
    have hnames : .text "account" ∈ c'.names := mem_names_modify _ haccount
    have hdropping : c'.dropping keys = c.dropping (key :: keys) := modify_modify ..
    have hrest := ih hnames hkeys
    rw [hdropping, List.filter_congr hgives] at hrest
    rw [dropSecrets, List.filter_cons]
    cases hgiven : c.givesSecret key with
    | true =>
      have htruthy : (((c.sectionOf "account").get? (.text key)).getD .null).isTruthy = true := hgiven
      simp only [htruthy, if_true, run_bind_liftM, h, Outcome.settle_ok, run_bind_log]
      exact congrArg (Outcome.after [ignoring shown key]) hrest
    | false =>
      have hfalsy : (((c.sectionOf "account").get? (.text key)).getD .null).isTruthy = false := hgiven
      simp only [hfalsy, Bool.false_eq_true, if_false]
      exact hrest

theorem mem_names_fromFile {fs : Files} {outer : Nat} {path : Value} {found : Config × Event}
    (h : fromFile fs outer path = .ok found) {name : Key} (hname : name ∈ default.names) :
    name ∈ found.1.names := by
  obtain ⟨-, ⟨-, hfound⟩ | ⟨t, -, -, hc⟩⟩ := origin_of_fromFile h
  · rw [hfound]
    exact hname
  · exact mem_names_overlayAll hname hc

theorem run_load (outer : Nat) (path : Value) (w : World) (n : Nat) :
    (load outer path).run w n =
      .settle n (fromFile w.files outer path) fun found =>
        ⟨overrideAll w.environment (found.1.dropping secretKeys),
          found.2 :: path.shown.toOption.elim [] fun shown =>
            (secretKeys.filter found.1.givesSecret).map (ignoring shown), n⟩ := by
  rw [load, run_bind, run_loadFile]
  cases hfound : fromFile w.files outer path with
  | error f => rfl
  | ok found =>
    obtain ⟨⟨shown, hshown⟩, -⟩ := origin_of_fromFile hfound
    have haccount : .text "account" ∈ found.1.names := mem_names_fromFile hfound (by decide)
    simp only [Outcome.settle_ok]
    rw [run_bind_of_run _ _ (run_dropSecrets hshown haccount (by decide) w n), run_bind, run_world,
      hshown]
    simp [Outcome.after, Except.toOption]

theorem result_load (outer : Nat) (path : Value) (w : World) (n : Nat) :
    ((load outer path).run w n).result = (fromFile w.files outer path >>= fun found =>
      overrideAll w.environment (found.1.dropping secretKeys)) := by
  rw [run_load]
  cases fromFile w.files outer path <;> rfl

structure Plain (d : Config) : Prop where
  distinct : d.names.Nodup
  named : ∀ s ∈ d, s.2.Named

theorem Plain.tail {s : Key × Table} {d : Config} (h : Plain (s :: d)) : Plain d :=
  ⟨(List.nodup_cons.mp h.distinct).2, fun u hu => h.named u (List.mem_cons_of_mem _ hu)⟩

theorem Plain.named_sectionOf {d : Config} (h : d.Plain) (name : Key) : (d.sectionOf name).Named := by
  unfold sectionOf
  cases hfind : d.find? fun s => s.1 = name with
  | none => exact .nil
  | some s => exact h.named s (List.mem_of_find?_eq_some hfind)

theorem plain_of_isRead {t : Table} (ht : t.Named)
    (hentries : ∀ e ∈ t, ∃ entries : Table, e.2 = .dict entries ∧ entries.Named) :
    ∃ d : Config, t = d.map (fun s => (s.1, .dict s.2)) ∧ d.Plain := by
  induction t with
  | nil => exact ⟨[], rfl, List.nodup_nil, by simp⟩
  | cons e t ih =>
    obtain ⟨d, rfl, hd⟩ := ih ht.tail fun e he => hentries e (List.mem_cons_of_mem _ he)
    obtain ⟨name, v⟩ := e
    obtain ⟨entries, rfl, hnamed⟩ : ∃ entries : Table, v = .dict entries ∧ entries.Named :=
      hentries _ List.mem_cons_self
    refine ⟨(name, entries) :: d, rfl, List.nodup_cons.mpr ⟨?_, hd.distinct⟩, ?_⟩
    · intro hmem
      obtain ⟨s, hs, rfl⟩ := List.mem_map.mp hmem
      exact (List.pairwise_cons.mp ht.distinct).1 _ (List.mem_map_of_mem hs) rfl
    · exact List.forall_mem_cons.mpr ⟨hnamed, hd.named⟩

theorem exists_plain {v : Value} (hread : v.IsRead) (h : v.IsSections) :
    ∃ d : Config, v = d.toValue ∧ d.Plain := by
  obtain ⟨t, rfl, ht⟩ := h
  cases hread with
  | other hother => exact absurd rfl (hother t)
  | dict named entries =>
    have hentries (e : Key × Value) (he : e ∈ t) : ∃ u : Table, e.2 = .dict u ∧ u.Named := by
      obtain ⟨u, hu⟩ := ht e he
      have hentry := entries e he
      rw [hu] at hentry
      cases hentry with
      | other hother => exact absurd rfl (hother u)
      | dict hnamed _ => exact ⟨u, hu, hnamed⟩
    obtain ⟨d, rfl, hd⟩ := plain_of_isRead named hentries
    exact ⟨d, rfl, hd⟩

theorem isSections_toValue (d : Config) : d.toValue.IsSections := by
  refine ⟨_, rfl, fun e he => ?_⟩
  obtain ⟨s, -, rfl⟩ := List.mem_map.mp he
  exact ⟨s.2, rfl⟩

theorem said_toValue {d : Config} (hd : d.Plain) {name key : Key} (hname : name.IsName) (hkey : key.IsName) :
    said (some d.toValue) name key = d.setting name key := by
  have hsection : (d.sectionOf name).Named := hd.named_sectionOf name
  rw [toValue, said, get?_toValue d hname, setting]
  by_cases hmem : name ∈ d.names
  · simp [hmem, entriesOf, Except.toOption, hsection.namesOnce.get?_reverse hkey]
  · simp [hmem, sectionOf_of_not_mem hmem, Table.get?]

def laid (c d : Config) : Config :=
  d.foldl (fun c s => c.modify s.1 fun t => t.merge s.2) c

theorem overlayDocument_toValue (c d : Config) : c.overlayDocument d.toValue = .ok (c.laid d) := by
  show c.overlayAll (d.map fun s => (s.1, .dict s.2)) = _
  induction d generalizing c with
  | nil => rfl
  | cons s d ih => exact ih (c.modify s.1 fun t => t.merge s.2)

theorem mem_names_laid (c d : Config) (name : Key) :
    name ∈ (c.laid d).names ↔ name ∈ c.names ∨ name ∈ d.names := by
  induction d generalizing c with
  | nil => simp [laid, names]
  | cons s d ih =>
    have hcons : c.laid (s :: d) = laid (c.modify s.1 fun t => t.merge s.2) d := rfl
    have hnames : names (s :: d) = s.1 :: names d := rfl
    rw [hcons, ih, names_modify, hnames, List.mem_cons]
    split
    · rename_i hs
      constructor
      · grind
      · rintro (h | rfl | h)
        · exact .inl h
        · exact .inl hs
        · exact .inr h
    · rw [List.mem_append, List.mem_singleton, or_assoc]

theorem toValue_injective {d d' : Config} (h : d.toValue = d'.toValue) : d = d' := by
  refine (List.map_inj_right ?_).mp (Value.dict.inj h)
  rintro ⟨a, t⟩ ⟨a', t'⟩ heq
  cases heq
  rfl

section Document

variable {w : World} {outer : Nat} {path : Value} {d : Config}

theorem exists_shown_of_contains {fs : Files} {found : Bool} (h : fs.contains path = .ok found) :
    ∃ shown, path.shown = .ok shown := by
  cases path with
  | int n =>
    apply Value.shown_int_of_isShort
    apply Numeral.isShort_of_lt (k := 10) (by decide)
    unfold Files.contains at h
    dsimp only at h
    split at h
    · cases h
    · split at h
      · cases h
      · have hten : Nat.pow 10 10 = 10000000000 := rfl
        omega
  | text s => exact ⟨s, rfl⟩
  | torn t => exact ⟨_, rfl⟩
  | bytes bs => exact ⟨_, rfl⟩
  | buffer bs => exact ⟨_, rfl⟩
  | bool b => exact ⟨_, rfl⟩
  | _ => cases h

theorem of_documentAt {v : Value} (h : documentAt w outer path = some v) :
    w.files.contains path = .ok true ∧ (w.files.read path >>= documentOf outer) = .ok v := by
  unfold documentAt at h
  split at h
  · rename_i hfound
    refine ⟨hfound, ?_⟩
    cases hread : w.files.read path >>= documentOf outer with
    | error f => simp [hread, Except.toOption] at h
    | ok u =>
      rw [hread] at h
      exact congrArg Except.ok (Option.some.inj h)
  · cases h

theorem isRead_of_documentAt {v : Value} (h : documentAt w outer path = some v) : v.IsRead := by
  obtain ⟨content, -, hdocument⟩ := bind_eq_ok_iff.mp (of_documentAt h).2
  exact isRead_of_documentOf hdocument

theorem plain_of_documentAt (h : documentAt w outer path = some d.toValue) : d.Plain := by
  obtain ⟨d', hd', hplain⟩ := exists_plain (isRead_of_documentAt h) (isSections_toValue d)
  rw [toValue_injective hd']
  exact hplain

theorem fromFile_of_overlay {v : Value} {c : Config} (h : documentAt w outer path = some v)
    (hc : default.overlayDocument v = .ok c) : ∃ shown, path.shown = .ok shown ∧
      fromFile w.files outer path = .ok (c, .log .debug ("Loaded config from " ++ shown)) := by
  obtain ⟨hfound, hdocument⟩ := of_documentAt h
  obtain ⟨shown, hshown⟩ := exists_shown_of_contains hfound
  obtain ⟨content, hread, hdocument⟩ := bind_eq_ok_iff.mp hdocument
  refine ⟨shown, hshown, ?_⟩
  rw [fromFile, bind_eq_ok_iff]
  refine ⟨true, hfound, ?_⟩
  simp only [if_true, bind_eq_ok_iff]
  exact ⟨content, hread, v, hdocument, c, hc, shown, hshown, rfl⟩

theorem fromFile_of_documentAt (h : documentAt w outer path = some d.toValue) :
    ∃ shown, path.shown = .ok shown ∧ fromFile w.files outer path =
      .ok (default.laid d, .log .debug ("Loaded config from " ++ shown)) :=
  fromFile_of_overlay h (overlayDocument_toValue default d)

theorem fromFile_of_missing (h : w.files.contains path = .ok false) :
    ∃ shown, path.shown = .ok shown ∧ fromFile w.files outer path =
      .ok (default, .log .warning ("Config file not found: " ++ shown ++ ", using defaults")) := by
  obtain ⟨shown, hshown⟩ := exists_shown_of_contains h
  refine ⟨shown, hshown, ?_⟩
  rw [fromFile, bind_eq_ok_iff]
  refine ⟨false, h, ?_⟩
  simp only [Bool.false_eq_true, if_false, bind_eq_ok_iff]
  exact ⟨shown, hshown, rfl⟩

theorem setting_laid (h : documentAt w outer path = some d.toValue) {name key : Key} (hname : name.IsName)
    (hkey : key.IsName) :
    (default.laid d).setting name key = (d.setting name key).or (default.setting name key) := by
  have hread := isRead_of_documentAt h
  have hlaid := overlayDocument_toValue default d
  cases hread with
  | other hother => exact absurd rfl (hother _)
  | dict hnamed _ =>
    have hsaid := said_toValue (plain_of_documentAt h) hname hkey
    rw [toValue] at hsaid
    rw [setting_overlayAll hnamed hlaid hname hkey, hsaid]

theorem givesSecret_laid (h : documentAt w outer path = some d.toValue) {key : String}
    (hkey : key ∈ secretKeys) : (default.laid d).givesSecret key = d.givesSecret key := by
  have hdefault : default.setting "account" key = none := by
    simp only [secretKeys, List.mem_cons, List.not_mem_nil, or_false] at hkey
    rcases hkey with rfl | rfl <;> rfl
  rw [givesSecret, setting_laid h (.text _) (.text _), hdefault, Option.or_none, givesSecret]

end Document

section Loading

variable {w : World} {outer n : Nat} {path : Value} {c : Config}

theorem setting_dropping (hc : c.NamesOnce) (keys : List String) (name : Key) {key : Key} (hkey : key.IsName) :
    (c.dropping keys).setting name key =
      if name = "account" ∧ key ∈ keys.map .text then none else c.setting name key := by
  rw [setting, dropping, sectionOf_modify]
  by_cases hname : .text "account" = name
  · subst hname
    rw [if_pos rfl, (hc "account").get?_without _ hkey, setting]
    simp
  · rw [if_neg hname, setting]
    simp [Ne.symm hname]

theorem setting_fromFile {found : Config × Event} (h : fromFile w.files outer path = .ok found) :
    found.1.NamesOnce ∧ found.1.Holds fun name key =>
      (said (documentAt w outer path) name key).or (default.setting name key) := by
  obtain ⟨-, ⟨hmissing, hfound⟩ | ⟨t, hthere, hread, hc⟩⟩ := origin_of_fromFile h
  · have hat : documentAt w outer path = none := by simp [documentAt, hmissing]
    rw [hfound, hat]
    exact ⟨namesOnce_default, fun _ _ _ _ => rfl⟩
  · have hat : documentAt w outer path = some (.dict t) := by
      simp [documentAt, hthere, hread, Except.toOption]
    refine ⟨namesOnce_default.overlayAll hc, fun name key hname hkey => ?_⟩
    cases isRead_of_documentAt hat with
    | other hother => exact absurd rfl (hother t)
    | dict hnamed _ => rw [setting_overlayAll hnamed hc hname hkey, hat]

theorem holds_load (h : ((load outer path).run w n).result = .ok c) :
    c.Holds (effective w.environment (documentAt w outer path)) := by
  rw [result_load] at h
  obtain ⟨found, hfound, hc⟩ := bind_eq_ok_iff.mp h
  obtain ⟨honce, hholds⟩ := setting_fromFile hfound
  intro name key hname hkey
  rw [setting_overrideAll (by decide) hc _ hkey, setting_dropping honce _ _ hkey, hholds hname hkey]
  rfl

end Loading

end Config

end ProgramDeploy
