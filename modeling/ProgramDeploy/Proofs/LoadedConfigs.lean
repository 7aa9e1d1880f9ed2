import ProgramDeploy.Proofs.ConfigLoading
import ProgramDeploy.Proofs.DocumentLimits

namespace ProgramDeploy

theorem Value.isWritable_toValue {k : Key} (h : ∀ n ∈ k.integers, Numeral.IsShort n) :
    k.toValue.IsWritable := by
  cases k with
  | int n => exact h
  | _ => simp [Key.toValue, IsWritable, integers]

theorem Value.isWritable_items {v : Value} (hv : v.IsWritable) {vs : List Value} (h : v.items = .ok vs) :
    ∀ u ∈ vs, u.IsWritable := by
  have hbyte (b : UInt8) : (int b.toNat).IsWritable := by
    intro n hn
    rw [List.mem_singleton.mp hn]
    apply Numeral.isShort_of_lt (k := 3) (by decide)
    exact Nat.lt_trans b.toNat_lt (by decide)
  cases v with
  | text s =>
    cases h
    intro u hu
    obtain ⟨c, -, rfl⟩ := List.mem_map.mp hu
    simp [IsWritable, integers]
  | torn t =>
    cases h
    intro u hu
    obtain ⟨p, -, rfl⟩ := List.mem_map.mp hu
    exact isWritable_ofPoints [p]
  | bytes bs =>
    cases h
    intro u hu
    obtain ⟨b, -, rfl⟩ := List.mem_map.mp hu
    exact hbyte b
  | buffer bs =>
    cases h
    intro u hu
    obtain ⟨b, -, rfl⟩ := List.mem_map.mp hu
    exact hbyte b
  | list items =>
    cases h
    exact isWritable_list_iff.mp hv
  | dict t =>
    cases h
    intro u hu
    obtain ⟨e, he, rfl⟩ := List.mem_map.mp hu
    exact isWritable_toValue (isWritable_dict_iff.mp hv e he).1
  | _ => cases h

namespace Config

theorem isWritable_entryOf {index : Nat} {v : Value} {e : Key × Value} (hv : v.IsWritable)
    (h : entryOf index v = .ok e) : e.2.IsWritable := by
  unfold entryOf at h
  split at h
  · cases h
  · rename_i k w hitems
    obtain ⟨key, -, heq⟩ := bind_eq_ok_iff.mp h
    cases heq
    exact Value.isWritable_items hv hitems w (by simp)
  · cases h

theorem isWritable_entriesFrom {vs : List Value} (hvs : ∀ v ∈ vs, v.IsWritable) {index : Nat}
    {entries : Table} (h : entriesFrom index vs = .ok entries) : ∀ e ∈ entries, e.2.IsWritable := by
  induction vs generalizing index entries with
  | nil =>
    cases h
    simp
  | cons v vs ih =>
    obtain ⟨entry, hentry, h⟩ := bind_eq_ok_iff.mp h
    obtain ⟨rest, hrest, heq⟩ := bind_eq_ok_iff.mp h
    cases heq
    obtain ⟨hv, hvs⟩ := List.forall_mem_cons.mp hvs
    exact List.forall_mem_cons.mpr ⟨isWritable_entryOf hv hentry, ih hvs hrest⟩

theorem isWritable_entriesOf {v : Value} (hv : v.IsWritable) {entries : Table}
    (h : entriesOf v = .ok entries) : ∀ e ∈ entries, e.2.IsWritable := by
  unfold entriesOf at h
  split at h
  · cases h
    exact fun e he => (Value.isWritable_dict_iff.mp hv e he).2
  · obtain ⟨vs, hvs, h⟩ := bind_eq_ok_iff.mp h
    exact isWritable_entriesFrom (Value.isWritable_items hv hvs) h

structure Harmless (f : Table → Table) : Prop where
  keeps : ∀ {t : Table} {key : String}, key ∉ secretKeys → (Table.get? t key).isSome = true →
    (Table.get? (f t) key).isSome = true
  writable : ∀ {t : Table}, (∀ e ∈ t, e.2.IsWritable) → ∀ e ∈ f t, e.2.IsWritable

theorem Harmless.comp {f g : Table → Table} (hf : Harmless f) (hg : Harmless g) :
    Harmless fun t => g (f t) :=
  ⟨fun hkey h => hg.keeps hkey (hf.keeps hkey h), fun h => hg.writable (hf.writable h)⟩

theorem harmless_set (k : Key) {v : Value} (hv : v.IsWritable) : Harmless fun t => t.set k v := by
  constructor
  · intro t key _ h
    rw [Table.get?_set (.text _)]
    split
    · rfl
    · exact h
  · intro t h e he
    rcases (Table.of_mem_set he).2 with hvalue | he
    · rw [hvalue]
      exact hv
    · exact h e he

theorem harmless_erase {a : String} (ha : a ∈ secretKeys) : Harmless fun t => t.erase (.text a) := by
  constructor
  · intro t key hkey h
    have hne : a ≠ key := fun heq => hkey (heq ▸ ha)
    rw [Table.get?_erase_of_ne (.text _) _ (by simpa using hne)]
    exact h
  · intro t h e he
    exact h e ((Table.erase_sublist t _).subset he)

theorem harmless_merge {entries : Table} (h : ∀ e ∈ entries, e.2.IsWritable) :
    Harmless fun t => t.merge entries := by
  induction entries with
  | nil => exact ⟨fun _ h => h, fun h => h⟩
  | cons e entries ih =>
    obtain ⟨he, hentries⟩ := List.forall_mem_cons.mp h
    exact (harmless_set e.1 he).comp (ih hentries)

theorem harmless_without : Harmless fun t => t.without secretKeys :=
  (harmless_erase (.head _)).comp (harmless_erase (.tail _ (.head _)))

structure Complete (c : Config) : Prop where
  names : ∀ name ∈ default.names, name ∈ c.names
  settings : ∀ {name key : String}, (default.setting name key).isSome = true →
    (c.setting name key).isSome = true
  writable : ∀ s ∈ c, ∀ e ∈ s.2, e.2.IsWritable

theorem complete_default : Complete default := by
  refine ⟨fun _ h => h, fun h => h, ?_⟩
  have hshort (n : Int) (h : n.natAbs < Nat.pow 10 7) : Numeral.IsShort n :=
    Numeral.isShort_of_lt (by decide) h
  have hformat := hshort 137 (by decide)
  have hgas := hshort 1000000 (by decide)
  have hvalue := hshort 1000 (by decide)
  simp only [default, List.forall_mem_cons, List.not_mem_nil, false_imp_iff, implies_true, and_true,
    Value.IsWritable, Value.integers]
  simp [hformat, hgas, hvalue]

theorem not_secret_of_default {name key : String} (h : (default.setting name key).isSome = true) :
    key ∉ secretKeys := by
  intro hkey
  simp only [secretKeys, List.mem_cons, List.not_mem_nil, or_false] at hkey
  simp only [setting, default, sectionOf_cons, sectionOf_nil] at h
  rcases hkey with rfl | rfl <;> repeat' split at h
  all_goals cases h

theorem Complete.modify {c : Config} (h : c.Complete) {name : Key} {f : Table → Table} (hf : Harmless f) :
    Complete (c.modify name f) := by
  constructor
  · intro name' hname
    exact mem_names_modify _ (h.names name' hname)
  · intro name' key hdefault
    have hsetting := h.settings hdefault
    unfold setting at hsetting ⊢
    rw [sectionOf_modify]
    split
    · rename_i hname
      rw [← hname] at hsetting
      exact hf.keeps (not_secret_of_default hdefault) hsetting
    · exact hsetting
  · intro s hs
    rcases mem_modify hs with hs | ⟨t, rfl, rfl | ht⟩
    · exact h.writable s hs
    · exact hf.writable (by simp)
    · exact hf.writable (h.writable _ ht)

theorem Complete.overlayAll {c c' : Config} (hc : c.Complete) {t : Table} (ht : ∀ e ∈ t, e.2.IsWritable)
    (h : c.overlayAll t = .ok c') : c'.Complete := by
  induction t generalizing c with
  | nil =>
    cases h
    exact hc
  | cons e t ih =>
    obtain ⟨hv, hrest⟩ := List.forall_mem_cons.mp ht
    obtain ⟨c₁, hc₁, h⟩ := bind_eq_ok_iff.mp h
    obtain ⟨entries, hentries, rfl⟩ := overlay_eq_ok hc₁
    exact ih (hc.modify (harmless_merge (isWritable_entriesOf hv hentries))) hrest h

theorem complete_fromFile {fs : Files} {outer : Nat} {path : Value} {found : Config × Event}
    (h : fromFile fs outer path = .ok found) : found.1.Complete := by
  obtain ⟨-, ⟨-, hfound⟩ | ⟨t, -, hread, hc⟩⟩ := origin_of_fromFile h
  · rw [hfound]
    exact complete_default
  · obtain ⟨content, -, hdocument⟩ := bind_eq_ok_iff.mp hread
    have hwritable := isWritable_of_documentOf hdocument
    exact complete_default.overlayAll (fun e he => (Value.isWritable_dict_iff.mp hwritable e he).2) hc

theorem Complete.override {env : Environment} {c c' : Config} {v : Variable} (hc : c.Complete)
    (h : override env c v = .ok c') : c'.Complete := by
  unfold Config.override at h
  split at h
  · cases h
    exact hc
  · obtain ⟨value, hvalue, heq⟩ := bind_eq_ok_iff.mp h
    cases heq
    refine hc.modify (harmless_set _ ?_)
    unfold overrideValue at hvalue
    split at hvalue
    · split at hvalue
      · rename_i n hn
        cases hvalue
        intro m hm
        rw [List.mem_singleton.mp hm]
        exact Numeral.isShort_of_read hn
      · cases hvalue
    · cases hvalue
      simp [Value.IsWritable, Value.integers]

theorem Complete.overrideAll {env : Environment} {vs : List Variable} {c c' : Config} (hc : c.Complete)
    (h : vs.foldlM (Config.override env) c = .ok c') : c'.Complete := by
  induction vs generalizing c with
  | nil =>
    cases h
    exact hc
  | cons v vs ih =>
    rw [List.foldlM_cons] at h
    obtain ⟨c₁, hv, hrest⟩ := bind_eq_ok_iff.mp h
    exact ih (hc.override hv) hrest

section Loading

variable {outer outer' : Nat} {path : Value} {w w' : World} {n n' : Nat} {c : Config}

theorem complete_of_load (h : ((load outer path).run w n).result = .ok c) : c.Complete := by
  rw [result_load] at h
  obtain ⟨found, hfound, hc⟩ := bind_eq_ok_iff.mp h
  exact ((complete_fromFile hfound).modify harmless_without).overrideAll hc

theorem fromFile_of_le {fs : Files} {found : Config × Event} (hle : outer' ≤ outer)
    (h : fromFile fs outer path = .ok found) : fromFile fs outer' path = .ok found := by
  unfold fromFile at h ⊢
  obtain ⟨there, hthere, h⟩ := bind_eq_ok_iff.mp h
  refine bind_eq_ok_iff.mpr ⟨there, hthere, ?_⟩
  split at h
  · rename_i hfound
    simp only [hfound, if_true, bind_eq_ok_iff] at h ⊢
    obtain ⟨content, hcontent, document, hdocument, hrest⟩ := h
    exact ⟨content, hcontent, document, documentOf_of_le hle hdocument, hrest⟩
  · rename_i hfound
    rw [if_neg hfound]
    exact h

theorem load_of_le (hfiles : w'.files = w.files) (henvironment : w'.environment = w.environment)
    (hle : outer' ≤ outer) (h : ((load outer path).run w n).result = .ok c) :
    ((load outer' path).run w' n').result = .ok c := by
  rw [result_load] at h ⊢
  obtain ⟨found, hfound, hc⟩ := bind_eq_ok_iff.mp h
  rw [hfiles, henvironment]
  exact bind_eq_ok_iff.mpr ⟨found, fromFile_of_le hle hfound, hc⟩

end Loading

namespace Complete

variable {c : Config} (h : c.Complete)

include h

theorem isWritable_of_setting {name key : String} {v : Value} (hv : c.setting name key = some v) :
    v.IsWritable := by
  obtain ⟨e, he, rfl⟩ := Table.exists_mem_of_get? hv
  unfold sectionOf at he
  cases hfind : c.find? fun s => s.1 = .text name with
  | none => simp [hfind] at he
  | some s =>
    rw [hfind] at he
    exact h.writable s (List.mem_of_find?_eq_some hfind) e he

theorem field_toValue {name : String} (hname : .text name ∈ default.names) :
    c.toValue.field name = .ok (.dict (c.sectionOf name)) := by
  exact (field_toValue_iff c name).mpr ⟨h.names _ hname, rfl⟩

theorem exists_field {name key : String} (hdefault : (default.setting name key).isSome = true) :
    ∃ v, (Value.dict (c.sectionOf name)).field key = .ok v := by
  obtain ⟨v, hv⟩ := Option.isSome_iff_exists.mp (h.settings hdefault)
  exact ⟨v, (field_sectionOf_iff c name key).mpr hv⟩

end Complete

end Config

end ProgramDeploy
