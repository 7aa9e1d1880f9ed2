import ProgramDeploy.Proofs.Runs
import ProgramDeploy.Proofs.Tables
import ProgramDeploy.Value.Edit

/-!
Edits of a dictionary, one after the other. What stands under a name depends only on the edits under that
name, and the value that stood there first follows those inside it until another one is put in its place.
-/

namespace ProgramDeploy

namespace Table

def only (t : Table) (name : String) : Table :=
  t.filter fun e => e.1 = .text name

theorem only_cons (j : Key) (v : Value) (t : Table) (name : String) :
    only ((j, v) :: t) name = if j = .text name then (j, v) :: t.only name else t.only name := by
  by_cases hj : j = .text name <;> simp [only, hj]

theorem get?_only (t : Table) (name : String) : get? (t.only name) (.text name) = get? t (.text name) := by
  induction t with
  | nil => rfl
  | cons e t ih =>
    obtain ⟨j, v⟩ := e
    by_cases hj : j = .text name <;> simp [only_cons, get?_cons (.text name), hj, ih]

theorem only_set (t : Table) (k : Key) (v : Value) (name : String) :
    (t.set k v).only name = if k = .text name then (t.only name).set k v else t.only name := by
  induction t with
  | nil => by_cases hk : k = .text name <;> simp [set, only, hk]
  | cons e t ih =>
    obtain ⟨j, w⟩ := e
    by_cases hsame : j.same k = true
    · have hj : j = .text name ↔ k = .text name := Key.eq_iff_of_same hsame (.text name)
      by_cases hk : k = .text name
      · simp only [set, if_pos hsame, only_cons, if_pos (hj.mpr hk), if_pos hk]
      · simp only [set, if_pos hsame, only_cons, if_neg (mt hj.mp hk), if_neg hk]
    · rw [set, if_neg hsame, only_cons, only_cons, ih]
      by_cases hj : j = .text name
      · have hk : k ≠ .text name := fun hk => hsame (by simp [hj, hk, Key.same_text])
        simp only [if_pos hj, if_neg hk]
      · simp only [if_neg hj]

theorem only_erase (t : Table) (k : Key) (name : String) :
    (t.erase k).only name = if k = .text name then (t.only name).erase k else t.only name := by
  induction t with
  | nil => by_cases hk : k = .text name <;> simp [erase, only, hk]
  | cons e t ih =>
    obtain ⟨j, w⟩ := e
    by_cases hsame : j.same k = true
    · have hj : j = .text name ↔ k = .text name := Key.eq_iff_of_same hsame (.text name)
      by_cases hk : k = .text name
      · simp only [erase, if_pos hsame, only_cons, if_pos (hj.mpr hk), if_pos hk]
      · simp only [erase, if_pos hsame, only_cons, if_neg (mt hj.mp hk), if_neg hk]
    · rw [erase, if_neg hsame, only_cons, only_cons, ih]
      by_cases hj : j = .text name
      · have hk : k ≠ .text name := fun hk => hsame (by simp [hj, hk, Key.same_text])
        simp only [if_pos hj, if_neg hk]
      · simp only [if_neg hj]

theorem only_insert (t : Table) (k : Key) (v : Value) (name : String) :
    (t.insert k v).only name = if k = .text name then (t.only name).insert k v else t.only name := by
  by_cases hnan : k = .float .nan
  · simp [insert, hnan, only]
  · simp [insert, hnan, only_set]

theorem find?_text (t : Table) (name : String) : t.find? (.text name) = get? t (.text name) := by
  simp [find?]

theorem get?_insert (t : Table) (name : String) (v : Value) :
    get? (t.insert (.text name) v) (.text name) = some v := by
  simp [insert, get?_set (.text name)]

end Table

namespace Value

theorem isText_eq_true_iff {key : Value} {name : String} : key.isText name = true ↔ key = .text name := by
  cases key <;> simp [isText]

theorem eq_text_iff_of_toKey? {key : Value} {k : Key} (h : key.toKey? = some k) (name : String) :
    k = .text name ↔ key.isText name = true := by
  cases key <;> cases h <;> simp [isText]

theorem toKey?_of_entryKey {key : Value} {found : Key × String} (h : key.entryKey = .ok found) :
    key.toKey? = some found.1 := by
  unfold entryKey at h
  split at h
  · cases h
  · rename_i k hk
    obtain ⟨literal, -, heq⟩ := bind_eq_ok_iff.mp h
    cases heq
    exact hk

theorem edit_cons (v : Value) (change : Change) (key : Value) {rest : List Value} (hrest : rest ≠ []) :
    v.edit change (key :: rest) = (do
      let inner ← v.item key
      let inner ← inner.edit change rest
      v.assignItem key inner) := by
  cases rest with
  | nil => exact absurd rfl hrest
  | cons k rest => rfl

theorem item_text (t : Table) (name : String) : (dict t).item (.text name) = (dict t).field name := by
  simp only [item, field]
  rfl

def Narrows (change : Value → Except Fault Value) (key : Value) : Prop :=
  ∀ (name : String) (t : Table) (v : Value), change (.dict t) = .ok v → ∃ t' : Table, v = .dict t' ∧
    (key.isText name = true → change (.dict (t.only name)) = .ok (.dict (t'.only name))) ∧
    (key.isText name = false → t'.only name = t.only name)

theorem narrows_assignItem (key w : Value) : Narrows (fun v => v.assignItem key w) key := by
  intro name t v h
  obtain ⟨⟨k, literal⟩, hkey, heq⟩ := bind_eq_ok_iff.mp h
  cases heq
  have hname := eq_text_iff_of_toKey? (toKey?_of_entryKey hkey) name
  refine ⟨_, rfl, fun htext => ?_, fun htext => ?_⟩
  · simp only [assignItem, hkey, Table.only_insert, if_pos (hname.mpr htext)]
    rfl
  · have hne : k ≠ .text name := fun hk => by simp [hname.mp hk] at htext
    rw [Table.only_insert, if_neg hne]

theorem narrows_deleteItem (key : Value) : Narrows (fun v => v.deleteItem key) key := by
  intro name t v h
  obtain ⟨⟨k, literal⟩, hkey, h⟩ := bind_eq_ok_iff.mp h
  have hname := eq_text_iff_of_toKey? (toKey?_of_entryKey hkey) name
  dsimp only at h hname
  split at h
  · rename_i hfound
    cases h
    refine ⟨_, rfl, fun htext => ?_, fun htext => ?_⟩
    · have hk := hname.mpr htext
      have hfound' : (Table.find? (t.only name) k).isSome = true := by
        rw [hk, Table.find?_text] at hfound ⊢
        rwa [Table.get?_only]
      simp only [deleteItem, hkey, Table.only_erase, if_pos hk]
      simp only [bind, Except.bind, if_pos hfound']
      rfl
    · have hne : k ≠ .text name := fun hk => by simp [hname.mp hk] at htext
      rw [Table.only_erase, if_neg hne]
  · cases h

theorem narrows_edit (change : Change) (key : Value) (rest : List Value) :
    Narrows (fun v => v.edit change (key :: rest)) key := by
  by_cases hrest : rest = []
  · subst hrest
    cases change with
    | assign w => exact narrows_assignItem key w
    | delete => exact narrows_deleteItem key
  · intro name t v h
    simp only [edit_cons _ change key hrest, bind_eq_ok_iff] at h ⊢
    obtain ⟨inner, hinner, inner', hedit, h⟩ := h
    obtain ⟨t', rfl, hself, hother⟩ := narrows_assignItem key inner' name t v h
    refine ⟨t', rfl, fun htext => ⟨inner, ?_, inner', hedit, hself htext⟩, hother⟩
    rw [isText_eq_true_iff.mp htext, item_text] at hinner ⊢
    simpa [field, Table.get?_only] using hinner

theorem edit_inside {t : Table} {name : String} {change : Change} {rest : List Value} (hrest : rest ≠ [])
    {v : Value} (h : (dict t).edit change (.text name :: rest) = .ok v) :
    ∃ inner inner', (dict t).field name = .ok inner ∧ inner.edit change rest = .ok inner' ∧
      v.field name = .ok inner' := by
  simp only [edit_cons _ change _ hrest, bind_eq_ok_iff] at h
  obtain ⟨inner, hinner, inner', hedit, h⟩ := h
  rw [item_text] at hinner
  refine ⟨inner, inner', hinner, hedit, ?_⟩
  cases h
  simp [field, Table.get?_insert]

end Value

structure Edit where
  path : List Value
  change : Value.Change

namespace Edit

def apply (e : Edit) (v : Value) : Except Fault Value :=
  v.edit e.change e.path

def applyAll (es : List Edit) (v : Value) : Except Fault Value :=
  es.foldlM (fun v e => e.apply v) v

def isUnder (name : String) (e : Edit) : Bool :=
  match e.path with
  | key :: _ => key.isText name
  | [] => false

def replaces (name : String) (e : Edit) : Bool :=
  match e.path with
  | [key] => key.isText name
  | _ => false

def inner (e : Edit) : Edit :=
  ⟨e.path.tail, e.change⟩

def inside (name : String) : List Edit → List Edit
  | [] => []
  | e :: es =>
    if e.replaces name then []
    else if e.isUnder name then e.inner :: inside name es
    else inside name es

/-- The edits without those that have no part in what first stands under a name though they are under
that name: its replacement, and all behind it. -/
def heeding (name : String) : List Edit → List Edit
  | [] => []
  | e :: es => if e.replaces name then es.filter fun f => !f.isUnder name else e :: heeding name es

section Names

variable {name other : String} {e : Edit}

theorem isUnder_of_replaces (h : e.replaces name = true) : e.isUnder name = true := by
  obtain ⟨path, change⟩ := e
  match path with
  | [key] => exact h
  | [] | _ :: _ :: _ => cases h

theorem isUnder_eq_false (h : e.isUnder name = true) (hne : name ≠ other) : e.isUnder other = false := by
  obtain ⟨path, change⟩ := e
  cases path with
  | nil => rfl
  | cons key rest =>
    rw [isUnder, Value.isText_eq_true_iff.mp h]
    simpa [Value.isText] using hne

theorem filter_isUnder_of_not (h : e.isUnder name = false) (es : List Edit) :
    (e :: es).filter (isUnder name) = es.filter (isUnder name) := by
  simp [h]

theorem filter_heeding (hne : name ≠ other) (es : List Edit) :
    (heeding other es).filter (isUnder name) = es.filter (isUnder name) := by
  induction es with
  | nil => rfl
  | cons e es ih =>
    cases hreplaces : e.replaces other with
    | true =>
      have hunder := isUnder_eq_false (isUnder_of_replaces hreplaces) (Ne.symm hne)
      rw [heeding, if_pos hreplaces, filter_isUnder_of_not hunder, List.filter_filter]
      apply List.filter_congr
      intro f _
      cases hf : f.isUnder name with
      | true => simp [isUnder_eq_false hf hne]
      | false => rfl
    | false => simp [heeding, hreplaces, List.filter_cons, ih]

theorem inside_filter (name : String) (es : List Edit) :
    inside name (es.filter (isUnder name)) = inside name es := by
  induction es with
  | nil => rfl
  | cons e es ih =>
    cases hunder : e.isUnder name with
    | true => simp [inside, hunder, ih]
    | false =>
      have hreplaces : e.replaces name = false := by
        cases h : e.replaces name with
        | true => simp [isUnder_of_replaces h] at hunder
        | false => rfl
      rw [filter_isUnder_of_not hunder, ih]
      simp [inside, hunder, hreplaces]

theorem inside_heeding_self (name : String) (es : List Edit) :
    inside name (heeding name es) = inside name es := by
  induction es with
  | nil => rfl
  | cons e es ih =>
    cases hreplaces : e.replaces name with
    | true =>
      have hnone : (es.filter fun f => !f.isUnder name).filter (isUnder name) = [] := by
        simp
      rw [heeding, if_pos hreplaces, ← inside_filter, hnone]
      simp [inside, hreplaces]
    | false => simp [heeding, inside, hreplaces, ih]

theorem inside_heeding_of_ne (hne : name ≠ other) (es : List Edit) :
    inside name (heeding other es) = inside name es := by
  rw [← inside_filter, filter_heeding hne, inside_filter]

end Names

section Applying

variable {t : Table} {v : Value} {e : Edit} {name : String}

theorem exists_table_of_apply (h : e.apply (.dict t) = .ok v) (name : String) :
    ∃ t' : Table, v = .dict t' ∧
      (e.isUnder name = true → e.apply (.dict (t.only name)) = .ok (.dict (t'.only name))) ∧
      (e.isUnder name = false → t'.only name = t.only name) := by
  obtain ⟨path, change⟩ := e
  cases path with
  | nil => cases h
  | cons key rest => exact Value.narrows_edit change key rest name t v h

theorem field_only (t : Table) (name : String) :
    (Value.dict (t.only name)).field name = (Value.dict t).field name := by
  simp [Value.field, Table.get?_only]

theorem field_of_apply_aside (h : e.apply (.dict t) = .ok v) (haside : e.isUnder name = false) :
    v.field name = (Value.dict t).field name := by
  obtain ⟨t', rfl, -, hsame⟩ := exists_table_of_apply h name
  rw [← field_only, hsame haside, field_only]

theorem exists_inner_of_apply (h : e.apply (.dict t) = .ok v) (hunder : e.isUnder name = true)
    (hreplaces : e.replaces name = false) :
    ∃ u u', (Value.dict t).field name = .ok u ∧ e.inner.apply u = .ok u' ∧ v.field name = .ok u' := by
  obtain ⟨path, change⟩ := e
  match path with
  | [] => cases hunder
  | [key] => exact absurd hunder (by simpa [replaces, isUnder] using hreplaces)
  | key :: k :: rest =>
    have hkey := Value.isText_eq_true_iff.mp hunder
    subst hkey
    exact Value.edit_inside (List.cons_ne_nil k rest) h

theorem applyAll_only {es : List Edit} (h : applyAll es (.dict t) = .ok v) (name : String) :
    ∃ t' : Table, v = .dict t' ∧
      applyAll (es.filter (isUnder name)) (.dict (t.only name)) = .ok (.dict (t'.only name)) := by
  induction es generalizing t with
  | nil =>
    cases h
    exact ⟨t, rfl, rfl⟩
  | cons e es ih =>
    obtain ⟨u, hu, h⟩ := bind_eq_ok_iff.mp h
    obtain ⟨t₁, rfl, hself, haside⟩ := exists_table_of_apply hu name
    obtain ⟨t', rfl, hrest⟩ := ih h
    refine ⟨t', rfl, ?_⟩
    cases hunder : e.isUnder name with
    | true =>
      rw [List.filter_cons, if_pos hunder]
      exact bind_eq_ok_iff.mpr ⟨_, hself hunder, hrest⟩
    | false => rwa [filter_isUnder_of_not hunder, ← haside hunder]

theorem field_eq_of_applyAll {es es' : List Edit} {v' : Value} (h : applyAll es (.dict t) = .ok v)
    (h' : applyAll es' (.dict t) = .ok v') (heq : es.filter (isUnder name) = es'.filter (isUnder name)) :
    v.field name = v'.field name := by
  obtain ⟨u, rfl, hu⟩ := applyAll_only h name
  obtain ⟨u', rfl, hu'⟩ := applyAll_only h' name
  rw [heq, hu'] at hu
  rw [← field_only u, ← field_only u', Except.ok.inj hu]

end Applying

end Edit

end ProgramDeploy
