import ProgramDeploy.Value.Basic

namespace ProgramDeploy

namespace Key

inductive IsName : Key → Prop where
  | text (a : String) : IsName (.text a)
  | torn (t : Text.Torn) : IsName (.torn t)

attribute [simp] IsName.text IsName.torn

theorem isName_ofPoints (ps : List Text.Point) : (ofPoints ps).IsName := by
  unfold ofPoints
  split
  · exact .torn _
  · exact .text _

theorem IsName.toValue_ne_dict {k : Key} (h : k.IsName) {t : Table} : k.toValue ≠ .dict t := by
  cases h <;> exact Value.noConfusion

theorem same_of_isName (j : Key) {k : Key} (hk : k.IsName) : j.same k = decide (j = k) := by
  cases hk <;> cases j <;> simp [same, number?]

theorem same_text (j : Key) (a : String) : j.same (.text a) = decide (j = .text a) :=
  j.same_of_isName (.text a)

theorem eq_iff_of_same {j k l : Key} (h : j.same k = true) (hl : l.IsName) : j = l ↔ k = l := by
  constructor
  · rintro rfl
    cases hl <;> cases k <;> simp_all [same, number?]
  · rintro rfl
    simpa [same_of_isName _ hl] using h

end Key

namespace Table

structure Named (t : Table) : Prop where
  names : ∀ e ∈ t, e.1.IsName
  distinct : t.Pairwise fun e f => e.1 ≠ f.1

def NamesOnce (t : Table) : Prop :=
  t.Pairwise fun e f => e.1.IsName → f.1 ≠ e.1

theorem Named.namesOnce {t : Table} (h : t.Named) : t.NamesOnce :=
  h.distinct.imp fun hne _ => hne.symm

section Looking

variable {k : Key} (hk : k.IsName)

include hk

theorem get?_cons (j : Key) (v : Value) (t : Table) :
    get? ((j, v) :: t) k = if j = k then some v else get? t k := by
  unfold get?
  rw [List.find?_cons, j.same_of_isName hk]
  by_cases h : j = k <;> simp [h]

theorem get?_eq_none_of_forall {t : Table} (h : ∀ e ∈ t, e.1 ≠ k) : get? t k = none := by
  induction t with
  | nil => rfl
  | cons e t ih =>
    obtain ⟨he, ht⟩ := List.forall_mem_cons.mp h
    rw [get?_cons hk, if_neg he, ih ht]

theorem get?_append (t u : Table) : get? (t ++ u) k = (get? t k).or (get? u k) := by
  induction t with
  | nil => rfl
  | cons e t ih =>
    obtain ⟨j, v⟩ := e
    rw [List.cons_append, get?_cons hk, get?_cons hk]
    split
    · rfl
    · exact ih

theorem get?_set (t : Table) (j : Key) (v : Value) :
    get? (t.set j v) k = if j = k then some v else get? t k := by
  induction t with
  | nil => rw [set, get?_cons hk]
  | cons e t ih =>
    obtain ⟨i, w⟩ := e
    by_cases hsame : i.same j = true
    · have hi : i = k ↔ j = k := Key.eq_iff_of_same hsame hk
      rw [set, if_pos hsame, get?_cons hk, get?_cons hk]
      by_cases hj : j = k <;> simp [hi, hj]
    · rw [set, if_neg hsame, get?_cons hk, get?_cons hk, ih]
      by_cases hi : i = k
      · have hj : j ≠ k := fun hj => hsame (by rw [hj, Key.same_of_isName _ hk, hi]; simp)
        rw [if_pos hi, if_neg hj, if_pos hi]
      · rw [if_neg hi, if_neg hi]

theorem get?_erase_of_ne (t : Table) {j : Key} (h : j ≠ k) : get? (t.erase j) k = get? t k := by
  induction t with
  | nil => rfl
  | cons e t ih =>
    obtain ⟨i, w⟩ := e
    rw [erase]
    split
    · rename_i hsame
      rw [get?_cons hk, if_neg (mt (Key.eq_iff_of_same hsame hk).mp h)]
    · rw [get?_cons hk, get?_cons hk, ih]

theorem get?_merge_reverse (t u : Table) :
    get? (t.merge u) k = (get? u.reverse k).or (get? t k) := by
  induction u generalizing t with
  | nil => rfl
  | cons e u ih =>
    obtain ⟨j, v⟩ := e
    have hmerge : t.merge ((j, v) :: u) = (t.set j v).merge u := rfl
    rw [hmerge, ih, get?_set hk, List.reverse_cons, get?_append hk, get?_cons hk, Option.or_assoc]
    split <;> rfl

end Looking

theorem exists_mem_of_get? {t : Table} {k : Key} {v : Value} (h : get? t k = some v) :
    ∃ e ∈ t, e.2 = v := by
  obtain ⟨e, he, hv⟩ := Option.map_eq_some_iff.mp h
  exact ⟨e, List.mem_of_find?_eq_some he, hv⟩

theorem mem_set {t : Table} {k : Key} (hk : k.IsName) {v : Value} {e : Key × Value} (h : e ∈ t.set k v) :
    e = (k, v) ∨ e ∈ t := by
  induction t with
  | nil => simpa [set] using h
  | cons f t ih =>
    obtain ⟨j, w⟩ := f
    by_cases hj : j = k
    · simp only [set, Key.same_of_isName _ hk, hj, decide_true, if_true, List.mem_cons] at h
      exact h.imp_right (List.mem_cons_of_mem _)
    · simp only [set, Key.same_of_isName _ hk, hj, decide_false, Bool.false_eq_true, if_false,
        List.mem_cons] at h
      rcases h with rfl | h
      · exact .inr List.mem_cons_self
      · exact (ih h).imp_right (List.mem_cons_of_mem _)

theorem of_mem_set {t : Table} {k : Key} {v : Value} {e : Key × Value} (h : e ∈ t.set k v) :
    (e.1 = k ∨ ∃ f ∈ t, e.1 = f.1) ∧ (e.2 = v ∨ e ∈ t) := by
  induction t with
  | nil =>
    rw [List.mem_singleton.mp h]
    exact ⟨.inl rfl, .inl rfl⟩
  | cons f t ih =>
    unfold set at h
    split at h
    · rcases List.mem_cons.mp h with rfl | h
      · exact ⟨.inr ⟨f, List.mem_cons_self, rfl⟩, .inl rfl⟩
      · have he := List.mem_cons_of_mem f h
        exact ⟨.inr ⟨e, he, rfl⟩, .inr he⟩
    · rcases List.mem_cons.mp h with rfl | h
      · exact ⟨.inr ⟨_, List.mem_cons_self, rfl⟩, .inr List.mem_cons_self⟩
      · obtain ⟨hkey, hvalue⟩ := ih h
        refine ⟨hkey.imp_right ?_, hvalue.imp_right (List.mem_cons_of_mem _)⟩
        rintro ⟨g, hg, heq⟩
        exact ⟨g, List.mem_cons_of_mem _ hg, heq⟩

theorem erase_sublist (t : Table) (k : Key) : (t.erase k).Sublist t := by
  induction t with
  | nil => exact List.Sublist.refl _
  | cons e t ih =>
    obtain ⟨j, w⟩ := e
    rw [erase]
    split
    · exact List.sublist_cons_self _ _
    · exact ih.cons_cons _

namespace Named

theorem nil : Named [] :=
  ⟨by simp, List.Pairwise.nil⟩

theorem tail {e : Key × Value} {t : Table} (h : Named (e :: t)) : Named t :=
  ⟨fun f hf => h.names f (List.mem_cons_of_mem e hf), (List.pairwise_cons.mp h.distinct).2⟩

theorem head {e : Key × Value} {t : Table} (h : Named (e :: t)) : e.1.IsName :=
  h.names e List.mem_cons_self

theorem set {t : Table} (h : Named t) {k : Key} (hk : k.IsName) (v : Value) : Named (t.set k v) := by
  refine ⟨fun e he => ?_, ?_⟩
  · rcases mem_set hk he with rfl | he
    · exact hk
    · exact h.names e he
  · induction t with
    | nil => exact List.pairwise_singleton _ _
    | cons f t ih =>
      obtain ⟨j, w⟩ := f
      by_cases hj : j = k
      · simpa [Table.set, Key.same_of_isName _ hk, hj] using h.distinct
      · simp only [Table.set, Key.same_of_isName _ hk, hj, decide_false, Bool.false_eq_true, if_false]
        refine List.pairwise_cons.mpr ⟨fun e he => ?_, ih h.tail⟩
        rcases mem_set hk he with rfl | he
        · exact hj
        · exact (List.pairwise_cons.mp h.distinct).1 e he

theorem erase {t : Table} (h : Named t) (k : Key) : Named (t.erase k) :=
  ⟨fun e he => h.names e ((erase_sublist t k).subset he), h.distinct.sublist (erase_sublist t k)⟩

end Named

namespace NamesOnce

variable {t : Table}

theorem tail {e : Key × Value} (h : NamesOnce (e :: t)) : t.NamesOnce :=
  (List.pairwise_cons.mp h).2

theorem get?_tail {k : Key} {v : Value} (hk : k.IsName) (h : NamesOnce ((k, v) :: t)) : get? t k = none :=
  get?_eq_none_of_forall hk fun e he => (List.pairwise_cons.mp h).1 e he hk

theorem set (h : t.NamesOnce) (k : Key) (v : Value) : NamesOnce (t.set k v) := by
  induction t with
  | nil => exact List.pairwise_singleton _ _
  | cons e t ih =>
    obtain ⟨j, w⟩ := e
    obtain ⟨hbehind, ht⟩ := List.pairwise_cons.mp h
    unfold Table.set
    split
    · exact List.pairwise_cons.mpr ⟨hbehind, ht⟩
    · rename_i hsame
      refine List.pairwise_cons.mpr ⟨fun f hf hj heq => ?_, ih ht⟩
      have hj : j.IsName := hj
      have heq : f.1 = j := heq
      rcases (of_mem_set hf).1 with hkey | ⟨g, hg, hkey⟩
      · rw [← hkey, heq, Key.same_of_isName _ hj] at hsame
        simp at hsame
      · exact hbehind g hg hj (hkey.symm.trans heq)

theorem merge (h : t.NamesOnce) (u : Table) : NamesOnce (t.merge u) := by
  induction u generalizing t with
  | nil => exact h
  | cons e u ih => exact ih (h.set e.1 e.2)

theorem erase (h : t.NamesOnce) (k : Key) : NamesOnce (t.erase k) :=
  h.sublist (erase_sublist t k)

theorem get?_erase_self (h : t.NamesOnce) {k : Key} (hk : k.IsName) : get? (t.erase k) k = none := by
  induction t with
  | nil => rfl
  | cons e t ih =>
    obtain ⟨j, w⟩ := e
    by_cases hj : j = k
    · subst hj
      simpa [Table.erase, Key.same_of_isName _ hk] using h.get?_tail hk
    · simp [Table.erase, Key.same_of_isName _ hk, get?_cons hk, hj, ih h.tail]

theorem get?_reverse (h : t.NamesOnce) {k : Key} (hk : k.IsName) : get? t.reverse k = get? t k := by
  induction t with
  | nil => rfl
  | cons e t ih =>
    obtain ⟨j, v⟩ := e
    rw [List.reverse_cons, get?_append hk, ih h.tail, get?_cons hk, get?_cons hk]
    by_cases hj : j = k
    · subst hj
      rw [h.get?_tail hk]
      simp
    · simp [hj, get?]

end NamesOnce

theorem erase_set_self (t : Table) (a : String) (v : Value) :
    (t.set (.text a) v).erase (.text a) = t.erase (.text a) := by
  induction t with
  | nil => simp [set, erase, Key.same_text]
  | cons e t ih =>
    obtain ⟨j, w⟩ := e
    by_cases hj : j = .text a
    · simp [set, erase, Key.same_text, hj]
    · simp [set, erase, Key.same_text, hj, ih]

theorem erase_set_of_ne (t : Table) {k : Key} (hk : k.IsName) {b : String} (h : k ≠ .text b) (v : Value) :
    (t.set k v).erase (.text b) = (t.erase (.text b)).set k v := by
  induction t with
  | nil => simp [set, erase, Key.same_text, h]
  | cons e t ih =>
    obtain ⟨j, w⟩ := e
    by_cases ha : j = k
    · simp [set, erase, Key.same_of_isName _ hk, Key.same_text, ha, h]
    · by_cases hb : j = .text b
      · subst hb
        simp [set, erase, Key.same_of_isName _ hk, Key.same_text, ha]
      · simp [set, erase, Key.same_of_isName _ hk, Key.same_text, ha, hb, ih]

theorem erase_eq_self {t : Table} {a : String} (h : get? t (.text a) = none) :
    t.erase (.text a) = t := by
  induction t with
  | nil => rfl
  | cons e t ih =>
    obtain ⟨j, w⟩ := e
    rw [get?_cons (.text a)] at h
    split at h
    · cases h
    · rename_i hj
      simp [erase, Key.same_text, hj, ih h]

theorem named_merge {t : Table} (h : Named t) {u : Table} (hu : ∀ e ∈ u, e.1.IsName) :
    Named (t.merge u) := by
  induction u generalizing t with
  | nil => exact h
  | cons e u ih =>
    obtain ⟨hname, hu⟩ := List.forall_mem_cons.mp hu
    exact ih (h.set hname e.2) hu

theorem erase_merge (t : Table) {u : Table} (hu : Named u) (a : String) :
    (t.merge u).erase (.text a) = (t.erase (.text a)).merge (u.erase (.text a)) := by
  induction u generalizing t with
  | nil => rfl
  | cons e u ih =>
    obtain ⟨j, v⟩ := e
    have hmerge (t u : Table) : t.merge ((j, v) :: u) = (t.set j v).merge u := rfl
    rw [hmerge, ih _ hu.tail]
    by_cases hj : j = .text a
    · subst hj
      simp [erase_set_self, erase, Key.same_text, erase_eq_self (hu.namesOnce.get?_tail (.text a))]
    · simp [erase_set_of_ne t hu.head hj, erase, Key.same_text, hj, hmerge _ (erase u _)]

theorem mem_merge {t u : Table} (hu : ∀ e ∈ u, e.1.IsName) {e : Key × Value}
    (h : e ∈ t.merge u) : e ∈ t ∨ e ∈ u := by
  induction u generalizing t with
  | nil => exact .inl h
  | cons f u ih =>
    obtain ⟨hname, hu⟩ := List.forall_mem_cons.mp hu
    rcases ih hu h with h | h
    · rcases mem_set hname h with rfl | h
      · exact .inr List.mem_cons_self
      · exact .inl h
    · exact .inr (List.mem_cons_of_mem _ h)

def without (t : Table) (names : List String) : Table :=
  names.foldl (fun t a => t.erase (.text a)) t

theorem Named.without {t : Table} (h : Named t) (names : List String) : Named (t.without names) := by
  induction names generalizing t with
  | nil => exact h
  | cons a names ih => exact ih (h.erase (.text a))

theorem without_merge (t : Table) {u : Table} (hu : Named u) (names : List String) :
    (t.merge u).without names = (t.without names).merge (u.without names) := by
  induction names generalizing t u with
  | nil => rfl
  | cons a names ih =>
    have herase := ih (t.erase (.text a)) (hu.erase (.text a))
    rw [← erase_merge t hu] at herase
    exact herase

theorem NamesOnce.get?_without {t : Table} (h : t.NamesOnce) (names : List String) {k : Key}
    (hk : k.IsName) :
    get? (t.without names) k = if k ∈ names.map .text then none else get? t k := by
  induction names generalizing t with
  | nil => simp [Table.without]
  | cons b names ih =>
    have hcons : t.without (b :: names) = (t.erase (.text b)).without names := rfl
    rw [hcons, ih (h.erase _), List.map_cons]
    by_cases hb : .text b = k
    · subst hb
      simp [h.get?_erase_self]
    · simp [get?_erase_of_ne hk t hb, Ne.symm hb]

end Table

end ProgramDeploy
