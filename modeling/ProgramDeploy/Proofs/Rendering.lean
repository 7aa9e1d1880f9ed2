import ProgramDeploy.Fault

namespace ProgramDeploy

def Numeral.IsShort (n : Int) : Prop :=
  n.natAbs < Nat.pow 10 limit

theorem Numeral.write_of_isShort {n : Int} (h : IsShort n) : write n = .ok (toString n) :=
  if_neg (Nat.not_le.mpr h)

theorem Numeral.isShort_of_lt {n : Int} {k : Nat} (hk : k ≤ limit) (h : n.natAbs < Nat.pow 10 k) :
    IsShort n := by
  have hpow (m : Nat) (hm : k ≤ m) : Nat.pow 10 k ≤ Nat.pow 10 m := Nat.pow_le_pow_right (by decide) hm
  exact Nat.lt_of_lt_of_le h (hpow limit hk)

def Key.integers : Key → List Int
  | int n => [n]
  | _ => []

namespace Value

mutual

def integers : Value → List Int
  | int n => [n]
  | list items => itemIntegers items
  | dict entries => entryIntegers entries
  | _ => []

def itemIntegers : List Value → List Int
  | [] => []
  | v :: vs => integers v ++ itemIntegers vs

def entryIntegers : List (Key × Value) → List Int
  | [] => []
  | (k, v) :: t => k.integers ++ integers v ++ entryIntegers t

end

def IsWritable (v : Value) : Prop :=
  ∀ n ∈ v.integers, Numeral.IsShort n

theorem mem_itemIntegers {n : Int} {vs : List Value} :
    n ∈ itemIntegers vs ↔ ∃ v ∈ vs, n ∈ v.integers := by
  induction vs with
  | nil => simp [itemIntegers]
  | cons v vs ih => simp [itemIntegers, ih]

theorem mem_entryIntegers {n : Int} {t : List (Key × Value)} :
    n ∈ entryIntegers t ↔ ∃ e ∈ t, n ∈ e.1.integers ∨ n ∈ e.2.integers := by
  induction t with
  | nil => simp [entryIntegers]
  | cons e t ih => simp [entryIntegers, ih, or_assoc]

theorem isWritable_list_iff {vs : List Value} : (list vs).IsWritable ↔ ∀ v ∈ vs, v.IsWritable := by
  simp only [IsWritable, integers, mem_itemIntegers]
  constructor
  · intro h v hv n hn
    exact h n ⟨v, hv, hn⟩
  · rintro h n ⟨v, hv, hn⟩
    exact h v hv n hn

theorem isWritable_dict_iff {t : List (Key × Value)} : (dict t).IsWritable ↔
    ∀ e ∈ t, (∀ n ∈ e.1.integers, Numeral.IsShort n) ∧ e.2.IsWritable := by
  simp only [IsWritable, integers, mem_entryIntegers]
  constructor
  · intro h e he
    exact ⟨fun n hn => h n ⟨e, he, .inl hn⟩, fun n hn => h n ⟨e, he, .inr hn⟩⟩
  · rintro h n ⟨e, he, hn | hn⟩
    · exact (h e he).1 n hn
    · exact (h e he).2 n hn

theorem literal_of_key {k : Key} (h : ∀ n ∈ k.integers, Numeral.IsShort n) :
    ∃ s, k.literal = .ok s := by
  cases k with
  | int n => exact ⟨_, Numeral.write_of_isShort (h n (List.mem_singleton.mpr rfl))⟩
  | _ => exact ⟨_, rfl⟩

mutual

theorem literal_of_isWritable (v : Value) (h : v.IsWritable) : ∃ s, v.literal = .ok s := by
  cases v with
  | int n =>
    have hshort := h n (by simp [integers])
    exact ⟨_, by rw [literal, Numeral.write_of_isShort hshort]⟩
  | list items =>
    obtain ⟨ss, hss⟩ := itemLiterals_of_short items (by simpa [IsWritable, integers] using h)
    exact ⟨"[" ++ ", ".intercalate ss ++ "]", by simp [literal, hss, bind, Except.bind, pure, Except.pure]⟩
  | dict entries =>
    obtain ⟨ss, hss⟩ := entryLiterals_of_short entries (by simpa [IsWritable, integers] using h)
    exact ⟨"\x7b" ++ ", ".intercalate ss ++ "\x7d",
      by simp [literal, hss, bind, Except.bind, pure, Except.pure]⟩
  | _ => exact ⟨_, by unfold literal; rfl⟩

theorem itemLiterals_of_short (vs : List Value)
    (h : ∀ n ∈ itemIntegers vs, Numeral.IsShort n) : ∃ ss, itemLiterals vs = .ok ss := by
  cases vs with
  | nil => exact ⟨[], by simp only [itemLiterals]⟩
  | cons v vs =>
    simp only [itemIntegers, List.mem_append, or_imp, forall_and] at h
    obtain ⟨s, hs⟩ := literal_of_isWritable v h.1
    obtain ⟨ss, hss⟩ := itemLiterals_of_short vs h.2
    exact ⟨s :: ss, by simp [itemLiterals, hs, hss, bind, Except.bind, pure, Except.pure]⟩

theorem entryLiterals_of_short (t : List (Key × Value))
    (h : ∀ n ∈ entryIntegers t, Numeral.IsShort n) : ∃ ss, entryLiterals t = .ok ss := by
  match t with
  | [] => exact ⟨[], by simp only [entryLiterals]⟩
  | (k, v) :: t =>
    simp only [entryIntegers, List.mem_append, or_imp, forall_and] at h
    obtain ⟨s, hs⟩ := literal_of_key h.1.1
    obtain ⟨s', hs'⟩ := literal_of_isWritable v h.1.2
    obtain ⟨ss, hss⟩ := entryLiterals_of_short t h.2
    exact ⟨(s ++ ": " ++ s') :: ss,
      by simp [entryLiterals, hs, hs', hss, bind, Except.bind, pure, Except.pure]⟩

end

theorem display_of_isWritable {v : Value} (h : v.IsWritable) : ∃ s, v.display = .ok s := by
  cases v with
  | text | torn => exact ⟨_, rfl⟩
  | _ => exact literal_of_isWritable _ h

theorem shown_of_isWritable {v : Value} (h : v.IsWritable) : ∃ s, v.shown = .ok s := by
  obtain ⟨s, hs⟩ := display_of_isWritable h
  exact ⟨s, by rw [shown, hs]; rfl⟩

theorem shown_int_of_isShort {n : Int} (h : Numeral.IsShort n) : ∃ s, (Value.int n).shown = .ok s := by
  apply shown_of_isWritable
  intro m hm
  rw [List.mem_singleton.mp hm]
  exact h

theorem itemLiterals_of_isWritable {vs : List Value} (h : ∀ v ∈ vs, v.IsWritable) :
    ∃ ss, itemLiterals vs = .ok ss := by
  have hlist := isWritable_list_iff.mpr h
  exact itemLiterals_of_short vs (by simpa [IsWritable, integers] using hlist)

end Value

namespace Fault

def raisedValues (kind : Kind) (arguments files : List Value) : List Value :=
  match kind, arguments with
  | .system _, number :: reason :: _ =>
    if isReport arguments.length then number :: reason :: files.take 2 else arguments
  | _, _ => arguments

def rendered : Fault → List Value
  | raised kind arguments files => raisedValues kind arguments files
  | _ => []

theorem argumentText_of_isWritable {vs : List Value} (h : ∀ v ∈ vs, v.IsWritable) :
    ∃ s, argumentText vs = .ok s := by
  match vs with
  | [] => exact ⟨"", rfl⟩
  | [v] => exact Value.display_of_isWritable (h v List.mem_cons_self)
  | v :: v' :: vs =>
    obtain ⟨ss, hss⟩ := Value.itemLiterals_of_isWritable h
    exact ⟨"(" ++ ", ".intercalate ss ++ ")",
      by simp [argumentText, hss, bind, Except.bind, pure, Except.pure]⟩

theorem systemText_of_isWritable {number reason : Value} {files : List Value}
    (hnumber : number.IsWritable) (hreason : reason.IsWritable)
    (hfiles : ∀ v ∈ files.take 2, v.IsWritable) : ∃ s, systemText number reason files = .ok s := by
  obtain ⟨s, hs⟩ := Value.display_of_isWritable hnumber
  obtain ⟨s', hs'⟩ := Value.display_of_isWritable hreason
  match files with
  | [] => exact ⟨_, by simp only [systemText, hs, hs']; rfl⟩
  | [file] =>
    obtain ⟨t, ht⟩ := Value.literal_of_isWritable file (hfiles file (by simp))
    exact ⟨_, by simp only [systemText, hs, hs', ht]; rfl⟩
  | file :: other :: more =>
    obtain ⟨t, ht⟩ := Value.literal_of_isWritable file (hfiles file (by simp))
    obtain ⟨t', ht'⟩ := Value.literal_of_isWritable other (hfiles other (by simp))
    exact ⟨_, by simp only [systemText, hs, hs', ht, ht']; rfl⟩

theorem raisedText_of_isWritable {kind : Kind} {arguments files : List Value}
    (h : ∀ v ∈ raisedValues kind arguments files, v.IsWritable) :
    ∃ s, raisedText kind arguments files = .ok s := by
  unfold raisedText
  split
  · exact Value.literal_of_isWritable _ (h _ (by simp [raisedValues]))
  · rename_i number reason more
    simp only [raisedValues] at h
    by_cases hreport : isReport (number :: reason :: more).length = true
    · rw [if_pos hreport] at h ⊢
      apply systemText_of_isWritable (h number (by simp)) (h reason (by simp))
      exact fun v hv => h v (List.mem_cons_of_mem _ (List.mem_cons_of_mem _ hv))
    · rw [if_neg hreport] at h ⊢
      exact argumentText_of_isWritable h
  · rename_i hother
    have hvalues : raisedValues kind arguments files = arguments := by
      unfold raisedValues
      split
      · exact absurd rfl (hother _ _ _ _ rfl)
      · rfl
    rw [hvalues] at h
    exact argumentText_of_isWritable h

theorem text_of_isWritable {f : Fault} (h : ∀ v ∈ f.rendered, v.IsWritable) :
    ∃ s, f.text = .ok s := by
  have htext : ∃ s, f.text? = .ok s := by
    cases f with
    | raised kind arguments files => exact raisedText_of_isWritable h
    | _ => exact ⟨_, rfl⟩
  obtain ⟨s, hs⟩ := htext
  exact ⟨s, by rw [text, hs]; rfl⟩

end Fault

end ProgramDeploy
