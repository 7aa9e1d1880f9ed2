import ProgramDeploy.Config
import ProgramDeploy.Proofs.Runs
import ProgramDeploy.Proofs.Tables

namespace ProgramDeploy

theorem Text.Utf8.decodeFrom_ascii (position : Nat) {b : UInt8} (h : b < 0x80) (bs : Bytes) :
    decodeFrom position (b :: bs) =
      (decodeFrom (position + 1) bs).map (Char.ofNat b.toNat :: ·) := by
  have hcontinuation : continuation? b = some [] := if_pos h
  rw [decodeFrom, hcontinuation]
  simp only [agreeing, List.length_nil, assemble, ↓reduceIte, Nat.add_zero, List.drop_zero]
  cases decodeFrom (position + 1) bs <;> rfl

inductive Value.IsRead : Value → Prop where
  | dict {t : Table} (named : t.Named) (entries : ∀ e ∈ t, IsRead e.2) : IsRead (.dict t)
  | other {v : Value} (h : ∀ t, v ≠ .dict t) : IsRead v

namespace Json

theorem isRead_of_readScalar {c c' : Cursor} {v : Value} (h : readScalar c = .ok (v, c')) : v.IsRead := by
  unfold readScalar at h
  split at h
  · rename_i w v' hfind
    cases h
    have hword := List.mem_of_find?_eq_some hfind
    simp only [wordLiterals, List.mem_cons, Prod.mk.injEq, List.not_mem_nil, or_false] at hword
    rcases hword with ⟨-, rfl⟩ | ⟨-, rfl⟩ | ⟨-, rfl⟩ | ⟨-, rfl⟩ | ⟨-, rfl⟩ | ⟨-, rfl⟩ <;>
      exact .other fun _ h => (nomatch h)
  · split at h
    · cases h
    · dsimp only at h
      split at h
      · split at h
        · cases h
          exact .other fun _ h => (nomatch h)
        · cases h
      · cases h
        exact .other fun _ h => (nomatch h)

def Entries (P : Value → Prop) (t : Table) : Prop :=
  ∀ e ∈ t, e.1.IsName ∧ P e.2

structure Inherited (P : Value → Prop) : Prop where
  scalar : ∀ {c c' v}, readScalar c = .ok (v, c') → P v
  text : ∀ ps, P (.ofPoints ps)
  list : ∀ {vs}, (∀ v ∈ vs, P v) → P (.list vs)
  object : ∀ {t}, Entries P t → P (.dict (Table.ofList t))

section Inherited

variable {P : Value → Prop} {fuel : Nat}

theorem Inherited.of_readValue (hP : Inherited P)
    (hitems : ∀ {depth c vs c'}, readItems fuel depth c = .ok (vs, c') → ∀ v ∈ vs, P v)
    (hmembers : ∀ {depth c t c'}, readMembers fuel depth c = .ok (t, c') → Entries P t)
    {depth : Nat} {c c' : Cursor} {v : Value} (h : readValue (fuel + 1) depth c = .ok (v, c')) : P v := by
  unfold readValue at h
  split at h
  · obtain ⟨⟨s, d⟩, -, heq⟩ := map_eq_ok_iff.mp h
    cases heq
    exact hP.text _
  · cases h
  · dsimp only at h
    split at h
    · cases h
      exact hP.list (by simp)
    · obtain ⟨⟨vs, d⟩, hvs, heq⟩ := map_eq_ok_iff.mp h
      cases heq
      exact hP.list (hitems hvs)
  · cases h
  · dsimp only at h
    split at h
    · cases h
      exact hP.object (t := []) (fun e he => nomatch he)
    · obtain ⟨⟨t, d⟩, ht, heq⟩ := map_eq_ok_iff.mp h
      cases heq
      exact hP.object (hmembers ht)
  · exact hP.scalar h

theorem Inherited.of_readItems
    (hvalue : ∀ {depth c v c'}, readValue fuel depth c = .ok (v, c') → P v)
    (hitems : ∀ {depth c vs c'}, readItems fuel depth c = .ok (vs, c') → ∀ v ∈ vs, P v)
    {depth : Nat} {c c' : Cursor} {vs : List Value} (h : readItems (fuel + 1) depth c = .ok (vs, c')) :
    ∀ v ∈ vs, P v := by
  unfold readItems at h
  obtain ⟨⟨v, d⟩, hv, h⟩ := bind_eq_ok_iff.mp h
  dsimp only at h
  split at h
  · cases h
    exact List.forall_mem_singleton.mpr (hvalue hv)
  · obtain ⟨⟨vs', d'⟩, hvs, h⟩ := bind_eq_ok_iff.mp h
    cases h
    exact List.forall_mem_cons.mpr ⟨hvalue hv, hitems hvs⟩
  · cases h

theorem Inherited.of_readMembers
    (hvalue : ∀ {depth c v c'}, readValue fuel depth c = .ok (v, c') → P v)
    (hmembers : ∀ {depth c t c'}, readMembers fuel depth c = .ok (t, c') → Entries P t)
    {depth : Nat} {c c' : Cursor} {t : Table} (h : readMembers (fuel + 1) depth c = .ok (t, c')) :
    Entries P t := by
  unfold readMembers at h
  split at h
  · obtain ⟨⟨name, d⟩, -, h⟩ := bind_eq_ok_iff.mp h
    dsimp only at h
    split at h
    · obtain ⟨⟨v, d'⟩, hv, h⟩ := bind_eq_ok_iff.mp h
      have hentry : (Key.ofPoints name).IsName ∧ P v := ⟨Key.isName_ofPoints name, hvalue hv⟩
      dsimp only at h
      split at h
      · cases h
        exact List.forall_mem_singleton.mpr hentry
      · obtain ⟨⟨t', d''⟩, ht, h⟩ := bind_eq_ok_iff.mp h
        cases h
        exact List.forall_mem_cons.mpr ⟨hentry, hmembers ht⟩
      · cases h
    · cases h
  · cases h

theorem Inherited.of_fuel (hP : Inherited P) (fuel : Nat) :
    (∀ {depth c v c'}, readValue fuel depth c = .ok (v, c') → P v) ∧
      (∀ {depth c vs c'}, readItems fuel depth c = .ok (vs, c') → ∀ v ∈ vs, P v) ∧
      ∀ {depth c t c'}, readMembers fuel depth c = .ok (t, c') → Entries P t := by
  induction fuel with
  | zero => exact ⟨fun h => (nomatch h), fun h => (nomatch h), fun h => (nomatch h)⟩
  | succ fuel ih =>
    obtain ⟨hvalue, hitems, hmembers⟩ := ih
    exact ⟨hP.of_readValue hitems hmembers, of_readItems hvalue hitems, of_readMembers hvalue hmembers⟩

end Inherited

theorem readDocument_of_read {outer : Nat} {text : List Char} {v : Value} (h : read outer text = .ok v) :
    readDocument outer text = .ok v := by
  unfold read at h
  split at h
  · rename_i heq
    cases h
    exact heq
  all_goals cases h

theorem Inherited.of_read {P : Value → Prop} (hP : Inherited P) {outer : Nat} {text : List Char} {v : Value}
    (h : read outer text = .ok v) : P v := by
  have hdocument := readDocument_of_read h
  unfold readDocument at hdocument
  dsimp only at hdocument
  split at hdocument
  · cases hdocument
  · obtain ⟨⟨v', c⟩, hvalue, hrest⟩ := bind_eq_ok_iff.mp hdocument
    dsimp only at hrest
    split at hrest
    · cases hrest
      exact (hP.of_fuel _).1 hvalue
    · cases hrest

theorem inherited_isRead : Inherited Value.IsRead where
  scalar := isRead_of_readScalar
  text ps := .other fun _ => (Key.isName_ofPoints ps).toValue_ne_dict
  list _ := .other fun _ h => (nomatch h)
  object h := by
    have hnames := fun e he => (h e he).1
    refine .dict (Table.named_merge .nil hnames) fun e he => ?_
    rcases Table.mem_merge hnames he with he | he
    · cases he
    · exact (h e he).2

end Json

theorem Config.isRead_of_documentOf {outer : Nat} {content : Bytes} {v : Value}
    (h : documentOf outer content = .ok v) : v.IsRead := by
  obtain ⟨cs, -, h⟩ := bind_eq_ok_iff.mp h
  exact Json.inherited_isRead.of_read (mapError_eq_ok_iff.mp h)

end ProgramDeploy
