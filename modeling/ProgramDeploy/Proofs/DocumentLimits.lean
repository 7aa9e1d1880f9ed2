import ProgramDeploy.Proofs.Documents
import ProgramDeploy.Proofs.Rendering

namespace ProgramDeploy

theorem Text.digit?_lt {c : Char} {d : Nat} (h : digit? c = some d) : d < 10 := by
  obtain ⟨z, hz, rfl⟩ := Option.map_eq_some_iff.mp h
  have hbounds := List.find?_some hz
  simp only [Bool.and_eq_true, decide_eq_true_eq] at hbounds
  omega

theorem Key.IsName.integers {k : Key} (h : k.IsName) : k.integers = [] := by
  cases h <;> rfl

theorem Key.IsName.integers_toValue {k : Key} (h : k.IsName) : k.toValue.integers = [] := by
  cases h <;> simp [toValue, Value.integers]

theorem Value.isWritable_ofPoints (ps : List Text.Point) : (ofPoints ps).IsWritable := by
  rw [IsWritable, ofPoints, (Key.isName_ofPoints ps).integers_toValue]
  simp

namespace Numeral

theorem ofDigits_lt {ds : List Nat} (h : ∀ d ∈ ds, d < 10) : ofDigits ds < Nat.pow 10 ds.length := by
  have hfold (n : Nat) : ds.foldl (fun n d => 10 * n + d) n < (n + 1) * Nat.pow 10 ds.length := by
    induction ds generalizing n with
    | nil => simp
    | cons d ds ih =>
      have hd : d < 10 := h d List.mem_cons_self
      have hrest := ih (fun d hd => h d (List.mem_cons_of_mem _ hd)) (10 * n + d)
      have hpow : Nat.pow 10 (d :: ds).length = 10 * Nat.pow 10 ds.length := Nat.pow_succ'
      calc (d :: ds).foldl (fun n d => 10 * n + d) n
          < (10 * n + d + 1) * Nat.pow 10 ds.length := hrest
        _ ≤ (10 * n + 10) * Nat.pow 10 ds.length := Nat.mul_le_mul_right _ (by omega)
        _ = (n + 1) * Nat.pow 10 (d :: ds).length := by
          rw [hpow, ← Nat.mul_assoc]
          congr 1
          omega
  have hzero := hfold 0
  rw [Nat.zero_add, Nat.one_mul] at hzero
  exact hzero

theorem isShort_of_digits {cs : List Char} (h : (cs.filterMap Text.digit?).length ≤ limit) :
    IsShort (ofDigits (cs.filterMap Text.digit?)) := by
  apply isShort_of_lt h
  apply ofDigits_lt
  intro d hd
  obtain ⟨c, -, hc⟩ := List.mem_filterMap.mp hd
  exact Text.digit?_lt hc

theorem IsShort.neg {n : Int} (h : IsShort n) : IsShort (-n) := by
  rw [IsShort, Int.natAbs_neg]
  exact h

theorem isShort_of_readDigits {cs : List Char} {n : Nat} (h : readDigits cs = .ok n) : IsShort n := by
  unfold readDigits at h
  dsimp only at h
  split at h
  · cases h
  · split at h
    · cases h
    · rename_i hlimit
      split at h
      · cases h
      · cases h
        exact isShort_of_digits (Nat.not_lt.mp hlimit)

theorem isShort_of_read {cs : List Char} {n : Int} (h : read cs = .ok n) : IsShort n := by
  unfold read readSigned at h
  split at h <;>
    obtain ⟨m, hm, rfl⟩ := map_eq_ok_iff.mp h <;>
    obtain ⟨k, hk, heq⟩ := bind_eq_ok_iff.mp hm <;>
    cases heq
  · exact (isShort_of_readDigits hk).neg
  · exact isShort_of_readDigits hk
  · exact isShort_of_readDigits hk

end Numeral

theorem Literal.isShort_of_toInt {l : Literal} {n : Int} (h : l.toInt = .ok n) : Numeral.IsShort n := by
  unfold toInt at h
  split at h
  · cases h
  · rename_i hlimit
    have hshort : Numeral.IsShort (number l.whole) :=
      Numeral.isShort_of_digits (Nat.le_trans (List.length_filterMap_le _ _) (Nat.not_lt.mp hlimit))
    cases h
    split
    · exact hshort.neg
    · exact hshort

namespace Json

def IsMonotone {α : Type} (reader : Nat → Cursor → Except Stop α) : Prop :=
  ∀ {depth depth' c x}, depth ≤ depth' → reader depth c = .ok x → reader depth' c = .ok x

theorem IsMonotone.map {α β : Type} {reader : Nat → Cursor → Except Stop α} (h : IsMonotone reader)
    {depth depth' : Nat} {c : Cursor} {f : α → β} {x : β} (hle : depth ≤ depth')
    (hx : (reader depth c).map f = .ok x) : (reader depth' c).map f = .ok x := by
  obtain ⟨y, hy, rfl⟩ := map_eq_ok_iff.mp hx
  rw [h hle hy]
  rfl

theorem isMonotone_readValue {fuel : Nat} (hitems : IsMonotone (readItems fuel))
    (hmembers : IsMonotone (readMembers fuel)) : IsMonotone (readValue (fuel + 1)) := by
  intro depth depth' c x hle h
  unfold readValue at h ⊢
  split at h
  · rename_i heq
    simp only [heq]
    exact h
  · cases h
  · rename_i depth rest heq
    obtain ⟨depth', rfl⟩ : ∃ k, depth' = k + 1 := ⟨depth' - 1, by omega⟩
    simp only [heq]
    dsimp only at h
    split at h
    · exact h
    · exact hitems.map (by omega) h
  · cases h
  · rename_i depth rest heq
    obtain ⟨depth', rfl⟩ : ∃ k, depth' = k + 1 := ⟨depth' - 1, by omega⟩
    simp only [heq]
    dsimp only at h
    split at h
    · exact h
    · exact hmembers.map (by omega) h
  · rename_i given _ _ htext harray harray' hobject hobject'
    -- A bracket or a brace has been met before, whether or not a container may be open.
    have hopen (rest : List Char) : c.rest ≠ '[' :: rest ∧ c.rest ≠ '\x7b' :: rest := by
      cases given with
      | zero => exact ⟨fun heq => harray rest heq rfl, fun heq => hobject rest heq rfl⟩
      | succ depth => exact ⟨fun heq => harray' rest depth heq rfl, fun heq => hobject' rest depth heq rfl⟩
    split
    · rename_i heq
      exact absurd heq (htext _)
    · rename_i heq
      exact absurd heq (hopen _).1
    · rename_i heq
      exact absurd heq (hopen _).1
    · rename_i heq
      exact absurd heq (hopen _).2
    · rename_i heq
      exact absurd heq (hopen _).2
    · exact h

theorem isMonotone_readItems {fuel : Nat} (hvalue : IsMonotone (readValue fuel))
    (hitems : IsMonotone (readItems fuel)) : IsMonotone (readItems (fuel + 1)) := by
  intro depth depth' c x hle h
  unfold readItems at h ⊢
  obtain ⟨⟨v, d⟩, hv, h⟩ := bind_eq_ok_iff.mp h
  refine bind_eq_ok_iff.mpr ⟨(v, d), hvalue hle hv, ?_⟩
  dsimp only at h ⊢
  split at h
  · exact h
  · obtain ⟨⟨vs, d'⟩, hvs, h⟩ := bind_eq_ok_iff.mp h
    exact bind_eq_ok_iff.mpr ⟨(vs, d'), hitems hle hvs, h⟩
  · cases h

theorem isMonotone_readMembers {fuel : Nat} (hvalue : IsMonotone (readValue fuel))
    (hmembers : IsMonotone (readMembers fuel)) : IsMonotone (readMembers (fuel + 1)) := by
  intro depth depth' c x hle h
  unfold readMembers at h ⊢
  split at h
  · obtain ⟨⟨name, d⟩, hname, h⟩ := bind_eq_ok_iff.mp h
    refine bind_eq_ok_iff.mpr ⟨(name, d), hname, ?_⟩
    dsimp only at h ⊢
    split at h
    · obtain ⟨⟨v, d'⟩, hv, h⟩ := bind_eq_ok_iff.mp h
      refine bind_eq_ok_iff.mpr ⟨(v, d'), hvalue hle hv, ?_⟩
      dsimp only at h ⊢
      split at h
      · exact h
      · obtain ⟨⟨t, d''⟩, ht, h⟩ := bind_eq_ok_iff.mp h
        exact bind_eq_ok_iff.mpr ⟨(t, d''), hmembers hle ht, h⟩
      · cases h
    · cases h
  · cases h

theorem isMonotone_of_fuel (fuel : Nat) : IsMonotone (readValue fuel) ∧ IsMonotone (readItems fuel) ∧
    IsMonotone (readMembers fuel) := by
  induction fuel with
  | zero => exact ⟨fun _ h => (nomatch h), fun _ h => (nomatch h), fun _ h => (nomatch h)⟩
  | succ fuel ih =>
    obtain ⟨hvalue, hitems, hmembers⟩ := ih
    exact ⟨isMonotone_readValue hitems hmembers, isMonotone_readItems hvalue hitems,
      isMonotone_readMembers hvalue hmembers⟩

theorem read_of_le {outer outer' : Nat} (hle : outer' ≤ outer) {text : List Char} {v : Value}
    (h : read outer text = .ok v) : read outer' text = .ok v := by
  have hdocument := readDocument_of_read h
  have hdocument' : readDocument outer' text = .ok v := by
    unfold readDocument at hdocument ⊢
    dsimp only at hdocument ⊢
    split at hdocument
    · cases hdocument
    · rename_i hmark
      rw [if_neg hmark]
      obtain ⟨r, hr, hrest⟩ := bind_eq_ok_iff.mp hdocument
      exact bind_eq_ok_iff.mpr ⟨r, (isMonotone_of_fuel _).1 (by omega) hr, hrest⟩
  rw [read, hdocument']

theorem isWritable_of_readScalar {c c' : Cursor} {v : Value} (h : readScalar c = .ok (v, c')) :
    v.IsWritable := by
  unfold readScalar at h
  split at h
  · rename_i w v' hfind
    cases h
    have hword := List.mem_of_find?_eq_some hfind
    simp only [wordLiterals, List.mem_cons, Prod.mk.injEq, List.not_mem_nil, or_false] at hword
    rcases hword with ⟨-, rfl⟩ | ⟨-, rfl⟩ | ⟨-, rfl⟩ | ⟨-, rfl⟩ | ⟨-, rfl⟩ | ⟨-, rfl⟩ <;>
      simp [Value.IsWritable, Value.integers]
  · split at h
    · cases h
    · dsimp only at h
      split at h
      · split at h
        · rename_i n hn
          cases h
          intro m hm
          rw [List.mem_singleton.mp hm]
          exact Literal.isShort_of_toInt hn
        · cases h
      · cases h
        simp [Value.IsWritable, Value.integers]

theorem inherited_isWritable : Inherited Value.IsWritable where
  scalar := isWritable_of_readScalar
  text := Value.isWritable_ofPoints
  list h := Value.isWritable_list_iff.mpr h
  object h := by
    refine Value.isWritable_dict_iff.mpr fun e he => ?_
    rcases Table.mem_merge (fun e he => (h e he).1) he with he | he
    · cases he
    · obtain ⟨hname, hwritable⟩ := h e he
      exact ⟨by rw [hname.integers]; simp, hwritable⟩

end Json

namespace Config

theorem documentOf_of_le {outer outer' : Nat} (hle : outer' ≤ outer) {content : Bytes} {v : Value}
    (h : documentOf outer content = .ok v) : documentOf outer' content = .ok v := by
  obtain ⟨cs, hcs, h⟩ := bind_eq_ok_iff.mp h
  refine bind_eq_ok_iff.mpr ⟨cs, hcs, ?_⟩
  exact mapError_eq_ok_iff.mpr (Json.read_of_le hle (mapError_eq_ok_iff.mp h))

theorem isWritable_of_documentOf {outer : Nat} {content : Bytes} {v : Value}
    (h : documentOf outer content = .ok v) : v.IsWritable := by
  obtain ⟨cs, -, h⟩ := bind_eq_ok_iff.mp h
  exact Json.inherited_isWritable.of_read (mapError_eq_ok_iff.mp h)

end Config

end ProgramDeploy
