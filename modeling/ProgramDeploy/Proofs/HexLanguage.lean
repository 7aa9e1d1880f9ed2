import ProgramDeploy.Hex

namespace ProgramDeploy

namespace Text

def asciiBlanks : List Char :=
  [' ', '\t', '\n', '\x0b', '\x0c', '\r']

theorem toNat_lt_of_asciiSpace {c : Char} (h : asciiSpace c = true) : c.toNat < 128 := by
  simp only [asciiSpace, Class.ofIntervals, List.any_cons, List.any_nil, Bool.or_false,
    Bool.or_eq_true, Bool.and_eq_true, decide_eq_true_eq] at h
  omega

theorem asciiSpace_iff {c : Char} : asciiSpace c = true ↔ c ∈ asciiBlanks := by
  constructor
  · intro h
    have hall : ∀ n < 128, asciiSpace (Char.ofNat n) = true → Char.ofNat n ∈ asciiBlanks := by decide
    have hc := hall c.toNat (toNat_lt_of_asciiSpace h)
    rw [Char.ofNat_toNat] at hc
    exact hc h
  · have hall : asciiBlanks.all asciiSpace = true := by decide
    exact List.all_eq_true.mp hall c

end Text

namespace Hex

def lowerDigits : List Char :=
  "0123456789abcdef".toList

def upperDigits : List Char :=
  "0123456789ABCDEF".toList

def IsDigit (c : Char) (n : Nat) : Prop :=
  lowerDigits[n]? = some c ∨ upperDigits[n]? = some c

inductive Spells : List Char → Bytes → Prop where
  | nil : Spells [] []
  | blank {c : Char} {cs : List Char} {bs : Bytes} (hc : c ∈ Text.asciiBlanks) (hcs : Spells cs bs) :
      Spells (c :: cs) bs
  | pair {c d : Char} {cs : List Char} {b : UInt8} {bs : Bytes} (high : IsDigit c (b.toNat / 16))
      (low : IsDigit d (b.toNat % 16)) (hcs : Spells cs bs) : Spells (c :: d :: cs) (b :: bs)

theorem toNat_lt_of_value? {c : Char} {n : Nat} (h : value? c = some n) : c.toNat < 128 := by
  have hle {d : Char} (hd : c ≤ d) : c.toNat ≤ d.toNat := hd
  unfold value? at h
  split at h
  · rename_i hc
    exact Nat.lt_of_le_of_lt (hle hc.2) (by decide)
  · split at h
    · rename_i hc
      exact Nat.lt_of_le_of_lt (hle hc.2) (by decide)
    · split at h
      · rename_i hc
        exact Nat.lt_of_le_of_lt (hle hc.2) (by decide)
      · cases h

theorem lt_of_isDigit {c : Char} {n : Nat} (h : IsDigit c n) : n < 16 := by
  rcases h with h | h
  · exact (List.getElem?_eq_some_iff.mp h).1
  · exact (List.getElem?_eq_some_iff.mp h).1

theorem value?_eq_some_iff {c : Char} {n : Nat} : value? c = some n ↔ IsDigit c n := by
  constructor
  · intro h
    have hall : ∀ k < 128, ∀ m ∈ value? (Char.ofNat k),
        lowerDigits[m]? = some (Char.ofNat k) ∨ upperDigits[m]? = some (Char.ofNat k) := by
      decide
    have hc := hall c.toNat (toNat_lt_of_value? h)
    rw [Char.ofNat_toNat] at hc
    exact hc n h
  · intro h
    have hlower : ∀ m < 16, lowerDigits[m]?.all (value? · = some m) = true := by decide
    have hupper : ∀ m < 16, upperDigits[m]?.all (value? · = some m) = true := by decide
    rcases h with hc | hc
    · simpa [hc] using hlower n (lt_of_isDigit (.inl hc))
    · simpa [hc] using hupper n (lt_of_isDigit (.inr hc))

theorem asciiSpace_of_isDigit {c : Char} {n : Nat} (h : IsDigit c n) : Text.asciiSpace c = false := by
  have hvalue := value?_eq_some_iff.mpr h
  have hall : ∀ k < 128, (value? (Char.ofNat k)).isSome = true →
      Text.asciiSpace (Char.ofNat k) = false := by
    decide
  have hc := hall c.toNat (toNat_lt_of_value? hvalue)
  rw [Char.ofNat_toNat] at hc
  exact hc (by rw [hvalue]; rfl)

theorem spells_of_decodeFrom {position : Nat} {cs : List Char} {bs : Bytes}
    (h : decodeFrom position cs = .ok bs) : Spells cs bs := by
  fun_induction decodeFrom position cs generalizing bs with
  | case1 =>
    cases h
    exact .nil
  | case2 position c cs hblank ih => exact .blank (Text.asciiSpace_iff.mp hblank) (ih h)
  | case3 | case4 | case5 => cases h
  | case6 position c hblank high d ds hhigh low hlow ih =>
    cases hrest : decodeFrom (position + 2) ds with
    | error e =>
      rw [hrest] at h
      cases h
    | ok rest =>
      rw [hrest] at h
      cases h
      have hhigh' := value?_eq_some_iff.mp hhigh
      have hlow' := value?_eq_some_iff.mp hlow
      have hltHigh := lt_of_isDigit hhigh'
      have hltLow := lt_of_isDigit hlow'
      have hbyte : (UInt8.ofNat (16 * high + low)).toNat = 16 * high + low := by
        rw [UInt8.toNat_ofNat']
        omega
      refine .pair ?_ ?_ (ih hrest)
      · rwa [hbyte, show (16 * high + low) / 16 = high by omega]
      · rwa [hbyte, show (16 * high + low) % 16 = low by omega]

theorem decodeFrom_of_spells {cs : List Char} {bs : Bytes} (h : Spells cs bs) (position : Nat) :
    decodeFrom position cs = .ok bs := by
  induction h generalizing position with
  | nil => rfl
  | blank hc hcs ih =>
    rw [decodeFrom.eq_def]
    exact (if_pos (Text.asciiSpace_iff.mpr hc)).trans (ih (position + 1))
  | @pair c d cs b bs high low hcs ih =>
    have hbyte : 16 * (b.toNat / 16) + b.toNat % 16 = b.toNat := by omega
    simp [decodeFrom, asciiSpace_of_isDigit high, value?_eq_some_iff.mpr high,
      value?_eq_some_iff.mpr low, ih, hbyte, bind, Except.bind, pure, Except.pure]

theorem toNat_lt_of_spells {cs : List Char} {bs : Bytes} (h : Spells cs bs) : ∀ c ∈ cs, c.toNat < 128 := by
  have hdigit {c : Char} {n : Nat} (hc : IsDigit c n) := toNat_lt_of_value? (value?_eq_some_iff.mpr hc)
  induction h with
  | nil => simp
  | blank hc hcs ih =>
    exact List.forall_mem_cons.mpr ⟨Text.toNat_lt_of_asciiSpace (Text.asciiSpace_iff.mpr hc), ih⟩
  | pair high low hcs ih =>
    exact List.forall_mem_cons.mpr ⟨hdigit high, List.forall_mem_cons.mpr ⟨hdigit low, ih⟩⟩

theorem read_eq_ok_iff {cs : List Char} {bs : Bytes} : read cs = .ok bs ↔ Spells cs bs := by
  unfold read
  constructor
  · intro h
    split at h
    · cases h
    · exact spells_of_decodeFrom h
  · intro h
    have hascii : cs.findIdx? (128 ≤ ·.toNat) = none := by
      rw [List.findIdx?_eq_none_iff]
      intro c hc
      have hlt := toNat_lt_of_spells h c hc
      exact decide_eq_false (by omega)
    rw [hascii]
    exact decodeFrom_of_spells h 0

theorem exists_read_error_iff {cs : List Char} : (∃ f, read cs = .error f) ↔ ∀ bs, ¬ Spells cs bs := by
  simp only [← read_eq_ok_iff]
  cases read cs with
  | error f => simp
  | ok bs => simp

end Hex

end ProgramDeploy
