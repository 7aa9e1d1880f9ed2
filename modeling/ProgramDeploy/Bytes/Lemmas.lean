import Mathlib.Tactic.Linarith
import Mathlib.Tactic.Ring
import ProgramDeploy.Bytes

namespace ProgramDeploy.Bytes

theorem toNatLE_ofNatLE (size n : Nat) : toNatLE (ofNatLE size n) = n % 256 ^ size := by
  induction size generalizing n with
  | zero => simp [ofNatLE, toNatLE, Nat.mod_one]
  | succ size ih =>
    have hn : (UInt8.ofNat n).toNat = n % 256 := by simp
    rw [ofNatLE, toNatLE, ih, hn, Nat.pow_succ', Nat.mod_mul]

theorem toNatLE_lt (bs : Bytes) : toNatLE bs < 256 ^ bs.length := by
  induction bs with
  | nil => simp [toNatLE]
  | cons b bs ih =>
    have hb : b.toNat < 256 := b.toNat_lt
    simp only [toNatLE, List.length_cons, Nat.pow_succ]
    omega

theorem toNatBE_eq (bs : Bytes) : toNatBE bs = toNatLE bs.reverse := by
  have hfold (cs : Bytes) : toNatLE cs = cs.foldr (fun b n => 256 * n + b.toNat) 0 := by
    induction cs with
    | nil => rfl
    | cons c cs ih => rw [toNatLE, ih, List.foldr_cons, Nat.add_comm]
  rw [hfold, List.foldr_reverse]
  rfl

theorem ofNatBE_toNatBE (bs : Bytes) : ofNatBE bs.length (toNatBE bs) = bs := by
  have hreverse := ofNatLE_toNatLE bs.reverse
  rw [List.length_reverse] at hreverse
  rw [ofNatBE, toNatBE_eq, hreverse, List.reverse_reverse]

theorem toNatLE_append (bs cs : Bytes) :
    toNatLE (bs ++ cs) = toNatLE bs + 256 ^ bs.length * toNatLE cs := by
  induction bs with
  | nil => simp [toNatLE]
  | cons b bs ih =>
    rw [List.cons_append, toNatLE, ih, toNatLE, List.length_cons, Nat.pow_succ]
    ring

theorem toNatBE_zeros (k : Nat) (bs : Bytes) : toNatBE (List.replicate k 0 ++ bs) = toNatBE bs := by
  have hzeros : toNatLE (List.replicate k 0) = 0 := by
    induction k with
    | zero => rfl
    | succ k ih => simp [List.replicate_succ, toNatLE, ih]
  rw [toNatBE_eq, toNatBE_eq, List.reverse_append, List.reverse_replicate, toNatLE_append, hzeros]
  simp

theorem lt_pow_widthOf (n : Nat) : n < 256 ^ widthOf n := by
  unfold widthOf
  split
  · rename_i h
    simp [h]
  · rename_i h
    have hlog : n < 2 ^ (n.log2 + 1) := Nat.lt_log2_self
    have hpow : 2 ^ (n.log2 + 1) ≤ 2 ^ (8 * (n.log2 / 8 + 1)) :=
      Nat.pow_le_pow_right (by decide) (by omega)
    calc n < 2 ^ (n.log2 + 1) := hlog
      _ ≤ 2 ^ (8 * (n.log2 / 8 + 1)) := hpow
      _ = 256 ^ (n.log2 / 8 + 1) := by rw [Nat.pow_mul]

theorem pow_le_of_widthOf {n k : Nat} (h : widthOf n = k + 1) : 256 ^ k ≤ n := by
  unfold widthOf at h
  split at h
  · cases h
  · rename_i hn
    have hk : 8 * k ≤ n.log2 := by omega
    calc 256 ^ k = 2 ^ (8 * k) := by rw [Nat.pow_mul]
      _ ≤ n := (Nat.le_log2 hn).mp hk

theorem widthOf_toNatBE {b : UInt8} (bs : Bytes) (hb : b ≠ 0) :
    widthOf (toNatBE (b :: bs)) = bs.length + 1 := by
  have hpos : 0 < b.toNat := by
    rw [Nat.pos_iff_ne_zero]
    exact fun h => hb (UInt8.toNat_inj.mp h)
  have hlt : b.toNat < 256 := b.toNat_lt
  have hrest : toNatLE bs.reverse < 256 ^ bs.length := by
    simpa using toNatLE_lt bs.reverse
  have hvalue : toNatBE (b :: bs) = toNatLE bs.reverse + 256 ^ bs.length * b.toNat := by
    rw [toNatBE_eq, List.reverse_cons, toNatLE_append, List.length_reverse]
    simp [toNatLE]
  have hlow : 256 ^ bs.length ≤ toNatBE (b :: bs) := by
    rw [hvalue]
    nlinarith
  have hhigh : toNatBE (b :: bs) < 256 ^ (bs.length + 1) := by
    rw [hvalue, Nat.pow_succ]
    nlinarith
  have hpow (k : Nat) : 256 ^ k = 2 ^ (8 * k) := by rw [Nat.pow_mul]
  rw [hpow] at hlow hhigh
  have hne : toNatBE (b :: bs) ≠ 0 := by
    have htwo : 0 < 2 ^ (8 * bs.length) := Nat.two_pow_pos _
    omega
  have hle := (Nat.le_log2 hne).mpr hlow
  have hlog := (Nat.log2_lt hne).mpr hhigh
  rw [widthOf, if_neg hne]
  omega

end ProgramDeploy.Bytes
