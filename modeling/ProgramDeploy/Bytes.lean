namespace ProgramDeploy

abbrev Bytes := List UInt8

namespace Bytes

def toNatLE : Bytes → Nat
  | [] => 0
  | b :: bs => b.toNat + 256 * toNatLE bs

def ofNatLE : Nat → Nat → Bytes
  | 0, _ => []
  | size + 1, n => UInt8.ofNat n :: ofNatLE size (n / 256)

def toNatBE (bs : Bytes) : Nat :=
  bs.foldl (fun n b => 256 * n + b.toNat) 0

def ofNatBE (size n : Nat) : Bytes :=
  (ofNatLE size n).reverse

def widthOf (n : Nat) : Nat :=
  if n = 0 then 0 else n.log2 / 8 + 1

def padRight (size : Nat) (bs : Bytes) : Bytes :=
  bs ++ List.replicate (size - bs.length) 0

@[simp] theorem length_ofNatLE (size n : Nat) : (ofNatLE size n).length = size := by
  induction size generalizing n with
  | zero => rfl
  | succ size ih => simp [ofNatLE, ih]

@[simp] theorem length_ofNatBE (size n : Nat) : (ofNatBE size n).length = size := by
  simp [ofNatBE]

theorem ofNatLE_toNatLE (bs : Bytes) : ofNatLE bs.length (toNatLE bs) = bs := by
  induction bs with
  | nil => rfl
  | cons b bs ih =>
    have hb : b.toNat < 256 := b.toNat_lt
    have hd : (b.toNat + 256 * toNatLE bs) / 256 = toNatLE bs := by omega
    have hm : UInt8.ofNat (b.toNat + 256 * toNatLE bs) = b := by
      apply UInt8.toNat_inj.1
      simp only [UInt8.toNat_ofNat']
      omega
    simp only [List.length_cons, ofNatLE, toNatLE, hd, hm, ih]

end Bytes

end ProgramDeploy
