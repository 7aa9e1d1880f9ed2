import ProgramDeploy.Account

namespace ProgramDeploy

namespace Hex

def unmarked? (s : String) : Option Bytes :=
  (markedDigits? s.toList).bind fun cs => (read cs).toOption

theorem value?_digit {n : Nat} (h : n < 16) : value? (digit n) = some n := by
  revert n
  decide

theorem asciiSpace_digit {n : Nat} (h : n < 16) : Text.asciiSpace (digit n) = false := by
  revert n
  decide

theorem toNat_digit_lt {n : Nat} (h : n < 16) : (digit n).toNat < 128 := by
  revert n
  decide

theorem decodeFrom_digits (bs : Bytes) (position : Nat) :
    decodeFrom position (digits bs) = .ok bs := by
  induction bs generalizing position with
  | nil => rfl
  | cons b bs ih =>
    have hb : b.toNat < 256 := b.toNat_lt
    have hhigh : b.toNat / 16 < 16 := by omega
    have hlow : b.toNat % 16 < 16 := by omega
    have hbyte : 16 * (b.toNat / 16) + b.toNat % 16 = b.toNat := by omega
    have hpair : digits (b :: bs) = digit (b.toNat / 16) :: digit (b.toNat % 16) :: digits bs := rfl
    rw [hpair]
    simp [decodeFrom, asciiSpace_digit hhigh, value?_digit hhigh, value?_digit hlow, ih, hbyte,
      bind, Except.bind, pure, Except.pure]

theorem read_digits (bs : Bytes) : read (digits bs) = .ok bs := by
  have hascii : (digits bs).findIdx? (128 ≤ ·.toNat) = none := by
    rw [List.findIdx?_eq_none_iff]
    intro c hc
    obtain ⟨b, -, hb⟩ := List.mem_flatMap.mp hc
    have hlt : b.toNat < 256 := b.toNat_lt
    have hhigh := toNat_digit_lt (show b.toNat / 16 < 16 by omega)
    have hlow := toNat_digit_lt (show b.toNat % 16 < 16 by omega)
    have hc : c = digit (b.toNat / 16) ∨ c = digit (b.toNat % 16) := by simpa using hb
    apply decide_eq_false
    rcases hc with rfl | rfl <;> omega
  rw [read, hascii]
  exact decodeFrom_digits bs 0

theorem markedDigits?_marked (bs : Bytes) : markedDigits? (marked bs).toList = some (digits bs) := by
  simp [marked, encode, markedDigits?]

theorem unmarked?_marked (bs : Bytes) : unmarked? (marked bs) = some bs := by
  rw [unmarked?, markedDigits?_marked, Option.bind_some, read_digits]
  rfl

end Hex

namespace Account

theorem seedBytes_marked (bs : Bytes) (name : Value) : seedBytes (.text (Hex.marked bs)) name = .ok bs := by
  unfold seedBytes
  dsimp only
  rw [Hex.markedDigits?_marked, Option.getD_some, Hex.read_digits]

theorem exists_ofSeed {bs : Bytes} (name : Value) {format : Value} {n : Nat}
    (hlength : bs.length = Secret.size) (hformat : formatNumber format = .ok n) :
    ∃ a, ofSeed (.text (Hex.marked bs)) name format = .ok a := by
  refine ⟨⟨(Secret.ofSeed bs).publicKey, Address.encode (Secret.ofSeed bs).publicKey n, format⟩, ?_⟩
  unfold ofSeed ofPublicKey
  rw [seedBytes_marked, hformat]
  exact if_pos hlength

end Account

end ProgramDeploy
