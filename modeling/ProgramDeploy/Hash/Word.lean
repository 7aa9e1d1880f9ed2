import ProgramDeploy.Bytes

namespace ProgramDeploy.Hash

def wordLE (bs : Bytes) : UInt64 :=
  bs.foldr (fun b w => w <<< 8 ||| b.toUInt64) 0

def wordBE (bs : Bytes) : UInt64 :=
  bs.foldl (fun w b => w <<< 8 ||| b.toUInt64) 0

def bytesLE (w : UInt64) : Bytes :=
  [w.toUInt8, (w >>> 8).toUInt8, (w >>> 16).toUInt8, (w >>> 24).toUInt8,
   (w >>> 32).toUInt8, (w >>> 40).toUInt8, (w >>> 48).toUInt8, (w >>> 56).toUInt8]

def bytesBE (w : UInt64) : Bytes :=
  (bytesLE w).reverse

def rotateRight (w : UInt64) (n : UInt64) : UInt64 :=
  w >>> n ||| w <<< (64 - n)

def rotateLeft (w : UInt64) (n : UInt64) : UInt64 :=
  w <<< n ||| w >>> (64 - n)

def blocks (size : Nat) : Bytes → List Bytes
  | [] => []
  | b :: bs => (b :: bs.take size) :: blocks size (bs.drop size)
  termination_by bs => bs.length
  decreasing_by simp only [List.length_cons, List.length_drop]; omega

@[simp] theorem length_bytesLE (w : UInt64) : (bytesLE w).length = 8 := rfl

theorem length_flatMap_of_forall {α : Type} (f : α → Bytes) (n : Nat) (xs : List α)
    (h : ∀ x ∈ xs, (f x).length = n) : (xs.flatMap f).length = n * xs.length := by
  induction xs with
  | nil => simp
  | cons x xs ih =>
    have hx := h x (by simp)
    have ht := ih fun y hy => h y (List.mem_cons_of_mem _ hy)
    simp only [List.flatMap_cons, List.length_append, hx, ht, List.length_cons]
    rw [Nat.mul_succ, Nat.add_comm]

end ProgramDeploy.Hash
