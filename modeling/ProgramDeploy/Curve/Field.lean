namespace ProgramDeploy.Curve

def prime : Nat := Nat.pow 2 255 - 19

structure Field where
  val : Nat
  deriving DecidableEq

namespace Field

def ofNat (n : Nat) : Field := ⟨n % prime⟩

instance (n : Nat) : OfNat Field n := ⟨ofNat n⟩

instance : Add Field := ⟨fun x y => ofNat (x.val + y.val)⟩

instance : Sub Field := ⟨fun x y => ofNat (x.val + (prime - y.val))⟩

instance : Neg Field := ⟨fun x => ofNat (prime - x.val)⟩

instance : Mul Field := ⟨fun x y => ofNat (x.val * y.val)⟩

def pow (x : Field) (n : Nat) : Field :=
  if n = 0 then 1
  else
    let y := pow (x * x) (n / 2)
    if n % 2 = 0 then y else x * y
  termination_by n
  decreasing_by omega

def isNegative (x : Field) : Bool :=
  x.val % 2 = 1

def abs (x : Field) : Field :=
  if x.isNegative then -x else x

def sqrtMinusOne : Field :=
  19681161376707505956807079304988542015446066515923890162744021073123829784752

/-- The inverse of a square root, taken non-negative. Of an element that is no square, the inverse
root of its product with a root of minus one. -/
def inverseSqrt (v : Field) : Field :=
  let v3 := v * v * v
  let v7 := v3 * v3 * v
  let r := v3 * v7.pow ((prime - 5) / 8)
  let check := v * r * r
  let r := if check = -1 ∨ check = -sqrtMinusOne then sqrtMinusOne * r else r
  r.abs

end Field

end ProgramDeploy.Curve
