/-!
The binary64 format as exact data. A number is rounded to it once, to nearest with ties to the even
significand, and is compared with whole numbers without rounding.
-/

namespace ProgramDeploy

inductive Binary64 where
  | nan
  | infinity (negative : Bool)
  | finite (negative : Bool) (significand : Nat) (exponent : Int)
  deriving DecidableEq

namespace Binary64

def leastExponent : Int := -1074

def greatestExponent : Int := 971

def roundedQuotient (num den : Nat) : Nat :=
  let q := num / den
  let r := num % den
  if 2 * r < den then q
  else if den < 2 * r then q + 1
  else q + q % 2

def scaled (num den : Nat) (exponent : Int) : Nat × Nat :=
  if 0 ≤ exponent then (num, den * Nat.pow 2 exponent.toNat)
  else (num * Nat.pow 2 (-exponent).toNat, den)

def normalExponent (num den : Nat) : Int :=
  let e : Int := num.log2 - den.log2 - 53
  let (n, d) := scaled num den e
  if Nat.pow 2 53 ≤ n / d then e + 1 else e

def ofFraction (negative : Bool) (num den : Nat) : Binary64 :=
  if num = 0 then finite negative 0 leastExponent
  else
    let e := max (normalExponent num den) leastExponent
    let (n, d) := scaled num den e
    let m := roundedQuotient n d
    let (m, e) := if m = Nat.pow 2 53 then (Nat.pow 2 52, e + 1) else (m, e)
    if greatestExponent < e then infinity negative else finite negative m e

/-- The datum nearest to `digits * 10 ^ exponent`. Magnitudes far outside the format are decided
before any power is formed. -/
def ofDecimal (negative : Bool) (digits : Nat) (exponent : Int) : Binary64 :=
  let magnitude : Int := exponent + digits.log2 * 30103 / 100000
  if digits = 0 ∨ magnitude < -340 then finite negative 0 leastExponent
  else if 320 < magnitude then infinity negative
  else if 0 ≤ exponent then ofFraction negative (digits * Nat.pow 10 exponent.toNat) 1
  else ofFraction negative digits (Nat.pow 10 (-exponent).toNat)

def truncate (negative : Bool) (significand : Nat) (exponent : Int) : Int :=
  let n := if 0 ≤ exponent then significand * Nat.pow 2 exponent.toNat
    else significand / Nat.pow 2 (-exponent).toNat
  if negative then -(n : Int) else n

def compareInt : Binary64 → Int → Option Ordering
  | nan, _ => none
  | infinity true, _ => some .lt
  | infinity false, _ => some .gt
  | finite negative m e, n =>
    let signed : Int := if negative then -(m : Int) else m
    some <|
      if 0 ≤ e then compare (signed * Nat.pow 2 e.toNat) n
      else compare signed (n * Nat.pow 2 (-e).toNat)

def equal : Binary64 → Binary64 → Bool
  | finite n₁ m₁ e₁, finite n₂ m₂ e₂ => m₁ = m₂ && (m₁ = 0 || (n₁ = n₂ && e₁ = e₂))
  | infinity n₁, infinity n₂ => n₁ = n₂
  | _, _ => false

def isZero : Binary64 → Bool
  | finite _ 0 _ => true
  | _ => false

end Binary64

end ProgramDeploy
