import ProgramDeploy.Bytes
import ProgramDeploy.Curve.Field

/-!
The twisted Edwards curve -x² + y² = 1 + d x² y² in extended coordinates, and the encoding that
gives all points of a coset of the small subgroup the same 32 bytes.
-/

namespace ProgramDeploy.Curve

structure Point where
  (x y z t : Field)

def coefficient : Field :=
  37095705934669439343138083508754565189542113879843219016388785533085940283555

def inverseSqrtAMinusD : Field :=
  54469307008909316920995813868745141605393597292927456921205312896311721017578

def groupOrder : Nat :=
  Nat.pow 2 252 + 27742317777372353535851937790883648493

namespace Point

def zero : Point :=
  ⟨0, 1, 1, 0⟩

def base : Point :=
  let x : Field := 15112221349535400772501151409588531511454012693041857206046113283949847762202
  let y : Field := 46316835694926478169428394003475163141307993866256225615783033603165251855960
  ⟨x, y, 1, x * y⟩

def add (p q : Point) : Point :=
  let a := (p.y - p.x) * (q.y - q.x)
  let b := (p.y + p.x) * (q.y + q.x)
  let c := p.t * q.t * (coefficient + coefficient)
  let d := p.z * q.z + p.z * q.z
  let (e, f, g, h) := (b - a, d - c, d + c, b + a)
  ⟨e * f, g * h, f * g, e * h⟩

def multiple (n : Nat) (p : Point) : Point :=
  if n = 0 then zero
  else
    let q := multiple (n / 2) (p.add p)
    if n % 2 = 0 then q else p.add q
  termination_by n
  decreasing_by omega

def encode (p : Point) : Bytes :=
  let u := (p.z + p.y) * (p.z - p.y)
  let v := p.x * p.y
  let root := (u * v * v).inverseSqrt
  let d := root * u
  let e := root * v
  let inverseZ := d * e * p.t
  let turned := (p.t * inverseZ).isNegative
  let x := if turned then p.y * Field.sqrtMinusOne else p.x
  let y := if turned then p.x * Field.sqrtMinusOne else p.y
  let inverse := if turned then d * inverseSqrtAMinusD else e
  let y := if (x * inverseZ).isNegative then -y else y
  Bytes.ofNatLE 32 (inverse * (p.z - y)).abs.val

theorem length_encode (p : Point) : p.encode.length = 32 := by
  simp [encode]

end Point

end ProgramDeploy.Curve
