import ProgramDeploy.Number.Binary64

namespace ProgramDeploy

structure Decimal where
  digits : List Char
  exponent : Int

structure Layout where
  positionalFrom : Int
  positionalBelow : Int
  exponentWidth : Nat

namespace Decimal

def ofScaled (n : Nat) (exponent : Int) : Decimal :=
  let ds := Nat.toDigits 10 n
  let kept := (ds.reverse.dropWhile (· == '0')).reverse
  ⟨if kept.isEmpty then ['0'] else kept, exponent + (ds.length - 1)⟩

/-- A positive datum in quarters of its last place, and the interval that rounds to it. -/
structure Neighbourhood where
  low : Nat
  value : Nat
  high : Nat
  den : Nat
  closed : Bool

def neighbourhood (m : Nat) (e : Int) : Neighbourhood :=
  let gap := if m = Nat.pow 2 52 ∧ Binary64.leastExponent < e then 1 else 2
  let scale := Nat.pow 2 (e - 2).toNat
  ⟨(4 * m - gap) * scale, 4 * m * scale, (4 * m + 2) * scale, Nat.pow 2 (2 - e).toNat,
    m % 2 = 0⟩

def Neighbourhood.covers (v : Neighbourhood) (p q c : Nat) : Bool :=
  let x := c * p * v.den
  if v.closed then v.low * q ≤ x && x ≤ v.high * q else v.low * q < x && x < v.high * q

def Neighbourhood.nearest? (v : Neighbourhood) (p q : Nat) : Option Nat :=
  let below := v.value * q / (v.den * p)
  let above := below + 1
  match v.covers p q below, v.covers p q above with
  | true, true =>
    let twice := 2 * v.value * q
    let middle := (below + above) * p * v.den
    if twice < middle then some below
    else if middle < twice then some above
    else some (below + below % 2)
  | true, false => some below
  | false, true => some above
  | false, false => none

def leadingExponent (m : Nat) (e : Int) : Int :=
  let k := (e + m.log2) * 30103 / 100000 + 1
  let v := m * Nat.pow 2 e.toNat * Nat.pow 10 (-k).toNat
  if Nat.pow 10 k.toNat * Nat.pow 2 (-e).toNat ≤ v then k else k - 1

def shortest (m : Nat) (e : Int) : Decimal :=
  if m = 0 then ⟨['0'], 0⟩
  else
    let v := neighbourhood m e
    let lead := leadingExponent m e
    let hit := (List.range 17).findSome? fun (n : Nat) =>
      let k := lead - n
      (v.nearest? (Nat.pow 10 k.toNat) (Nat.pow 10 (-k).toNat)).map fun c => ofScaled c k
    hit.getD ⟨['0'], 0⟩

def positional (d : Decimal) : List Char :=
  let before := (d.exponent + 1).toNat
  if d.exponent < 0 then
    '0' :: '.' :: List.replicate (-d.exponent - 1).toNat '0' ++ d.digits
  else if d.digits.length ≤ before then
    d.digits ++ List.replicate (before - d.digits.length) '0' ++ ['.', '0']
  else d.digits.take before ++ '.' :: d.digits.drop before

def scientific (width : Nat) (d : Decimal) : List Char :=
  let fraction := d.digits.drop 1
  let exponent := Nat.toDigits 10 d.exponent.natAbs
  d.digits.take 1 ++ (if fraction.isEmpty then [] else '.' :: fraction)
    ++ 'e' :: (if d.exponent < 0 then '-' else '+')
    :: List.replicate (width - exponent.length) '0' ++ exponent

def setOut (l : Layout) (d : Decimal) : List Char :=
  if l.positionalFrom ≤ d.exponent ∧ d.exponent < l.positionalBelow then d.positional
  else d.scientific l.exponentWidth

end Decimal

def Binary64.write (l : Layout) : Binary64 → String
  | nan => "nan"
  | infinity negative => if negative then "-inf" else "inf"
  | finite negative m e =>
    let text := (Decimal.shortest m e).setOut l
    .ofList (if negative then '-' :: text else text)

end ProgramDeploy
