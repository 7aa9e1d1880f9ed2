import ProgramDeploy.Bytes
import ProgramDeploy.Text.Space

namespace ProgramDeploy.Hex

structure Fault where
  position : Nat
  deriving DecidableEq

def digit (n : Nat) : Char :=
  if n < 10 then Char.ofNat (0x30 + n) else Char.ofNat (0x57 + n)

def value? (c : Char) : Option Nat :=
  if '0' ≤ c ∧ c ≤ '9' then some (c.toNat - 0x30)
  else if 'a' ≤ c ∧ c ≤ 'f' then some (c.toNat - 0x57)
  else if 'A' ≤ c ∧ c ≤ 'F' then some (c.toNat - 0x37)
  else none

def digits (bs : Bytes) : List Char :=
  bs.flatMap fun b => [digit (b.toNat / 16), digit (b.toNat % 16)]

def encode (bs : Bytes) : String :=
  .ofList (digits bs)

def decodeFrom (position : Nat) : List Char → Except Fault Bytes
  | [] => .ok []
  | c :: cs =>
    if Text.asciiSpace c then decodeFrom (position + 1) cs
    else match value? c, cs with
      | none, _ => .error ⟨position⟩
      | some _, [] => .error ⟨position + 1⟩
      | some high, d :: ds =>
        match value? d with
        | none => .error ⟨position + 1⟩
        | some low => do
          let bs ← decodeFrom (position + 2) ds
          return UInt8.ofNat (16 * high + low) :: bs

def read (cs : List Char) : Except Fault Bytes :=
  match cs.findIdx? (128 ≤ ·.toNat) with
  | some n => .error ⟨n⟩
  | none => decodeFrom 0 cs

def decode (s : String) : Except Fault Bytes :=
  read s.toList

def marked (bs : Bytes) : String :=
  "0x" ++ encode bs

def markedDigits? : List Char → Option (List Char)
  | '0' :: 'x' :: cs => some cs
  | _ => none

end ProgramDeploy.Hex
