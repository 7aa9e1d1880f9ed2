import ProgramDeploy.Bytes

namespace ProgramDeploy.Text.Utf8

inductive Problem where
  | badLead
  | cutShort
  | badContinuation
  deriving DecidableEq

structure Fault where
  position : Nat
  count : Nat
  lead : UInt8
  problem : Problem
  deriving DecidableEq

def encode (s : String) : Bytes :=
  s.toList.flatMap String.utf8EncodeChar

def continuation? (lead : UInt8) : Option (List (UInt8 × UInt8)) :=
  let tail : UInt8 × UInt8 := (0x80, 0xbf)
  if lead < 0x80 then some []
  else if lead < 0xc2 then none
  else if lead < 0xe0 then some [tail]
  else if lead = 0xe0 then some [(0xa0, 0xbf), tail]
  else if lead = 0xed then some [(0x80, 0x9f), tail]
  else if lead < 0xf0 then some [tail, tail]
  else if lead = 0xf0 then some [(0x90, 0xbf), tail, tail]
  else if lead < 0xf4 then some [tail, tail, tail]
  else if lead = 0xf4 then some [(0x80, 0x8f), tail, tail]
  else none

def agreeing : List (UInt8 × UInt8) → Bytes → Nat
  | (low, high) :: intervals, b :: bs =>
    if low ≤ b ∧ b ≤ high then agreeing intervals bs + 1 else 0
  | _, _ => 0

def assemble (lead : UInt8) (follow : Bytes) : Char :=
  let payload : Nat := match follow.length with
    | 0 => lead.toNat
    | 1 => lead.toNat % 0x20
    | 2 => lead.toNat % 0x10
    | _ => lead.toNat % 0x08
  Char.ofNat (follow.foldl (fun n b => n * 0x40 + b.toNat % 0x40) payload)

def decodeFrom (position : Nat) : Bytes → Except Fault (List Char)
  | [] => .ok []
  | lead :: rest =>
    match continuation? lead with
    | none => .error ⟨position, 1, lead, .badLead⟩
    | some intervals =>
      let n := agreeing intervals rest
      if n = intervals.length then do
        let cs ← decodeFrom (position + n + 1) (rest.drop n)
        return assemble lead (rest.take n) :: cs
      else if n = rest.length then .error ⟨position, n + 1, lead, .cutShort⟩
      else .error ⟨position, n + 1, lead, .badContinuation⟩
  termination_by bs => bs.length
  decreasing_by simp only [List.length_cons, List.length_drop]; omega

def decode (bs : Bytes) : Except Fault (List Char) :=
  decodeFrom 0 bs

def Problem.message : Problem → String
  | .badLead => "invalid start byte"
  | .cutShort => "unexpected end of data"
  | .badContinuation => "invalid continuation byte"

end ProgramDeploy.Text.Utf8
