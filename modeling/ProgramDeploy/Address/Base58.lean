import ProgramDeploy.Bytes

namespace ProgramDeploy.Base58

def alphabet : List Char :=
  "123456789ABCDEFGHJKLMNPQRSTUVWXYZabcdefghijkmnopqrstuvwxyz".toList

def digit (n : Nat) : Char :=
  alphabet.getD n '1'

def value? (c : Char) : Option Nat :=
  let n := alphabet.idxOf c
  if n < alphabet.length then some n else none

def digitsOf (n : Nat) : List Nat :=
  if n = 0 then [] else n % 58 :: digitsOf (n / 58)
  termination_by n
  decreasing_by omega

def bytesOf (n : Nat) : Bytes :=
  Bytes.ofNatBE (Bytes.widthOf n) n

def encode (bs : Bytes) : List Char :=
  let zeros := bs.takeWhile (· == 0)
  List.replicate zeros.length '1' ++ ((digitsOf (Bytes.toNatBE bs)).map digit).reverse

def number (cs : List Char) : Except Char Nat :=
  cs.foldlM (fun n c => match value? c with
    | some d => .ok (58 * n + d)
    | none => .error c) 0

def decode (cs : List Char) : Except Char Bytes := do
  let ones := cs.takeWhile (· == '1')
  let n ← number (cs.dropWhile (· == '1'))
  return List.replicate ones.length 0 ++ bytesOf n

end ProgramDeploy.Base58
