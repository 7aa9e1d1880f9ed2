import ProgramDeploy.Hash.Word

namespace ProgramDeploy.Hash.Keccak

abbrev Lanes := Vector UInt64 25

def rotations : Vector UInt64 25 :=
  #v[0, 1, 62, 28, 27, 36, 44, 6, 55, 20, 3, 10, 43, 25, 39, 41, 45, 15, 21, 8, 18, 2, 61, 56, 14]

def roundConstants : List UInt64 :=
  [0x0000000000000001, 0x0000000000008082, 0x800000000000808a, 0x8000000080008000,
   0x000000000000808b, 0x0000000080000001, 0x8000000080008081, 0x8000000000008009,
   0x000000000000008a, 0x0000000000000088, 0x0000000080008009, 0x000000008000000a,
   0x000000008000808b, 0x800000000000008b, 0x8000000000008089, 0x8000000000008003,
   0x8000000000008002, 0x8000000000000080, 0x000000000000800a, 0x800000008000000a,
   0x8000000080008081, 0x8000000000008080, 0x0000000080000001, 0x8000000080008008]

def lane (a : Lanes) (x y : Nat) : UInt64 :=
  a.getD (x % 5 + 5 * (y % 5)) 0

def parity (a : Lanes) (x : Nat) : UInt64 :=
  lane a x 0 ^^^ lane a x 1 ^^^ lane a x 2 ^^^ lane a x 3 ^^^ lane a x 4

def theta (a : Lanes) : Lanes :=
  let column : Vector UInt64 5 := Vector.ofFn fun x =>
    parity a (x + 4) ^^^ rotateLeft (parity a (x + 1)) 1
  Vector.ofFn fun i => a[i] ^^^ column.getD (i % 5) 0

def rotateAndMove (a : Lanes) : Lanes :=
  let turned : Lanes := Vector.ofFn fun i => rotateLeft a[i] rotations[i]
  Vector.ofFn fun i => lane turned (i % 5 + 3 * (i / 5)) (i % 5)

def chi (a : Lanes) : Lanes :=
  Vector.ofFn fun i => a[i] ^^^ (~~~lane a (i % 5 + 1) (i / 5) &&& lane a (i % 5 + 2) (i / 5))

def round (a : Lanes) (constant : UInt64) : Lanes :=
  let a := chi (rotateAndMove (theta a))
  a.set 0 (a[0] ^^^ constant)

def permute (a : Lanes) : Lanes :=
  roundConstants.foldl round a

def permuteBytes (bs : Bytes) : Bytes :=
  (permute (Vector.ofFn fun i => wordLE ((bs.drop (8 * i)).take 8))).toList.flatMap bytesLE

end ProgramDeploy.Hash.Keccak
