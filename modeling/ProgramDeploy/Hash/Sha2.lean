import ProgramDeploy.Hash.Word

/-!
SHA-512 and SHA-256. The constants of the narrow function are the upper halves of the constants of
the wide one, so one table serves both.
-/

namespace ProgramDeploy.Hash

def roundConstants : Array UInt64 :=
  #[0x428a2f98d728ae22, 0x7137449123ef65cd, 0xb5c0fbcfec4d3b2f, 0xe9b5dba58189dbbc,
    0x3956c25bf348b538, 0x59f111f1b605d019, 0x923f82a4af194f9b, 0xab1c5ed5da6d8118,
    0xd807aa98a3030242, 0x12835b0145706fbe, 0x243185be4ee4b28c, 0x550c7dc3d5ffb4e2,
    0x72be5d74f27b896f, 0x80deb1fe3b1696b1, 0x9bdc06a725c71235, 0xc19bf174cf692694,
    0xe49b69c19ef14ad2, 0xefbe4786384f25e3, 0x0fc19dc68b8cd5b5, 0x240ca1cc77ac9c65,
    0x2de92c6f592b0275, 0x4a7484aa6ea6e483, 0x5cb0a9dcbd41fbd4, 0x76f988da831153b5,
    0x983e5152ee66dfab, 0xa831c66d2db43210, 0xb00327c898fb213f, 0xbf597fc7beef0ee4,
    0xc6e00bf33da88fc2, 0xd5a79147930aa725, 0x06ca6351e003826f, 0x142929670a0e6e70,
    0x27b70a8546d22ffc, 0x2e1b21385c26c926, 0x4d2c6dfc5ac42aed, 0x53380d139d95b3df,
    0x650a73548baf63de, 0x766a0abb3c77b2a8, 0x81c2c92e47edaee6, 0x92722c851482353b,
    0xa2bfe8a14cf10364, 0xa81a664bbc423001, 0xc24b8b70d0f89791, 0xc76c51a30654be30,
    0xd192e819d6ef5218, 0xd69906245565a910, 0xf40e35855771202a, 0x106aa07032bbd1b8,
    0x19a4c116b8d2d0c8, 0x1e376c085141ab53, 0x2748774cdf8eeb99, 0x34b0bcb5e19b48a8,
    0x391c0cb3c5c95a63, 0x4ed8aa4ae3418acb, 0x5b9cca4f7763e373, 0x682e6ff3d6b2b8a3,
    0x748f82ee5defb2fc, 0x78a5636f43172f60, 0x84c87814a1f0ab72, 0x8cc702081a6439ec,
    0x90befffa23631e28, 0xa4506cebde82bde9, 0xbef9a3f7b2c67915, 0xc67178f2e372532b,
    0xca273eceea26619c, 0xd186b8c721c0c207, 0xeada7dd6cde0eb1e, 0xf57d4f7fee6ed178,
    0x06f067aa72176fba, 0x0a637dc5a2c898a6, 0x113f9804bef90dae, 0x1b710b35131c471b,
    0x28db77f523047d84, 0x32caab7b40c72493, 0x3c9ebe0a15c9bebc, 0x431d67c49c100d4c,
    0x4cc5d4becb3e42b6, 0x597f299cfc657e2a, 0x5fcb6fab3ad6faec, 0x6c44198c4a475817]

structure Chain512 where
  (a b c d e f g h : UInt64)

structure Chain256 where
  (a b c d e f g h : UInt32)

namespace Sha512

def initial : Chain512 :=
  ⟨0x6a09e667f3bcc908, 0xbb67ae8584caa73b, 0x3c6ef372fe94f82b, 0xa54ff53a5f1d36f1,
   0x510e527fade682d1, 0x9b05688c2b3e6c1f, 0x1f83d9abfb41bd6b, 0x5be0cd19137e2179⟩

def extend (w : Array UInt64) (i : Nat) : Array UInt64 :=
  let x := w.getD (i + 1) 0
  let y := w.getD (i + 14) 0
  let s := rotateRight x 1 ^^^ rotateRight x 8 ^^^ x >>> 7
  let t := rotateRight y 19 ^^^ rotateRight y 61 ^^^ y >>> 6
  w.push (w.getD i 0 + s + w.getD (i + 9) 0 + t)

def schedule (block : Bytes) : Array UInt64 :=
  (List.range 64).foldl extend ((blocks 7 block).map wordBE).toArray

def round (s : Chain512) (k w : UInt64) : Chain512 :=
  let t := rotateRight s.e 14 ^^^ rotateRight s.e 18 ^^^ rotateRight s.e 41
  let t := s.h + t + (s.e &&& s.f ^^^ (~~~s.e &&& s.g)) + k + w
  let u := rotateRight s.a 28 ^^^ rotateRight s.a 34 ^^^ rotateRight s.a 39
  let u := u + (s.a &&& s.b ^^^ s.a &&& s.c ^^^ s.b &&& s.c)
  ⟨t + u, s.a, s.b, s.c, s.d + t, s.e, s.f, s.g⟩

def compress (s : Chain512) (block : Bytes) : Chain512 :=
  let w := schedule block
  let r := (List.range 80).foldl (fun r i => round r (roundConstants.getD i 0) (w.getD i 0)) s
  ⟨s.a + r.a, s.b + r.b, s.c + r.c, s.d + r.d, s.e + r.e, s.f + r.f, s.g + r.g, s.h + r.h⟩

def padding (length : Nat) : Bytes :=
  0x80 :: List.replicate ((239 - length % 128) % 128) 0 ++ Bytes.ofNatBE 16 (8 * length)

def finish (s : Chain512) (before : Nat) (rest : Bytes) : Bytes :=
  let s := (blocks 127 (rest ++ padding (before + rest.length))).foldl compress s
  [s.a, s.b, s.c, s.d, s.e, s.f, s.g, s.h].flatMap bytesBE

def digest (message : Bytes) : Bytes :=
  finish initial 0 message

end Sha512

namespace Sha256

def initial : Chain256 :=
  let s := Sha512.initial
  let half (w : UInt64) : UInt32 := (w >>> 32).toUInt32
  ⟨half s.a, half s.b, half s.c, half s.d, half s.e, half s.f, half s.g, half s.h⟩

def rotateRight (w n : UInt32) : UInt32 :=
  w >>> n ||| w <<< (32 - n)

def extend (w : Array UInt32) (i : Nat) : Array UInt32 :=
  let x := w.getD (i + 1) 0
  let y := w.getD (i + 14) 0
  let s := rotateRight x 7 ^^^ rotateRight x 18 ^^^ x >>> 3
  let t := rotateRight y 17 ^^^ rotateRight y 19 ^^^ y >>> 10
  w.push (w.getD i 0 + s + w.getD (i + 9) 0 + t)

def schedule (block : Bytes) : Array UInt32 :=
  (List.range 48).foldl extend ((blocks 3 block).map fun bs => (wordBE bs).toUInt32).toArray

def round (s : Chain256) (k w : UInt32) : Chain256 :=
  let t := rotateRight s.e 6 ^^^ rotateRight s.e 11 ^^^ rotateRight s.e 25
  let t := s.h + t + (s.e &&& s.f ^^^ (~~~s.e &&& s.g)) + k + w
  let u := rotateRight s.a 2 ^^^ rotateRight s.a 13 ^^^ rotateRight s.a 22
  let u := u + (s.a &&& s.b ^^^ s.a &&& s.c ^^^ s.b &&& s.c)
  ⟨t + u, s.a, s.b, s.c, s.d + t, s.e, s.f, s.g⟩

def compress (s : Chain256) (block : Bytes) : Chain256 :=
  let w := schedule block
  let constant (i : Nat) : UInt32 := (roundConstants.getD i 0 >>> 32).toUInt32
  let r := (List.range 64).foldl (fun r i => round r (constant i) (w.getD i 0)) s
  ⟨s.a + r.a, s.b + r.b, s.c + r.c, s.d + r.d, s.e + r.e, s.f + r.f, s.g + r.g, s.h + r.h⟩

def padding (length : Nat) : Bytes :=
  0x80 :: List.replicate ((119 - length % 64) % 64) 0 ++ Bytes.ofNatBE 8 (8 * length)

def digest (message : Bytes) : Bytes :=
  let s := (blocks 63 (message ++ padding message.length)).foldl compress initial
  [s.a, s.b, s.c, s.d, s.e, s.f, s.g, s.h].flatMap fun w => Bytes.ofNatBE 4 w.toNat

end Sha256

end ProgramDeploy.Hash
