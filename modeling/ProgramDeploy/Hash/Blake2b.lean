import ProgramDeploy.Hash.Word

namespace ProgramDeploy.Hash.Blake2b

def initial : Vector UInt64 8 :=
  #v[0x6a09e667f3bcc908, 0xbb67ae8584caa73b, 0x3c6ef372fe94f82b, 0xa54ff53a5f1d36f1,
     0x510e527fade682d1, 0x9b05688c2b3e6c1f, 0x1f83d9abfb41bd6b, 0x5be0cd19137e2179]

def orders : Vector (Vector (Fin 16) 16) 10 :=
  #v[#v[0, 1, 2, 3, 4, 5, 6, 7, 8, 9, 10, 11, 12, 13, 14, 15],
     #v[14, 10, 4, 8, 9, 15, 13, 6, 1, 12, 0, 2, 11, 7, 5, 3],
     #v[11, 8, 12, 0, 5, 2, 15, 13, 10, 14, 3, 6, 7, 1, 9, 4],
     #v[7, 9, 3, 1, 13, 12, 11, 14, 2, 6, 5, 10, 4, 0, 15, 8],
     #v[9, 0, 5, 7, 2, 4, 10, 15, 14, 1, 11, 12, 6, 8, 3, 13],
     #v[2, 12, 6, 10, 0, 11, 8, 3, 4, 13, 7, 5, 15, 14, 1, 9],
     #v[12, 5, 1, 15, 14, 13, 4, 10, 0, 7, 6, 3, 9, 2, 8, 11],
     #v[13, 11, 7, 14, 12, 1, 3, 9, 5, 0, 15, 4, 8, 6, 2, 10],
     #v[6, 15, 14, 9, 11, 3, 0, 8, 12, 2, 13, 7, 1, 4, 10, 5],
     #v[10, 2, 8, 4, 7, 6, 1, 5, 15, 11, 9, 14, 3, 12, 13, 0]]

abbrev Work := Vector UInt64 16

def mix (v : Work) (a b c d : Fin 16) (x y : UInt64) : Work :=
  let va := v[a] + v[b] + x
  let vd := rotateRight (v[d] ^^^ va) 32
  let vc := v[c] + vd
  let vb := rotateRight (v[b] ^^^ vc) 24
  let va := va + vb + y
  let vd := rotateRight (vd ^^^ va) 16
  let vc := vc + vd
  let vb := rotateRight (vb ^^^ vc) 63
  (((v.set a va).set b vb).set c vc).set d vd

def round (m : Vector UInt64 16) (v : Work) (order : Vector (Fin 16) 16) : Work :=
  let v := mix v 0 4 8 12 m[order[0]] m[order[1]]
  let v := mix v 1 5 9 13 m[order[2]] m[order[3]]
  let v := mix v 2 6 10 14 m[order[4]] m[order[5]]
  let v := mix v 3 7 11 15 m[order[6]] m[order[7]]
  let v := mix v 0 5 10 15 m[order[8]] m[order[9]]
  let v := mix v 1 6 11 12 m[order[10]] m[order[11]]
  let v := mix v 2 7 8 13 m[order[12]] m[order[13]]
  mix v 3 4 9 14 m[order[14]] m[order[15]]

def messageWords (block : Bytes) : Vector UInt64 16 :=
  Vector.ofFn fun i => wordLE ((block.drop (8 * i)).take 8)

def compress (h : Vector UInt64 8) (block : Bytes) (count : Nat) (last : Bool) :
    Vector UInt64 8 :=
  let v : Work := h ++ initial
  let v := v.set 12 (v[12] ^^^ UInt64.ofNat count)
  let v := v.set 13 (v[13] ^^^ UInt64.ofNat (count >>> 64))
  let v := if last then v.set 14 (v[14] ^^^ 0xffffffffffffffff) else v
  let m := messageWords block
  let v := (orders.toList ++ orders.toList.take 2).foldl (round m) v
  Vector.ofFn fun i => h[i] ^^^ v[i.val] ^^^ v[i.val + 8]

/-- Takes in a message, of which `count` bytes have been seen before. The last block is filled up
with zeros; an empty message is one block of zeros. -/
def absorb (h : Vector UInt64 8) (count : Nat) (message : Bytes) : Vector UInt64 8 :=
  if (message.drop 128).isEmpty then
    compress h (Bytes.padRight 128 message) (count + message.length) true
  else absorb (compress h (message.take 128) (count + 128) false) (count + 128) (message.drop 128)
  termination_by message.length
  decreasing_by
    rename_i h
    simp only [List.isEmpty_iff, List.drop_eq_nil_iff] at h
    simp only [List.length_drop]
    omega

def digest (size : Nat) (message : Bytes) : Bytes :=
  let start := initial.set 0 (initial[0] ^^^ 0x01010000 ^^^ UInt64.ofNat size)
  ((absorb start 0 message).toList.flatMap bytesLE).take size

theorem length_digest (size : Nat) (message : Bytes) (h : size ≤ 64) :
    (digest size message).length = size := by
  simp only [digest, List.length_take]
  rw [length_flatMap_of_forall bytesLE 8 _ (fun w _ => length_bytesLE w)]
  simp
  omega

end ProgramDeploy.Hash.Blake2b
