import ProgramDeploy.Hash.Sha2

namespace ProgramDeploy.Hash

structure Mac where
  inner : Chain512
  outer : Chain512

namespace Mac

def keyBlock (key : Bytes) : Bytes :=
  Bytes.padRight 128 (if key.length ≤ 128 then key else Sha512.digest key)

def ofKey (key : Bytes) : Mac :=
  let block := keyBlock key
  let start (mask : UInt8) := Sha512.compress Sha512.initial (block.map (· ^^^ mask))
  ⟨start 0x36, start 0x5c⟩

def digest (m : Mac) (message : Bytes) : Bytes :=
  Sha512.finish m.outer 128 (Sha512.finish m.inner 128 message)

end Mac

/-- The first block that stretching gives: the digests of a chain of `rounds`, each of the one
before, joined by exclusive or. The chain starts at the salt and the block's number. -/
def stretch (password salt : Bytes) (rounds : Nat) : Bytes :=
  let key := Mac.ofKey password
  let first := key.digest (salt ++ [0, 0, 0, 1])
  let step (pair : Bytes × Bytes) (_ : Nat) : Bytes × Bytes :=
    let next := key.digest pair.1
    (next, pair.2.zipWith (· ^^^ ·) next)
  ((List.range (rounds - 1)).foldl step (first, first)).2

end ProgramDeploy.Hash
