import ProgramDeploy.Account.Secret
import ProgramDeploy.Hash.Blake2b
import ProgramDeploy.Value.Access

namespace ProgramDeploy

structure Junction where
  hard : Bool
  code : Bytes
  deriving DecidableEq

namespace Junction

def compactLength (n : Nat) : Bytes :=
  if n < 64 then Bytes.ofNatLE 1 (4 * n)
  else if n < 16384 then Bytes.ofNatLE 2 (4 * n + 1)
  else Bytes.ofNatLE 4 (4 * n + 2)

/-- The chain code of a number. One that does not fit keeps its length. -/
def numberCode (n : Nat) : Bytes :=
  Bytes.padRight Secret.size (Bytes.ofNatLE (Bytes.widthOf n) n)

def bytesCode (bs : Bytes) : Bytes :=
  let framed := compactLength bs.length ++ bs
  if framed.length ≤ Secret.size then Bytes.padRight Secret.size framed
  else Hash.Blake2b.digest Secret.size framed

def codeOfName (name : List Char) : Except Fault Bytes :=
  if name.all Text.numeric then do
    let n ← Value.readInteger (Text.quoted (.ofList name)) name
    return numberCode n.toNat
  else match Hex.markedDigits? name with
    | some digits => do return bytesCode (← (Hex.read digits).mapError .hex)
    | none => .ok (bytesCode (Text.Utf8.encode (.ofList name)))

def codeOfPoints (name : List Text.Point) : Except Fault Bytes :=
  let cs := name.map Text.Point.toChar
  if name.any Text.Point.isHalf then
    match Hex.markedDigits? cs with
    | some digits => do return bytesCode (← (Hex.read digits).mapError .hex)
    | none => .error (.unwritable (.halves name))
  else codeOfName cs

def apply (s : Secret) (j : Junction) : Except Fault Secret :=
  if j.code.length = Secret.size then
    .ok (if j.hard then s.deriveHard j.code else s.deriveSoft j.code)
  else .error (.junctionLength j.code.length)

end Junction

end ProgramDeploy
