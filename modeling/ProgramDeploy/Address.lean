import ProgramDeploy.Address.Base58
import ProgramDeploy.Hash.Blake2b
import ProgramDeploy.Text.Space
import ProgramDeploy.Text.Torn
import ProgramDeploy.Text.Utf8

/-!
Addresses. The Base58 text of an address spells its format in one or two bytes, the key, and a
checksum over both. Reading also admits the short keys of the standard, with checksums of other
lengths.
-/

namespace ProgramDeploy.Address

inductive Fault where
  | notAscii (characters : Text.Unwritten)
  | badCharacter (c : Char)
  | tooShort
  | reservedFormat (format : Nat)
  | badLength
  | badChecksum
  | badFormat
  deriving DecidableEq

def greatestFormat : Nat := 16383

def isReserved (format : Nat) : Bool :=
  format = 46 || format = 47

/-- The bytes of a format: one below 64, otherwise two that share its bits. -/
def formatBytes (format : Nat) : Bytes :=
  if format < 64 then [UInt8.ofNat format]
  else [UInt8.ofNat (format % 256 / 4 + 64), UInt8.ofNat (format / 256 + format % 4 * 64)]

def readFormat? : Bytes → Option (Nat × Nat)
  | [] => none
  | b :: bs =>
    if b.toNat / 64 % 2 = 0 then some (b.toNat, 1)
    else match bs with
      | [] => none
      | c :: _ => some (b.toNat % 64 * 4 + c.toNat / 64 + c.toNat % 64 * 256, 2)

def checksum (body : Bytes) : Bytes :=
  Hash.Blake2b.digest 64 (Text.Utf8.encode "SS58PRE" ++ body)

def checksumLength? (formatLength length : Nat) : Option Nat :=
  if length ∈ [3, 4, 6, 10] then some 1
  else if length ∈ [5, 7, 11, 34 + formatLength, 35 + formatLength] then some 2
  else if length ∈ [8, 12] then some 3
  else if length ∈ [9, 13] then some 4
  else if length = 14 then some 5
  else if length = 15 then some 6
  else if length = 16 then some 7
  else if length = 17 then some 8
  else none

def encode (key : Bytes) (format : Nat) : String :=
  let body := formatBytes format ++ key
  .ofList (Base58.encode (body ++ (checksum body).take 2))

def notAscii (codes : List Nat) : Fault :=
  .notAscii (.first (128 ≤ ·) codes)

def bytesOfText (s : String) : Except Fault Bytes :=
  let cs := Text.trimRight Text.blank s.toList
  if cs.all (·.toNat < 128) then (Base58.decode cs).mapError .badCharacter
  else .error (notAscii (cs.map Char.toNat))

def keyOfBytes (bs : Bytes) : Except Fault Bytes :=
  match readFormat? bs with
  | none => .error .tooShort
  | some (format, formatLength) =>
    if isReserved format then .error (.reservedFormat format)
    else match checksumLength? formatLength bs.length with
      | none => .error .badLength
      | some n =>
        let body := bs.take (bs.length - n)
        if (checksum body).take n = bs.drop (bs.length - n) then .ok (body.drop formatLength)
        else .error .badChecksum

def decode (s : String) : Except Fault Bytes := do
  keyOfBytes (← bytesOfText s)

def Fault.message : Fault → String
  | notAscii characters => characters.message "ascii" "ordinal not in range(128)"
  | badCharacter c => "Invalid character " ++ Text.quoted (.ofList [c])
  | tooShort => "index out of range"
  | reservedFormat format => s!"{format} is a reserved SS58 format"
  | badLength => "Invalid address length"
  | badChecksum => "Invalid checksum"
  | badFormat => "Invalid value for ss58_format"

end ProgramDeploy.Address
