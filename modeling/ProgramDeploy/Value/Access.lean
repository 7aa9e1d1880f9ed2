import ProgramDeploy.Fault

namespace ProgramDeploy.Value

def misused (v : Value) (m : Misuse) : Fault :=
  .misuse v.typeName m

def field (v : Value) (name : String) : Except Fault Value :=
  match v with
  | dict t =>
    match Table.get? t name with
    | some w => .ok w
    | none => .error (.missingKey (Text.quoted name))
  | list _ => .error (.misuse "str" .listIndex)
  | text _ | torn _ => .error (.misuse "str" .textIndex)
  | bytes _ => .error (.misuse "str" .bytesIndex)
  | buffer _ => .error (.misuse "str" .bufferIndex)
  | _ => .error (v.misused .notSubscriptable)

def fieldOrNull (v : Value) (name : String) : Except Fault Value :=
  match v with
  | dict t => .ok ((Table.get? t name).getD .null)
  | _ => .error (v.misused (.noAttribute "get"))

def occurs {α : Type} [BEq α] (needle : List α) : List α → Bool
  | [] => needle.isEmpty
  | c :: cs => needle.isPrefixOf (c :: cs) || occurs needle cs

def isText (name : String) : Value → Bool
  | text s => s = name
  | _ => false

def contains (v : Value) (name : String) : Except Fault Bool :=
  match v with
  | dict t => .ok (Table.get? t name).isSome
  | list items => .ok (items.any (isText name))
  | text s => .ok (occurs name.toList s.toList)
  | torn t => .ok (occurs (name.toList.map .char) t.points)
  | bytes _ | buffer _ => .error .textInBytes
  | _ => .error (v.misused .notContainer)

def length (v : Value) : Except Fault Nat :=
  match v with
  | text s => .ok s.length
  | torn t => .ok t.points.length
  | bytes bs | buffer bs => .ok bs.length
  | list items => .ok items.length
  | dict t => .ok t.length
  | _ => .error (v.misused .noLength)

def items (v : Value) : Except Fault (List Value) :=
  match v with
  | text s => .ok (s.toList.map fun c => .text (.ofList [c]))
  | torn t => .ok (t.points.map fun p => ofPoints [p])
  | bytes bs | buffer bs => .ok (bs.map fun b => .int b.toNat)
  | list vs => .ok vs
  | dict t => .ok (t.map fun entry => entry.1.toValue)
  | _ => .error (v.misused .notIterable)

def toByte (v : Value) : Except Fault UInt8 :=
  match v.toInt? with
  | some n => if 0 ≤ n ∧ n < 256 then .ok (UInt8.ofNat n.toNat) else .error .byteOutOfRange
  | none => .error (v.misused .notInteger)

/-- A number of zero bytes. A count must fit a word together with the 33 bytes that go with every
byte string, and the whole must fit the memory. -/
def zeroBytes (count : Int) : Except Fault Bytes :=
  if !fitsWord count then .error (.beyondWord .overflow)
  else if count < 0 then .error .negativeCount
  else if !fitsWord (count + 33) then .error .countTooLarge
  else if 0x800000000000 ≤ count then .error .countUnallocatable
  else .ok (List.replicate count.toNat 0)

def toBytes (v : Value) : Except Fault Bytes :=
  match v with
  | bytes bs | buffer bs => .ok bs
  | bool b => zeroBytes (if b then 1 else 0)
  | int n => zeroBytes n
  | text _ | torn _ => .error .textWithoutEncoding
  | list items => items.mapM toByte
  | dict t => (t.map fun entry => entry.1.toValue).mapM toByte
  | null | float _ => .error (v.misused .notBytes)

def clipped (literal : String) : String :=
  .ofList (literal.toList.take 200)

def readInteger (literal : String) (cs : List Char) : Except Fault Int :=
  match Numeral.read cs with
  | .ok n => .ok n
  | .error .malformed => .error (.malformedInteger (clipped literal))
  | .error f => .error (.numeral f)

def asciiChars (bs : Bytes) : List Char :=
  bs.map fun b => if b < 0x80 then Char.ofNat b.toNat else '\ufffd'

def toInteger (v : Value) : Except Fault Int :=
  match v with
  | bool b => .ok (if b then 1 else 0)
  | int n => .ok n
  | float .nan => .error .nanToInteger
  | float (.infinity _) => .error .infinityToInteger
  | float (.finite negative m e) => .ok (Binary64.truncate negative m e)
  | text s => readInteger (Text.quoted s) s.toList
  | torn t => readInteger t.quoted t.chars
  | bytes bs | buffer bs => readInteger (Text.quotedBytes (bs.take 200)) (asciiChars bs)
  | null | list _ | dict _ => .error (v.misused .notNumeric)

def compareInt? (v : Value) (n : Int) : Option (Option Ordering) :=
  match v with
  | bool b => some (some (compare (if b then 1 else 0) n))
  | int m => some (some (compare m n))
  | float x => some (x.compareInt n)
  | _ => none

def atLeast (v : Value) (n : Int) : Except Fault Bool :=
  match v.compareInt? n with
  | some order => .ok (order = some .eq || order = some .gt)
  | none => .error (.incomparable "<=" "int" v.typeName)

end ProgramDeploy.Value
