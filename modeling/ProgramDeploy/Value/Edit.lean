import ProgramDeploy.Value.Access

namespace ProgramDeploy.Value

inductive Change where
  | assign (v : Value)
  | delete

def entryKey (v : Value) : Except Fault (Key × String) :=
  match v.toKey? with
  | none => .error (v.misused .unhashable)
  | some k => do return (k, ← k.literal.mapError Fault.numeral)

def indexOfInt (n : Int) : Except Fault Int :=
  if fitsWord n then .ok n else .error (.beyondWord .index)

def index (key : Value) (misuse : Misuse) : Except Fault Int :=
  match key.toInt? with
  | some n => indexOfInt n
  | none => .error (key.misused misuse)

def position (subject : String) (size : Nat) (index : Int) : Except Fault Nat :=
  let i := if index < 0 then index + size else index
  if 0 ≤ i ∧ i < size then .ok i.toNat else .error (.indexOutOfRange subject)

def toBufferByte (v : Value) : Except Fault UInt8 :=
  match v.toInt? with
  | some n => if 0 ≤ n ∧ n < 256 then .ok (UInt8.ofNat n.toNat) else .error .bufferByteOutOfRange
  | none => .error (v.misused .notInteger)

def changeFault (v key : Value) (keyed indexed : Misuse) : Except Fault Value := do
  match key.toInt? with
  | none => throw (v.misused keyed)
  | some n =>
    let _ ← indexOfInt n
    throw (v.misused indexed)

def item (v key : Value) : Except Fault Value :=
  match v with
  | dict t => do
    let (k, literal) ← entryKey key
    match Table.find? t k with
    | some w => return w
    | none => throw (.missingKey literal)
  | list vs => do
    let n ← position "list index" vs.length (← key.index .listIndex)
    return vs.getD n .null
  | text s => do
    let n ← position "string index" s.length (← key.index .textIndex)
    return .text (.ofList ((s.toList.drop n).take 1))
  | torn t => do
    let n ← position "string index" t.points.length (← key.index .textIndex)
    return ofPoints ((t.points.drop n).take 1)
  | bytes bs => do
    let n ← position "index" bs.length (← key.index .bytesIndex)
    return .int (bs.getD n 0).toNat
  | buffer bs => do
    let n ← position "bytearray index" bs.length (← key.index .bufferIndex)
    return .int (bs.getD n 0).toNat
  | _ => .error (v.misused .notSubscriptable)

def assignItem (v key w : Value) : Except Fault Value :=
  match v with
  | dict t => do
    let (k, _) ← entryKey key
    return dict (Table.insert t k w)
  | list vs => do
    let n ← position "list assignment index" vs.length (← key.index .listIndex)
    return list (vs.set n w)
  | buffer bs => do
    let i ← key.index .bufferIndex
    let b ← w.toBufferByte
    let n ← position "bytearray index" bs.length i
    return buffer (bs.set n b)
  | text _ | torn _ | bytes _ => v.changeFault key .noAssignment .noAssignment
  | _ => .error (v.misused .noAssignment)

def deleteItem (v key : Value) : Except Fault Value :=
  match v with
  | dict t => do
    let (k, literal) ← entryKey key
    if (Table.find? t k).isSome then return dict (Table.erase t k) else throw (.missingKey literal)
  | list vs => do
    let n ← position "list assignment index" vs.length (← key.index .listIndex)
    return list (vs.eraseIdx n)
  | buffer bs => do
    let n ← position "bytearray index" bs.length (← key.index .bufferIndex)
    return buffer (bs.eraseIdx n)
  | text _ | torn _ | bytes _ => v.changeFault key .noDeletion .noIndexDeletion
  | _ => .error (v.misused .noDeletion)

def edit (change : Change) : Value → List Value → Except Fault Value
  | _, [] => .error (.indexOutOfRange "list index")
  | v, [key] =>
    match change with
    | .assign w => v.assignItem key w
    | .delete => v.deleteItem key
  | v, key :: rest => do
    let inner ← v.item key
    let inner ← edit change inner rest
    v.assignItem key inner

end ProgramDeploy.Value
