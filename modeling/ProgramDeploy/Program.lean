import ProgramDeploy.Payload

namespace ProgramDeploy

/-- Bytes that stand for randomness. A draw repeats them from the first one on. -/
abbrev Entropy := Bytes

def Entropy.draw (e : Entropy) (n : Nat) : Bytes :=
  (List.range n).map fun i => e.getD (i % e.length) 0

def idSize : Nat := 32

def CodeId.ofCode (code : Bytes) : Bytes :=
  Hash.Blake2b.digest idSize code

def ProgramId.ofParts (codeId salt : Bytes) : Bytes :=
  Hash.Blake2b.digest idSize (Text.Utf8.encode "program_from_user" ++ codeId ++ salt)

def CodeId.compute (code : Value) : Except Fault Bytes :=
  match code with
  | .bytes bs | .buffer bs => .ok (ofCode bs)
  | .text _ | .torn _ => .error .textHashed
  | _ => .error .notHashable

def Value.bytesPart (v : Value) : Except Fault Bytes :=
  match v with
  | .bytes bs | .buffer bs => .ok bs
  | _ => .error (v.misused .notConcatenable)

def ProgramId.compute (codeId salt : Value) : Except Fault Bytes := do
  return ofParts (← codeId.bytesPart) (← salt.bytesPart)

structure Program where
  code : Bytes
  gasLimit : Value
  value : Value
  initPayload : Bytes
  salt : Value

namespace Program

def saltSize : Nat := 20

def defaultGasLimit : Value := .int 1000000

def defaultValue : Value := .int 1000

def drawSalt (e : Entropy) : Bytes :=
  e.draw saltSize

def isAmount (v : Value) : Bool :=
  match v.toInt? with
  | some n => 0 ≤ n
  | none => false

def build (code initPayload gasLimit value salt : Value) (e : Entropy) :
    Except Fault Program := do
  if !code.isTruthy then throw .emptyCode
  if !isAmount gasLimit then throw (.badGasLimit (← gasLimit.shown))
  if !isAmount value then throw (.badValue (← value.shown))
  let bs ← code.toBytes
  let payload ← Payload.encode initPayload
  let salt := match salt with
    | .null => .bytes (drawSalt e)
    | given => given
  return ⟨bs, gasLimit, value, payload, salt⟩

def toValue (p : Program) : Value :=
  .dict [("code", .bytes p.code), ("gasLimit", p.gasLimit), ("value", p.value),
    ("initPayload", .bytes p.initPayload), ("salt", p.salt)]

end Program

structure UploadCall where
  code : String
  salt : String
  initPayload : String
  gasLimit : Value
  value : Value
  keepAlive : Option Value

namespace UploadCall

def hexField (v : Value) (name : String) : Except Fault String := do
  return Hex.marked (← (← v.field name).toBytes)

def ofValue (program keepAlive : Value) : Except Fault UploadCall := do
  let code ← hexField program "code"
  let salt ← hexField program "salt"
  let initPayload ← hexField program "initPayload"
  let gasLimit ← program.field "gasLimit"
  let value ← program.field "value"
  let keepAlive := match keepAlive with
    | .null => none
    | v => some v
  return ⟨code, salt, initPayload, gasLimit, value, keepAlive⟩

def summary (program : Value) (call : UploadCall) : Except Fault String := do
  let size ← (← program.field "code").length
  return s!"Composing Gear.upload_program: {size} bytes, gas limit " ++ (← call.gasLimit.shown)
    ++ ", value " ++ (← call.value.shown)

end UploadCall

theorem CodeId.length_ofCode (code : Bytes) : (ofCode code).length = idSize :=
  Hash.Blake2b.length_digest _ _ (by decide)

theorem ProgramId.length_ofParts (codeId salt : Bytes) : (ofParts codeId salt).length = idSize :=
  Hash.Blake2b.length_digest _ _ (by decide)

theorem Program.length_drawSalt (e : Entropy) : (drawSalt e).length = saltSize := by
  simp [drawSalt, Entropy.draw]

end ProgramDeploy
