import ProgramDeploy.Value.Access

namespace ProgramDeploy

namespace Payload

def refused (t : Text.Torn) : Fault :=
  if (Hex.markedDigits? t.chars).isSome then .payloadNotHex t.shown
  else .unwritable (.halves t.points)

def encode (payload : Value) : Except Fault Bytes :=
  match payload with
  | .null => .ok []
  | .bytes bs | .buffer bs => .ok bs
  | .text s =>
    match Hex.markedDigits? s.toList with
    | none => .ok (Text.Utf8.encode s)
    | some digits => (Hex.read digits).mapError fun _ => .payloadNotHex s
  | .torn t => .error (refused t)
  | v => .error (.unsupportedPayload v.typeName)

end Payload

namespace ActorId

def size : Nat := 32

def bytesOfText (s : String) : Except Fault Bytes :=
  match Hex.markedDigits? s.toList with
  | some digits => (Hex.read digits).mapError fun _ => .actorIdNotHex s
  | none =>
    (Address.decode s).mapError fun f =>
      if f = .tooShort then .address f else .badAddress s f

def refused (t : Text.Torn) : Fault :=
  if (Hex.markedDigits? t.chars).isSome then .actorIdNotHex t.shown
  else .badAddress t.shown
    (Address.notAscii ((Text.trimRight (Text.blank ·.toChar) t.points).map Text.Point.code))

def source (v : Value) : Except Fault String :=
  if !v.isTruthy then .error .emptyActorId
  else match v with
    | .text s => .ok s
    | .torn t => .error (refused t)
    | .bytes _ | .buffer _ => .error .bytesStartWithText
    | _ => .error (v.misused (.noAttribute "startswith"))

def decode (v : Value) : Except Fault Bytes := do
  let bs ← bytesOfText (← source v)
  if bs.length = size then return bs else throw (.actorIdLength bs.length)

theorem length_of_decode {v : Value} {bs : Bytes} (h : decode v = .ok bs) :
    bs.length = size := by
  unfold decode at h
  cases hs : source v with
  | error f => simp [hs, bind, Except.bind] at h
  | ok s =>
    cases hb : bytesOfText s with
    | error f => simp [hs, hb, bind, Except.bind] at h
    | ok cs =>
      simp only [hs, hb, bind, Except.bind] at h
      split at h
      · simp only [pure, Except.pure, Except.ok.injEq] at h
        rw [← h]
        assumption
      · simp [throw, throwThe, MonadExceptOf.throw] at h

end ActorId

end ProgramDeploy
