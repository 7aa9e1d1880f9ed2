import ProgramDeploy.Account.Phrase
import ProgramDeploy.Account.SecretUri

namespace ProgramDeploy

structure Account where
  publicKey : Bytes
  address : String
  format : Value

namespace Account

def networkFormat : Value := .int 137

def formatNumber (v : Value) : Except Fault Nat :=
  match v with
  | .float x =>
    if x.compareInt 0 = some .lt ∨ x.compareInt Address.greatestFormat = some .gt
        ∨ x.compareInt 46 = some .eq ∨ x.compareInt 47 = some .eq then .error (.address .badFormat)
    else if x.compareInt 64 = some .lt then .error (v.misused .notInteger)
    else .error (.uncombinable "&" v.typeName "int")
  | _ =>
    match v.toInt? with
    | none => .error (.incomparable "<" v.typeName "int")
    | some n =>
      if n < 0 ∨ Address.greatestFormat < n ∨ Address.isReserved n.toNat then
        .error (.address .badFormat)
      else .ok n.toNat

def ofPublicKey (key : Bytes) (format : Value) : Except Fault Account := do
  return ⟨key, Address.encode key (← formatNumber format), format⟩

def seedBytes (seed name : Value) : Except Fault Bytes :=
  match seed with
  | .text s =>
    match Hex.read ((Hex.markedDigits? s.toList).getD s.toList) with
    | .ok bs => .ok bs
    | .error _ => do throw (.seedNotHex (← name.shown))
  | .torn _ => do throw (.seedNotHex (← name.shown))
  | _ => seed.toBytes

def ofSeed (seed name format : Value) : Except Fault Account := do
  let bs ← seedBytes seed name
  if bs.length = Secret.size then ofPublicKey (Secret.ofSeed bs).publicKey format
  else throw (.seedLength (← name.shown) bs.length)

def phraseWords (mnemonic : Value) : Except Fault (List (List Char)) :=
  if !mnemonic.isTruthy then .ok []
  else match mnemonic with
    | .text s => .ok (Text.words Text.blank s.toList)
    | .torn t =>
      let words := Text.words (Text.blank ·.toChar) t.points
      .error (.unwritable (.halves ([.char ' '].intercalate words)))
    | .bytes bs | .buffer bs =>
      if (Value.asciiChars bs).all Text.asciiSpace then .ok []
      else .error (mnemonic.misused .notText)
    | _ => .error (mnemonic.misused (.noAttribute "strip"))

def ofMnemonic (mnemonic name format : Value) : Except Fault Account := do
  let words ← phraseWords mnemonic
  if words.isEmpty then throw (.emptyMnemonic (← name.shown))
  let entropy ← (Phrase.entropy (Phrase.ofWords words)).mapError .phrase
  ofPublicKey (Secret.ofEntropy entropy).publicKey format

/-- The account at the end of a path from the secret of a phrase. The phrase must make an account
too. -/
def ofPath (entropy : Except Phrase.Fault Bytes) (junctions : Except Fault (List Junction))
    (format : Value) : Except Fault Account := do
  let root := Secret.ofEntropy (← entropy.mapError .phrase)
  let _ ← formatNumber format
  let leaf ← (← junctions).foldlM Junction.apply root
  ofPublicKey leaf.publicKey format

def ofParsedUri (u : SecretUri) (format : Value) : Except Fault Account := do
  if !u.password.isEmpty then throw .passwordUnsupported
  ofPath u.entropy u.junctions format

def ofTornUri (u : SecretUri) (t : Text.Torn) (format : Value) : Except Fault Account :=
  if !u.password.isEmpty then .error .passwordUnsupported
  else if (u.phraseIn t).any Text.Point.isHalf then .error (.unwritable (.halves (u.phraseIn t)))
  else ofPath u.entropy (u.junctionsIn t) format

def ofGivenUri (suri format : Value) : Except Fault Account :=
  match suri with
  | .text s =>
    match SecretUri.parse? s.toList with
    | none => .error .noSecretUri
    | some u => ofParsedUri u format
  | .torn t =>
    match SecretUri.parse? t.chars with
    | none => .error .noSecretUri
    | some u => ofTornUri u t format
  | .bytes _ | .buffer _ => .error .bytesStartWithText
  | _ => .error (suri.misused (.noAttribute "startswith"))

def ofUri (suri name format : Value) : Except Fault Account := do
  if !suri.isTruthy then throw (.emptySecretUri (← name.shown))
  ofGivenUri suri format

end Account

end ProgramDeploy
