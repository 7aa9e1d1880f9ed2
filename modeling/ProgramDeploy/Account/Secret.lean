import ProgramDeploy.Curve.Point
import ProgramDeploy.Hash.Stretch
import ProgramDeploy.Transcript

namespace ProgramDeploy

structure Secret where
  scalar : Nat
  deriving DecidableEq

namespace Secret

def size : Nat := 32

def ofSeed (seed : Bytes) : Secret :=
  let n := Bytes.toNatLE ((Hash.Sha512.digest seed).take size)
  ⟨(n % Nat.pow 2 254 + Nat.pow 2 254) / 8⟩

def ofEntropy (entropy : Bytes) : Secret :=
  ofSeed ((Hash.stretch entropy (Text.Utf8.encode "mnemonic") 2048).take size)

def publicKey (s : Secret) : Bytes :=
  (Curve.Point.multiple s.scalar .base).encode

def transcript (code : Bytes) : Transcript :=
  ((Transcript.ofName "SchnorrRistrettoHDKD").append "sign-bytes" []).append "chain-code" code

def deriveHard (s : Secret) (code : Bytes) : Secret :=
  let t := (transcript code).append "secret-key" (Bytes.ofNatLE size s.scalar)
  ofSeed (t.challenge "HDKD-hard" size)

def deriveSoft (s : Secret) (code : Bytes) : Secret :=
  let t := (transcript code).append "public-key" s.publicKey
  ⟨(s.scalar + Bytes.toNatLE (t.challenge "HDKD-scalar" 64)) % Curve.groupOrder⟩

theorem length_publicKey (s : Secret) : s.publicKey.length = size :=
  Curve.Point.length_encode _

end Secret

end ProgramDeploy
