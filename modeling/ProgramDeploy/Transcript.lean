import ProgramDeploy.Hash.Keccak
import ProgramDeploy.Text.Utf8

/-!
Transcripts: messages are absorbed under labels, and challenges that depend on all of them are
squeezed out. A transcript is a duplex over the Keccak permutation whose operations are framed by
their flags and by where the operation before them began.
-/

namespace ProgramDeploy

structure Duplex where
  bytes : Bytes
  position : Nat
  start : Nat

namespace Duplex

/-- The number of bytes taken in or given out between two permutations. -/
def rate : Nat := 166

inductive Operation where
  | describe
  | absorb
  | squeeze

def Operation.flags : Operation → UInt8
  | describe => 0x12
  | absorb => 0x02
  | squeeze => 0x07

def addAt (bs : Bytes) (i : Nat) (mask : UInt8) : Bytes :=
  bs.modify i (· ^^^ mask)

def permute (d : Duplex) : Duplex :=
  let bs := addAt d.bytes d.position (UInt8.ofNat d.start)
  let bs := addAt bs (d.position + 1) 0x04
  let bs := addAt bs (rate + 1) 0x80
  ⟨Hash.Keccak.permuteBytes bs, 0, 0⟩

def advance (d : Duplex) : Duplex :=
  if d.position + 1 = rate then permute { d with position := rate }
  else { d with position := d.position + 1 }

def absorbByte (d : Duplex) (b : UInt8) : Duplex :=
  advance { d with bytes := addAt d.bytes d.position b }

def absorb (d : Duplex) (bs : Bytes) : Duplex :=
  bs.foldl absorbByte d

def squeeze (d : Duplex) : Nat → Bytes × Duplex
  | 0 => ([], d)
  | n + 1 =>
    let b := d.bytes.getD d.position 0
    let (bs, d) := squeeze (advance { d with bytes := d.bytes.set d.position 0 }) n
    (b :: bs, d)

def begin (d : Duplex) (op : Operation) : Duplex :=
  let frame := [UInt8.ofNat d.start, op.flags]
  let d := absorb { d with start := d.position + 1 } frame
  match op with
  | .squeeze => if d.position = 0 then d else permute d
  | _ => d

def ofProtocol (label : String) : Duplex :=
  let header : Bytes := [1, UInt8.ofNat (rate + 2), 1, 0, 1, 96]
  let bs := Bytes.padRight 200 (header ++ Text.Utf8.encode "STROBEv1.0.2")
  let d : Duplex := ⟨Hash.Keccak.permuteBytes bs, 0, 0⟩
  (d.begin .describe).absorb (Text.Utf8.encode label)

end Duplex

structure Transcript where
  duplex : Duplex

namespace Transcript

def label (t : Transcript) (name : String) (length : Nat) : Duplex :=
  let d := (t.duplex.begin .describe).absorb (Text.Utf8.encode name)
  d.absorb (Bytes.ofNatLE 4 length)

def append (t : Transcript) (name : String) (message : Bytes) : Transcript :=
  ⟨((t.label name message.length).begin .absorb).absorb message⟩

def challenge (t : Transcript) (name : String) (length : Nat) : Bytes :=
  (((t.label name length).begin .squeeze).squeeze length).1

def ofName (name : String) : Transcript :=
  append ⟨Duplex.ofProtocol "Merlin v1.0"⟩ "dom-sep" (Text.Utf8.encode name)

end Transcript

end ProgramDeploy
