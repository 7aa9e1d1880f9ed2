import ProgramDeploy.Text.Quoted

/-!
Texts that are torn: halves of surrogate pairs stand in them alone. A half is a code point and no
character, so no codec writes it.
-/

namespace ProgramDeploy.Text

/-- What a text is made of. A half is given by its place among the halves. -/
inductive Point where
  | char (c : Char)
  | half (place : Fin 0x800)
  deriving DecidableEq

namespace Point

def code : Point → Nat
  | char c => c.toNat
  | half place => 0xd800 + place

def isHalf : Point → Bool
  | char _ => false
  | half _ => true

def ofCode (n : Nat) : Point :=
  if h : 0xd800 ≤ n ∧ n < 0xe000 then half ⟨n - 0xd800, by omega⟩ else char (Char.ofNat n)

def toChar : Point → Char
  | char c => c
  | half _ => '\ufffd'

def shown : Point → List Char
  | char c => [c]
  | p => codeEscape p.code

def escaped (quote : Char) : Point → List Char
  | char c => Text.escaped (fun _ => false) hidden quote c
  | p => codeEscape p.code

/-- The byte that a half stands for in the name of a file, where bytes that are no UTF-8 have
halves. -/
def bytesOfName? : Point → Option Bytes
  | char c => some (String.utf8EncodeChar c)
  | half place => if 0x480 ≤ place.val ∧ place.val < 0x500 then some [UInt8.ofNat (place - 0x400)] else none

end Point

structure Unwritten where
  code : Nat
  start : Nat
  count : Nat
  deriving DecidableEq

namespace Unwritten

def first (class? : Nat → Bool) (codes : List Nat) : Unwritten :=
  let row := (codes.dropWhile (!class? ·)).takeWhile class?
  ⟨row.headD 0, (codes.takeWhile (!class? ·)).length, row.length⟩

def halves (ps : List Point) : Unwritten :=
  first (fun n => 0xd800 ≤ n && n < 0xe000) (ps.map Point.code)

def shown (u : Unwritten) : String :=
  if u.count = 1 then " '" ++ .ofList (codeEscape u.code) ++ s!"' in position {u.start}"
  else s!"s in position {u.start}-{u.start + u.count - 1}"

def message (codec reason : String) (u : Unwritten) : String :=
  "'" ++ codec ++ "' codec can't encode character" ++ (u.shown ++ ": " ++ reason)

end Unwritten

structure Torn where
  points : List Point
  torn : points.any Point.isHalf = true
  deriving DecidableEq

namespace Torn

def chars (t : Torn) : List Char :=
  t.points.map Point.toChar

def shown (t : Torn) : String :=
  .ofList (t.points.flatMap Point.shown)

def quoted (t : Torn) : String :=
  let quote := quoteFor t.chars
  .ofList (quote :: t.points.flatMap (Point.escaped quote) ++ [quote])

def nameBytes? (t : Torn) : Option Bytes :=
  (t.points.mapM Point.bytesOfName?).map List.flatten

end Torn

end ProgramDeploy.Text
