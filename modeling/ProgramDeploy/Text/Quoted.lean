import ProgramDeploy.Hex
import ProgramDeploy.Text.Printable

namespace ProgramDeploy.Text

def hexDigits (width n : Nat) : List Char :=
  (List.range width).map fun i => Hex.digit (n / Nat.pow 16 (width - 1 - i) % 16)

def codeEscape (n : Nat) : List Char :=
  if n < 0x100 then '\\' :: 'x' :: hexDigits 2 n
  else if n < 0x10000 then '\\' :: 'u' :: hexDigits 4 n
  else '\\' :: 'U' :: hexDigits 8 n

def quoteFor (cs : List Char) : Char :=
  if cs.contains '\'' && !cs.contains '"' then '"' else '\''

def escaped (guarded escapes : Class) (quote c : Char) : List Char :=
  if c == quote || c == '\\' || guarded c then ['\\', c]
  else if c == '\t' then ['\\', 't']
  else if c == '\n' then ['\\', 'n']
  else if c == '\r' then ['\\', 'r']
  else if escapes c then codeEscape c.toNat
  else [c]

def quotedBy (guarded escapes : Class) (cs : List Char) : List Char :=
  let quote := quoteFor cs
  quote :: cs.flatMap (escaped guarded escapes quote) ++ [quote]

def quoted (s : String) : String :=
  .ofList (quotedBy (fun _ => false) hidden s.toList)

def markedBytes (guarded : Class) (bs : Bytes) : List Char :=
  'b' :: quotedBy guarded (fun c => c < ' ' || '~' < c) (bs.map fun b => Char.ofNat b.toNat)

def quotedBytes (bs : Bytes) : String :=
  .ofList (markedBytes (fun _ => false) bs)

def quotedBuffer (bs : Bytes) : String :=
  "bytearray(" ++ .ofList (markedBytes (· == '\'') bs) ++ ")"

end ProgramDeploy.Text
