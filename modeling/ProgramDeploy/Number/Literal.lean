import ProgramDeploy.Number.Binary64
import ProgramDeploy.Number.Numeral

namespace ProgramDeploy

structure Literal where
  negative : Bool
  whole : List Char
  fraction : List Char
  exponent : Option Int

namespace Literal

def spanDigits (cs : List Char) : List Char × List Char :=
  (cs.takeWhile Char.isDigit, cs.dropWhile Char.isDigit)

def spanWhole? : List Char → Option (List Char × List Char)
  | '0' :: cs => some (['0'], cs)
  | cs =>
    match spanDigits cs with
    | ([], _) => none
    | parts => some parts

def spanFraction (cs : List Char) : List Char × List Char :=
  match cs with
  | '.' :: rest =>
    match spanDigits rest with
    | ([], _) => ([], cs)
    | parts => parts
  | _ => ([], cs)

def number (ds : List Char) : Nat :=
  Numeral.ofDigits (ds.filterMap Text.digit?)

def spanExponent (cs : List Char) : Option Int × List Char :=
  let unsigned (sign : Int) (rest : List Char) : Option Int × List Char :=
    match spanDigits rest with
    | ([], _) => (none, cs)
    | (ds, rest) => (some (sign * number ds), rest)
  match cs with
  | c :: rest =>
    if c == 'e' || c == 'E' then
      match rest with
      | '-' :: rest => unsigned (-1) rest
      | '+' :: rest => unsigned 1 rest
      | _ => unsigned 1 rest
    else (none, cs)
  | [] => (none, cs)

def readUnsigned? (negative : Bool) (cs : List Char) : Option (Literal × List Char) := do
  let (w, cs) ← spanWhole? cs
  let (f, cs) := spanFraction cs
  let (e, cs) := spanExponent cs
  return (⟨negative, w, f, e⟩, cs)

def read? : List Char → Option (Literal × List Char)
  | '-' :: cs => readUnsigned? true cs
  | cs => readUnsigned? false cs

def isWhole (l : Literal) : Bool :=
  l.fraction.isEmpty && l.exponent.isNone

def toInt (l : Literal) : Except Numeral.Fault Int :=
  if Numeral.limit < l.whole.length then .error (.tooLong l.whole.length)
  else .ok (if l.negative then -(number l.whole : Int) else number l.whole)

def toBinary64 (l : Literal) : Binary64 :=
  .ofDecimal l.negative (number (l.whole ++ l.fraction))
    (l.exponent.getD 0 - (l.fraction.length : Int))

end Literal

def Binary64.read? (s : String) : Option Binary64 :=
  match s with
  | "nan" => some nan
  | "inf" => some (infinity false)
  | "-inf" => some (infinity true)
  | _ =>
    match Literal.read? s.toList with
    | some (l, []) => some l.toBinary64
    | _ => none

end ProgramDeploy
