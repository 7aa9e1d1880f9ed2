import ProgramDeploy.Text.Digit
import ProgramDeploy.Text.Space

namespace ProgramDeploy.Numeral

def limit : Nat := 4300

inductive Fault where
  | malformed
  | tooLong (digits : Nat)
  | unwritable
  deriving DecidableEq

def isGrouped : List Char → Bool
  | [] => false
  | c :: cs => (Text.digit? c).isSome && go cs
where
  go : List Char → Bool
    | [] => true
    | '_' :: d :: ds => (Text.digit? d).isSome && go ds
    | c :: cs => (Text.digit? c).isSome && go cs

def ofDigits (ds : List Nat) : Nat :=
  ds.foldl (fun n d => 10 * n + d) 0

def readDigits (cs : List Char) : Except Fault Nat :=
  let body := cs.takeWhile fun c => c == '_' || (Text.digit? c).isSome
  let digits := body.filterMap Text.digit?
  if !isGrouped body then .error .malformed
  else if digits.length > limit then .error (.tooLong digits.length)
  else if body.length < cs.length then .error .malformed
  else .ok (ofDigits digits)

def readSigned : List Char → Except Fault Int
  | '-' :: cs => (readDigits cs).map fun n => -(n : Int)
  | '+' :: cs => (readDigits cs).map fun n => (n : Int)
  | cs => (readDigits cs).map fun n => (n : Int)

def read (cs : List Char) : Except Fault Int :=
  readSigned (Text.trim Text.whiteSpace cs)

def write (n : Int) : Except Fault String :=
  if Nat.pow 10 limit ≤ n.natAbs then .error .unwritable else .ok (toString n)

end ProgramDeploy.Numeral
