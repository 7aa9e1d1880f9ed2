import ProgramDeploy.Account.WordList
import ProgramDeploy.Hash.Sha2
import ProgramDeploy.Text.Compatibility
import ProgramDeploy.Text.Space

namespace ProgramDeploy.Phrase

inductive Fault where
  | unknownWord (index : Nat)
  | badWordCount (count : Nat)
  | badChecksum
  deriving DecidableEq

def wordCounts : List Nat :=
  [12, 15, 18, 21, 24]

def wordNumbers (index : Nat) : List (List Char) → Except Fault (List Nat)
  | [] => .ok []
  | w :: ws =>
    match wordList.findIdx? (· == String.ofList w) with
    | none => .error (.unknownWord index)
    | some n => (wordNumbers (index + 1) ws).map (n :: ·)

def checksum (bits : Nat) (entropy : Bytes) : Nat :=
  Bytes.toNatBE ((Hash.Sha256.digest entropy).take 1) >>> (8 - bits)

def entropyOfNumbers (numbers : List Nat) : Except Fault Bytes :=
  if numbers.length ∈ wordCounts then
    let bits := numbers.length / 3
    let n := numbers.foldl (fun n i => 2048 * n + i) 0
    let entropy := Bytes.ofNatBE (4 * bits) (n >>> bits)
    if checksum bits entropy = n % Nat.pow 2 bits then .ok entropy else .error .badChecksum
  else .error (.badWordCount numbers.length)

def ofWords (ws : List (List Char)) : List Char :=
  [' '].intercalate ws

/-- The words of a phrase. Runs of white space separate them, and so does each space that a
compatibility form stands for; a phrase without words has one empty word. -/
def words (phrase : List Char) : List (List Char) :=
  let spaced := ofWords (Text.words Text.whiteSpace phrase)
  Text.pieces (· == ' ') (Text.decomposed spaced)

def entropy (phrase : List Char) : Except Fault Bytes := do
  entropyOfNumbers (← wordNumbers 0 (words phrase))

def Fault.message : Fault → String
  | unknownWord index => s!"invalid word in phrase with index {index}"
  | badWordCount count => s!"invalid number of words in phrase: {count}"
  | badChecksum => "invalid checksum"

end ProgramDeploy.Phrase
