import ProgramDeploy.Account.Junction

namespace ProgramDeploy

structure SecretUri where
  phrase : List Char
  steps : List (Bool × List Char)
  password : List Char
  deriving DecidableEq

namespace SecretUri

def developmentPhrase : List Char :=
  "bottom drive obey lake curtain smoke basket hold race lonely fit walk".toList

def untilSlash (cs : List Char) : List Char :=
  cs.takeWhile (· != '/')

def step? : List Char → Option ((Bool × List Char) × List Char)
  | '/' :: '/' :: cs =>
    let name := untilSlash cs
    if name.isEmpty then none else some ((true, name), cs.drop name.length)
  | '/' :: cs =>
    let name := untilSlash cs
    if name.isEmpty then none else some ((false, name), cs.drop name.length)
  | _ => none

theorem length_lt_of_step? {cs rest : List Char} {s : Bool × List Char}
    (h : step? cs = some (s, rest)) : rest.length < cs.length := by
  unfold step? at h
  split at h
  case h_3 => contradiction
  all_goals
    dsimp only at h
    split at h
    · contradiction
    · simp only [Option.some.injEq, Prod.mk.injEq] at h
      rw [← h.2]
      simp only [List.length_drop, List.length_cons]
      omega

def spanSteps (cs : List Char) : List (Bool × List Char) × List Char :=
  match _h : step? cs with
  | none => ([], cs)
  | some (s, rest) =>
    let (ss, rest') := spanSteps rest
    (s :: ss, rest')
  termination_by cs.length
  decreasing_by exact length_lt_of_step? ‹_›

def password? : List Char → Option (List Char)
  | [] => some []
  | '/' :: '/' :: '/' :: cs =>
    match cs.dropWhile (· != '\n') with
    | [] | ['\n'] => some (cs.takeWhile (· != '\n'))
    | _ => none
  | _ => none

/-- The parts of a URI with a phrase. The phrase has two characters at least, and does not start
with a newline. -/
def parseFull? (cs : List Char) : Option SecretUri :=
  match cs with
  | [] | '\n' :: _ => none
  | c :: cs =>
    let body := untilSlash cs
    if body.isEmpty then none
    else
      let (steps, rest) := spanSteps (cs.drop body.length)
      (password? rest).map fun password => ⟨c :: body, steps, password⟩

def parse? (cs : List Char) : Option SecretUri :=
  match cs with
  | '/' :: _ => parseFull? (developmentPhrase ++ cs)
  | _ => parseFull? cs

def entropy (u : SecretUri) : Except Phrase.Fault Bytes :=
  Phrase.entropy u.phrase

def junctions (u : SecretUri) : Except Fault (List Junction) :=
  u.steps.mapM fun (hard, name) => do return ⟨hard, ← Junction.codeOfName name⟩

def phraseLength (u : SecretUri) (cs : List Char) : Nat :=
  if cs.head? = some '/' then 0 else u.phrase.length

def namesIn : List (Bool × List Char) → List Text.Point → List (Bool × List Text.Point)
  | [], _ => []
  | (hard, name) :: steps, ps =>
    let ps := ps.drop (if hard then 2 else 1)
    (hard, ps.take name.length) :: namesIn steps (ps.drop name.length)

def phraseIn (u : SecretUri) (t : Text.Torn) : List Text.Point :=
  t.points.take (u.phraseLength t.chars)

def stepsIn (u : SecretUri) (t : Text.Torn) : List (Bool × List Text.Point) :=
  namesIn u.steps (t.points.drop (u.phraseLength t.chars))

def junctionsIn (u : SecretUri) (t : Text.Torn) : Except Fault (List Junction) :=
  (u.stepsIn t).mapM fun (hard, name) => do return ⟨hard, ← Junction.codeOfPoints name⟩

end SecretUri

end ProgramDeploy
