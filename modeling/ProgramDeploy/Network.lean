import ProgramDeploy.Value.Access

namespace ProgramDeploy

abbrev Answer := Except Fault Value

structure Receipt where
  extrinsicHash : Value
  blockHash : Value
  isSuccess : Answer
  errorMessage : Answer
  triggeredEvents : Answer

/-- The answers of one session. A call without an answer of its own meets no failure. -/
structure Script where
  connect : Option Fault
  requests : List (String × Answer)
  accountInfo : Answer
  compose : Option Fault
  sign : Option Fault
  submit : Option Fault
  close : Option Fault
  receipt : Receipt

abbrev Network := List Script

def Receipt.pending : Receipt :=
  ⟨.null, .null, .ok .null, .ok .null, .ok (.list [])⟩

namespace Script

def emptyAccountInfo : Value :=
  .dict [("data", .dict [("free", .int 0)])]

def plain : Script :=
  ⟨none, [], .ok emptyAccountInfo, none, none, none, none, .pending⟩

def echo (method : String) : Value :=
  .dict [("jsonrpc", .text "2.0"), ("result", .text method), ("id", .int 1)]

def request (s : Script) (method : String) : Answer :=
  ((s.requests.find? fun entry => entry.1 = method).map (·.2)).getD (.ok (echo method))

end Script

def Network.session (network : Network) (n : Nat) : Script :=
  match network[n]? with
  | some s => s
  | none => network.getLastD .plain

def filesBehind (file : Value) : List Value → List Value
  | [_, .null] => [file]
  | [_, other] => [file, other]
  | _ => [file]

/-- A failure that the system reports with a number and a reason. What stands behind them is a file,
but for a blocked call a number there is the count of what was written before. -/
def Fault.ofReport (kind : SystemKind) (number reason : Value) (more : List Value) : Fault :=
  let plain := raised (.system kind) (number :: reason :: more) []
  match more with
  | [] | .null :: _ => plain
  | file :: others =>
    match kind, file with
    | .blocked, .bool _ => plain
    | .blocked, .int n => if Value.fitsWord n then plain else beyondWord .value
    | .blocked, .float _ => file.misused .notInteger
    | _, _ => raised (.system kind) [number, reason] (filesBehind file others)

def Fault.ofRaised (kind : Kind) (arguments : List Value) : Fault :=
  match kind, arguments with
  | .system k, number :: reason :: more =>
    if isReport arguments.length then
      let precise := if k = .general then number.toInt?.elim k SystemKind.ofNumber else k
      ofReport precise number reason more
    else raised kind arguments []
  | _, _ => raised kind arguments []

/-- A fault as it comes out of a worker: a timeout is raised anew with its arguments, and the files
that it named are not among them. -/
def Fault.fromWorker : Fault → Fault
  | raised (.system .timeout) arguments _ => raised (.system .timeout) arguments []
  | f => f

end ProgramDeploy
