import ProgramDeploy.Event

namespace ProgramDeploy

def Value.onLine (v : Value) : String :=
  match v.display with
  | .ok s => s
  | .error _ => "…"

def UploadCall.line (c : UploadCall) : String :=
  let keepAlive := match c.keepAlive with
    | some v => ", keep_alive " ++ v.onLine
    | none => ""
  "Gear.upload_program: code " ++ c.code ++ ", salt " ++ c.salt
    ++ ", init_payload " ++ c.initPayload ++ ", gas_limit " ++ c.gasLimit.onLine
    ++ ", value " ++ c.value.onLine ++ keepAlive

def Event.line : Event → String
  | log level message => level.name ++ " | " ++ message
  | connect url format => "connect " ++ url.onLine ++ " with format " ++ format.onLine
  | request method => "request " ++ method
  | query address => "query System.Account " ++ address.onLine
  | compose call => "compose " ++ call.line
  | sign signer => "sign by " ++ signer.address
  | submit inclusion finalization =>
    "submit, wait for inclusion " ++ inclusion.onLine
      ++ ", for finalization " ++ finalization.onLine
  | read field => "read " ++ field.name
  | close => "close"

end ProgramDeploy
