import ProgramDeploy.Account
import ProgramDeploy.Program

namespace ProgramDeploy

inductive Level where
  | debug
  | info
  | success
  | warning
  | error
  deriving DecidableEq

def Level.name : Level → String
  | debug => "DEBUG"
  | info => "INFO"
  | success => "SUCCESS"
  | warning => "WARNING"
  | error => "ERROR"

inductive ReceiptField where
  | isSuccess
  | errorMessage
  | triggeredEvents
  deriving DecidableEq

def ReceiptField.name : ReceiptField → String
  | isSuccess => "is_success"
  | errorMessage => "error_message"
  | triggeredEvents => "triggered_events"

inductive Event where
  | log (level : Level) (message : String)
  | connect (url format : Value)
  | request (method : String)
  | query (address : Value)
  | compose (call : UploadCall)
  | sign (signer : Account)
  | submit (waitForInclusion waitForFinalization : Value)
  | read (field : ReceiptField)
  | close

def Event.isCall : Event → Bool
  | log .. => false
  | _ => true

end ProgramDeploy
