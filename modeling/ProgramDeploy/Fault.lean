import ProgramDeploy.Account.Phrase
import ProgramDeploy.Address
import ProgramDeploy.Json
import ProgramDeploy.Value.Display

/-!
What can go wrong. A fault is a cause; its kind is what a handler can tell apart, and its text is
what a message shows. The texts of values that a fault carries are made when it arises, so that only
a fault that a node raises may turn out to have no text.
-/

namespace ProgramDeploy

inductive SystemKind where
  | general
  | blocked
  | brokenPipe
  | childProcess
  | connection
  | connectionAborted
  | connectionRefused
  | connectionReset
  | directory
  | fileExists
  | interruptedCall
  | missingFile
  | notDirectory
  | permission
  | processLookup
  | timeout
  deriving DecidableEq

def SystemKind.ofNumber : Int → SystemKind
  | 1 | 13 => .permission
  | 2 => .missingFile
  | 3 => .processLookup
  | 4 => .interruptedCall
  | 10 => .childProcess
  | 11 | 114 | 115 => .blocked
  | 17 => .fileExists
  | 20 => .notDirectory
  | 21 => .directory
  | 32 | 108 => .brokenPipe
  | 103 => .connectionAborted
  | 104 => .connectionReset
  | 110 => .timeout
  | 111 => .connectionRefused
  | _ => .general

inductive Kind where
  | value
  | encoding
  | decoding
  | document
  | type
  | key
  | index
  | attribute
  | overflow
  | memory
  | runtime
  | nesting
  | unsupported
  | request
  | system (kind : SystemKind)
  | interrupt
  deriving DecidableEq

def Kind.isValue : Kind → Bool
  | value | encoding | decoding | document => true
  | _ => false

inductive Misuse where
  | notInteger
  | notBytes
  | noLength
  | notConcatenable
  | notSubscriptable
  | noAttribute (name : String)
  | notContainer
  | notIterable
  | notNumeric
  | unhashable
  | noAssignment
  | noDeletion
  | noIndexDeletion
  | notPath
  | notFilePath
  | listIndex
  | textIndex
  | bytesIndex
  | bufferIndex
  | notText
  deriving DecidableEq

def Misuse.message (type : String) : Misuse → String
  | notInteger => s!"'{type}' object cannot be interpreted as an integer"
  | notBytes => s!"cannot convert '{type}' object to bytes"
  | noLength => s!"object of type '{type}' has no len()"
  | notConcatenable => s!"can't concat {type} to bytes"
  | notSubscriptable => s!"'{type}' object is not subscriptable"
  | noAttribute name => s!"'{type}' object has no attribute '{name}'"
  | notContainer => s!"argument of type '{type}' is not iterable"
  | notIterable => s!"'{type}' object is not iterable"
  | notNumeric =>
    "int() argument must be a string, a bytes-like object or a real number, not '" ++ type ++ "'"
  | unhashable => s!"unhashable type: '{type}'"
  | noAssignment => s!"'{type}' object does not support item assignment"
  | noDeletion => s!"'{type}' object does not support item deletion"
  | noIndexDeletion => s!"'{type}' object doesn't support item deletion"
  | notPath => s!"stat: path should be string, bytes, os.PathLike or integer, not {type}"
  | notFilePath => s!"expected str, bytes or os.PathLike object, not {type}"
  | listIndex => s!"list indices must be integers or slices, not {type}"
  | textIndex => s!"string indices must be integers, not '{type}'"
  | bytesIndex => s!"byte indices must be integers or slices, not {type}"
  | bufferIndex => s!"bytearray indices must be integers or slices, not {type}"
  | notText => s!"sequence item 0: expected str instance, {type} found"

inductive PathProblem where
  | missing
  | present
  | notDirectory
  | isDirectory
  | nameTooLong
  deriving DecidableEq

def PathProblem.report : PathProblem → Int × String
  | missing => (2, "No such file or directory")
  | present => (17, "File exists")
  | notDirectory => (20, "Not a directory")
  | isDirectory => (21, "Is a directory")
  | nameTooLong => (36, "File name too long")

inductive Fault where
  | misuse (type : String) (misuse : Misuse)
  | missingKey (literal : String)
  | indexOutOfRange (subject : String)
  | negativeCount
  | countTooLarge
  | countUnallocatable
  | beyondWord (kind : Kind)
  | byteOutOfRange
  | bufferByteOutOfRange
  | textWithoutEncoding
  | textHashed
  | notHashable
  | textInBytes
  | bytesStartWithText
  | nanToInteger
  | infinityToInteger
  | incomparable (relation left right : String)
  | uncombinable (operation left right : String)
  | pairLength (index length : Nat)
  | notPair (index : Nat)
  | malformedInteger (literal : String)
  | numeral (fault : Numeral.Fault)
  | hex (fault : Hex.Fault)
  | utf8 (fault : Text.Utf8.Fault)
  | unwritable (halves : Text.Unwritten)
  | json (fault : Json.Fault)
  | address (fault : Address.Fault)
  | phrase (fault : Phrase.Fault)
  | noSecretUri
  | passwordUnsupported
  | junctionLength (length : Nat)
  | emptyMnemonic (name : String)
  | emptySecretUri (name : String)
  | seedNotHex (name : String)
  | seedLength (name : String) (length : Nat)
  | noSecret
  | emptyActorId
  | actorIdNotHex (source : String)
  | badAddress (source : String) (fault : Address.Fault)
  | actorIdLength (length : Nat)
  | incompleteRouterInit
  | payloadNotHex (text : String)
  | unsupportedPayload (type : String)
  | emptyCode
  | badGasLimit (shown : String)
  | badValue (shown : String)
  | artifactMissing (path : String)
  | artifactEmpty (path : String)
  | badPath (problem : PathProblem) (literal : String)
  | nullInPath
  | descriptorTooLarge
  | descriptorTooSmall
  | badOverride (name raw : String)
  /-- A node raised a failure of this kind with these arguments; a failure of the system may name
  files, which do not count among them. -/
  | raised (kind : Kind) (arguments files : List Value)

namespace Fault

def ofAddressKind : Address.Fault → Kind
  | .tooShort => .index
  | .notAscii .. => .encoding
  | _ => .value

def kind : Fault → Kind
  | misuse _ (.noAttribute _) => .attribute
  | misuse .. => .type
  | missingKey _ => .key
  | indexOutOfRange _ => .index
  | countTooLarge | infinityToInteger | descriptorTooLarge | descriptorTooSmall => .overflow
  | beyondWord k => k
  | countUnallocatable => .memory
  | textWithoutEncoding | textHashed | notHashable | textInBytes | bytesStartWithText => .type
  | incomparable .. | uncombinable .. | notPair _ => .type
  | utf8 _ => .decoding
  | unwritable _ => .encoding
  | json (.malformed ..) => .document
  | json (.tooDeep _) => .nesting
  | address f => ofAddressKind f
  | noSecretUri => .attribute
  | passwordUnsupported => .unsupported
  | artifactMissing _ => .system .missingFile
  | badPath problem _ => .system (.ofNumber problem.report.1)
  | raised k .. => k
  | _ => .value

def cause? : Fault → Option Kind
  | seedNotHex _ | actorIdNotHex _ | payloadNotHex _ | badOverride .. => some .value
  | badAddress _ f => some (ofAddressKind f)
  | _ => none

def isInterrupt (f : Fault) : Bool :=
  f.kind = .interrupt

def limitExceeded : String :=
  s!"Exceeds the limit ({Numeral.limit} digits) for integer string conversion"

def limitAdvice : String :=
  "; use sys.set_int_max_str_digits() to increase the limit"

def numeralMessage : Numeral.Fault → String
  | .malformed => "invalid literal for int() with base 10"
  | .tooLong digits =>
    limitExceeded ++ s!": value has {digits} digits" ++ limitAdvice
  | .unwritable => limitExceeded ++ limitAdvice

def utf8Message (f : Text.Utf8.Fault) : String :=
  let reason := f.problem.message
  if f.count = 1 then
    "'utf-8' codec can't decode byte 0x" ++ .ofList (Text.hexDigits 2 f.lead.toNat)
      ++ s!" in position {f.position}: " ++ reason
  else
    s!"'utf-8' codec can't decode bytes in position {f.position}-{f.position + f.count - 1}: "
      ++ reason

def jsonMessage : Json.Fault → String
  | .malformed problem position line column =>
    problem.message ++ s!": line {line} column {column} (char {position})"
  | .numeral f => numeralMessage f
  | .tooDeep container =>
    "maximum recursion depth exceeded while decoding a JSON " ++ container.name
      ++ " from a unicode string"

def systemText (number reason : Value) (files : List Value) : Except Numeral.Fault String := do
  let front := "[Errno " ++ (← number.display) ++ "] " ++ (← reason.display)
  match files with
  | [] => return front
  | [file] => return front ++ ": " ++ (← file.literal)
  | file :: other :: _ => return front ++ ": " ++ (← file.literal) ++ " -> " ++ (← other.literal)

def argumentText (arguments : List Value) : Except Numeral.Fault String :=
  match arguments with
  | [] => .ok ""
  | [v] => v.display
  | vs => do return "(" ++ ", ".intercalate (← Value.itemLiterals vs) ++ ")"

def isReport (count : Nat) : Bool :=
  2 ≤ count && count ≤ 5

def raisedText (kind : Kind) (arguments files : List Value) : Except Numeral.Fault String :=
  match kind, arguments with
  | .key, [v] => v.literal
  | .system _, number :: reason :: _ =>
    if isReport arguments.length then systemText number reason files else argumentText arguments
  | _, _ => argumentText arguments

def text? : Fault → Except Numeral.Fault String
  | misuse type m => .ok (m.message type)
  | missingKey literal => .ok literal
  | indexOutOfRange subject => .ok (subject ++ " out of range")
  | negativeCount => .ok "negative count"
  | countTooLarge => .ok "byte string is too large"
  | countUnallocatable => .ok ""
  | beyondWord _ => .ok "cannot fit 'int' into an index-sized integer"
  | byteOutOfRange => .ok "bytes must be in range(0, 256)"
  | bufferByteOutOfRange => .ok "byte must be in range(0, 256)"
  | textWithoutEncoding => .ok "string argument without an encoding"
  | textHashed => .ok "Strings must be encoded before hashing"
  | notHashable => .ok "object supporting the buffer API required"
  | textInBytes => .ok "a bytes-like object is required, not 'str'"
  | bytesStartWithText => .ok "startswith first arg must be bytes or a tuple of bytes, not str"
  | nanToInteger => .ok "cannot convert float NaN to integer"
  | infinityToInteger => .ok "cannot convert float infinity to integer"
  | incomparable relation left right =>
    .ok s!"'{relation}' not supported between instances of '{left}' and '{right}'"
  | uncombinable operation left right =>
    .ok s!"unsupported operand type(s) for {operation}: '{left}' and '{right}'"
  | pairLength index length =>
    .ok s!"dictionary update sequence element #{index} has length {length}; 2 is required"
  | notPair index =>
    .ok s!"cannot convert dictionary update sequence element #{index} to a sequence"
  | malformedInteger literal => .ok (numeralMessage .malformed ++ ": " ++ literal)
  | numeral f => .ok (numeralMessage f)
  | hex f => .ok s!"non-hexadecimal number found in fromhex() arg at position {f.position}"
  | utf8 f => .ok (utf8Message f)
  | unwritable halves => .ok (halves.message "utf-8" "surrogates not allowed")
  | json f => .ok (jsonMessage f)
  | address f => .ok f.message
  | phrase f => .ok ("Invalid mnemonic: " ++ f.message)
  | noSecretUri => .ok "'NoneType' object has no attribute 'groupdict'"
  | passwordUnsupported => .ok "Passwords in suri not supported for crypto_type '1'"
  | junctionLength length => .ok s!"Expected bytes of length 32, got {length}"
  | emptyMnemonic name => .ok ("Mnemonic for " ++ name ++ " is empty")
  | emptySecretUri name => .ok ("Secret URI for " ++ name ++ " is empty")
  | seedNotHex name => .ok ("Seed for " ++ name ++ " is not valid hex")
  | seedLength name length => .ok ("Seed for " ++ name ++ s!" must be 32 bytes, got {length}")
  | noSecret => .ok "DEPLOYER_MNEMONIC or DEPLOYER_SEED must be set in .env"
  | emptyActorId => .ok "Empty actor id"
  | actorIdNotHex source => .ok ("Invalid actor id: " ++ source)
  | badAddress source f => .ok ("Invalid SS58 address " ++ source ++ ": " ++ f.message)
  | actorIdLength length => .ok s!"Actor id must be 32 bytes, got {length}"
  | incompleteRouterInit => .ok "router_init needs both factory and wvara"
  | payloadNotHex text => .ok ("Invalid hex payload: " ++ text)
  | unsupportedPayload type => .ok ("Unsupported payload type: " ++ type)
  | emptyCode => .ok "Program code is empty"
  | badGasLimit shown => .ok ("Invalid gas limit: " ++ shown)
  | badValue shown => .ok ("Invalid value: " ++ shown)
  | artifactMissing path => .ok ("Program artifact not found: " ++ path)
  | artifactEmpty path => .ok ("Program artifact is empty: " ++ path)
  | badPath problem literal =>
    .ok (s!"[Errno {problem.report.1}] {problem.report.2}: " ++ literal)
  | nullInPath => .ok "embedded null byte"
  | descriptorTooLarge => .ok "fd is greater than maximum"
  | descriptorTooSmall => .ok "fd is less than minimum"
  | badOverride name raw => .ok ("Invalid value for " ++ name ++ ": " ++ raw)
  | raised kind arguments files => raisedText kind arguments files

def text (f : Fault) : Except Fault String :=
  f.text?.mapError numeral

end Fault

def Value.shown (v : Value) : Except Fault String :=
  v.display.mapError Fault.numeral

end ProgramDeploy
