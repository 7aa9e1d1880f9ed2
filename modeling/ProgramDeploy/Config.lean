import ProgramDeploy.Action

/-!
Configurations. The sections of a file are laid over the defaults, secrets that stand in the file
are dropped, and variables that are set go over all. Sections and keys keep the order in which
they first came.
-/

namespace ProgramDeploy

abbrev Config := List (Key × Table)

namespace Config

def defaultPath : Value :=
  .text "config/deploy_config.json"

def default : Config :=
  [("node",
    [("provider_address", .text "wss://testnet.vara.network"), ("ss58_format", .int 137)]),
   ("program",
    [("wasm_path", .text "target/wasm32-unknown-unknown/debug/dex_factory.opt.wasm"),
     ("gas_limit", .int 1000000), ("value", .int 1000), ("keep_alive", .bool true),
     ("init_payload", .null), ("router_init", .null)]),
   ("account", [("name", .text "Anme")]),
   ("submission", [("wait_for_inclusion", .bool true), ("wait_for_finalization", .bool false)])]

def sectionOf (c : Config) (name : Key) : Table :=
  ((c.find? fun s => s.1 = name).map (·.2)).getD []

def modify (c : Config) (name : Key) (f : Table → Table) : Config :=
  match c with
  | [] => [(name, f [])]
  | (n, t) :: rest => if n = name then (n, f t) :: rest else (n, t) :: modify rest name f

def toValue (c : Config) : Value :=
  .dict (c.map fun s => (s.1, .dict s.2))

def keyOf (v : Value) : Except Fault Key :=
  match v.toKey? with
  | some k => .ok k
  | none => .error (v.misused .unhashable)

def entryOf (index : Nat) (v : Value) : Except Fault (Key × Value) :=
  match v.items with
  | .error _ => .error (.notPair index)
  | .ok [k, w] => do return (← keyOf k, w)
  | .ok parts => .error (.pairLength index parts.length)

def entriesFrom (index : Nat) : List Value → Except Fault Table
  | [] => .ok []
  | v :: vs => do
    let entry ← entryOf index v
    return entry :: (← entriesFrom (index + 1) vs)

def entriesOf (v : Value) : Except Fault Table :=
  match v with
  | .dict t => .ok t
  | _ => do entriesFrom 0 (← v.items)

def overlay (c : Config) (name : Key) (v : Value) : Except Fault Config := do
  let entries ← entriesOf v
  return c.modify name fun t => t.merge entries

def overlayAll (c : Config) : Table → Except Fault Config
  | [] => .ok c
  | (name, v) :: rest => do overlayAll (← c.overlay name v) rest

def overlayDocument (c : Config) (document : Value) : Except Fault Config :=
  match document with
  | .dict t => c.overlayAll t
  | _ => .error (document.misused (.noAttribute "items"))

def unifyNewlines : List Char → List Char
  | '\r' :: '\n' :: cs => '\n' :: unifyNewlines cs
  | '\r' :: cs => '\n' :: unifyNewlines cs
  | c :: cs => c :: unifyNewlines cs
  | [] => []

def documentOf (outer : Nat) (content : Bytes) : Except Fault Value := do
  let cs ← (Text.Utf8.decode content).mapError .utf8
  (Json.read outer (unifyNewlines cs)).mapError .json

def secretKeys : List String :=
  ["mnemonic", "seed"]

def loadFile (outer : Nat) (path : Value) : Action Config := do
  let w ← Action.world
  if ← w.files.contains path then
    let c ← default.overlayDocument (← documentOf outer (← w.files.read path))
    Action.log .debug ("Loaded config from " ++ (← path.shown))
    return c
  else
    Action.log .warning ("Config file not found: " ++ (← path.shown) ++ ", using defaults")
    return default

def dropSecrets (path : Value) (c : Config) : List String → Action Config
  | [] => pure c
  | key :: keys => do
    let given := (Table.get? (c.sectionOf "account") key).getD .null
    if given.isTruthy then
      Action.log .warning
        ("Ignoring account " ++ key ++ " in " ++ (← path.shown) ++ ", set it in .env")
    dropSecrets path (c.modify "account" fun t => t.erase key) keys

def overrideValue (v : Variable) (raw : String) : Except Fault Value :=
  if v.isNumber then
    match Numeral.read raw.toList with
    | .ok n => .ok (.int n)
    | .error _ => .error (.badOverride v.name raw)
  else .ok (.text raw)

def override (env : Environment) (c : Config) (v : Variable) : Except Fault Config :=
  match env.get? v with
  | none => .ok c
  | some raw => do
    let value ← overrideValue v raw
    return c.modify v.target.1 fun t => t.set v.target.2 value

def overrideAll (env : Environment) (c : Config) : Except Fault Config :=
  Variable.all.foldlM (override env) c

/-- The configuration under a path, loaded within work of so many levels. They only count against
how deeply its file may nest. -/
def load (outer : Nat) (path : Value) : Action Config := do
  let c ← loadFile outer path
  let c ← dropSecrets path c secretKeys
  let w ← Action.world
  overrideAll w.environment c

end Config

end ProgramDeploy
