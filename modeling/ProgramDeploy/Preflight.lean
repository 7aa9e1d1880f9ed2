import ProgramDeploy.Artifact
import ProgramDeploy.Config
import ProgramDeploy.Client
import ProgramDeploy.Deployer

namespace ProgramDeploy.Preflight

def checkEnvironment : Action Bool := do
  Action.log .info "Checking environment variables..."
  let w ← Action.world
  if (w.environment.get? .deployerMnemonic).isNone && (w.environment.get? .deployerSeed).isNone then
    Action.log .error "DEPLOYER_MNEMONIC or DEPLOYER_SEED must be set"
    return false
  Action.log .success "✓ Deployer secret configured"
  return true

def shownProvider (config : Value) : Except Fault String := do
  (← (← config.field "node").field "provider_address").shown

def checkNode (config : Value) : Action Bool := do
  Action.log .info "Checking node connection..."
  let client ← Client.ofConfig config
  let answered ← ((fun _ => true) <$> client.reportNodeInfo).handling fun f => do
    let provider ← shownProvider config
    Action.log .error ("  ✗ " ++ provider ++ ": " ++ (← f.text))
    return false
  if answered then Action.log .success ("  ✓ Connected to " ++ (← shownProvider config))
  return answered

def isArtifactFault (f : Fault) : Bool :=
  f.kind = .system .missingFile || f.kind.isValue

def checkArtifact (config : Value) : Action Bool := do
  Action.log .info "Checking program artifact..."
  let path ← (← config.field "program").field "wasm_path"
  let loaded ← ((fun _ => true) <$> Artifact.load path).continueWith fun
    | .ok found => pure found
    | .error f =>
      if isArtifactFault f then do
        Deployer.logFault "  ✗ " f
        Action.log .info "  Build the program first: cargo build"
        return false
      else throw f
  if loaded then Action.log .success ("  ✓ " ++ (← path.shown))
  return loaded

def checkBalance (config : Value) : Action Bool := do
  Action.log .info "Checking deployer balance..."
  let account ← Wallet.deployer config
  let client ← Client.ofConfig config
  let balance ← client.freeBalance (.text account.address)
  Action.log .info ("  Free balance: " ++ (← (Value.int balance).shown))
  if ← (← (← config.field "program").field "value").atLeast balance then
    let value ← (← config.field "program").field "value"
    Action.log .warning
      ("  ⚠ Balance does not cover program value (" ++ (← value.shown) ++ ") and fees")
    return false
  Action.log .success "  ✓ Deployer balance sufficient"
  return true

def checks (config : Value) : List (String × Action Bool) :=
  [("Environment Variables", checkEnvironment), ("Node Connection", checkNode config),
   ("Program Artifact", checkArtifact config), ("Deployer Balance", checkBalance config)]

def runCheck (name : String) (check : Action Bool) : Action (String × Bool) := do
  Action.log .info ""
  let passed ← check.handling fun f => do
    Deployer.logFault ("Error in " ++ name ++ ": ") f
    return false
  return (name, passed)

def runChecks : List (String × Action Bool) → Action (List (String × Bool))
  | [] => pure []
  | (name, check) :: rest => do
    let result ← runCheck name check
    return result :: (← runChecks rest)

def rule : String :=
  .ofList (List.replicate 70 '=')

def heading (text : String) : Action Unit := do
  Action.log .info rule
  Action.log .info text
  Action.log .info rule

def summaryLine (result : String × Bool) : String :=
  "  " ++ (if result.2 then "✓ PASS" else "✗ FAIL") ++ ": " ++ result.1

def summarize (results : List (String × Bool)) : Action Unit := do
  Action.log .info ""
  heading "Summary"
  results.forM fun result => Action.log .info (summaryLine result)
  Action.log .info ""
  let passed := results.countP (·.2)
  Action.log .info s!"Total: {passed}/{results.length} checks passed"

def commandLevels : Nat := 6

def command : Action Nat := do
  heading "Vara Program Deployer Check"
  let config := (← Config.load commandLevels Config.defaultPath).toValue
  let results ← runChecks (checks config)
  summarize results
  if results.all (·.2) then
    Action.log .success "✅ Ready to deploy: python main.py"
    return 0
  else
    Action.log .error "❌ Not ready - fix issues above"
    return 1

end ProgramDeploy.Preflight
