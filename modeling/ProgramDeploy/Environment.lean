namespace ProgramDeploy

inductive Variable where
  | providerAddress
  | wasmPath
  | gasLimit
  | value
  | deployerName
  | deployerMnemonic
  | deployerSeed
  deriving DecidableEq

namespace Variable

def all : List Variable :=
  [providerAddress, wasmPath, gasLimit, value, deployerName, deployerMnemonic, deployerSeed]

def name : Variable → String
  | providerAddress => "VARA_PROVIDER_ADDRESS"
  | wasmPath => "PROGRAM_WASM_PATH"
  | gasLimit => "PROGRAM_GAS_LIMIT"
  | value => "PROGRAM_VALUE"
  | deployerName => "DEPLOYER_NAME"
  | deployerMnemonic => "DEPLOYER_MNEMONIC"
  | deployerSeed => "DEPLOYER_SEED"

def target : Variable → String × String
  | providerAddress => ("node", "provider_address")
  | wasmPath => ("program", "wasm_path")
  | gasLimit => ("program", "gas_limit")
  | value => ("program", "value")
  | deployerName => ("account", "name")
  | deployerMnemonic => ("account", "mnemonic")
  | deployerSeed => ("account", "seed")

def isNumber : Variable → Bool
  | gasLimit | value => true
  | _ => false

theorem mem_all (v : Variable) : v ∈ all := by
  cases v <;> decide

end Variable

abbrev Environment := Variable → Option String

namespace Environment

def empty : Environment := fun _ => none

def get? (env : Environment) (v : Variable) : Option String :=
  (env v).filter fun raw => !raw.isEmpty

end Environment

end ProgramDeploy
