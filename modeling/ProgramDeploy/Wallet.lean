import ProgramDeploy.Action

namespace ProgramDeploy.Wallet

def report (made : Except Fault Account) (name : Value) : Action Account := do
  let a ← made
  Action.log .info ("Account " ++ (← name.shown) ++ ": " ++ a.address)
  return a

def fromSeed (seed name format : Value) : Action Account :=
  report (Account.ofSeed seed name format) name

def fromMnemonic (mnemonic name format : Value) : Action Account :=
  report (Account.ofMnemonic mnemonic name format) name

def fromUri (suri name format : Value) : Action Account :=
  report (Account.ofUri suri name format) name

def deployer (config : Value) : Action Account := do
  let account ← config.field "account"
  let format ← (← config.field "node").field "ss58_format"
  let name ← account.field "name"
  if (← account.fieldOrNull "mnemonic").isTruthy then
    fromMnemonic (← account.field "mnemonic") name format
  else if (← account.fieldOrNull "seed").isTruthy then
    fromSeed (← account.field "seed") name format
  else throw .noSecret

end ProgramDeploy.Wallet
