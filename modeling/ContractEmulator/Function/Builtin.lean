import ContractEmulator.Contract.Logic
import ContractEmulator.Function.Logic
import ContractEmulator.Loader

/-!
# Built-in functions

`stateUpdater` notes a number for an asset.
-/

namespace ContractEmulator.BuiltinFunction

/-- Where the state of an asset is kept. -/
def stateKey (assetId : String) : DatabaseKey := ⟨"emulator", "state", assetId⟩

/-- The asset and the state that a function argument names. -/
def stateOf (argument : Json) : Except Failure (String × Int) := do
  let id ← Argument.requiredText argument "asset_id"
  match (argument.get? "state").bind Json.asInt64? with
  | some state => return (id, state)
  | none => throw (.badArgument "state must be an integer")

/-- Keeps the state of an asset. Without an argument, or for the asset with the empty id, there is
nothing to keep. -/
def stateUpdater : FunctionLogic := fun input => do
  match input.functionArgument with
  | none => return ()
  | some argument =>
    let (id, state) ← stateOf argument
    if id.isEmpty then return ()
    else FunctionM.put (stateKey id) (.ofEntries [("state", .int state)])

def stateUpdaterSymbol : String := "emulator.function.StateUpdater"

/-- The loader that knows the built-in functions. -/
def loader : Loader FunctionLogic := .ofList [(stateUpdaterSymbol, stateUpdater)]

end ContractEmulator.BuiltinFunction
