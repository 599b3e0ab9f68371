import ContractEmulator.Contract.Logic
import ContractEmulator.Loader

/-!
# Built-in contracts

Reading, writing and listing assets. Each of them looks at its whole argument before it touches
the ledger.
-/

namespace ContractEmulator.BuiltinContract

/-- Returns the latest version of an asset, or an object that says there is none. -/
def get : ContractLogic := fun argument _ => do
  let id ← Argument.requiredText argument "asset_id"
  match ← ContractM.get id with
  | some asset => return some asset.toJson
  | none =>
    return some (.ofEntries [("result", .str "failure"),
      ("message", .str (id ++ " is not in the ledger"))])

/-- The asset and the data of a write. -/
def writeOf (argument : Json) : Except Failure (String × Json) :=
  match argument.get? "asset_id", argument.get? "data" with
  | some id, some data =>
    match id.asStr? with
    | some id => .ok (id, data)
    | none => .error (.badArgument "asset_id must be a string")
  | _, _ => .error (.badArgument "a required attribute is missing")

/-- Appends a version of an asset. The asset is read first, so it belongs to what the contract
has read. -/
def put : ContractLogic := fun argument _ => do
  let (id, data) ← writeOf argument
  let _ ← ContractM.get id
  ContractM.put id data
  return none

/-- The selection that an argument describes; latest versions come first unless it asks for
ascending order. -/
def filterOf (argument : Json) : Except Failure AssetFilter := do
  let id ← Argument.requiredText argument "asset_id"
  let start ← Argument.optionalCount argument "start"
  let stop ← Argument.optionalCount argument "end"
  let limit ← Argument.optionalCount argument "limit"
  let ascending ← Argument.optionalFlag argument "asc_order"
  let order := if ascending.getD false then .ascending else .descending
  return ⟨id, start, stop, limit.getD 0, order⟩

/-- Lists versions of an asset. -/
def scan : ContractLogic := fun argument _ => do
  let filter ← filterOf argument
  let assets ← ContractM.scan filter
  return some (.ofEntries [("data", .arr (assets.map Asset.toJson))])

def getSymbol : String := "emulator.contract.Get"
def putSymbol : String := "emulator.contract.Put"
def scanSymbol : String := "emulator.contract.Scan"

/-- The loader that knows the built-in contracts. -/
def loader : Loader ContractLogic :=
  .ofList [(getSymbol, get), (putSymbol, put), (scanSymbol, scan)]

/-- The ids under which a fresh emulator has the built-in contracts, with their symbols. -/
def registrations : List (String × String) :=
  [("get", getSymbol), ("put", putSymbol), ("scan", scanSymbol)]

end ContractEmulator.BuiltinContract
