import ContractEmulator.Ledger.Basic
import ContractEmulator.OrderedMap

/-!
# Ledgers in memory

The ledger that keeps the history of each asset as a list.
-/

namespace ContractEmulator

/-- The history of each asset, oldest version first. -/
structure MemoryLedger where
  histories : OrderedMap String (List Json)

namespace MemoryLedger

/-- The ledger without assets. -/
def empty : MemoryLedger := ⟨.empty⟩

/-- The data of all versions of an asset, oldest first. -/
def history (ledger : MemoryLedger) (id : String) : List Json :=
  (ledger.histories.find? id).getD []

/-- The latest version of an asset. -/
def get (ledger : MemoryLedger) (id : String) : Option Asset :=
  let versions := ledger.history id
  match versions.getLast? with
  | some data => some ⟨id, UInt32.ofNat (versions.length - 1), data⟩
  | none => none

/-- Appends a version to the history of an asset. -/
def put (ledger : MemoryLedger) (id : String) (data : Json) : MemoryLedger :=
  ⟨ledger.histories.insert id (ledger.history id ++ [data])⟩

/-- The versions of a history with their ages, of which the first has the number `age`. -/
def versionsFrom (id : String) (age : Nat) : List Json → List Asset
  | [] => []
  | data :: rest => ⟨id, UInt32.ofNat age, data⟩ :: versionsFrom id (age + 1) rest

/-- The selected versions. -/
def scan (ledger : MemoryLedger) (filter : AssetFilter) : List Asset :=
  filter.arrange
    ((versionsFrom filter.id 0 (ledger.history filter.id)).filter fun asset =>
      filter.admits asset.age)

/-- The announcement of a write. -/
def putEvent (id : String) : Event := ⟨.debug, .ledger, "ledger put", [.text "asset_id" id]⟩

instance : Ledger MemoryLedger where
  get ledger id := (ledger.get id, ledger)
  put ledger id data := (ledger.put id data, [putEvent id])
  scan ledger filter := (ledger.scan filter, ledger)

end MemoryLedger

end ContractEmulator
