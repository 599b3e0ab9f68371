import ContractEmulator.Json.Basic
import ContractEmulator.Log.Event

/-!
# Databases

Beside the ledger, functions write to a database whose values can be replaced and deleted. A
value is addressed by a namespace, a table and a key.
-/

namespace ContractEmulator

/-- The address of a value. -/
structure DatabaseKey where
  space : String
  table : String
  key : String
  deriving DecidableEq, Repr

/-- What a function can do with a database. A write may come with announcements. -/
class Database (δ : Type) where
  get : δ → DatabaseKey → Option Json × δ
  put : δ → DatabaseKey → Json → δ × List Event
  /-- Removes a value and hands it out. -/
  delete : δ → DatabaseKey → Option Json × δ

end ContractEmulator
