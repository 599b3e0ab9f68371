import ContractEmulator.Database.Basic

/-!
# Databases that take notes

A database around another one that writes down each call before it passes it on.
-/

namespace ContractEmulator

/-- A call that a database received. -/
inductive DatabaseCall where
  | get (key : DatabaseKey)
  | put (key : DatabaseKey) (value : Json)
  | delete (key : DatabaseKey)

/-- A database and the calls it received, latest first. -/
structure RecordedDatabase (δ : Type) where
  store : δ
  notes : List DatabaseCall

namespace RecordedDatabase

variable {δ : Type}

/-- The calls in the order in which they came. -/
def calls (database : RecordedDatabase δ) : List DatabaseCall := database.notes.reverse

instance [Database δ] : Database (RecordedDatabase δ) where
  get database key :=
    let (value, store) := Database.get database.store key
    (value, ⟨store, .get key :: database.notes⟩)
  put database key value :=
    let (store, events) := Database.put database.store key value
    (⟨store, .put key value :: database.notes⟩, events)
  delete database key :=
    let (value, store) := Database.delete database.store key
    (value, ⟨store, .delete key :: database.notes⟩)

end RecordedDatabase

end ContractEmulator
