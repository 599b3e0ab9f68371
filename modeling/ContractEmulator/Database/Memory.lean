import ContractEmulator.Database.Basic
import ContractEmulator.OrderedMap

/-!
# Databases in memory

The database that is a finite map.
-/

namespace ContractEmulator

/-- The value at each address. -/
structure MemoryDatabase where
  records : OrderedMap DatabaseKey Json

namespace MemoryDatabase

/-- The database without values. -/
def empty : MemoryDatabase := ⟨.empty⟩

def get (database : MemoryDatabase) (key : DatabaseKey) : Option Json :=
  database.records.find? key

def put (database : MemoryDatabase) (key : DatabaseKey) (value : Json) : MemoryDatabase :=
  ⟨database.records.insert key value⟩

def delete (database : MemoryDatabase) (key : DatabaseKey) : MemoryDatabase :=
  ⟨database.records.erase key⟩

/-- The number of values. -/
def size (database : MemoryDatabase) : Nat := database.records.size

/-- Whether there are no values. -/
def isEmpty (database : MemoryDatabase) : Bool := database.records.isEmpty

/-- The announcement of a write. -/
def putEvent (key : DatabaseKey) : Event :=
  ⟨.debug, .database, "database put",
    [.plain "namespace" key.space, .plain "table" key.table, .plain "key" key.key]⟩

instance : Database MemoryDatabase where
  get database key := (database.get key, database)
  put database key value := (database.put key value, [putEvent key])
  delete database key := (database.get key, database.delete key)

end MemoryDatabase

end ContractEmulator
