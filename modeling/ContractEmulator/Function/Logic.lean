import ContractEmulator.Database.Basic
import ContractEmulator.Failure
import ContractEmulator.Program

/-!
# Function logic

Functions run after a contract. Their logic is a program that can use the database and a memory
of its own, and nothing else: it has no handle of an emulator.
-/

namespace ContractEmulator

/-- What function logic can ask. -/
inductive FunctionQuery where
  | get (key : DatabaseKey)
  | put (key : DatabaseKey) (value : Json)
  | delete (key : DatabaseKey)
  /-- The memory of the instance. -/
  | memory
  | remember (memory : Json)

/-- The type of answers to a question. -/
def FunctionQuery.Answer : FunctionQuery → Type
  | .get _ => Option Json
  | .put _ _ => Unit
  | .delete _ => Option Json
  | .memory => Json
  | .remember _ => Unit

/-- A program over these questions that may fail. -/
abbrev FunctionM := ExceptT Failure (Program FunctionQuery.Answer)

/-- What a function is given. -/
structure FunctionInput where
  /-- The argument of the contract. -/
  argument : Json
  /-- The argument of the functions. -/
  functionArgument : Option Json
  /-- The properties of the contract. -/
  properties : Option Json

/-- The logic of a function. -/
abbrev FunctionLogic := FunctionInput → FunctionM Unit

namespace FunctionM

/-- Asks a question. -/
def ask (q : FunctionQuery) : FunctionM q.Answer := ExceptT.lift (Program.query q)

/-- The value at an address. -/
def get (key : DatabaseKey) : FunctionM (Option Json) := ask (.get key)

/-- Writes a value. -/
def put (key : DatabaseKey) (value : Json) : FunctionM Unit := ask (.put key value)

/-- Removes a value. -/
def delete (key : DatabaseKey) : FunctionM (Option Json) := ask (.delete key)

end FunctionM

end ContractEmulator
