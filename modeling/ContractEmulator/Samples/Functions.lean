import ContractEmulator.Function.Builtin
import ContractEmulator.Samples.Contracts

/-!
# Sample functions

Functions that show what they are given, or fail.
-/

namespace ContractEmulator.SampleFunction

/-- Notes its input, and how often it noted one under the same key. -/
def recorder : FunctionLogic := fun input => do
  let name := ((input.functionArgument.bind (Json.get? "key")).bind Json.asStr?).getD "last"
  let key : DatabaseKey := ⟨"test", "recorder", name⟩
  let before := (((← FunctionM.get key).bind (Json.get? "runs")).bind Json.asNat?).getD 0
  FunctionM.put key (.ofEntries [("runs", .int (before + 1 : Nat)),
    ("contract_argument", input.argument),
    ("function_argument", SampleContract.optional input.functionArgument),
    ("properties", SampleContract.optional input.properties)])

/-- Fails. -/
def failing : FunctionLogic := fun _ => throw (.rejected "function failed")

/-- A sample or built-in function by name. -/
def named? (name : String) : Option FunctionLogic :=
  [("StateUpdater", BuiltinFunction.stateUpdater), ("Recorder", recorder),
   ("Failing", failing)].lookup name

/-- The symbols under which the samples are known. -/
def symbols : List (String × FunctionLogic) :=
  [("test.Recorder", recorder), ("test.Failing", failing)]

end ContractEmulator.SampleFunction
