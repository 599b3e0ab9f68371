import ContractEmulator.Artifact
import ContractEmulator.Failure
import ContractEmulator.Identity
import ContractEmulator.Ledger.Made

/-!
# Contract logic

The logic of a contract is a program. It can use the ledger, look at its own call, call other
contracts, and keep a memory of its own from call to call. A contract that it calls works on the
ledger that it hands to it, `HandedLedger.lend`.

A logic may also have handles of emulators. With the handle that the host works with, which leads to
the emulator in focus, it can administer that emulator. And it can keep handles of its own emulator,
which keep this alive. It does not execute contracts through a handle, nor does it look up what is
registered.
-/

namespace ContractEmulator

/-- What a contract sees of its own call. The answer is fixed when the call starts. -/
structure CallContext where
  /-- The id under which the contract was called. -/
  contractId : String
  /-- The call is the outermost one of its chain. -/
  isRoot : Bool
  /-- The certificate of the caller. -/
  certificate : Identity
  deriving DecidableEq, Repr

/-- What a fetch leaves on an instance. -/
structure Stamp where
  isRoot : Bool
  certificate : Identity
  deriving DecidableEq, Repr

/-- What contract logic can ask. -/
inductive ContractQuery where
  | context
  | ledger (call : LedgerCall)
  /-- Calls another contract, which works on the ledger that it is handed. -/
  | call (id : String) (argument : Json) (handed : HandedLedger)
  /-- The memory of the instance. -/
  | memory
  | remember (memory : Json)
  /-- Replaces the certificate of the emulator in focus. -/
  | setCertificate (identity : Identity)
  /-- Fetches an instance from the emulator in focus. -/
  | fetch (id : String)
  /-- Registers a contract with the emulator in focus. -/
  | register (artifact : Artifact)
  /-- Registers a function with the emulator in focus. -/
  | registerFunction (entry : FunctionEntry)
  /-- Keeps one more handle of the emulator that has the contract, if there is one to clone. -/
  | keepHandle
  /-- Drops a handle of the emulator that has the contract, if a contract of it keeps one. -/
  | dropHandle

/-- The type of answers to a question. The answer to a call comes with the state of the ledger that
was handed. -/
def ContractQuery.Answer : ContractQuery → Type
  | .context => CallContext
  | .ledger c => c.Answer
  | .call _ _ _ => Except Failure (Option Json) × Json
  | .memory => Json
  | .remember _ => Unit
  | .setCertificate _ => Except Failure Unit
  | .fetch _ => Except Failure Stamp
  | .register _ => Except Failure Unit
  | .registerFunction _ => Except Failure Unit
  | .keepHandle => Bool
  | .dropHandle => Bool

/-- Asks a question. -/
def ContractQuery.query (q : ContractQuery) : Program ContractQuery.Answer q.Answer :=
  Program.query q

/-- A program over these questions that may fail. -/
abbrev ContractM := ExceptT Failure (Program ContractQuery.Answer)

/-- The logic of a contract: from an argument and properties to a program. -/
abbrev ContractLogic := Json → Option Json → ContractM (Option Json)

namespace ContractM

/-- Asks a question. -/
def ask (q : ContractQuery) : ContractM q.Answer := ExceptT.lift q.query

/-- What the contract sees of its call. -/
def context : ContractM CallContext := ask .context

/-- The latest version of an asset. -/
def get (id : String) : ContractM (Option Asset) := ask (.ledger (.get id))

/-- Appends a version of an asset. -/
def put (id : String) (data : Json) : ContractM Unit := ask (.ledger (.put id data))

/-- Lists versions of an asset. -/
def scan (filter : AssetFilter) : ContractM (List Asset) := ask (.ledger (.scan filter))

/-- Calls a contract on a ledger that was made, and hands out its failure as a value and what became
of that ledger. -/
def attemptOn (ledger : MadeLedger) (id : String) (argument : Json) :
    ContractM (Except Failure (Option Json) × Json) :=
  ask (.call id argument (.made ledger))

/-- Calls a contract and hands out its failure as a value. -/
def attempt (id : String) (argument : Json) : ContractM (Except Failure (Option Json)) := do
  let (outcome, _) ← ask (.call id argument .own)
  return outcome

/-- Calls a contract and fails where it fails. -/
def call (id : String) (argument : Json) : ContractM (Option Json) := do
  match ← attempt id argument with
  | .ok result => return result
  | .error f => throw f

/-- The memory of the instance. -/
def memory : ContractM Json := ask .memory

/-- Replaces the memory of the instance. -/
def remember (memory : Json) : ContractM Unit := ask (.remember memory)

end ContractM

/-! ## The ledger that a contract works on -/

/-- How the questions of a contract are answered that works on a made ledger, where `ask` asks on
behalf of the contract that has made it. What is asked of the ledger, the made one answers. A
contract that is called is handed that one in turn, or what was made out of it. -/
def MadeLedger.relay {m : Type → Type} [Monad m] (ledger : MadeLedger)
    (ask : (q : ContractQuery) → m q.Answer) : (q : ContractQuery) → StateT Json m q.Answer
  | .ledger call => fun state =>
    Program.interpret (fun call => ask (.ledger call)) (ledger.answer state call)
  | .call id argument .own => fun state => do
    let (outcome, state) ← ask (.call id argument (.made { ledger with state := state }))
    return ((outcome, .null), state)
  | .call id argument (.made upper) => fun state => do
    let (outcome, states) ←
      ask (.call id argument (.made (upper.above { ledger with state := state })))
    return ((outcome, upperState states), lowerState states)
  | q => fun state => do
    let a ← ask q
    return (a, state)

/-- A program of a contract on the ledger that the contract is handed. -/
def HandedLedger.lend {ρ : Type} :
    HandedLedger → Program ContractQuery.Answer ρ → Program ContractQuery.Answer (ρ × Json)
  | .own, p => do
    let result ← p
    return (result, .null)
  | .made ledger, p => (p.interpret (ledger.relay ContractQuery.query)).run ledger.state

/-! ## Arguments -/

namespace Argument

/-- A string under a key, which has to be there. -/
def requiredText (argument : Json) (name : String) : Except Failure String :=
  match argument.get? name with
  | none => .error (.badArgument (name ++ " attribute is missing"))
  | some j =>
    match j.asStr? with
    | some s => .ok s
    | none => .error (.badArgument (name ++ " must be a string"))

/-- A number of 32 bits under a key, which may be missing. -/
def optionalCount (argument : Json) (name : String) : Except Failure (Option UInt32) :=
  match argument.get? name with
  | none => .ok none
  | some j =>
    match j.asInt64? with
    | none => .error (.badArgument (name ++ " must be an integer"))
    | some n =>
      if n < 0 then .error (.badArgument "value must be non-negative")
      else if n < 0x100000000 then .ok (some (UInt32.ofNat n.toNat))
      else .error (.badArgument (name ++ " is out of range"))

/-- A truth value under a key, which may be missing. -/
def optionalFlag (argument : Json) (name : String) : Except Failure (Option Bool) :=
  match argument.get? name with
  | none => .ok none
  | some j =>
    match j.asBool? with
    | some b => .ok (some b)
    | none => .error (.badArgument (name ++ " must be a boolean"))

end Argument

end ContractEmulator
