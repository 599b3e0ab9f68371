import ContractEmulator.Ledger.Basic
import ContractEmulator.Program

/-!
# Ledgers that contracts make

A contract that calls another one hands it a ledger: the one that it was given itself, or one of its
own making. A ledger that was made answers each call by a program, which may in turn ask the ledger
that its maker was given. It has a state, and its maker gets to see what became of it.

* `MadeLedger.above`: a ledger made by a contract that works on a made ledger itself.
-/

namespace ContractEmulator

/-- A ledger that a contract has made out of the one that it was given. -/
structure MadeLedger where
  state : Json
  /-- How a call is answered, and the state after it. -/
  answer : Json → (call : LedgerCall) → Program LedgerCall.Answer (call.Answer × Json)

namespace MadeLedger

/-- The states of two ledgers, of which one was made out of the other, as one state. -/
def bothStates (upper lower : Json) : Json := .arr [upper, lower]

def upperState : Json → Json
  | .arr (upper :: _) => upper
  | _ => .null

def lowerState : Json → Json
  | .arr [_, lower] => lower
  | _ => .null

/-- The ledger `upper`, made by a contract that was given the ledger `lower`, as seen from where
that one was made. -/
def above (upper lower : MadeLedger) : MadeLedger where
  state := bothStates upper.state lower.state
  answer states call := do
    let ((a, s), t) ←
      (Program.interpret (m := StateT Json (Program LedgerCall.Answer))
        (fun call state => lower.answer state call)
        (upper.answer (upperState states) call)).run (lowerState states)
    return (a, bothStates s t)

end MadeLedger

/-- The ledger that a contract hands to one that it calls. -/
inductive HandedLedger where
  /-- The one that it was given itself. -/
  | own
  | made (ledger : MadeLedger)

/-- The state of a ledger that was made. -/
def HandedLedger.state : HandedLedger → Json
  | .own => .null
  | .made ledger => ledger.state

end ContractEmulator
