import ContractEmulator.Ledger.Basic

/-!
# Ledgers that take notes

A ledger around another one that writes down each call before it passes it on.
-/

namespace ContractEmulator

/-- A ledger and the calls it received, latest first. -/
structure RecordedLedger (σ : Type) where
  store : σ
  notes : List LedgerCall

namespace RecordedLedger

variable {σ : Type}

/-- The calls in the order in which they came. -/
def calls (ledger : RecordedLedger σ) : List LedgerCall := ledger.notes.reverse

instance [Ledger σ] : Ledger (RecordedLedger σ) where
  get ledger id :=
    let (asset, store) := Ledger.get ledger.store id
    (asset, ⟨store, .get id :: ledger.notes⟩)
  put ledger id data :=
    let (store, events) := Ledger.put ledger.store id data
    (⟨store, .put id data :: ledger.notes⟩, events)
  scan ledger filter :=
    let (assets, store) := Ledger.scan ledger.store filter
    (assets, ⟨store, .scan filter :: ledger.notes⟩)

end RecordedLedger

end ContractEmulator
