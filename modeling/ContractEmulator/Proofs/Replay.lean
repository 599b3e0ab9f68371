import ContractEmulator.Database.Recorded
import ContractEmulator.Ledger.Recorded

/-!
# Replays

What a list of calls leaves behind, in a ledger or in a database. Answers are given to whoever
asks; what becomes of the ledger or of the database depends on the calls and on their order alone.

* `Ledger.replay`, `Database.replay`: the calls are received one after the other.
* `RecordedLedger.calls_replay`, `RecordedDatabase.calls_replay`: one that takes notes receives
  just these calls.
-/

namespace ContractEmulator

namespace Ledger

variable {σ : Type} [Ledger σ]

/-- The ledger after a call. -/
def receive (ledger : σ) : LedgerCall → σ
  | .get id => (Ledger.get ledger id).2
  | .put id data => (Ledger.put ledger id data).1
  | .scan filter => (Ledger.scan ledger filter).2

/-- The ledger after some calls. -/
def replay (ledger : σ) (calls : List LedgerCall) : σ := calls.foldl receive ledger

theorem replay_append (ledger : σ) (calls calls' : List LedgerCall) :
    replay ledger (calls ++ calls') = replay (replay ledger calls) calls' := List.foldl_append

end Ledger

namespace Database

variable {δ : Type} [Database δ]

/-- The database after a call. -/
def receive (database : δ) : DatabaseCall → δ
  | .get key => (Database.get database key).2
  | .put key value => (Database.put database key value).1
  | .delete key => (Database.delete database key).2

/-- The database after some calls. -/
def replay (database : δ) (calls : List DatabaseCall) : δ := calls.foldl receive database

theorem replay_append (database : δ) (calls calls' : List DatabaseCall) :
    replay database (calls ++ calls') = replay (replay database calls) calls' := List.foldl_append

end Database

namespace RecordedLedger

variable {σ : Type} [Ledger σ]

theorem calls_receive (ledger : RecordedLedger σ) (call : LedgerCall) :
    (Ledger.receive ledger call).calls = ledger.calls ++ [call] := by
  cases call <;> exact List.reverse_cons

theorem calls_replay (ledger : RecordedLedger σ) (calls : List LedgerCall) :
    (Ledger.replay ledger calls).calls = ledger.calls ++ calls := by
  induction calls generalizing ledger with
  | nil => exact (List.append_nil _).symm
  | cons call calls ih =>
    rw [Ledger.replay, List.foldl_cons, ← Ledger.replay, ih, calls_receive, List.append_assoc]
    rfl

end RecordedLedger

namespace RecordedDatabase

variable {δ : Type} [Database δ]

theorem calls_receive (database : RecordedDatabase δ) (call : DatabaseCall) :
    (Database.receive database call).calls = database.calls ++ [call] := by
  cases call <;> exact List.reverse_cons

theorem calls_replay (database : RecordedDatabase δ) (calls : List DatabaseCall) :
    (Database.replay database calls).calls = database.calls ++ calls := by
  induction calls generalizing database with
  | nil => exact (List.append_nil _).symm
  | cons call calls ih =>
    rw [Database.replay, List.foldl_cons, ← Database.replay, ih, calls_receive, List.append_assoc]
    rfl

end RecordedDatabase

end ContractEmulator
