import ContractEmulator.Database.Memory
import ContractEmulator.Proofs.Replay

/-!
# What a database holds

A database in memory is told by the calls that it received. What it holds under a key is what was
written there last, unless it was deleted since.

* `recorded`: this value. Calls are given latest first.
* `MemoryDatabase.get_replay`: this is what a database holds.
* `recorded_append_of_apart`: calls for other keys do not matter.
* `recorded_ne_null`: where no null was written, none is held.
-/

namespace ContractEmulator

/-- The key that a call is about. -/
def DatabaseCall.key : DatabaseCall → DatabaseKey
  | .get key => key
  | .put key _ => key
  | .delete key => key

/-- What was written to a key last, unless it was deleted since. The calls are given latest
first. -/
def recorded (key : DatabaseKey) : List DatabaseCall → Option Json
  | [] => none
  | .get _ :: earlier => recorded key earlier
  | .put written value :: earlier => if key = written then some value else recorded key earlier
  | .delete deleted :: earlier => if key = deleted then none else recorded key earlier

theorem recorded_cons_of_ne {key : DatabaseKey} {call : DatabaseCall} (h : call.key ≠ key)
    (earlier : List DatabaseCall) : recorded key (call :: earlier) = recorded key earlier := by
  cases call with
  | get => rfl
  | put => exact if_neg (Ne.symm h)
  | delete => exact if_neg (Ne.symm h)

/-- Calls for other keys do not matter. -/
theorem recorded_append_of_apart {key : DatabaseKey} {later : List DatabaseCall}
    (h : ∀ call ∈ later, call.key ≠ key) (earlier : List DatabaseCall) :
    recorded key (later ++ earlier) = recorded key earlier := by
  induction later with
  | nil => rfl
  | cons call later ih =>
    obtain ⟨hcall, hlater⟩ := List.forall_mem_cons.1 h
    rw [List.cons_append, recorded_cons_of_ne hcall, ih hlater]

/-- Where no null was written, none is recorded. -/
theorem recorded_ne_null {key : DatabaseKey} {calls : List DatabaseCall}
    (h : ∀ written, .put written .null ∉ calls) : recorded key calls ≠ some .null := by
  induction calls with
  | nil => rintro ⟨⟩
  | cons call calls ih =>
    have hrest := ih fun written hmem => h written (List.mem_cons_of_mem _ hmem)
    cases call with
    | get => exact hrest
    | put written value =>
      rw [recorded]
      split
      · rintro ⟨⟩
        exact h written List.mem_cons_self
      · exact hrest
    | delete =>
      rw [recorded]
      split
      · rintro ⟨⟩
      · exact hrest

namespace MemoryDatabase

theorem get_receive {database : MemoryDatabase} {earlier : List DatabaseCall}
    (h : ∀ key, database.get key = recorded key earlier) (call : DatabaseCall) (key : DatabaseKey) :
    (Database.receive database call).get key = recorded key (call :: earlier) := by
  cases call with
  | get => exact h key
  | put written value =>
    rw [recorded, ← h]
    exact OrderedMap.find?_insert database.records written value key
  | delete deleted =>
    rw [recorded, ← h]
    exact OrderedMap.find?_erase database.records deleted key

/-- A database that received some calls more holds what is recorded then. -/
theorem get_replay {database : MemoryDatabase} {earlier : List DatabaseCall}
    (h : ∀ key, database.get key = recorded key earlier) (calls : List DatabaseCall)
    (key : DatabaseKey) :
    (Database.replay database calls).get key = recorded key (calls.reverse ++ earlier) := by
  induction calls generalizing database earlier with
  | nil => exact h key
  | cons call calls ih =>
    rw [List.reverse_cons, List.append_assoc, List.singleton_append]
    exact ih (get_receive h call)

end MemoryDatabase

end ContractEmulator
