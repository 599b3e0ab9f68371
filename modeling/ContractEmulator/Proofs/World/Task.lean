import ContractEmulator.Proofs.Call.Execution

/-!
# Tasks of an emulator

What a host has an emulator do, one task after the other: register contracts and functions, put
certificates in force, and execute contracts.

* `Task.inOrder`: tasks are performed in order, by whatever performs one of them.
* `Scene.perform`: the engine `k` performs a task, on a ledger and a database.
  `Scene.exists_plays_of_perform`: a task that comes to an end has a trace.
* `Task.finish`: what follows a contract that is executed. `Scene.execute_of_fetch`: an execution is
  a run of the contract with what follows.
-/

namespace ContractEmulator

/-- What a host has an emulator do. -/
inductive Task where
  /-- A contract is registered, unless its code could not be read. -/
  | register (artifact : Except Failure Artifact)
  /-- A function is registered, unless its code could not be read. -/
  | registerFunction (entry : Except Failure FunctionEntry)
  | setCertificate (identity : Identity)
  | execute (id : String) (argument : Json) (functionArgument : Option Json)

namespace Task

variable {τ : Type}

/-- Performs tasks in order, failed ones too, and hands out how each of them ended. -/
def inOrder (perform : Task → StateT τ Option Outcome) : List Task → StateT τ Option (List Outcome)
  | [] => pure []
  | task :: tasks => do
    let outcome ← perform task
    let outcomes ← inOrder perform tasks
    return outcome :: outcomes

/-- What follows a contract that was executed: once it has returned, the functions are served. -/
def finish {σ δ : Type} (serve : σ → Except Failure Unit × σ × δ) (database : δ)
    (ended : Outcome × σ) : Outcome × σ × δ :=
  match ended.1 with
  | .error f => (.error f, ended.2, database)
  | .ok result => ((serve ended.2).1.map fun _ => result, (serve ended.2).2)

end Task

namespace Scene

variable {σ δ : Type} [Ledger σ] [Database δ]

/-- Lets the engine `k` perform a task, on a ledger and a database. -/
def perform (depth k : Nat) : Task → StateT (Scene σ × δ) Option Outcome
  | .register (.error f), (s, database) => some (.error f, s, database)
  | .register (.ok artifact), (s, database) =>
    some (.ok none, s.update k fun e => e.register artifact, database)
  | .registerFunction (.error f), (s, database) => some (.error f, s, database)
  | .registerFunction (.ok entry), (s, database) =>
    some (.ok none, s.update k fun e => e.registerFunction entry, database)
  | .setCertificate identity, (s, database) =>
    some (.ok none, s.update k fun e => e.setCertificate identity, database)
  | .execute id argument functionArgument, (s, database) =>
    s.execute depth k id argument functionArgument database

/-- Without a contract there is nothing to execute, and everything stays as it was. -/
theorem execute_of_fetch_error {k : Nat} {id : String} {s : Scene σ} {f : Failure}
    (h : s.fetch k id = .error f) (depth : Nat) (argument : Json) (functionArgument : Option Json)
    (database : δ) :
    s.execute depth k id argument functionArgument database = some (.error f, s, database) := by
  rw [execute, h]

theorem execute_of_fetch {k : Nat} {id : String} {s s₁ : Scene σ} {i : Instance}
    (h : s.fetch k id = .ok (i, s₁)) (depth : Nat) (argument : Json)
    (functionArgument : Option Json) (database : δ) :
    s.execute depth k id argument functionArgument database =
      (call depth k i argument i.properties s₁).map
        (Task.finish (fun s => runFunctions k id ⟨argument, functionArgument, i.properties⟩ s
          database) database) := by
  rw [execute, h]
  dsimp only
  cases call depth k i argument i.properties s₁ with
  | none => rfl
  | some ended =>
    obtain ⟨outcome, s₂⟩ := ended
    cases outcome with
    | error f => rfl
    | ok result =>
      dsimp only [Task.finish, Option.map_some]
      generalize runFunctions k id _ s₂ database = served
      obtain ⟨_ | _, _, _⟩ := served <;> rfl

/-- A task that comes to an end has a trace. -/
theorem exists_plays_of_perform {depth k : Nat} {task : Task} {s s' : Scene σ}
    {database database' : δ} {outcome : Outcome} (hw : s.world.WellFormed)
    (h : perform depth k task (s, database) = some (outcome, s', database')) :
    ∃ trace, s.Plays trace s' := by
  cases task with
  | register artifact =>
    cases artifact <;> cases h
    · exact ⟨[], .refl s⟩
    · exact ⟨_, plays_update s k _ fun e => .register e _⟩
  | registerFunction entry =>
    cases entry <;> cases h
    · exact ⟨[], .refl s⟩
    · exact ⟨_, plays_update s k _ fun e => .registerFunction e _⟩
  | setCertificate identity =>
    cases h
    exact ⟨_, plays_update s k (fun _ => .certified identity) fun e => .certify e identity⟩
  | execute id argument functionArgument =>
    obtain ⟨trace, hexec⟩ := exists_executes h
    exact ⟨trace, hexec.plays hw⟩

end Scene

end ContractEmulator
