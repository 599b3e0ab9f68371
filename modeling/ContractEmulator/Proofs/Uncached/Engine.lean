import ContractEmulator.Proofs.Engine.Fetch
import ContractEmulator.Proofs.World.Task

/-!
# Engines that keep nothing

An engine that loads what it needs whenever it needs it. It makes a contract for every call of the
contract, and a function for every entry of a list, from what is bound to the id at the time, and it
keeps neither.

* `BareEngine.make`, `BareEngine.makeFunction`: what an id stands for.
* `BareEngine.runFunctions`: the functions of an execution.
* `BareScene.call`: calls of contracts by the host.
* `BareScene.execute`, `BareScene.perform`: executions, and tasks in general.
  `BareScene.execute_of_make`: an execution is a run of the contract with what follows.
-/

namespace ContractEmulator

/-- An emulator that keeps what is registered, and nothing that it has loaded. -/
structure BareEngine where
  registry : ContractRegistry
  certificate : Identity
  loader : Loader ContractLogic
  functions : FunctionRegistry
  functionLoader : Loader FunctionLogic

namespace BareEngine

/-- An engine that can load what the loaders know, without contracts. -/
def new (loader : Loader ContractLogic) (functions : Loader FunctionLogic) : BareEngine :=
  ⟨.empty, .initial, loader, .empty, functions⟩

/-- The contract that an id stands for. -/
def make (e : BareEngine) (id : String) : Except Failure Make :=
  match e.registry.lookup id with
  | .error f => .error f
  | .ok artifact =>
    (e.loader.load .contract artifact.binaryName artifact.code).map (Make.ofArtifact id artifact)

/-- The function that an id stands for. -/
def makeFunction (e : BareEngine) (id : String) : Except Failure FunctionLogic :=
  match e.functions.lookup id with
  | .error f => .error f
  | .ok entry => e.functionLoader.load .function entry.binaryName entry.code

/-! ## Functions -/

variable {δ : Type} [Database δ]

/-- Answers a question of a function. What it remembers is gone at once. -/
def answer : (q : FunctionQuery) → StateM δ q.Answer
  | .get key => fun database => Database.get database key
  | .put key value => fun database => ((), (Database.put database key value).1)
  | .delete key => fun database => Database.delete database key
  | .memory => pure .null
  | .remember _ => pure ()

/-- Makes and runs the function that an entry of a function list names. -/
def runEntry (e : BareEngine) (input : FunctionInput) (database : δ) :
    Json → Except Failure Unit × δ
  | .str id =>
    match e.makeFunction id with
    | .error f => (.error f, database)
    | .ok logic => Program.interpret (m := StateM δ) answer (logic input).run database
  | _ => (.error (.badArgument "_functions_ must contain strings"), database)

/-- Runs the functions of a list in order, up to the first that fails. -/
def runEntries (e : BareEngine) (input : FunctionInput) :
    List Json → δ → Except Failure Unit × δ
  | [], database => (.ok (), database)
  | entry :: entries, database =>
    match e.runEntry input database entry with
    | (.error f, database) => (.error f, database)
    | (.ok (), database) => e.runEntries input entries database

/-- Runs the functions that an argument lists. -/
def runFunctions (e : BareEngine) (input : FunctionInput) (database : δ) :
    Except Failure Unit × δ :=
  match input.argument.get? Scene.functionsKey with
  | none => (.ok (), database)
  | some list =>
    match list.asArr? with
    | none => (.error (.badArgument (Scene.functionsKey ++ " must be an array")), database)
    | some entries => e.runEntries input entries database

end BareEngine

/-- What running contracts work on: an engine that keeps nothing, and a ledger. -/
structure BareScene (σ : Type) where
  engine : BareEngine
  ledger : σ

namespace BareScene

variable {σ δ : Type} [Ledger σ] [Database δ]

/-- A step of a program, or `none` if a chain of calls gets too deep. -/
abbrev Act (σ : Type) := StateT (BareScene σ) Option

/-- Lets the engine make a step. -/
def update (s : BareScene σ) (step : BareEngine → BareEngine) : BareScene σ :=
  { s with engine := step s.engine }

/-- What calls another contract. -/
abbrev Nested (σ : Type) := String → Json → HandedLedger → Act σ (Outcome × Json)

/-- Answers a question of a contract whose call sees `context`; calls of other contracts are
answered by `nested`. What a contract remembers is gone at once, and so is a handle that it keeps. -/
def answer (nested : Nested σ) (context : CallContext) : (q : ContractQuery) → Act σ q.Answer
  | .context => pure context
  | .ledger call => fun s =>
    let (a, ledger, _) := Ledger.answer s.ledger call
    some (a, { s with ledger := ledger })
  | .call id argument handed => nested id argument handed
  | .memory => pure .null
  | .remember _ => pure ()
  | .setCertificate identity => fun s =>
    some (.ok (), s.update fun e => { e with certificate := identity })
  | .fetch id => fun s =>
    some ((s.engine.make id).map fun _ => ⟨true, s.engine.certificate⟩, s)
  | .register artifact => fun s =>
    some (.ok (), s.update fun e => { e with registry := e.registry.bind artifact })
  | .registerFunction entry => fun s =>
    some (.ok (), s.update fun e => { e with functions := e.functions.bind entry })
  | .keepHandle => pure true
  | .dropHandle => pure false

/-- Runs a contract that was just made, as the outermost one of a chain or as one below it, on the
ledger that it is handed. -/
def run (nested : Nested σ) (isRoot : Bool) (made : Make) (argument : Json)
    (handed : HandedLedger) : Act σ (Outcome × Json) := fun s =>
  Program.interpret (answer nested ⟨made.id, isRoot, s.engine.certificate⟩)
    (handed.lend (made.logic argument made.properties).run) s

/-- Makes and runs a contract for another one, at most `depth` calls deep. -/
def callNested : Nat → Nested σ
  | 0 => fun _ _ _ _ => none
  | depth + 1 => fun id argument handed s =>
    match s.engine.make id with
    | .error f => some ((.error f, handed.state), s)
    | .ok made => run (callNested depth) false made argument handed s

/-- Runs a contract that was just made as the outermost one of a chain. -/
def call (depth : Nat) (made : Make) (argument : Json) : Act σ Outcome := fun s =>
  (run (callNested depth) true made argument .own s).map fun (ending, s) => (ending.1, s)

/-- Makes and runs a contract as the outermost one of a chain, then runs the functions that the
argument lists. -/
def execute (depth : Nat) (id : String) (argument : Json) (functionArgument : Option Json)
    (s : BareScene σ) (database : δ) : Option (Outcome × BareScene σ × δ) :=
  match s.engine.make id with
  | .error f => some (.error f, s, database)
  | .ok made =>
    match call depth made argument s with
    | none => none
    | some (.error f, s) => some (.error f, s, database)
    | some (.ok result, s) =>
      match s.engine.runFunctions ⟨argument, functionArgument, made.properties⟩ database with
      | (.error f, database) => some (.error f, s, database)
      | (.ok (), database) => some (.ok result, s, database)

theorem execute_of_make {id : String} {s : BareScene σ} {made : Make}
    (h : s.engine.make id = .ok made) (depth : Nat) (argument : Json)
    (functionArgument : Option Json) (database : δ) :
    s.execute depth id argument functionArgument database =
      (call depth made argument s).map
        (Task.finish (fun s =>
          let (result, database) :=
            s.engine.runFunctions ⟨argument, functionArgument, made.properties⟩ database
          (result, s, database)) database) := by
  rw [execute, h]
  dsimp only
  cases call depth made argument s with
  | none => rfl
  | some ended =>
    obtain ⟨outcome, s₂⟩ := ended
    cases outcome with
    | error f => rfl
    | ok result =>
      dsimp only [Task.finish, Option.map_some]
      generalize s₂.engine.runFunctions _ database = served
      obtain ⟨_ | _, _⟩ := served <;> rfl

/-- Lets the engine perform a task. -/
def perform (depth : Nat) : Task → StateT (BareScene σ × δ) Option Outcome
  | .register (.error f), (s, database) => some (.error f, s, database)
  | .register (.ok artifact), (s, database) =>
    some (.ok none, s.update fun e => { e with registry := e.registry.bind artifact }, database)
  | .registerFunction (.error f), (s, database) => some (.error f, s, database)
  | .registerFunction (.ok entry), (s, database) =>
    some (.ok none, s.update fun e => { e with functions := e.functions.bind entry }, database)
  | .setCertificate identity, (s, database) =>
    some (.ok none, s.update fun e => { e with certificate := identity }, database)
  | .execute id argument functionArgument, (s, database) =>
    s.execute depth id argument functionArgument database

end BareScene

end ContractEmulator
