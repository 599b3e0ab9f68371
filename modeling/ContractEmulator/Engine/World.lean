import ContractEmulator.Contract.Builtin
import ContractEmulator.Engine.Basic
import ContractEmulator.Function.Builtin

/-!
# Emulators in use

Emulators are reached through handles. Clones of a handle share one engine, and an engine lives
as long as there is a strong reference to it; its instances can outlive it, but then their contracts
can call no other contract.

* `World.isAlive`: whether there is a strong reference to an engine. Handles hold them, and so do
  calls on their way to another contract.
* `Scene.dispatch`: a call of another contract reaches the engine of the caller by the reference that
  the caller has, and fetches the callee.
* `Scene.invoke` calls an instance that was fetched before.
* `Scene.execute` fetches an instance, calls it, and then runs the functions that the argument
  lists.

A chain of calls may be at most `depth` nested calls deep; `none` says that it went deeper.
-/

namespace ContractEmulator

/-- The emulators of a process. -/
structure World where
  engines : List Engine
  /-- The engine of each handle; `none` for a handle that was dropped. -/
  handles : List (Option Nat)
  /-- The handle that the host works with at present. -/
  focus : Nat

namespace World

/-- No emulators. -/
def empty : World := ⟨[], [], 0⟩

/-- The engine of a handle. -/
def handle? (w : World) (handle : Nat) : Option Nat := (w.handles[handle]?).join

/-- The references to engines that are held in the world: by handles, by instances, and by
contracts. -/
def refs (w : World) : List EngineRef :=
  w.handles.filterMap (Option.map .strong) ++ w.engines.flatMap Engine.refs

/-- Whether an engine is alive, while calls on their way hold further references. -/
def isAlive (w : World) (inFlight : List EngineRef) (k : Nat) : Bool :=
  (w.refs ++ inFlight).contains (.strong k)

/-- Whether a handle of an engine is left, with the host or with a contract of the engine. -/
def hasHandle (w : World) (k : Nat) : Bool :=
  w.handles.contains (some k) || w.engines[k]?.any fun e => decide (0 < e.kept)

/-- Adds an engine with one handle, the last one. -/
def add (w : World) (e : Engine) : World :=
  { w with engines := w.engines ++ [e], handles := w.handles ++ [some w.engines.length] }

/-- Adds a handle to the engine of a handle. -/
def clone (w : World) (handle : Nat) : World :=
  { w with handles := w.handles ++ [w.handle? handle] }

/-- Drops a handle. -/
def drop (w : World) (handle : Nat) : World := { w with handles := w.handles.set handle none }

/-- Replaces an engine. -/
def setEngine (w : World) (k : Nat) (e : Engine) : World :=
  { w with engines := w.engines.set k e }

/-- The instance of an id that the engine `k` has loaded. -/
def instance? (w : World) (k : Nat) (id : String) : Option Instance :=
  w.engines[k]?.bind fun e => e.loaded.find? id

end World

/-- What running contracts work on: the emulators, a ledger, and the log, latest event first. -/
structure Scene (σ : Type) where
  world : World
  ledger : σ
  log : List Event

/-- How a call of a contract ends. -/
abbrev Outcome := Except Failure (Option Json)

/-- A call of a contract while it runs. -/
structure Activation where
  /-- The engine that has the instance. -/
  engine : Nat
  /-- The way to other contracts. -/
  invoker : Option EngineRef
  context : CallContext
  /-- The strong references that the calls hold which led here. -/
  inFlight : List EngineRef

/-- A call of an instance of the engine `k`. -/
def Instance.activation (i : Instance) (k : Nat) (inFlight : List EngineRef) : Activation :=
  ⟨k, i.invoker, i.context, inFlight⟩

namespace Scene

variable {σ δ : Type}

/-- Adds announcements to the log. -/
def announce (s : Scene σ) (events : List Event) : Scene σ :=
  { s with log := events.reverse ++ s.log }

/-- Puts an engine in place of the engine `k` and adds its announcements to the log. -/
def advance (s : Scene σ) (k : Nat) (result : Engine × List Event) : Scene σ :=
  { s with world := s.world.setEngine k result.1, log := result.2.reverse ++ s.log }

/-- Lets the engine `k` make a step that cannot fail. -/
def update (s : Scene σ) (k : Nat) (step : Engine → Engine × List Event) : Scene σ :=
  match s.world.engines[k]? with
  | some e => s.advance k (step e)
  | none => s

/-- Fetches an instance of the engine `k` for a root call. -/
def fetch (s : Scene σ) (k : Nat) (id : String) : Except Failure (Instance × Scene σ) :=
  match s.world.engines[k]? with
  | none => .error .emulatorGone
  | some e =>
    match e.fetch id with
    | .error f => .error f
    | .ok (i, e, events) => .ok (i, s.advance k (e, events))

/-- Fetches an instance of the engine `k` for a call by another contract, for which the engine has
to be alive. -/
def fetchNested (s : Scene σ) (inFlight : List EngineRef) (k : Nat) (id : String) :
    Except Failure (Instance × Scene σ) :=
  if s.world.isAlive inFlight k then
    match s.world.engines[k]? with
    | none => .error .emulatorGone
    | some e =>
      match e.fetchNested id with
      | .error f => .error f
      | .ok (i, e, events) => .ok (i, s.advance k (e, events))
  else .error .emulatorGone

/-- Follows a call of another contract to the engine, which is kept alive until the call is over:
the callee, and the call of it. -/
def dispatch (s : Scene σ) (a : Activation) (id : String) :
    Except Failure (Instance × Activation × Scene σ) :=
  match a.invoker with
  | none => .error .emulatorGone
  | some ref =>
    match s.fetchNested a.inFlight ref.engine id with
    | .error f => .error f
    | .ok (i, s) => .ok (i, i.activation ref.engine (.strong ref.engine :: a.inFlight), s)

/-- A step of a program, or `none` if a chain of calls gets too deep. -/
abbrev Act (σ : Type) := StateT (Scene σ) Option

/-- Lets the emulator in focus make a step. -/
def onFocus (step : Engine → Engine × List Event) : Act σ (Except Failure Unit) := fun s =>
  match s.world.handle? s.world.focus with
  | some k => some (.ok (), s.update k step)
  | none => some (.error .emulatorGone, s)

/-- Fetches an instance of the emulator in focus. -/
def fetchOnFocus (id : String) : Act σ (Except Failure Stamp) := fun s =>
  match s.world.handle? s.world.focus with
  | some k =>
    match s.fetch k id with
    | .ok (i, s) => some (.ok i.stamp, s)
    | .error f => some (.error f, s)
  | none => some (.error .emulatorGone, s)

/-- Keeps a handle of the engine `k` for a contract of it, if there is one to clone. -/
def keepHandle (k : Nat) : Act σ Bool := fun s =>
  if s.world.hasHandle k then some (true, s.update k fun e => e.keepHandle)
  else some (false, s)

/-- Drops a handle of the engine `k` that a contract of it keeps. -/
def dropHandle (k : Nat) : Act σ Bool := fun s =>
  if s.world.engines[k]?.any (fun e => decide (0 < e.kept)) then
    some (true, s.update k fun e => e.dropHandle)
  else some (false, s)

variable [Ledger σ]

/-- Lets the ledger answer a call. -/
def askLedger (call : LedgerCall) : Act σ call.Answer := fun s =>
  let (a, ledger, events) := Ledger.answer s.ledger call
  some (a, { s with ledger := ledger, log := events.reverse ++ s.log })

/-- What calls another contract. -/
abbrev Nested (σ : Type) := String → Json → HandedLedger → Act σ (Outcome × Json)

/-- Answers a question of a running contract; calls of other contracts are answered by `nested`. -/
def answer (nested : Nested σ) (a : Activation) : (q : ContractQuery) → Act σ q.Answer
  | .context => pure a.context
  | .ledger call => askLedger call
  | .call id argument handed => nested id argument handed
  | .memory => fun s =>
    some (((s.world.instance? a.engine a.context.contractId).map Instance.memory).getD .null, s)
  | .remember memory => fun s =>
    some ((), s.update a.engine fun e => (e.setMemory a.context.contractId memory, []))
  | .setCertificate identity => onFocus fun e => e.setCertificate identity
  | .fetch id => fetchOnFocus id
  | .register artifact => onFocus fun e => e.register artifact
  | .registerFunction entry => onFocus fun e => e.registerFunction entry
  | .keepHandle => keepHandle a.engine
  | .dropHandle => dropHandle a.engine

/-- Runs the logic of an instance, on the ledger that it is handed. -/
def run (nested : Nested σ) (a : Activation) (i : Instance) (argument : Json)
    (properties : Option Json) (handed : HandedLedger) : Act σ (Outcome × Json) :=
  Program.interpret (answer nested a) (i.program argument properties handed)

/-- Runs the logic of an instance on the ledger of the scene. -/
def runOwn (nested : Nested σ) (a : Activation) (i : Instance) (argument : Json)
    (properties : Option Json) : Act σ Outcome := fun s =>
  (run nested a i argument properties .own s).map fun (ending, s) => (ending.1, s)

/-- Calls another contract for a running one, at most `depth` calls deep. -/
def callNested : Nat → Activation → Nested σ
  | 0, _ => fun _ _ _ _ => none
  | depth + 1, a => fun id argument handed s =>
    match s.dispatch a id with
    | .error f => some ((.error f, handed.state), s)
    | .ok (i, b, s) => run (callNested depth b) b i argument i.properties handed s

/-- Calls an instance of the engine `k` under the stamp it has now, as the outermost one of a
chain. -/
def call (depth k : Nat) (i : Instance) (argument : Json) (properties : Option Json) :
    Act σ Outcome :=
  let a := i.activation k []
  runOwn (callNested depth a) a i argument properties

/-- Calls an instance of the engine `k` that was fetched before. -/
def invoke (depth k : Nat) (id : String) (argument : Json) (properties : Option Json) :
    Act σ Outcome := fun s =>
  match s.world.instance? k id with
  | none => some (.error (.missingContract id), s)
  | some i => call depth k i argument properties s

/-- The key under which an argument lists functions. -/
def functionsKey : String := "_functions_"

variable [Database δ]

/-- Runs the functions that an argument lists, with the function manager of the engine `k`. -/
def runFunctions (k : Nat) (contractId : String) (input : FunctionInput) (s : Scene σ)
    (database : δ) : Except Failure Unit × Scene σ × δ :=
  match input.argument.get? functionsKey with
  | none => (.ok (), s, database)
  | some list =>
    match list.asArr? with
    | none => (.error (.badArgument (functionsKey ++ " must be an array")), s, database)
    | some entries =>
      match s.world.engines[k]? with
      | none => (.error .emulatorGone, s, database)
      | some e =>
        let (result, desk) :=
          FunctionDesk.runEntries contractId input entries ⟨e.functions, database, s.log⟩
        (result,
          { s with
            world := s.world.setEngine k { e with functions := desk.manager }
            log := desk.log },
          desk.database)

/-- Calls a contract of the engine `k` as the outermost one of a chain, then runs the functions
that the argument lists. Both get the properties with which the contract was loaded. -/
def execute (depth k : Nat) (id : String) (argument : Json) (functionArgument : Option Json)
    (s : Scene σ) (database : δ) : Option (Outcome × Scene σ × δ) :=
  match s.fetch k id with
  | .error f => some (.error f, s, database)
  | .ok (i, s) =>
    match call depth k i argument i.properties s with
    | none => none
    | some (.error f, s) => some (.error f, s, database)
    | some (.ok result, s) =>
      match runFunctions k id ⟨argument, functionArgument, i.properties⟩ s database with
      | (.error f, s, database) => some (.error f, s, database)
      | (.ok (), s, database) => some (.ok result, s, database)

end Scene

/-! ## Built-in emulators -/

namespace Engine

/-- Registers the built-in contracts. -/
def registerBuiltins (e : Engine) : Engine × List Event :=
  BuiltinContract.registrations.foldl
    (fun (e, events) (id, symbol) =>
      let (e, more) := e.register (.emulated id symbol (Descriptor.encode symbol) none 0)
      (e, events ++ more))
    (e, [])

/-- An engine that knows the built-in contracts and functions and has the contracts registered. -/
def withBuiltins (place : Nat) : Engine × List Event :=
  (new place BuiltinContract.loader BuiltinFunction.loader).registerBuiltins

end Engine

end ContractEmulator
