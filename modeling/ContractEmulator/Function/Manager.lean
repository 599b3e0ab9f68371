import ContractEmulator.Artifact
import ContractEmulator.Function.Logic
import ContractEmulator.Loader
import ContractEmulator.Registry

/-!
# Function managers

A function manager keeps the registered functions and loads each of them once: a function that
was loaded stays as it is, whatever is registered under its id later.

* `register`, `get`, `fetch`: binding, looking up, loading.
* `FunctionDesk.invoke` runs a loaded function against a database.
-/

namespace ContractEmulator

/-- A function that was loaded, with its memory. -/
structure LoadedFunction where
  logic : FunctionLogic
  memory : Json

/-- Registered and loaded functions. -/
structure FunctionManager where
  registry : FunctionRegistry
  loader : Loader FunctionLogic
  loaded : OrderedMap String LoadedFunction

namespace FunctionManager

/-- The manager without functions that loads by the given loader. -/
def new (loader : Loader FunctionLogic) : FunctionManager := ⟨.empty, loader, .empty⟩

/-- The announcements of a registration; the warning comes if the function was loaded before. -/
def registerEvents (manager : FunctionManager) (entry : FunctionEntry) : List Event :=
  let event : Event := ⟨.debug, .functions, "register function",
    [.plain "function_id" entry.id, .plain "binary_name" entry.binaryName]⟩
  let warning : Event :=
    ⟨.warn, .functions, "function re-registered after load; cached instance kept",
      [.plain "function_id" entry.id]⟩
  if manager.loaded.contains entry.id then [event, warning] else [event]

/-- Binds a function, in place of one with the same id. -/
def register (manager : FunctionManager) (entry : FunctionEntry) : FunctionManager × List Event :=
  ({ manager with registry := manager.registry.bind entry },
    manager.registerEvents entry)

/-- The entry of a function. -/
def get (manager : FunctionManager) (id : String) : Except Failure FunctionEntry :=
  manager.registry.lookup id

/-- Loads a function from its entry, with a fresh memory. -/
def load (manager : FunctionManager) (id : String) : Except Failure LoadedFunction :=
  match manager.get id with
  | .error f => .error f
  | .ok entry =>
    match manager.loader.load .function entry.binaryName entry.code with
    | .error f => .error f
    | .ok logic => .ok ⟨logic, .null⟩

/-- The loaded function of an id, loading it now if it was not loaded before. -/
def fetch (manager : FunctionManager) (id : String) :
    Except Failure (LoadedFunction × FunctionManager) :=
  match manager.loaded.find? id with
  | some function => .ok (function, manager)
  | none =>
    match manager.load id with
    | .error f => .error f
    | .ok function =>
      .ok (function, { manager with loaded := manager.loaded.insert id function })

/-- Replaces the memory of a loaded function. -/
def setMemory (manager : FunctionManager) (id : String) (memory : Json) : FunctionManager :=
  match manager.loaded.find? id with
  | some function =>
    { manager with loaded := manager.loaded.insert id { function with memory := memory } }
  | none => manager

end FunctionManager

/-- What running functions work on: their manager, a database, and the log, latest event first. -/
structure FunctionDesk (δ : Type) where
  manager : FunctionManager
  database : δ
  log : List Event

namespace FunctionDesk

variable {δ : Type} [Database δ]

/-- Answers a question of the function `id`. -/
def answer (id : String) : (q : FunctionQuery) → StateM (FunctionDesk δ) q.Answer
  | .get key => fun desk =>
    let (value, database) := Database.get desk.database key
    (value, { desk with database := database })
  | .put key value => fun desk =>
    let (database, events) := Database.put desk.database key value
    ((), { desk with database := database, log := events.reverse ++ desk.log })
  | .delete key => fun desk =>
    let (value, database) := Database.delete desk.database key
    (value, { desk with database := database })
  | .memory => fun desk =>
    (((desk.manager.loaded.find? id).map LoadedFunction.memory).getD .null, desk)
  | .remember memory => fun desk =>
    ((), { desk with manager := desk.manager.setMemory id memory })

/-- Runs the logic of the loaded function `id`. -/
def run (id : String) (logic : FunctionLogic) (input : FunctionInput) (desk : FunctionDesk δ) :
    Except Failure Unit × FunctionDesk δ :=
  Program.interpret (m := StateM (FunctionDesk δ)) (answer id) (logic input).run desk

/-- Runs a function that was loaded before. -/
def invoke (id : String) (input : FunctionInput) (desk : FunctionDesk δ) :
    Except Failure Unit × FunctionDesk δ :=
  match desk.manager.loaded.find? id with
  | some function => run id function.logic input desk
  | none => (.error (.missingFunction id), desk)

/-- The announcement that the contract `contractId` has the function `id` run. -/
def invokeEvent (id contractId : String) : Event :=
  ⟨.debug, .engine, "invoke function", [.text "function_id" id, .text "contract_id" contractId]⟩

/-- Fetches and runs the function that an entry of a function list names. -/
def runEntry (contractId : String) (input : FunctionInput) (desk : FunctionDesk δ) :
    Json → Except Failure Unit × FunctionDesk δ
  | .str id =>
    match desk.manager.fetch id with
    | .error f => (.error f, desk)
    | .ok (function, manager) =>
      run id function.logic input
        { desk with manager := manager, log := invokeEvent id contractId :: desk.log }
  | _ => (.error (.badArgument "_functions_ must contain strings"), desk)

/-- Runs the functions of a list in order, up to the first that fails. -/
def runEntries (contractId : String) (input : FunctionInput) :
    List Json → FunctionDesk δ → Except Failure Unit × FunctionDesk δ
  | [], desk => (.ok (), desk)
  | entry :: entries, desk =>
    match runEntry contractId input desk entry with
    | (.error f, desk) => (.error f, desk)
    | (.ok (), desk) => runEntries contractId input entries desk

end FunctionDesk

end ContractEmulator
