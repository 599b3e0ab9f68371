import ContractEmulator.Contract.Logic
import ContractEmulator.Function.Manager
import ContractEmulator.Loader
import ContractEmulator.Registry

/-!
# Engines

An engine keeps the registered contracts, loads each of them once, and stamps a loaded contract
whenever it is fetched: with the role of the call it is fetched for, and with the certificate in
force.

* `EngineRef`: a reference to an engine, by its place among the engines of a process. Strong
  references keep an engine alive. Its instances reach it by weak ones.
* `register` binds an artifact. A contract that was loaded stays as it is, with a warning.
* `fetch` hands out an instance for a root call, `fetchNested` for a call by another contract. A
  fetch that fails hands out no engine: it leaves the old one as it was.
-/

namespace ContractEmulator

/-- A reference to the engine at a place. Only a strong one keeps the engine alive. -/
inductive EngineRef where
  | strong (k : Nat)
  | weak (k : Nat)
  deriving DecidableEq, Repr

namespace EngineRef

/-- The place of the engine. -/
def engine : EngineRef → Nat
  | .strong k => k
  | .weak k => k

/-- A weak reference to the same engine. -/
def downgrade (ref : EngineRef) : EngineRef := .weak ref.engine

end EngineRef

/-- A loaded contract. -/
structure Instance where
  id : String
  binaryName : String
  logic : ContractLogic
  /-- The properties of the artifact from which the contract was loaded. -/
  properties : Option Json
  /-- The role stamped last. -/
  isRoot : Bool
  /-- The certificate stamped last. -/
  caller : Identity
  /-- The way that calls of other contracts take to the engine. -/
  invoker : Option EngineRef
  memory : Json

namespace Instance

/-- What a call of the instance sees of itself. -/
def context (i : Instance) : CallContext := ⟨i.id, i.isRoot, i.caller⟩

/-- What the last fetch left. -/
def stamp (i : Instance) : Stamp := ⟨i.isRoot, i.caller⟩

/-- The logic of the instance, on the ledger that it is handed. -/
def program (i : Instance) (argument : Json) (properties : Option Json) (handed : HandedLedger) :
    Program ContractQuery.Answer (Except Failure (Option Json) × Json) :=
  handed.lend (i.logic argument properties).run

end Instance

/-- The state of an emulator. -/
structure Engine where
  /-- Where the engine is among the engines of its process. -/
  place : Nat
  registry : ContractRegistry
  loaded : OrderedMap String Instance
  certificate : Identity
  loader : Loader ContractLogic
  functions : FunctionManager
  /-- How many handles of the emulator its contracts keep. -/
  kept : Nat

namespace Engine

/-- An engine that can load what the loaders know, without contracts. -/
def new (place : Nat) (loader : Loader ContractLogic) (functions : Loader FunctionLogic) : Engine :=
  ⟨place, .empty, .empty, .initial, loader, .new functions, 0⟩

/-! ## Registration -/

/-- The announcements of a registration; the warning comes if the contract was loaded before. -/
def registerEvents (e : Engine) (artifact : Artifact) : List Event :=
  let event : Event := ⟨.debug, .engine, "register contract",
    [.plain "contract_id" artifact.id, .plain "binary_name" artifact.binaryName,
     .plain "digest" artifact.digest]⟩
  let warning : Event := ⟨.warn, .engine,
    "contract re-registered after load; cached instance keeps running the earlier code",
    [.plain "contract_id" artifact.id]⟩
  if e.loaded.contains artifact.id then [event, warning] else [event]

/-- Binds an artifact, in place of one with the same id. -/
def register (e : Engine) (artifact : Artifact) : Engine × List Event :=
  ({ e with registry := e.registry.bind artifact }, e.registerEvents artifact)

/-- The artifact bound to an id. -/
def get (e : Engine) (id : String) : Except Failure Artifact := e.registry.lookup id

/-- The bound artifacts in order. -/
def scan (e : Engine) : List Artifact := e.registry.values

/-- Binds a function. -/
def registerFunction (e : Engine) (entry : FunctionEntry) : Engine × List Event :=
  let (functions, events) := e.functions.register entry
  ({ e with functions := functions }, events)

/-! ## Certificates -/

/-- The announcement of a new certificate. -/
def certificateEvent (identity : Identity) : Event :=
  ⟨.info, .engine, "emulated certificate changed", [.plain "certificate" identity.display]⟩

/-- Puts a certificate in force. -/
def setCertificate (e : Engine) (identity : Identity) : Engine × List Event :=
  ({ e with certificate := identity }, [certificateEvent identity])

/-! ## References -/

/-- What a handle of the emulator holds. -/
def self (e : Engine) : EngineRef := .strong e.place

@[simp] theorem downgrade_self (e : Engine) : e.self.downgrade = .weak e.place := rfl

/-- The references to engines that are held inside the engine: those of its instances, and the
handles that its contracts keep. -/
def refs (e : Engine) : List EngineRef :=
  e.loaded.values.filterMap Instance.invoker ++ List.replicate e.kept e.self

/-- A contract keeps one more handle. -/
def keepHandle (e : Engine) : Engine × List Event := ({ e with kept := e.kept + 1 }, [])

/-- A contract drops a handle that was kept. -/
def dropHandle (e : Engine) : Engine × List Event := ({ e with kept := e.kept - 1 }, [])

/-! ## Instances -/

/-- Loads a contract from its artifact, with a fresh memory and a weak reference to the engine. -/
def materialize (e : Engine) (id : String) : Except Failure Instance :=
  match e.get id with
  | .error f => .error f
  | .ok artifact =>
    match e.loader.load .contract artifact.binaryName artifact.code with
    | .error f => .error f
    | .ok logic =>
      .ok ⟨id, artifact.binaryName, logic, artifact.properties, true, .initial,
        some e.self.downgrade, .null⟩

def hitEvent (id : String) : Event :=
  ⟨.debug, .engine, "instance cache hit", [.text "contract_id" id]⟩

def materializedEvent (id binaryName : String) : Event :=
  ⟨.debug, .engine, "materialized contract",
    [.text "contract_id" id, .plain "binary_name" binaryName]⟩

def stampEvent (id : String) (identity : Identity) : Event :=
  ⟨.debug, .engine, "stamp root call",
    [.text "contract_id" id, .plain "certificate" identity.display]⟩

def nestedEvent (id : String) : Event :=
  ⟨.debug, .engine, "nested invocation", [.text "contract_id" id]⟩

/-- The instance of an id as it was left, or a new one, and how it was come by. -/
def obtain (e : Engine) (id : String) : Except Failure (Instance × Event) :=
  match e.loaded.find? id with
  | some i => .ok (i, hitEvent id)
  | none =>
    match e.materialize id with
    | .error f => .error f
    | .ok i => .ok (i, materializedEvent id i.binaryName)

/-- Keeps an instance. -/
def keep (e : Engine) (i : Instance) : Engine := { e with loaded := e.loaded.insert i.id i }

/-- Fetches an instance for a root call. -/
def fetch (e : Engine) (id : String) : Except Failure (Instance × Engine × List Event) :=
  match e.obtain id with
  | .error f => .error f
  | .ok (i, event) =>
    let stamped := { i with isRoot := true, caller := e.certificate }
    .ok (stamped, e.keep stamped, [event, stampEvent id e.certificate])

/-- Fetches an instance for a call by another contract. -/
def fetchNested (e : Engine) (id : String) : Except Failure (Instance × Engine × List Event) :=
  match e.fetch id with
  | .error f => .error f
  | .ok (i, e, events) =>
    let nested := { i with isRoot := false }
    .ok (nested, e.keep nested, events ++ [nestedEvent id])

/-- Replaces the memory of an instance. -/
def setMemory (e : Engine) (id : String) (memory : Json) : Engine :=
  match e.loaded.find? id with
  | some i => e.keep { i with memory := memory }
  | none => e

end Engine

end ContractEmulator
