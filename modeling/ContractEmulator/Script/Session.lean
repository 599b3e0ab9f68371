import ContractEmulator.Database.Memory
import ContractEmulator.Engine.World
import ContractEmulator.Files.Path
import ContractEmulator.Ledger.Memory
import ContractEmulator.Script.Step

/-!
# Script sessions

A session runs the steps of a script against one built-in emulator, one ledger and one database,
which keep what earlier steps did to them. Files are named as seen from a base directory.

* `Session.run` runs one step. A step that fails leaves behind what it did up to there.
* `StepError.message` is what a report says about a failed step.
-/

namespace ContractEmulator

/-- Why a step failed. -/
inductive StepError where
  /-- A registration failed. -/
  | registration (failure : Failure)
  /-- A call of the contract `id` failed. -/
  | call (id : String) (failure : Failure)
  /-- A value was to be written to the database, but the step holds none. -/
  | objectRequired
  /-- Contracts called each other more deeply than a session allows. -/
  | tooDeep (id : String)
  deriving DecidableEq, Repr

namespace StepError

/-- The kind of the failure behind an error; `Script` if there is none. -/
def kind : StepError → String
  | .registration failure => failure.kind
  | .call _ failure => failure.kind
  | .objectRequired => "Script"
  | .tooDeep _ => "Script"

/-- What failed, and under it what caused it. -/
def chain : StepError → List String
  | .registration failure => failure.chain
  | .call id failure => s!"contract '{id}' failed" :: failure.chain
  | .objectRequired => ["database put requires an object"]
  | .tooDeep id => [s!"contract '{id}' failed", "nested calls are too deep"]

/-- The causes of an error, outermost first. -/
def message (e : StepError) : String := String.intercalate ": " e.chain

end StepError

/-- What the steps of a script work on. -/
structure Session where
  scene : Scene MemoryLedger
  database : MemoryDatabase
  /-- The directory from which the files of steps are seen. -/
  base : String
  files : FileReader

namespace Session

/-- How a step ends. -/
abbrev StepResult := Except StepError (Option Json)

/-- The index of the only engine of a session. -/
def engineIndex : Nat := 0

/-- The session before its first step. -/
def new (base : String) (files : FileReader) : Session :=
  let (engine, events) := Engine.withBuiltins engineIndex
  ⟨⟨World.empty.add engine, .empty, events.reverse⟩, .empty, base, files⟩

/-- How deep nested calls may go. The contracts that scripts can load call no others. -/
def callDepth : Nat := 1000

/-- What the session announced so far. -/
def events (s : Session) : List Event := s.scene.log.reverse

/-- Lets the engine make a step that cannot fail. -/
def update (s : Session) (step : Engine → Engine × List Event) : Session :=
  { s with scene := s.scene.update engineIndex step }

/-- The certificate in force. -/
def certificate (s : Session) : Identity :=
  (s.scene.world.engines[engineIndex]?.map Engine.certificate).getD .initial

/-- The registered contracts. -/
def contracts (s : Session) : List Artifact :=
  (s.scene.world.engines[engineIndex]?.map Engine.scan).getD []

/-- The code for a registration under `id`, from a file. -/
def readCode (s : Session) (id file : String) : Except StepError (List UInt8) :=
  match s.files.code id (Path.join s.base file) with
  | .ok code => .ok code
  | .error f => .error (.registration f)

/-- Calls a contract. -/
def call (s : Session) (id : String) (argument : Json) (functionArgument : Option Json) :
    StepResult × Session :=
  match s.scene.execute callDepth engineIndex id argument functionArgument s.database with
  | none => (.error (.tooDeep id), s)
  | some (outcome, scene, database) =>
    let s := { s with scene := scene, database := database }
    match outcome with
    | .ok result => (.ok result, s)
    | .error failure => (.error (.call id failure), s)

/-- What a listing says about a contract. -/
def listing (artifact : Artifact) : Json :=
  .ofEntries [("id", .str artifact.id), ("binary_name", .str artifact.binaryName),
    ("digest", .str artifact.digest), ("properties", .ofOption artifact.properties)]

/-- The argument of a call that lists versions; bounds that a step leaves out are left out. -/
def scanArgument (assetId : String) (start stop limit : Option Int) (ascending : Bool) : Json :=
  let bounds := [("start", start), ("end", stop), ("limit", limit)]
  .ofEntries ([("asset_id", .str assetId), ("asc_order", .bool ascending)] ++
    bounds.filterMap fun (name, bound) => bound.map fun n => (name, Json.int n))

/-- Works on the database. -/
def accessDatabase (s : Session) (key : DatabaseKey) (object : Option Json) :
    DatabaseMethod → StepResult × Session
  | .get =>
    let (value, database) := Database.get s.database key
    (.ok value, { s with database := database })
  | .put =>
    match object with
    | none => (.error .objectRequired, s)
    | some object =>
      let (database, events) := Database.put s.database key object
      (.ok none, { s with database := database, scene := s.scene.announce events })
  | .delete =>
    let (value, database) := Database.delete s.database key
    (.ok value, { s with database := database })

/-- Runs a step. -/
def run (s : Session) : Step → StepResult × Session
  | .register id name file properties =>
    match s.readCode id file with
    | .error e => (.error e, s)
    | .ok code =>
      (.ok none, s.update fun e => e.register (.emulated id name code properties 0))
  | .registerFunction id name file =>
    match s.readCode id file with
    | .error e => (.error e, s)
    | .ok code => (.ok none, s.update fun e => e.registerFunction ⟨id, name, code, 0⟩)
  | .setCertificate identity =>
    let s := s.update fun e => e.setCertificate identity
    (.ok (some s.certificate.toJson), s)
  | .execute id argument functionArgument => s.call id argument functionArgument
  | .get assetId => s.call "get" (.ofEntries [("asset_id", .str assetId)]) none
  | .put assetId data =>
    s.call "put" (.ofEntries [("asset_id", .str assetId), ("data", data)]) none
  | .scan assetId start stop limit ascending =>
    s.call "scan" (scanArgument assetId start stop limit ascending) none
  | .listContracts => (.ok (some (.arr (s.contracts.map listing))), s)
  | .database method space table assetId object =>
    s.accessDatabase ⟨space, table, assetId⟩ object method

/-- Runs steps in order, failed ones too, and hands out how each of them ended. -/
def runAll (s : Session) : List Step → List (Step × StepResult) × Session
  | [] => ([], s)
  | step :: steps =>
    let (result, s) := s.run step
    let (results, s) := s.runAll steps
    ((step, result) :: results, s)

/-- Runs steps in order up to the first that fails. -/
def runToFailure (s : Session) : List Step → List (Step × StepResult) × Session
  | [] => ([], s)
  | step :: steps =>
    match s.run step with
    | (.error e, s) => ([(step, .error e)], s)
    | (.ok output, s) =>
      let (results, s) := s.runToFailure steps
      ((step, .ok output) :: results, s)

end Session

end ContractEmulator
