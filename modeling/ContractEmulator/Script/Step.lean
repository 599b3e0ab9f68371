import ContractEmulator.Files.Reader
import ContractEmulator.Identity
import ContractEmulator.Json.Record

/-!
# Script steps

A script is a JSON array of steps. A step is an object with a `command` and the fields of that
command, or an array of the command and its fields in order of declaration.

* `Step.read` reads one step. The whole step is read before its fields are looked at; only the
  command is looked at on the way.
* `Script.ofText` reads a script, and reports a wrong step before it looks at what follows.
-/

namespace ContractEmulator

/-- What a step does. -/
inductive Command where
  | register | registerFunction | setCertificate | execute | get | put | scan | listContracts
  | database
  deriving DecidableEq, Repr

/-- What a step does with the database. -/
inductive DatabaseMethod where
  | get | put | delete
  deriving DecidableEq, Repr

namespace DatabaseMethod

def name : DatabaseMethod → String
  | .get => "get"
  | .put => "put"
  | .delete => "delete"

/-- The methods in order of declaration. -/
def all : List DatabaseMethod := [.get, .put, .delete]

end DatabaseMethod

namespace Command

def name : Command → String
  | .register => "register"
  | .registerFunction => "register-function"
  | .setCertificate => "set-certificate"
  | .execute => "execute"
  | .get => "get"
  | .put => "put"
  | .scan => "scan"
  | .listContracts => "list-contracts"
  | .database => "database"

/-- The commands in order of declaration. -/
def all : List Command :=
  [.register, .registerFunction, .setCertificate, .execute, .get, .put, .scan, .listContracts,
   .database]

def ofName? (name : String) : Option Command := all.find? fun command => command.name == name

/-- The fields of a command. -/
def record : Command → Record
  | .register => ⟨"struct variant Step::Register",
      [.required "id" (.scalar .text), .required "name" (.scalar .text),
       .required "file" (.scalar .path), .optional "properties" .any]⟩
  | .registerFunction => ⟨"struct variant Step::RegisterFunction",
      [.required "id" (.scalar .text), .required "name" (.scalar .text),
       .required "file" (.scalar .path)]⟩
  | .setCertificate => ⟨"struct variant Step::SetCertificate",
      [.required "holder_id" (.scalar .text), .required "version" (.scalar (.integer .i32))]⟩
  | .execute => ⟨"struct variant Step::Execute",
      [.required "id" (.scalar .text), .defaulted "argument" .any,
       .optional "function_argument" .any]⟩
  | .get => ⟨"struct variant Step::Get", [.required "asset_id" (.scalar .text)]⟩
  | .put => ⟨"struct variant Step::Put",
      [.required "asset_id" (.scalar .text), .required "data" .any]⟩
  | .scan => ⟨"struct variant Step::Scan",
      [.required "asset_id" (.scalar .text), .optional "start" (.scalar (.integer .i64)),
       .optional "end" (.scalar (.integer .i64)), .optional "limit" (.scalar (.integer .i64)),
       .defaulted "ascending" (.scalar .boolean)]⟩
  | .listContracts => ⟨"unit variant Step::ListContracts", []⟩
  | .database => ⟨"struct variant Step::Database",
      [.required "method" (.choice (DatabaseMethod.all.map DatabaseMethod.name)),
       .required "namespace" (.scalar .text), .required "table" (.scalar .text),
       .required "asset_id" (.scalar .text), .optional "object" .any]⟩

end Command

/-- One step of a script. -/
inductive Step where
  | register (id name file : String) (properties : Option Json)
  | registerFunction (id name file : String)
  | setCertificate (identity : Identity)
  | execute (id : String) (argument : Json) (functionArgument : Option Json)
  | get (assetId : String)
  | put (assetId : String) (data : Json)
  | scan (assetId : String) (start stop limit : Option Int) (ascending : Bool)
  | listContracts
  | database (method : DatabaseMethod) (space table assetId : String) (object : Option Json)

namespace Step

/-- The command of a step. -/
def command : Step → Command
  | .register .. => .register
  | .registerFunction .. => .registerFunction
  | .setCertificate .. => .setCertificate
  | .execute .. => .execute
  | .get .. => .get
  | .put .. => .put
  | .scan .. => .scan
  | .listContracts => .listContracts
  | .database .. => .database

/-- What a step does, in short. -/
def label (step : Step) : String :=
  let verb := step.command.name
  match step with
  | .register id .. => s!"{verb} {id}"
  | .registerFunction id .. => s!"{verb} {id}"
  | .execute id .. => s!"{verb} {id}"
  | .setCertificate identity => s!"{verb} {identity.display}"
  | .get assetId => s!"{verb} {assetId}"
  | .put assetId _ => s!"{verb} {assetId}"
  | .scan assetId .. => s!"{verb} {assetId}"
  | .listContracts => verb
  | .database method space table assetId _ =>
    s!"{verb} {method.name} {space}/{table}/{assetId}"

/-- The file that a step reads. -/
def file? : Step → Option String
  | .register _ _ file _ => some file
  | .registerFunction _ _ file => some file
  | _ => none

/-- An integer field that may be left out. -/
def asBound? : Option Json → Option (Option Int)
  | none => some none
  | some (.int n) => some (some n)
  | some _ => none

/-- The step of a command with the given fields, in order of declaration. -/
def ofFields? : Command → List (Option Json) → Option Step
  | .register, [some (.str id), some (.str name), some (.str file), properties] =>
    some (.register id name file properties)
  | .registerFunction, [some (.str id), some (.str name), some (.str file)] =>
    some (.registerFunction id name file)
  | .setCertificate, [some (.str holderId), some (.int version)] =>
    some (.setCertificate ⟨holderId, Int32.ofInt version⟩)
  | .execute, [some (.str id), argument, functionArgument] =>
    some (.execute id (argument.getD (.obj [])) functionArgument)
  | .get, [some (.str assetId)] => some (.get assetId)
  | .put, [some (.str assetId), some data] => some (.put assetId data)
  | .scan, [some (.str assetId), start, stop, limit, ascending] => do
    let start ← asBound? start
    let stop ← asBound? stop
    let limit ← asBound? limit
    match ascending with
    | none => return .scan assetId start stop limit false
    | some (.bool ascending) => return .scan assetId start stop limit ascending
    | some _ => none
  | .listContracts, [] => some .listContracts
  | .database, [some (.str method), some (.str space), some (.str table), some (.str assetId),
      object] =>
    (DatabaseMethod.all.find? fun m => m.name == method).map fun method =>
      .database method space table assetId object
  | _, _ => none

/-- Reads the name of a command. -/
def readCommand (n : Node) : Except ReadError Command := do
  match ← n.peek with
  | .str name =>
    match Command.ofName? name with
    | some command => return command
    | none => throw (.shape (.unknownVariant name (Command.all.map Command.name)))
  | j => throw (.shape (.wrongType j "variant identifier"))

/-- The key of the command. -/
def commandKey : String := "command"

/-- Reads the entries of a step, and takes the command out of them. -/
def takeCommand (depth : Nat) (found : Option Command) :
    List (Option String × Node) →
      Except ReadError (Option Command × List (Option String × Node))
  | [] => .ok (found, [])
  | (key, node) :: entries => do
    let key ← Node.keyText key
    if key = commandKey then
      if found.isSome then throw (.shape (.duplicateField commandKey))
      else do
        let command ← readCommand node
        takeCommand depth (some command) entries
    else do
      let _ ← node.read depth
      let (command, rest) ← takeCommand depth found entries
      return (command, (some key, node) :: rest)

/-- The step of a command with the given fields. -/
def build (command : Command) (fields : List (Option Json)) : Except ReadError Step :=
  match ofFields? command fields with
  | some step => .ok step
  | none => .error .malformed

/-- Reads a step in array form, after its command. -/
def readItems (depth : Nat) (command : Command) (items : List Node) : Except ReadError Step := do
  let (fields, extra) ← command.record.readItems depth items true
  if extra.isEmpty then build command fields
  else
    let taken := command.record.fields.length
    throw (.shape (.wrongLength items.length (ShapeError.elements taken ++ " in sequence")))

/-- Reads a step, with room for `depth` nested containers. -/
def read (depth : Nat) : Node → Except ReadError Step
  | .seq items closed => do
    let inner ← ReadError.enter depth
    match items with
    | [] => if closed then throw (.shape (.missingField commandKey)) else throw .malformed
    | first :: rest =>
      let command ← readCommand first
      let _ ← Node.readItems inner rest
      if closed then readItems inner command rest else throw .malformed
  | .map entries closed => do
    let inner ← ReadError.enter depth
    let (command, rest) ← takeCommand inner none entries
    if !closed then throw .malformed
    else
      match command with
      | none => throw (.shape (.missingField commandKey))
      | some command => do
        let fields ← command.record.readEntries inner rest true
        build command fields
  | n => do
    let j ← n.peek
    throw (.shape (.wrongType j "internally tagged enum Step"))

end Step

namespace Script

/-- Reads steps one by one. -/
def readSteps (depth : Nat) : List Node → Except ReadError (List Step)
  | [] => .ok []
  | n :: nodes => do
    let step ← Step.read depth n
    let steps ← readSteps depth nodes
    return step :: steps

/-- Reads the tree of a script. -/
def read (depth : Nat) : Node → Except ReadError (List Step)
  | .seq items closed => do
    let inner ← ReadError.enter depth
    let steps ← readSteps inner items
    if closed then return steps else throw .malformed
  | n => do
    let j ← n.peek
    throw (.shape (.wrongType j "a sequence"))

/-- Reads the text of a script. -/
def ofText (text : List Char) : Except ReadError (List Step) := do
  let document := Document.ofText text
  let steps ← read Json.maxDepth document.root
  if document.ends then return steps else throw .malformed

/-- Why a script could not be loaded. -/
inductive LoadError where
  | unreadable (cause : FileError)
  /-- The file holds no text. -/
  | notText
  | refused (error : ReadError)

/-- Loads the script at a path. -/
def load (files : FileReader) (path : String) : Except LoadError (List Step) :=
  match files path with
  | .error cause => .error (.unreadable cause)
  | .ok bytes =>
    match Utf8.decode bytes with
    | .error _ => .error .notText
    | .ok text =>
      match ofText text with
      | .error e => .error (.refused e)
      | .ok steps => .ok steps

/-- The wording of a load error. -/
def LoadError.message (path : String) : LoadError → String
  | .unreadable cause => s!"failed to read script {path}: {cause.message}"
  | .notText => s!"failed to read script {path}: stream did not contain valid UTF-8"
  | .refused .malformed => s!"failed to parse script {path}"
  | .refused (.shape e) => s!"failed to parse script {path}: {e.message}"

end Script

end ContractEmulator
