import ContractEmulator.Contract.Builtin
import ContractEmulator.Text.Hex

/-!
# Sample contracts

Contracts that show what an emulator does with them.

* `echo`, `reject`, `counter`: an argument returned, a call refused, calls counted.
* `recursive` calls itself and reports the role of each call.
* `probe` runs a list of small steps given in its argument and reports what it saw.
* `sandbox` calls `probe` on a ledger that it has made.
-/

namespace ContractEmulator.SampleContract

/-- Returns its argument. -/
def echo : ContractLogic := fun argument _ => return some argument

/-- Refuses every call. -/
def reject : ContractLogic := fun argument _ =>
  throw (.rejected ("rejected " ++ ((argument.get? "asset_id").bind Json.asStr?).getD ""))

/-- Counts the calls of its instance. -/
def counter : ContractLogic := fun _ _ => do
  let calls := ((← ContractM.memory).asNat?.getD 0) + 1
  ContractM.remember (.int calls)
  return some (.ofEntries [("calls", .int calls)])

/-- The items under a key. -/
def itemsAt (j : Option Json) (name : String) : List Json :=
  ((j.bind (Json.get? name)).bind Json.asArr?).getD []

/-- Calls itself until `depth` reaches zero, and returns the roles of all calls. -/
def recursive : ContractLogic := fun argument _ => do
  let context ← ContractM.context
  let depth := ((argument.get? "depth").bind Json.asNat?).getD 0
  let own := [Json.bool context.isRoot]
  if depth = 0 then
    return some (.ofEntries [("roles", .arr own)])
  else do
    let inner ← ContractM.call context.contractId (.ofEntries [("depth", .int (depth - 1 : Nat))])
    return some (.ofEntries [("roles", .arr (own ++ itemsAt inner "roles"))])

/-! ## Probing -/

/-- An optional value as an array of at most one item. -/
def optional : Option Json → Json
  | some j => .arr [j]
  | none => .arr []

/-- A failure as a value. -/
def failureValue (f : Failure) : Json :=
  .ofEntries [("error", .str f.kind), ("message", .str f.message)]

/-- What a call sees of its role and its caller. -/
def roleValue (context : CallContext) : Json :=
  .ofEntries [("is_root", .bool context.isRoot), ("certificate", context.certificate.toJson)]

/-- The string under a key. -/
def textAt (j : Json) (name : String) : String := ((j.get? name).bind Json.asStr?).getD ""

/-- The value under a key, `null` if there is none. -/
def valueAt (j : Json) (name : String) : Json := (j.get? name).getD .null

/-- The bytes that an object describes: a text, hexadecimal digits, or a text repeated. -/
def bytesOf (j : Json) : List UInt8 :=
  match (j.get? "code").bind Json.asStr?, (j.get? "hex").bind Json.asStr? with
  | some text, _ => Utf8.encode text.toList
  | none, some digits => (Hex.toBytes? digits.toList).getD []
  | none, none =>
    let part := Utf8.encode (textAt j "repeat").toList
    (List.replicate (((j.get? "times").bind Json.asNat?).getD 0) part).flatten

/-- The artifact that an object describes. -/
def artifactOf (j : Json) : Artifact :=
  .emulated (textAt j "id") (textAt j "name") (bytesOf j) (j.get? "properties") 0

/-- The value `j` if a request was granted. -/
def requested (j : Json) : Except Failure Unit → ContractM Json
  | .ok () => return j
  | .error f => throw f

/-- One step of a probe; `none` ends it without a value. -/
def probeStep (verb : String) (detail : Json) : ContractM (Option Json) := do
  if verb = "call" then
    return some (optional (← ContractM.call (textAt detail "id") (valueAt detail "arg")))
  else if verb = "try" then
    match ← ContractM.attempt (textAt detail "id") (valueAt detail "arg") with
    | .ok result => return some (optional result)
    | .error f => return some (failureValue f)
  else if verb = "who" then
    return some (roleValue (← ContractM.context))
  else if verb = "fail" then
    throw (.rejected (detail.asStr?.getD ""))
  else if verb = "get" then
    return some (optional ((← ContractM.get (detail.asStr?.getD "")).map Asset.toJson))
  else if verb = "put" then
    ContractM.put (textAt detail "asset_id") (valueAt detail "data")
    return some (.str "ok")
  else if verb = "identity" then
    match detail with
    | .arr [.str holder, .int version] =>
      return some (← requested (.str "ok")
        (← ContractM.ask (.setCertificate ⟨holder, Int32.ofInt version⟩)))
    | _ => return some .null
  else if verb = "restamp" then
    match ← ContractM.ask (.fetch (detail.asStr?.getD "")) with
    | .ok stamp => return some (.bool stamp.isRoot)
    | .error f => return some (failureValue f)
  else if verb = "register" then
    return some (← requested (.str "ok") (← ContractM.ask (.register (artifactOf detail))))
  else return none

/-- The results of some steps; `none` if one of them ended the probe without a value. -/
def probeSteps : List Json → ContractM (Option (List Json))
  | [] => return some []
  | .obj ((verb, detail) :: _) :: steps => do
    match ← probeStep verb detail with
    | none => return none
    | some result =>
      match ← probeSteps steps with
      | none => return none
      | some results => return some (result :: results)
  | _ :: _ => return none

/-- Reports its call, and what the steps under `do` gave. -/
def probe : ContractLogic := fun argument properties => do
  let context ← ContractM.context
  match ← probeSteps (itemsAt (some argument) "do") with
  | none => return none
  | some results =>
    return some (.ofEntries [("id", .str context.contractId), ("is_root", .bool context.isRoot),
      ("certificate", context.certificate.toJson), ("properties", optional properties),
      ("steps", .arr results)])

/-! ## Made ledgers -/

/-- A ledger that keeps writes back and counts them. What is read, the ledger below answers. -/
def withholding : MadeLedger where
  state := .int 0
  answer state
    | .put _ _ => return ((), .int (state.asNat?.getD 0 + 1 : Nat))
    | call => do
      let reply ← Program.query call
      return (reply, state)

/-- Writes, calls `probe` on a ledger that keeps writes back, and reads. Reports how many writes
were kept back, and what it read. -/
def sandbox : ContractLogic := fun argument _ => do
  ContractM.put "a" (.bool true)
  let (_, count) ← ContractM.attemptOn withholding "probe" argument
  let latest ← ContractM.get "a"
  return some (.ofEntries [("kept_back", count), ("latest", optional (latest.map Asset.toJson))])

/-- A sample or built-in contract by name. -/
def named? (name : String) : Option ContractLogic :=
  [("Get", BuiltinContract.get), ("Put", BuiltinContract.put), ("Scan", BuiltinContract.scan),
   ("Echo", echo), ("Reject", reject), ("Counter", counter), ("Recursive", recursive),
   ("Probe", probe)].lookup name

/-- The symbols under which the samples are known. -/
def symbols : List (String × ContractLogic) :=
  [("test.Echo", echo), ("test.Reject", reject), ("test.Counter", counter),
   ("test.Recursive", recursive), ("test.Probe", probe)]

end ContractEmulator.SampleContract
