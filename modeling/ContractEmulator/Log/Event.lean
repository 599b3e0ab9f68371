import ContractEmulator.Text.Quoted

/-!
# Log events

What the emulator announces while it works: a level, the part that speaks, a message, and named
values. An event is data; which events are shown, and where, is decided elsewhere.
-/

namespace ContractEmulator

/-- How urgent an event is. -/
inductive Level where
  | error | warn | info | debug | trace
  deriving DecidableEq, Repr

namespace Level

/-- How much a filter has to let through to show the level; errors need least. -/
def rank : Level → Nat
  | .error => 1
  | .warn => 2
  | .info => 3
  | .debug => 4
  | .trace => 5

def name : Level → String
  | .error => "ERROR"
  | .warn => "WARN"
  | .info => "INFO"
  | .debug => "DEBUG"
  | .trace => "TRACE"

end Level

/-- The part of the emulator that announces an event. -/
inductive Speaker where
  | engine | functions | ledger | database
  deriving DecidableEq, Repr

/-- The path by which log filters select a speaker. -/
def Speaker.path : Speaker → String
  | .engine => "emulator_core::emulator"
  | .functions => "emulator_core::function"
  | .ledger => "emulator_core::ledger"
  | .database => "emulator_core::database"

/-- A named value of an event. -/
structure EventField where
  name : String
  value : String
  /-- Shown in quotes. -/
  quoted : Bool
  deriving DecidableEq, Repr

/-- An announcement. -/
structure Event where
  level : Level
  speaker : Speaker
  message : String
  fields : List EventField
  deriving DecidableEq, Repr

namespace EventField

/-- A value shown as it is. -/
def plain (name value : String) : EventField := ⟨name, value, false⟩

/-- A value shown in quotes. -/
def text (name value : String) : EventField := ⟨name, value, true⟩

/-- The field in a log line. -/
def render (field : EventField) : String :=
  let value := if field.quoted then Quoted.encode field.value else field.value
  " " ++ field.name ++ "=" ++ value

end EventField

namespace Event

/-- Whether an event has a field. The message is one. -/
def hasField (event : Event) (name : String) : Bool :=
  name == "message" || event.fields.any fun field => field.name == name

/-- The log line of an event: the level, right-aligned to five places, the message, the fields. -/
def render (event : Event) : String :=
  let level := event.level.name
  let padding := String.ofList (List.replicate (5 - level.length) ' ')
  padding ++ level ++ " " ++ event.message ++ String.join (event.fields.map EventField.render)

end Event

end ContractEmulator
