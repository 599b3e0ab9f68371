import ContractEmulator.Text.Utf8

/-!
# Failures

What can go wrong, as causes. The wording of each cause is in its `message`.

* `exists_of_bind_eq_ok`: a sequence succeeds if each part of it does.
-/

namespace ContractEmulator

/-- Why a file could not be read. -/
inductive FileError where
  | notFound
  | notADirectory
  | isADirectory
  | nameTooLong
  /-- The path holds a NUL character, which no file name can. -/
  | nulInName
  /-- Anything else, in the words of the system. -/
  | other (text : String)
  deriving DecidableEq, Repr

def FileError.message : FileError → String
  | .notFound => "No such file or directory (os error 2)"
  | .notADirectory => "Not a directory (os error 20)"
  | .isADirectory => "Is a directory (os error 21)"
  | .nameTooLong => "File name too long (os error 36)"
  | .nulInName => "file name contained an unexpected NUL byte"
  | .other text => text

/-- The error of a file system by its number. -/
def FileError.ofNumber (number : Nat) (text : String) : FileError :=
  match number with
  | 2 => .notFound
  | 20 => .notADirectory
  | 21 => .isADirectory
  | 36 => .nameTooLong
  | _ => .other text

/-- The two kinds of logic that can be loaded. -/
inductive LogicKind where
  | contract | function
  deriving DecidableEq, Repr

def LogicKind.noun : LogicKind → String
  | .contract => "contract"
  | .function => "function"

/-- Why code could not be loaded. -/
inductive LoadFault where
  | notText (refusal : Utf8.Refusal)
  | noMarker
  /-- The code names another symbol than it was registered with. -/
  | declares (symbol : String)
  | unknownSymbol (kind : LogicKind) (symbol : String)
  deriving DecidableEq, Repr

def LoadFault.message : LoadFault → String
  | .notText refusal => s!"code is not UTF-8: {refusal.message}"
  | .noMarker => "code does not start with 'native:'"
  | .declares symbol => s!"code declares '{symbol}'"
  | .unknownSymbol kind symbol => s!"unknown {kind.noun} symbol '{symbol}'"

/-- Why an operation of the emulator failed. -/
inductive Failure where
  | missingContract (id : String)
  /-- The file of a registration could not be read. -/
  | unreadable (id : String) (cause : FileError)
  | notLoadable (binaryName : String) (fault : LoadFault)
  /-- An argument is missing or malformed. -/
  | badArgument (text : String)
  /-- Logic refused to go on. -/
  | rejected (text : String)
  | missingFunction (id : String)
  /-- A nested call after the last handle of the emulator was dropped. -/
  | emulatorGone
  deriving DecidableEq, Repr

namespace Failure

/-- The name of the kind of a failure. -/
def kind : Failure → String
  | .missingContract _ => "MissingContract"
  | .unreadable _ _ => "RegistryIo"
  | .notLoadable _ _ => "Transformation"
  | .badArgument _ => "ContractContext"
  | .rejected _ => "Invocation"
  | .missingFunction _ => "MissingFunction"
  | .emulatorGone => "EmulatorUnavailable"

def message : Failure → String
  | .missingContract id => s!"contract '{id}' has not been registered"
  | .unreadable id cause => s!"could not register contract '{id}': {cause.message}"
  | .notLoadable binaryName fault => s!"could not materialize '{binaryName}': {fault.message}"
  | .badArgument text => s!"contract context error: {text}"
  | .rejected text => s!"invocation error: {text}"
  | .missingFunction id => s!"function '{id}' has not been registered"
  | .emulatorGone => "the emulator owning this contract instance is no longer available"

/-- The message, followed by the messages of what caused the failure. -/
def chain : Failure → List String
  | .unreadable id cause => [message (.unreadable id cause), cause.message]
  | f => [f.message]

/-- What succeeds in sequence succeeds in each part. -/
theorem exists_of_bind_eq_ok {α β : Type} {x : Except Failure α} {next : α → Except Failure β}
    {b : β} (h : (x >>= next) = .ok b) : ∃ a, x = .ok a ∧ next a = .ok b := by
  cases x with
  | error f => cases h
  | ok a => exact ⟨a, rfl, h⟩

end Failure

end ContractEmulator
