/-!
# Requests on the command line

`Request.ofArgs?` reads the arguments of the program from left to right. What is wrong first
decides: a call for help that comes before a mistake is answered, one that comes after it is not.
-/

namespace ContractEmulator

/-- What the user asks for. -/
inductive Request where
  /-- Run the script at a path. -/
  | run (script : String) (asJson : Bool)
  /-- List the known symbols. -/
  | symbols (asJson : Bool)
  | version
  /-- The version of the program alone. -/
  | shortVersion
  | help
  deriving DecidableEq, Repr

/-- What may follow a command. -/
structure CommandShape where
  /-- The command can be asked to write JSON. -/
  hasJson : Bool
  /-- The command takes one operand. -/
  hasOperand : Bool

/-- What followed a command. -/
structure Arguments where
  asJson : Bool
  operand : Option String
  deriving DecidableEq, Repr

namespace Arguments

/-- Takes an operand, which cannot be empty. -/
def addOperand (shape : CommandShape) (found : Arguments) (arg : String) : Option Arguments :=
  if shape.hasOperand && found.operand.isNone && !arg.isEmpty then
    some { found with operand := some arg }
  else none

/-- Takes the option for JSON, which can stand only once. -/
def addJson (shape : CommandShape) (found : Arguments) : Option Arguments :=
  if shape.hasJson && !found.asJson then some { found with asJson := true } else none

/-- Takes operands up to the end. -/
def addOperands (shape : CommandShape) : Arguments → List String → Option Arguments
  | found, [] => some found
  | found, arg :: args => do
    let found ← found.addOperand shape arg
    found.addOperands shape args

end Arguments

namespace Request

/-- Whether an argument stands for a short option, or for several of which it is the first. -/
def startsWithShort (option : Char) (arg : String) : Bool := ['-', option].isPrefixOf arg.toList

/-- An argument that asks for help. -/
def asksForHelp (arg : String) : Bool := arg == "--help" || startsWithShort 'h' arg

/-- An argument that is no operand. A lone hyphen is one. -/
def isOption (arg : String) : Bool := ['-'].isPrefixOf arg.toList && arg != "-"

/-- Reads what follows a command; `none` within `some` for a call for help. -/
def readArguments (shape : CommandShape) :
    Arguments → List String → Option (Option Arguments)
  | found, [] => some (some found)
  | found, arg :: args =>
    if arg == "--" then (found.addOperands shape args).map some
    else if asksForHelp arg then some none
    else if arg == "--json" then do
      let found ← found.addJson shape
      readArguments shape found args
    else if isOption arg then none
    else do
      let found ← found.addOperand shape arg
      readArguments shape found args

/-- Reads what follows a command, and makes a request of it. -/
def ofArguments? (shape : CommandShape) (make : Arguments → Option Request)
    (args : List String) : Option Request := do
  match ← readArguments shape ⟨false, none⟩ args with
  | none => return .help
  | some found => make found

/-- The names of the commands. -/
def commandNames : List String := ["run", "contracts", "version", "help"]

/-- Reads a request; `none` if the arguments make none. -/
def ofArgs? : List String → Option Request
  | [] => none
  | arg :: args =>
    if asksForHelp arg then some .help
    else if arg == "--version" || startsWithShort 'V' arg then some .shortVersion
    else if arg == "run" then
      ofArguments? ⟨true, true⟩
        (fun found => found.operand.map fun script => .run script found.asJson) args
    else if arg == "contracts" then
      ofArguments? ⟨true, false⟩ (fun found => some (.symbols found.asJson)) args
    else if arg == "version" then
      ofArguments? ⟨false, false⟩ (fun _ => some .version) args
    else if arg == "help" then
      match args with
      | [] => some .help
      | [name] => if commandNames.contains name then some .help else none
      | _ => none
    else none

end Request

end ContractEmulator
