import ContractEmulator.CommandLine.Request
import ContractEmulator.CommandLine.Style
import ContractEmulator.Log.Filter
import ContractEmulator.Script.Session

/-!
# Reports

What the program answers to a request: what it writes, what it announces, what it complains about,
and how it exits.

* A run stops at the first step that fails and then exits with one.
* A script that cannot be loaded exits with two, like arguments that make no request.
-/

namespace ContractEmulator

/-- What the program complains about. -/
inductive Complaint where
  | notLoaded (script : String) (error : Script.LoadError)
  | stepFailed (error : StepError)
  /-- The arguments make no request. -/
  | badUsage

/-- The answer to a request. -/
structure Report where
  exitCode : UInt8
  output : String
  /-- The announcements that the filter lets through. -/
  events : List Event
  complaint : Option Complaint

/-- What decides about the form of reports. -/
structure Setting where
  colour : Bool
  filter : LogFilter

/-- How the program is used. -/
def Request.usage : String :=
  "Usage: emulator <COMMAND>\n\n" ++
  "Commands:\n" ++
  "  run        Run a JSON batch script of emulator steps\n" ++
  "  contracts  List the contract and function symbols this build can load\n" ++
  "  version    Show version information\n" ++
  "  help       Print this message\n"

namespace Complaint

/-- The wording of a complaint. -/
def message : Complaint → String
  | .notLoaded script error => error.message script
  | .stepFailed error => error.message
  | .badUsage => "unexpected arguments\n\n" ++ Request.usage

/-- A complaint as it is shown. -/
def line (colour : Bool) (message : String) : String :=
  Style.boldRed.paint colour "error:" ++ " " ++ message

end Complaint

namespace Report

/-- The version of the program. -/
def versionNumber : String := "0.1.0"

/-- Lines with their ends. -/
def ofLines (lines : List String) : String := String.join (lines.map fun line => line ++ "\n")

/-- What is written to the error stream: announcements first, then the complaint. -/
def errorLines (setting : Setting) (report : Report) : List String :=
  report.events.map Event.render ++
    report.complaint.toList.map fun c => Complaint.line setting.colour c.message

/-! ## Running scripts -/

/-- What is written about a step. -/
def stepLines (colour : Bool) : Step × Session.StepResult → List String
  | (step, .ok output) =>
    (Style.green.paint colour "✓" ++ " " ++ step.label) :: output.toList.map Json.pretty
  | (step, .error _) => [Style.red.paint colour "✗" ++ " " ++ step.label]

/-- The entry of the step with the given index in a JSON report. -/
def stepEntry (index : Nat) (step : Step) : Session.StepResult → Json
  | .ok output =>
    .ofEntries [("step", .int index), ("command", .str step.command.name), ("ok", .bool true),
      ("output", .ofOption output)]
  | .error e =>
    .ofEntries [("step", .int index), ("command", .str step.command.name), ("ok", .bool false),
      ("error", .str e.message)]

/-- The entries of steps, of which the first has the given index. -/
def stepEntries : Nat → List (Step × Session.StepResult) → List Json
  | _, [] => []
  | index, (step, result) :: results =>
    stepEntry index step result :: stepEntries (index + 1) results

/-- The error of the first step that failed. -/
def failure? (results : List (Step × Session.StepResult)) : Option StepError :=
  results.findSome? fun (_, result) =>
    match result with
    | .ok _ => none
    | .error e => some e

/-- The report about steps that were run. -/
def ofResults (colour asJson : Bool) (results : List (Step × Session.StepResult))
    (events : List Event) : Report :=
  let failure := failure? results
  let exitCode := if failure.isSome then 1 else 0
  if asJson then
    ⟨exitCode, ofLines [(Json.arr (stepEntries 0 results)).pretty], events, none⟩
  else
    let closing :=
      if failure.isSome then []
      else
        [Style.boldGreen.paint colour "ok:" ++ " " ++ toString results.length ++
          " step(s) passed"]
    ⟨exitCode, ofLines (results.flatMap (stepLines colour) ++ closing), events,
      failure.map Complaint.stepFailed⟩

/-- Runs the script at a path. Its files are seen from its directory. -/
def ofScript (setting : Setting) (files : FileReader) (script : String) (asJson : Bool) : Report :=
  match Script.load files script with
  | .error e => ⟨2, "", [], some (.notLoaded script e)⟩
  | .ok steps =>
    let (results, session) := (Session.new (Path.parent script) files).runToFailure steps
    ofResults setting.colour asJson results (session.events.filter setting.filter.admits)

/-- The paths of the files that the steps of a script read. -/
def pathsOf (script : String) (steps : List Step) : List String :=
  (steps.filterMap Step.file?).map (Path.join (Path.parent script))

/-! ## Other requests -/

/-- Lists the symbols that can be loaded. -/
def ofSymbols (setting : Setting) (asJson : Bool) : Report :=
  let (engine, events) := Engine.withBuiltins 0
  let contracts := engine.loader.symbols
  let functions := engine.functions.loader.symbols
  let lines :=
    if asJson then
      [(Json.ofEntries [("contracts", .arr (contracts.map Json.str)),
        ("functions", .arr (functions.map Json.str))]).pretty]
    else
      [Style.bold.paint setting.colour "Contracts"] ++ contracts.map (fun s => "  " ++ s) ++
      [Style.bold.paint setting.colour "Functions"] ++ functions.map (fun s => "  " ++ s)
  ⟨0, ofLines lines, events.filter setting.filter.admits, none⟩

/-- Answers a request. -/
def ofRequest (setting : Setting) (files : FileReader) : Request → Report
  | .run script asJson => ofScript setting files script asJson
  | .symbols asJson => ofSymbols setting asJson
  | .version =>
    ⟨0, ofLines [s!"emulator {versionNumber} (emulator-core {versionNumber})"], [], none⟩
  | .shortVersion => ⟨0, ofLines [s!"emulator {versionNumber}"], [], none⟩
  | .help => ⟨0, Request.usage, [], none⟩

/-- Answers the arguments of the program. -/
def ofArgs (setting : Setting) (files : FileReader) (args : List String) : Report :=
  match Request.ofArgs? args with
  | none => ⟨2, "", [], some .badUsage⟩
  | some request => ofRequest setting files request

end Report

end ContractEmulator
