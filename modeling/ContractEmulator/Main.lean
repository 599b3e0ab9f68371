import ContractEmulator.CommandLine.Report

/-!
# The program

Reads the files that a request names, answers the request, and writes the answer.
-/

namespace ContractEmulator

/-- Why the system refused a file. -/
def FileError.ofSystem (e : IO.Error) : FileError :=
  let number (code : UInt32) : Nat := Nat.min code.toNat (0 - code).toNat
  match e with
  | .noFileOrDirectory _ code text => .ofNumber (number code) text
  | .inappropriateType _ code text => .ofNumber (number code) text
  | .invalidArgument _ code text => .ofNumber (number code) text
  | .permissionDenied _ code text => .other s!"{text} (os error {number code})"
  | e => .other (toString e)

/-- Reads a file. -/
def readFile (path : String) : IO (Except FileError (List UInt8)) := do
  if '\x00' ∈ path.toList then return .error .nulInName
  try
    let bytes ← IO.FS.readBinFile path
    return .ok bytes.toList
  catch e => return .error (.ofSystem e)

/-- Files that were read, by path. -/
abbrev ReadFiles := List (String × Except FileError (List UInt8))

/-- Looks files up among those that were read. -/
def ReadFiles.reader (files : ReadFiles) : FileReader := fun path =>
  (files.lookup path).getD (.error .notFound)

/-- Reads the files at some paths. -/
def readFiles (paths : List String) : IO ReadFiles :=
  paths.mapM fun path => return (path, ← readFile path)

/-- Reads the files that a request names. -/
def filesOf : Option Request → IO ReadFiles
  | some (.run script _) => do
    let first ← readFiles [script]
    match Script.load (ReadFiles.reader first) script with
    | .error _ => return first
    | .ok steps => return first ++ (← readFiles (Report.pathsOf script steps))
  | _ => return []

/-- Reads what the environment says about the form of reports. -/
def readSetting : IO Setting := do
  let colour := Style.wanted (← IO.getEnv "CLICOLOR_FORCE") (← IO.getEnv "NO_COLOR")
    (← IO.getEnv "CLICOLOR") (← (← IO.getStdout).isTty)
  return ⟨colour, .ofSetting (← IO.getEnv "RUST_LOG")⟩

end ContractEmulator

open ContractEmulator in
def main (args : List String) : IO UInt32 := do
  let setting ← readSetting
  let files ← filesOf (Request.ofArgs? args)
  let report := Report.ofArgs setting (ReadFiles.reader files) args
  for line in report.errorLines setting do
    IO.eprintln line
  IO.print report.output
  return report.exitCode.toUInt32
