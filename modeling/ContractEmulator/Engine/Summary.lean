import ContractEmulator.Engine.Basic

/-!
# Summaries

One-line descriptions of identities, instances and emulators, for whoever looks at them while
tracking down a fault.
-/

namespace ContractEmulator

/-- A value with named parts. -/
def summaryOf (name : String) (parts : List (String × String)) : String :=
  let parts := parts.map fun (part, value) => part ++ ": " ++ value
  name ++ " \x7b " ++ String.intercalate ", " parts ++ " \x7d"

/-- A truth value in words. -/
def flagText (b : Bool) : String := if b then "true" else "false"

def Identity.summary (identity : Identity) : String :=
  summaryOf "CertificateIdentity"
    [("holder_id", Quoted.encode identity.holderId), ("version", toString identity.version.toInt)]

/-- Every instance is wired, as it can call other contracts of its emulator. -/
def Instance.summary (i : Instance) : String :=
  summaryOf "ContractInstance"
    [("id", Quoted.encode i.id), ("binary_name", Quoted.encode i.binaryName),
     ("is_root", flagText i.isRoot), ("identity", i.caller.summary), ("wired", flagText true)]

def Engine.summary (e : Engine) : String :=
  summaryOf "Emulator"
    [("contracts", toString e.registry.size), ("loaded", toString e.loaded.size),
     ("certificate", e.certificate.summary)]

end ContractEmulator
