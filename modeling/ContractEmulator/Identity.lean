import ContractEmulator.Json.Record

/-!
# Certificate identities

A contract learns from the certificate of its caller only the key of that certificate: who holds
it, and which version of it is meant.
-/

namespace ContractEmulator

/-- The key of a certificate. -/
structure Identity where
  holderId : String
  version : Int32
  deriving DecidableEq, Repr

namespace Identity

/-- The identity in force until another one is set. -/
def initial : Identity := ⟨"default_holder_id", 1⟩

/-- The text of an identity. -/
def display (identity : Identity) : String := s!"{identity.holderId}@{identity.version.toInt}"

/-- The stored form, fields in order of declaration. -/
def stored (identity : Identity) : Json :=
  .obj [("holder_id", .str identity.holderId), ("version", .int identity.version.toInt)]

/-- The value that contracts and scripts see. -/
def toJson (identity : Identity) : Json :=
  .ofEntries [("holder_id", .str identity.holderId), ("version", .int identity.version.toInt)]

def record : Record :=
  ⟨"struct CertificateIdentity",
    [.required "holder_id" (.scalar .text), .required "version" (.scalar (.integer .i32))]⟩

def ofFields? : List (Option Json) → Option Identity
  | [some (.str holderId), some (.int version)] => some ⟨holderId, Int32.ofInt version⟩
  | _ => none

/-- Reads the stored form. -/
def ofText (text : List Char) : Except ReadError Identity := record.ofText ofFields? text

end Identity

end ContractEmulator
