import ContractEmulator.Digest.Sha256
import ContractEmulator.Json.Record
import ContractEmulator.Text.Utf8

/-!
# Stored contracts and functions

What a registration keeps: the code, and for contracts who registered it, when, and with which
properties. The stored forms are records with their fields in order of declaration.
-/

namespace ContractEmulator

/-- A registered contract. -/
structure Artifact where
  id : String
  binaryName : String
  code : List UInt8
  holderId : String
  certVersion : Int32
  properties : Option Json
  /-- Milliseconds since the start of 1970. -/
  registeredAt : UInt64
  signature : List UInt8

/-- A registered function. -/
structure FunctionEntry where
  id : String
  binaryName : String
  code : List UInt8
  registeredAt : UInt64

/-- The bytes of an array of numbers. -/
def Json.toBytes? : List Json → Option (List UInt8)
  | [] => some []
  | .int n :: items => (Json.toBytes? items).map (UInt8.ofNat n.toNat :: ·)
  | _ :: _ => none

namespace Artifact

/-- The artifact of a registration by the emulator itself, which has a fixed registrant and signs
nothing. -/
def emulated (id binaryName : String) (code : List UInt8) (properties : Option Json)
    (registeredAt : UInt64) : Artifact where
  id := id
  binaryName := binaryName
  code := code
  holderId := "holder_id"
  certVersion := 1
  properties := properties
  registeredAt := registeredAt
  signature := Utf8.encode ['s', 'i', 'g', 'n', 'a', 't', 'u', 'r', 'e']

/-- The SHA-256 digest of the code. -/
def digest (artifact : Artifact) : String := Sha256.hexDigest artifact.code

/-- The stored form. -/
def stored (artifact : Artifact) : Json :=
  .obj [("id", .str artifact.id), ("binary_name", .str artifact.binaryName),
    ("code", .ofBytes artifact.code), ("holder_id", .str artifact.holderId),
    ("cert_version", .int artifact.certVersion.toInt),
    ("properties", .ofOption artifact.properties),
    ("registered_at", .int artifact.registeredAt.toNat),
    ("signature", .ofBytes artifact.signature)]

/-- `properties` may be missing from an object, but not from an array. -/
def record : Record :=
  ⟨"struct ContractArtifact",
    [.required "id" (.scalar .text), .required "binary_name" (.scalar .text),
     .required "code" .bytes, .required "holder_id" (.scalar .text),
     .required "cert_version" (.scalar (.integer .i32)),
     ⟨"properties", .any, true, true, false⟩,
     .required "registered_at" (.scalar (.integer .u64)), .required "signature" .bytes]⟩

def ofFields? : List (Option Json) → Option Artifact
  | [some (.str id), some (.str binaryName), some (.arr code), some (.str holderId),
     some (.int certVersion), properties, some (.int registeredAt), some (.arr signature)] => do
    let code ← Json.toBytes? code
    let signature ← Json.toBytes? signature
    return ⟨id, binaryName, code, holderId, Int32.ofInt certVersion, properties,
      UInt64.ofNat registeredAt.toNat, signature⟩
  | _ => none

/-- Reads the stored form. -/
def ofText (text : List Char) : Except ReadError Artifact := record.ofText ofFields? text

end Artifact

namespace FunctionEntry

/-- The stored form. -/
def stored (entry : FunctionEntry) : Json :=
  .obj [("id", .str entry.id), ("binary_name", .str entry.binaryName),
    ("code", .ofBytes entry.code), ("registered_at", .int entry.registeredAt.toNat)]

def record : Record :=
  ⟨"struct FunctionEntry",
    [.required "id" (.scalar .text), .required "binary_name" (.scalar .text),
     .required "code" .bytes, .required "registered_at" (.scalar (.integer .u64))]⟩

def ofFields? : List (Option Json) → Option FunctionEntry
  | [some (.str id), some (.str binaryName), some (.arr code), some (.int registeredAt)] => do
    let code ← Json.toBytes? code
    return ⟨id, binaryName, code, UInt64.ofNat registeredAt.toNat⟩
  | _ => none

/-- Reads the stored form. -/
def ofText (text : List Char) : Except ReadError FunctionEntry := record.ofText ofFields? text

end FunctionEntry

end ContractEmulator
