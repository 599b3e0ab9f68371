import ContractEmulator.Json.Record
import ContractEmulator.Log.Event

/-!
# Ledgers

A ledger keeps every version of an asset that was ever put into it. Versions are numbered from
zero; the number of a version is its age.

`Ledger` says what a contract can do with a ledger. Any type can be one, and a ledger may change
also when it is only read. `LedgerCall` makes one such call a value.
-/

namespace ContractEmulator

/-- One version of an asset. -/
structure Asset where
  id : String
  age : UInt32
  data : Json

namespace Asset

/-- The value that contracts return. -/
def toJson (asset : Asset) : Json :=
  .ofEntries [("asset_id", .str asset.id), ("age", .int asset.age.toNat), ("data", asset.data)]

/-- The stored form. -/
def stored (asset : Asset) : Json :=
  .obj [("id", .str asset.id), ("age", .int asset.age.toNat), ("data", asset.data)]

def record : Record :=
  ⟨"struct Asset",
    [.required "id" (.scalar .text), .required "age" (.scalar (.integer .u32)),
     .required "data" .any]⟩

def ofFields? : List (Option Json) → Option Asset
  | [some (.str id), some (.int age), some data] => some ⟨id, UInt32.ofNat age.toNat, data⟩
  | _ => none

/-- Reads the stored form. -/
def ofText (text : List Char) : Except ReadError Asset := record.ofText ofFields? text

end Asset

/-- The order in which versions are listed. -/
inductive VersionOrder where
  | ascending | descending
  deriving DecidableEq, Repr

/-- Selects versions of one asset. -/
structure AssetFilter where
  id : String
  /-- The least age. -/
  startAge : Option UInt32
  /-- The first age too high. -/
  endAge : Option UInt32
  /-- How many versions are listed at most; zero for all of them. -/
  limit : UInt32
  order : VersionOrder
  deriving DecidableEq, Repr

namespace AssetFilter

/-- All versions of an asset, latest first. -/
def all (id : String) : AssetFilter := ⟨id, none, none, 0, .descending⟩

/-- Whether an age lies within the bounds. -/
def admits (filter : AssetFilter) (age : UInt32) : Bool :=
  (match filter.startAge with
    | some start => decide (start ≤ age)
    | none => true) &&
  (match filter.endAge with
    | some stop => decide (age < stop)
    | none => true)

/-- Brings admitted versions, given with ascending ages, into order and cuts them at the limit. -/
def arrange {α : Type} (filter : AssetFilter) (versions : List α) : List α :=
  let ordered :=
    match filter.order with
    | .ascending => versions
    | .descending => versions.reverse
  if filter.limit = 0 then ordered else ordered.take filter.limit.toNat

end AssetFilter

/-- A call that a ledger can receive. -/
inductive LedgerCall where
  | get (id : String)
  | put (id : String) (data : Json)
  | scan (filter : AssetFilter)

/-- The type of answers to a call. -/
def LedgerCall.Answer : LedgerCall → Type
  | .get _ => Option Asset
  | .put _ _ => Unit
  | .scan _ => List Asset

/-- What a contract can do with a ledger. A write may come with announcements. -/
class Ledger (σ : Type) where
  /-- The latest version of an asset. -/
  get : σ → String → Option Asset × σ
  /-- Appends a version. -/
  put : σ → String → Json → σ × List Event
  /-- Lists versions. -/
  scan : σ → AssetFilter → List Asset × σ

/-- Lets a ledger answer a call: what it says, what becomes of it, and what is announced. -/
def Ledger.answer {σ : Type} [Ledger σ] (ledger : σ) :
    (call : LedgerCall) → call.Answer × σ × List Event
  | .get id =>
    let (asset, ledger) := Ledger.get ledger id
    (asset, ledger, [])
  | .put id data =>
    let (ledger, events) := Ledger.put ledger id data
    ((), ledger, events)
  | .scan filter =>
    let (assets, ledger) := Ledger.scan ledger filter
    (assets, ledger, [])

end ContractEmulator
