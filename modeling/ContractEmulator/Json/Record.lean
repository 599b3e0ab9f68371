import ContractEmulator.Json.Reader

/-!
# Records

Objects with named fields of given types. A record may also stand as an array of its fields in
order of declaration.

* `Record.readEntries` reads the object form: in order of the text, every field of the record at
  most once, other keys skipped; then in order of declaration what is missing.
* `Record.readItems` reads the array form, and hands back the items left over.
* `Record.read` reads a record that stands for itself.

All of them give the fields in order of declaration, `none` for a field left out.
-/

namespace ContractEmulator

/-- A type of integers. -/
inductive IntType where
  | i32 | i64 | u8 | u32 | u64
  deriving DecidableEq, Repr

namespace IntType

def name : IntType → String
  | .i32 => "i32"
  | .i64 => "i64"
  | .u8 => "u8"
  | .u32 => "u32"
  | .u64 => "u64"

/-- The least number of the type. -/
def low : IntType → Int
  | .i32 => -0x80000000
  | .i64 => -0x8000000000000000
  | _ => 0

/-- The first number above the type. -/
def bound : IntType → Int
  | .i32 => 0x80000000
  | .i64 => 0x8000000000000000
  | .u8 => 0x100
  | .u32 => 0x100000000
  | .u64 => 0x10000000000000000

end IntType

/-- A type of values without contents. -/
inductive Scalar where
  | text
  | path
  | boolean
  | integer (type : IntType)
  deriving DecidableEq, Repr

namespace Scalar

/-- The type in words. -/
def expected : Scalar → String
  | .text => "a string"
  | .path => "path string"
  | .boolean => "a boolean"
  | .integer type => type.name

/-- Passes on a value of the type. -/
def accept (scalar : Scalar) (j : Json) : Except ShapeError Json :=
  match scalar, j with
  | .text, .str s => .ok (.str s)
  | .path, .str s => .ok (.str s)
  | .boolean, .bool b => .ok (.bool b)
  | .integer type, .int n =>
    if type.low ≤ n ∧ n < type.bound then .ok (.int n)
    else .error (.wrongValue (.int n) type.name)
  | scalar, j => .error (.wrongType j scalar.expected)

end Scalar

/-- The type of a field. -/
inductive FieldType where
  | scalar (type : Scalar)
  /-- An array of bytes. -/
  | bytes
  /-- One of some names, bare or as the only key of an object with an empty value. -/
  | choice (names : List String)
  | any

/-- A field of a record. -/
structure Field where
  name : String
  type : FieldType
  /-- `null` counts as leaving the field out. -/
  nullable : Bool
  /-- The field may be missing from an object. -/
  omissible : Bool
  /-- The field may be missing at the end of an array. -/
  trailing : Bool

namespace Field

/-- A field that must be there. -/
def required (name : String) (type : FieldType) : Field := ⟨name, type, false, false, false⟩

/-- A field that may be left out of either form, or be `null`. -/
def optional (name : String) (type : FieldType) : Field := ⟨name, type, true, true, true⟩

/-- A field that may be left out of either form. -/
def defaulted (name : String) (type : FieldType) : Field := ⟨name, type, false, true, true⟩

end Field

/-- A record type. -/
structure Record where
  /-- What messages call the record. -/
  title : String
  fields : List Field

/-- Turns the refusal of a value into the refusal of its text. -/
def ReadError.ofShape {α : Type} : Except ShapeError α → Except ReadError α
  | .ok a => .ok a
  | .error e => .error (.shape e)

namespace FieldType

/-- Reads an array of bytes. -/
def readBytes : List Node → Except ReadError (List Json)
  | [] => .ok []
  | item :: items => do
    let j ← item.peek
    let byte ← ReadError.ofShape ((Scalar.integer .u8).accept j)
    let bytes ← readBytes items
    return byte :: bytes

/-- One of the given names. -/
def accept (names : List String) (name : String) : Except ReadError Json :=
  if name ∈ names then .ok (.str name) else .error (.shape (.unknownVariant name names))

/-- Reads one of the given names. -/
def readChoice (names : List String) : Node → Except ReadError Json
  | .map [(key, value)] _ => do
    let key ← Node.keyText key
    let name ← accept names key
    match value with
    | .null => return name
    | .map [] _ => return name
    | value => do
      let j ← value.peek
      throw (.shape (.wrongType j "unit"))
  | .map _ _ => .error (.shape (.wrongValue (.obj []) "map with a single key"))
  | n => do
    match ← n.peek with
    | .str s => accept names s
    | j => throw (.shape (.wrongType j "string or map"))

/-- Reads a value of the type, with room for `depth` nested containers. -/
def read (depth : Nat) (type : FieldType) (n : Node) : Except ReadError Json :=
  match type with
  | .scalar s => do
    let j ← n.peek
    ReadError.ofShape (s.accept j)
  | .bytes =>
    match n with
    | .seq items closed => do
      let _ ← ReadError.enter depth
      let bytes ← readBytes items
      if closed then return .arr bytes else throw .malformed
    | n => do
      let j ← n.peek
      throw (.shape (.wrongType j "a sequence"))
  | .choice names => readChoice names n
  | .any => do
    let j ← n.read depth
    return j.canonical

end FieldType

namespace Field

/-- Reads the value of a field. -/
def read (depth : Nat) (field : Field) (n : Node) : Except ReadError (Option Json) :=
  match field.nullable, n with
  | true, .null => .ok none
  | _, n => (field.type.read depth n).map some

end Field

namespace Record

/-- How messages name an array of the fields. -/
def expectedItems (record : Record) : String :=
  record.title ++ " with " ++ ShapeError.elements record.fields.length

/-- Reads fields from items; `index` items were read before. -/
def readFrom (depth : Nat) (expected : String) (closed : Bool) (index : Nat) :
    List Field → List Node → Except ReadError (List (Option Json) × List Node)
  | [], items => .ok ([], items)
  | field :: fields, [] =>
    if !closed then .error .malformed
    else if field.trailing then do
      let (values, items) ← readFrom depth expected closed index fields []
      return (none :: values, items)
    else .error (.shape (.wrongLength index expected))
  | field :: fields, item :: items => do
    let value ← field.read depth item
    let (values, items) ← readFrom depth expected closed (index + 1) fields items
    return (value :: values, items)

/-- Reads the array form: the fields, and the items left over. -/
def readItems (depth : Nat) (record : Record) (items : List Node) (closed : Bool) :
    Except ReadError (List (Option Json) × List Node) :=
  readFrom depth record.expectedItems closed 0 record.fields items

/-- Collects the fields of a record in order of the text. -/
def collect (depth : Nat) (record : Record) (found : List (String × Option Json)) :
    List (Option String × Node) → Except ReadError (List (String × Option Json))
  | [] => .ok found
  | (key, node) :: entries => do
    let key ← Node.keyText key
    match record.fields.find? (·.name == key) with
    | some field =>
      if (found.lookup key).isSome then throw (.shape (.duplicateField key))
      else do
        let value ← field.read depth node
        collect depth record ((key, value) :: found) entries
    | none =>
      if node.isIntact then collect depth record found entries else throw .malformed

/-- Puts collected fields into order of declaration. -/
def arrange (found : List (String × Option Json)) :
    List Field → Except ReadError (List (Option Json))
  | [] => .ok []
  | field :: fields => do
    let value ←
      match found.lookup field.name with
      | some value => pure value
      | none =>
        if field.omissible then pure none
        else throw (ReadError.shape (.missingField field.name))
    let values ← arrange found fields
    return value :: values

/-- Reads the object form. -/
def readEntries (depth : Nat) (record : Record) (entries : List (Option String × Node))
    (closed : Bool) : Except ReadError (List (Option Json)) := do
  let found ← collect depth record [] entries
  if closed then arrange found record.fields else throw .malformed

/-- Reads a record that stands for itself, with room for `depth` nested containers. -/
def read (depth : Nat) (record : Record) : Node → Except ReadError (List (Option Json))
  | .seq items closed => do
    let inner ← ReadError.enter depth
    let (values, extra) ← record.readItems inner items closed
    if extra.isEmpty && closed then return values else throw .malformed
  | .map entries closed => do
    let inner ← ReadError.enter depth
    record.readEntries inner entries closed
  | n => do
    let j ← n.peek
    throw (.shape (.wrongType j record.title))

/-- Reads the text of a record; `build` makes the value of its fields. -/
def ofText {α : Type} (record : Record) (build : List (Option Json) → Option α)
    (text : List Char) : Except ReadError α := do
  let document := Document.ofText text
  let fields ← record.read Json.maxDepth document.root
  match build fields with
  | some a => if document.ends then return a else throw .malformed
  | none => throw .malformed

end Record

end ContractEmulator
