import ContractEmulator.Json.Node
import ContractEmulator.Json.Shape

/-!
# Reading values of any shape

* `Node.read` is the value of a tree. Its objects keep their entries as written.
* `Json.ofText` is the canonical value of a text.

At most `maxDepth` containers may be open at a time.
-/

namespace ContractEmulator

/-- How many arrays and objects may be nested. -/
def Json.maxDepth : Nat := 127

/-- Opens one more container. -/
def ReadError.enter : Nat → Except ReadError Nat
  | 0 => .error .malformed
  | depth + 1 => .ok depth

namespace Node

/-- What is seen of a value before its contents are read: a scalar, or an empty container in
place of any container. -/
def peek : Node → Except ReadError Json
  | .broken => .error .malformed
  | .null => .ok .null
  | .bool b => .ok (.bool b)
  | .number literal =>
    match literal.value? with
    | some j => .ok j
    | none => .error .malformed
  | .string (some s) => .ok (.str s)
  | .string none => .error .malformed
  | .seq _ _ => .ok (.arr [])
  | .map _ _ => .ok (.obj [])

/-- A key has to have text. -/
def keyText : Option String → Except ReadError String
  | some key => .ok key
  | none => .error .malformed

mutual

/-- The value of a tree, with room for `depth` nested containers. -/
def read (depth : Nat) : Node → Except ReadError Json
  | .seq items closed =>
    match ReadError.enter depth with
    | .error e => .error e
    | .ok inner =>
      match readItems inner items with
      | .error e => .error e
      | .ok values => if closed then .ok (.arr values) else .error .malformed
  | .map entries closed =>
    match ReadError.enter depth with
    | .error e => .error e
    | .ok inner =>
      match readEntries inner entries with
      | .error e => .error e
      | .ok values => if closed then .ok (.obj values) else .error .malformed
  | .broken => peek .broken
  | .null => peek .null
  | .bool b => peek (.bool b)
  | .number literal => peek (.number literal)
  | .string text => peek (.string text)
  termination_by structural n => n

/-- The values of some items. -/
def readItems (depth : Nat) : List Node → Except ReadError (List Json)
  | [] => .ok []
  | item :: items =>
    match read depth item with
    | .error e => .error e
    | .ok value =>
      match readItems depth items with
      | .error e => .error e
      | .ok values => .ok (value :: values)
  termination_by structural items => items

/-- The values of some entries. -/
def readEntries (depth : Nat) :
    List (Option String × Node) → Except ReadError (List (String × Json))
  | [] => .ok []
  | (key, node) :: entries =>
    match keyText key with
    | .error e => .error e
    | .ok key =>
      match read depth node with
      | .error e => .error e
      | .ok value =>
        match readEntries depth entries with
        | .error e => .error e
        | .ok values => .ok ((key, value) :: values)
  termination_by structural entries => entries

end

end Node

/-- The value of a text, with room for `depth` nested containers. -/
def Json.ofTextWithin (depth : Nat) (text : List Char) : Except ReadError Json := do
  let document := Document.ofText text
  let value ← document.root.read depth
  if document.ends then return value.canonical else throw .malformed

/-- The value of a text. -/
def Json.ofText (text : List Char) : Except ReadError Json := Json.ofTextWithin maxDepth text

end ContractEmulator
