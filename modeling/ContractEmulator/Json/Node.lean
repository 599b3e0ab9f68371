import ContractEmulator.Json.Token

/-!
# JSON texts as trees

A reader that checks types while it reads meets a wrong type before it meets a fault that stands
further on in the text. `Node` is the tree of a text up to its first fault, with the place of the
fault in it, so a walk over the tree from left to right meets both in the order of the text.

* `Document.ofTokens` builds the tree with a stack of open containers, one token at a time.
* `Node.isIntact` says that a subtree holds no fault: what may be skipped unread.
-/

namespace ContractEmulator

/-- The tree of a JSON text. -/
inductive Node where
  /-- The text is at fault here. -/
  | broken
  | null
  | bool (b : Bool)
  | number (literal : NumberLiteral)
  /-- A string, without text if it holds half a surrogate pair. -/
  | string (text : Option String)
  /-- An array; if not `closed`, the text is at fault after the last item. -/
  | seq (items : List Node) (closed : Bool)
  /-- An object; if not `closed`, the text is at fault after the last entry. -/
  | map (entries : List (Option String × Node)) (closed : Bool)
  deriving Inhabited

namespace Node

mutual

/-- No fault in the subtree. -/
def isIntact : Node → Bool
  | .broken => false
  | .null => true
  | .bool _ => true
  | .number _ => true
  | .string _ => true
  | .seq items closed => areIntact items && closed
  | .map entries closed => entriesIntact entries && closed
  termination_by structural n => n

/-- No fault in any item. -/
def areIntact : List Node → Bool
  | [] => true
  | item :: items => isIntact item && areIntact items
  termination_by structural items => items

/-- No fault in any entry. What is skipped may have keys without text. -/
def entriesIntact : List (Option String × Node) → Bool
  | [] => true
  | (_, value) :: entries => isIntact value && entriesIntact entries
  termination_by structural entries => entries

end

/-- The tree of a token that is a whole value. -/
def ofScalar? : Token → Option Node
  | .null => some .null
  | .bool b => some (.bool b)
  | .number literal => some (.number literal)
  | .string text => some (.string text)
  | _ => none

end Node

/-- A text: its tree, and whether nothing but blanks follows it. -/
structure Document where
  root : Node
  ends : Bool

namespace Document

/-- A container that is still open, with what it holds so far in reverse. -/
inductive Frame where
  | seq (done : List Node)
  | map (done : List (Option String × Node))
  /-- An object that waits for the value of `key`. -/
  | field (done : List (Option String × Node)) (key : Option String)

/-- What may come next. -/
inductive Awaited where
  | value
  /-- A first item, or the end of the array. -/
  | firstItem
  /-- A first key, or the end of the object. -/
  | firstKey
  | key
  | colon (key : Option String)
  /-- A comma, or the end of the container. -/
  | separator

/-- Puts a finished value in its place: into the innermost open container, or, if there is none,
at the root. -/
def place (n : Node) : List Frame → Node ⊕ List Frame
  | [] => .inl n
  | .seq done :: frames => .inr (.seq (n :: done) :: frames)
  | .map done :: frames => .inr (.map done :: frames)
  | .field done key :: frames => .inr (.map ((key, n) :: done) :: frames)

/-- The tree of a text that breaks off inside the value `n`. -/
def abandonIn (n : Node) : List Frame → Node
  | [] => n
  | .seq done :: frames => abandonIn (.seq (n :: done).reverse false) frames
  | .map done :: frames => abandonIn (.map done.reverse false) frames
  | .field done key :: frames => abandonIn (.map ((key, n) :: done).reverse false) frames

/-- The tree of a text that breaks off between values. -/
def abandon : List Frame → Node
  | [] => .broken
  | .seq done :: frames => abandonIn (.seq done.reverse false) frames
  | .map done :: frames => abandonIn (.map done.reverse false) frames
  | .field done key :: frames => abandonIn (.map ((key, .broken) :: done).reverse false) frames

/-- The value that a closing bracket or brace finishes, and the containers around it. -/
def close? : Token → List Frame → Option (Node × List Frame)
  | .closeBracket, .seq done :: frames => some (.seq done.reverse true, frames)
  | .closeBrace, .map done :: frames => some (.map done.reverse true, frames)
  | _, _ => none

/-- What a token leads to. -/
inductive Progress where
  /-- More tokens are needed. -/
  | reading (awaited : Awaited) (frames : List Frame)
  /-- The root is complete. -/
  | finished (root : Node)
  /-- The token fits nowhere. -/
  | fault (root : Node)

/-- Goes on after the finished value `n`. -/
def resume (n : Node) (frames : List Frame) : Progress :=
  match place n frames with
  | .inl root => .finished root
  | .inr frames => .reading .separator frames

/-- The tree of a text that breaks off where `awaited` was awaited. -/
def breakOff (frames : List Frame) : Awaited → Node
  | .value => abandonIn .broken frames
  | .colon key =>
    match frames with
    | .map done :: frames => abandon (.field done key :: frames)
    | frames => abandon frames
  | _ => abandon frames

/-- Reads the first token of a value. -/
def stepValue (frames : List Frame) (t : Token) : Progress :=
  match t with
  | .openBracket => .reading .firstItem (.seq [] :: frames)
  | .openBrace => .reading .firstKey (.map [] :: frames)
  | t =>
    match Node.ofScalar? t with
    | some n => resume n frames
    | none => .fault (breakOff frames .value)

/-- Reads a key. -/
def stepKey (frames : List Frame) (t : Token) : Progress :=
  match t with
  | .string key => .reading (.colon key) frames
  | _ => .fault (abandon frames)

/-- Reads what separates two values of a container. -/
def stepSeparator (frames : List Frame) (t : Token) : Progress :=
  match t, frames with
  | .comma, .seq done :: frames => .reading .value (.seq done :: frames)
  | .comma, .map done :: frames => .reading .key (.map done :: frames)
  | _, frames => .fault (abandon frames)

/-- Reads one token. -/
def step (awaited : Awaited) (frames : List Frame) (t : Token) : Progress :=
  match awaited with
  | .value => stepValue frames t
  | .key => stepKey frames t
  | .colon key =>
    match t, frames with
    | .colon, .map done :: frames => .reading .value (.field done key :: frames)
    | _, frames => .fault (breakOff frames (.colon key))
  | .firstItem =>
    match close? t frames with
    | some (n, frames) => resume n frames
    | none => stepValue frames t
  | .firstKey =>
    match close? t frames with
    | some (n, frames) => resume n frames
    | none => stepKey frames t
  | .separator =>
    match close? t frames with
    | some (n, frames) => resume n frames
    | none => stepSeparator frames t

/-- Reads tokens into the open containers. -/
def build (awaited : Awaited) (frames : List Frame) : List Token → Document
  | [] => ⟨breakOff frames awaited, false⟩
  | t :: tokens =>
    match step awaited frames t with
    | .reading awaited frames => build awaited frames tokens
    | .finished root => ⟨root, tokens.isEmpty⟩
    | .fault root => ⟨root, false⟩

/-- The tree of a token list. -/
def ofTokens (tokens : List Token) : Document := build .value [] tokens

/-- The tree of a text. -/
def ofText (text : List Char) : Document := ofTokens (Token.scan text)

end Document

end ContractEmulator
