import ContractEmulator.Log.Event
import ContractEmulator.Log.FieldValue
import ContractEmulator.Text.Blank
import ContractEmulator.Text.Bytes

/-!
# Log filters

A filter is a list of directives, separated by commas: a level for all parts of the emulator, or
the start of a path with a level for the parts below it. A part in brackets restricts a directive
to events with a field, as in `path[{field}]=level`. Of the directives that apply to an event
the most specific one decides.

* `Directive.parse?` reads one directive. Its parts are found in the text without the blanks around it,
  and taken from the text with them, at the same places.
* `LogFilter.decisive?` picks the directive that decides about an event.
-/

namespace ContractEmulator

/-- Lets events up to a rank through, of the speakers whose path starts with `path` and with the
field `field`. -/
structure Directive where
  path : Option String
  field : Option String
  rank : Nat
  deriving DecidableEq, Repr

namespace Directive

/-! ## Levels -/

/-- The number that digits stand for, with or without a plus sign before them. -/
def number? (word : List Char) : Option Nat :=
  let digits :=
    match word with
    | '+' :: digits => digits
    | digits => digits
  if digits.isEmpty || !digits.all Char.isDigit then none
  else some (digits.foldl (fun n c => 10 * n + (c.toNat - '0'.toNat)) 0)

/-- The rank that a word names, in any case of letters, or that a number from 0 to 5 is. -/
def rank? (word : List Char) : Option Nat :=
  match number? word with
  | some n => if n ≤ 5 then some n else none
  | none =>
    [("off", 0), ("error", 1), ("warn", 2), ("info", 3), ("debug", 4), ("trace", 5)].lookup
      (String.ofList (word.map Char.toLower))

/-- The rank after an equals sign. If there is none, everything is let through. -/
def rankAfter? (word : List Char) : Option Nat := if word.isEmpty then some 5 else rank? word

/-! ## Reading a directive -/

/-- The characters with which a path can start. -/
def startsPath (c : Char) : Bool :=
  c == '_' || c == ':' || c == '-' || Alphanumeric.isAlphanumeric c

/-- The characters of a path. -/
def inPath (c : Char) : Bool := c != '=' && c != '['

/-- The characters of a span's name in brackets. -/
def inSpan (c : Char) : Bool := c != ']' && c != '\x7b'

/-- Which events a part in brackets selects. -/
inductive Restriction where
  /-- Events with a field. -/
  | field (name : String)
  /-- Events inside of certain spans. The emulator has no spans, so there are no such events. -/
  | spans
  deriving DecidableEq, Repr

/-- Reads the field in a part in brackets that names the span `span`. A value selects spans, as
the name of one does. -/
def restriction? (span field : List Char) : Option Restriction :=
  if field.isEmpty then none
  else
    match field.dropWhile (· != '=') with
    | [] => some (if span.isEmpty then .field (String.ofList field) else .spans)
    | _ :: value => if FieldValue.isValue (value.takeWhile (· != '=')) then some .spans else none

/-- The directive with a path, a part in brackets and a rank. Nothing is left of one about spans. -/
def restricted (path : Option String) (rank : Nat) : Restriction → Option Directive
  | .field name => some ⟨path, some name, rank⟩
  | .spans => none

/-- The piece of a text from the place `start` on that is as long as `part`. -/
def pieceAt (text : List Char) (start : Nat) (part : List Char) : List Char :=
  Bytes.takeTo (Bytes.byteLength part) (Bytes.dropTo start text)

/-- The rank of a directive in `text`, from what follows the brackets at the place `start`. -/
def rankFrom? (text : List Char) (start : Nat) (rest : List Char) : Option Nat :=
  match rest with
  | [] => some 5
  | '=' :: _ => rankAfter? (Bytes.dropTo (start + 1) text)
  | _ => none

/-- Reads a directive in `text` from a part in brackets on, of which the opening bracket ends at
the place `start` and `part` follows. The outer `none` refuses it, the inner one stands for a
directive without an effect. -/
def bracketed? (text : List Char) (path : Option String) (start : Nat) (part : List Char) :
    Option (Option Directive) :=
  let span := part.takeWhile inSpan
  let fieldStart := start + Bytes.byteLength span + 1
  match part.dropWhile inSpan with
  | ']' :: rest => (rankFrom? text fieldStart rest).map fun _ => none
  | _ :: fields =>
    let field := fields.takeWhile (· != '\x7d')
    match fields.dropWhile (· != '\x7d') with
    | _ :: ']' :: rest => do
      let kind ← restriction? span (pieceAt text fieldStart field)
      let rank ← rankFrom? text (fieldStart + Bytes.byteLength field + 2) rest
      return restricted path rank kind
    | _ => none
  | [] => none

/-- Reads a directive that is one word: a level, or a path with everything below it. -/
def word (text : List Char) : Directive :=
  match rank? text with
  | some rank => ⟨none, none, rank⟩
  | none => ⟨some (String.ofList text), none, 5⟩

/-- Reads one directive. The outer `none` refuses it, the inner one stands for a directive without
an effect. -/
def parse? (text : List Char) : Option (Option Directive) :=
  match Blank.trim text with
  | [] => none
  | '[' :: part => bracketed? text none 1 part
  | first :: others =>
    if !startsPath first then none
    else
      let path := (first :: others).takeWhile inPath
      let written := String.ofList (pieceAt text 0 path)
      let next := Bytes.byteLength path + 1
      match (first :: others).dropWhile inPath with
      | [] => some (some (word text))
      | '=' :: _ =>
        (rankAfter? (Bytes.dropTo next text)).map fun rank => some ⟨some written, none, rank⟩
      | _ :: part => bracketed? text (some written) next part

/-! ## What a directive applies to -/

/-- Whether a directive applies to an event. -/
def applies (d : Directive) (event : Event) : Bool :=
  (d.path.all fun path => path.toList.isPrefixOf event.speaker.path.toList)
    && d.field.all event.hasField

/-- The length of a directive's path; one without a path comes before all others. -/
def weight (d : Directive) : Nat :=
  match d.path with
  | none => 0
  | some path => path.utf8ByteSize + 1

/-- Whether the directive `b`, which comes later, is at least as specific as `a`: its path is
longer, or as long and its field is the same or comes later in the order of names. A directive
without a field comes first. -/
def yields (a b : Directive) : Bool :=
  a.weight < b.weight
    || a.weight == b.weight &&
      match a.field, b.field with
      | none, _ => true
      | some _, none => false
      | some x, some y => x ≤ y

end Directive

/-- A list of directives. -/
structure LogFilter where
  directives : List Directive
  deriving DecidableEq, Repr

namespace LogFilter

/-- The parts of a text between commas. -/
def splitCommas : List Char → List (List Char)
  | [] => [[]]
  | ',' :: rest => [] :: splitCommas rest
  | c :: rest =>
    match splitCommas rest with
    | [] => [[c]]
    | part :: parts => (c :: part) :: parts

/-- Reads a filter; `none` if one of its directives is none. A filter without directives lets
errors through. -/
def parse? (text : List Char) : Option LogFilter := do
  let parts := (splitCommas text).filter fun part => !part.isEmpty
  let directives ← parts.mapM Directive.parse?
  if directives.isEmpty then return ⟨[⟨none, none, 1⟩]⟩ else return ⟨directives.filterMap id⟩

/-- The filter that lets warnings and errors through. -/
def warnings : LogFilter := ⟨[⟨none, none, 2⟩]⟩

/-- The filter of a setting; warnings if there is none or it cannot be read. -/
def ofSetting (setting : Option String) : LogFilter :=
  ((setting.map String.toList).bind parse?).getD warnings

/-- The directive that decides about an event; of two with the same path and field the later
one. -/
def decisive? (filter : LogFilter) (event : Event) : Option Directive :=
  (filter.directives.filter (·.applies event)).foldl
    (fun best d =>
      match best with
      | none => some d
      | some b => if b.yields d then some d else some b)
    none

/-- Whether an event is let through. -/
def admits (filter : LogFilter) (event : Event) : Bool :=
  (filter.decisive? event).any fun d => event.level.rank ≤ d.rank

end LogFilter

end ContractEmulator
