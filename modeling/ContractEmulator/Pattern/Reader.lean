import ContractEmulator.Pattern.Basic
import ContractEmulator.Text.Alphanumeric
import ContractEmulator.Text.Blank
import ContractEmulator.Text.Hex

/-!
# Reading patterns

* `skip` passes over blanks and comments where the flag `x` allows them.
* `escape?` reads what follows a backslash, `classFrom?` a class in brackets, `opening?` the head
  of a group.
* `Pattern.ofText?` reads a whole pattern. There are no counts in braces: a closing brace ends the
  text in which a pattern stands.
-/

namespace ContractEmulator.PatternReader

/-! ## Blanks -/

/-- The text after blanks and comments. A comment runs from `#` to the end of the line. -/
def skipBlank : Bool → List Char → List Char
  | _, [] => []
  | inComment, c :: rest =>
    if inComment then skipBlank (c != '\n') rest
    else if c == '#' then skipBlank true rest
    else if Blank.isBlank c then skipBlank false rest
    else c :: rest

/-- The text after blanks and comments, if they are passed over. -/
def skip (spaced : Bool) (text : List Char) : List Char :=
  if spaced then skipBlank false text else text

theorem skipBlank_length (inComment : Bool) (text : List Char) :
    (skipBlank inComment text).length ≤ text.length := by
  induction text generalizing inComment with
  | nil => simp [skipBlank]
  | cons c rest ih =>
    unfold skipBlank
    have := ih (c != '\n')
    have := ih true
    have := ih false
    split
    · simp only [List.length_cons]; omega
    split
    · simp only [List.length_cons]; omega
    split
    · simp only [List.length_cons]; omega
    · simp

theorem skip_length (spaced : Bool) (text : List Char) : (skip spaced text).length ≤ text.length := by
  unfold skip
  split
  · exact skipBlank_length false text
  · exact Nat.le_refl _

/-- The next character after blanks. Of a comment only the mark is passed over. -/
def peekPast : Bool → List Char → Option Char
  | _, [] => none
  | marked, c :: rest =>
    if Blank.isBlank c then peekPast marked rest
    else if c == '#' && !marked then peekPast true rest
    else some c

/-- The next character, after blanks if they are passed over. -/
def peek? (spaced : Bool) (text : List Char) : Option Char :=
  if spaced then peekPast false text else text.head?

/-! ## Escapes -/

/-- What follows a backslash. -/
inductive Escape where
  | char (c : PatternChar)
  | letters (inverted : Bool)
  | edge
  | wordEdge
  deriving DecidableEq, Repr

/-- How many hexadecimal digits follow a letter. -/
def hexWidth? : Char → Option Nat
  | 'x' => some 2
  | 'u' => some 4
  | 'U' => some 8
  | _ => none

/-- The value of as many hexadecimal digits as are left, after those with the value `value`. -/
def hexDigits? (spaced : Bool) : Nat → Nat → List Char → Option (Nat × List Char)
  | 0, value, text => some (value, text)
  | _ + 1, _, [] => none
  | left + 1, value, c :: rest => do
    let digit ← Hex.digit? c
    hexDigits? spaced left (16 * value + digit) (skip spaced rest)

/-- What one letter or mark means after a backslash. There are no numbers of groups and no
properties of characters. -/
def escapeOf? (c : Char) : Option Escape :=
  match c with
  | 'd' | 's' | 'w' => some (.letters false)
  | 'D' | 'S' | 'W' => some (.letters true)
  | 'A' | 'z' => some .edge
  | 'b' | 'B' | '<' | '>' => some .wordEdge
  | 'a' => some (.char ⟨'\x07', false⟩)
  | 'f' => some (.char ⟨'\x0c', false⟩)
  | 't' => some (.char ⟨'\t', false⟩)
  | 'n' => some (.char ⟨'\n', false⟩)
  | 'r' => some (.char ⟨'\r', false⟩)
  | 'v' => some (.char ⟨'\x0b', false⟩)
  | c => if 0x80 ≤ c.toNat || c.isAlphanum then none else some (.char ⟨c, false⟩)

/-- Reads what follows a backslash. -/
def escape? (spaced : Bool) : List Char → Option (Escape × List Char)
  | [] => none
  | c :: rest =>
    match hexWidth? c with
    | some width => do
      let (value, rest) ← hexDigits? spaced width 0 (skip spaced rest)
      if value.isValidChar then return (.char ⟨Char.ofNat value, width == 2⟩, rest) else none
    | none => (escapeOf? c).map fun escape => (escape, rest)

/-! ## Classes -/

/-- Reads a member of a class, or an end of a range. -/
def member? (spaced : Bool) : List Char → Option (Escape × List Char)
  | [] => none
  | '\\' :: rest => escape? spaced rest
  | c :: rest => some (.char ⟨c, false⟩, rest)

/-- A member of a class by itself. Edges are none. -/
def single? : Escape → Option CharClass
  | .char c => some (.char c)
  | .letters inverted => some (.letters inverted)
  | .edge => none
  | .wordEdge => none

/-- The members from one character to another. -/
def range? (low high : Escape) : Option CharClass :=
  match low, high with
  | .char low, .char high => if low.char ≤ high.char then some (.range low high) else none
  | _, _ => none

/-- Reads a member of a class or a range. A dash before the end of the class or before another
dash makes no range. -/
def members? (spaced : Bool) (text : List Char) : Option (CharClass × List Char) := do
  let (low, rest) ← member? spaced text
  match skip spaced rest with
  | [] => none
  | '-' :: after =>
    let next := peek? spaced after
    if next == some ']' || next == some '-' then return (← single? low, '-' :: after)
    else
      let (high, rest) ← member? spaced (skip spaced after)
      return (← range? low high, rest)
  | rest => return (← single? low, rest)

/-- The names of classes in colons. -/
def classNames : List String :=
  ["alnum", "alpha", "ascii", "blank", "cntrl", "digit", "graph", "lower", "print", "punct",
   "space", "upper", "word", "xdigit"]

/-- Reads a class in colons, of which the opening bracket was read. -/
def namedClass? (text : List Char) : Option (CharClass × List Char) :=
  match text with
  | ':' :: rest =>
    let (inverted, rest) :=
      match rest with
      | '^' :: rest => (true, rest)
      | rest => (false, rest)
    match rest.dropWhile (· != ':') with
    | ':' :: ']' :: after =>
      if classNames.contains (String.ofList (rest.takeWhile (· != ':'))) then
        some (.named inverted, after)
      else none
    | _ => none
  | _ => none

/-- The dashes at the start of a class, and the text after them. -/
def leadingDashes (spaced : Bool) (text : List Char) : List CharClass × List Char :=
  match text with
  | '-' :: rest =>
    let (dashes, rest) := leadingDashes spaced (skip spaced rest)
    (.char ⟨'-', false⟩ :: dashes, rest)
  | rest => ([], rest)
  termination_by text.length
  decreasing_by exact Nat.lt_succ_of_le (skip_length spaced rest)

/-- The start of a class after its opening bracket: whether it is inverted, and the dashes or the
closing bracket that stand for themselves there. -/
def classOpening (spaced : Bool) (text : List Char) : Bool × List CharClass × List Char :=
  let (inverted, text) :=
    match skip spaced text with
    | '^' :: rest => (true, skip spaced rest)
    | text => (false, text)
  match leadingDashes spaced text with
  | ([], ']' :: rest) => (inverted, [.char ⟨']', false⟩], skip spaced rest)
  | (dashes, rest) => (inverted, dashes, rest)

/-- A piece of a class. -/
inductive ClassPiece where
  | members (part : CharClass)
  | operator
  | opened (inverted : Bool) (members : List CharClass)
  | closed

/-- Reads a piece of a class. -/
def classPiece? (spaced : Bool) (text : List Char) : Option (ClassPiece × List Char) :=
  match skip spaced text with
  | [] => none
  | '[' :: rest =>
    match namedClass? rest with
    | some (part, rest) => some (.members part, rest)
    | none =>
      let (inverted, members, rest) := classOpening spaced rest
      some (.opened inverted members, rest)
  | ']' :: rest => some (.closed, rest)
  | '&' :: '&' :: rest => some (.operator, rest)
  | '-' :: '-' :: rest => some (.operator, rest)
  | '~' :: '~' :: rest => some (.operator, rest)
  | text => (members? spaced text).map fun (part, rest) => (.members part, rest)

/-- The class of the members read last and what stands at the left of the operator before them. -/
def operands (left : Option CharClass) (members : List CharClass) : CharClass :=
  let right := CharClass.ofParts members.reverse
  match left with
  | none => right
  | some left => .operation left right

/-- Reads a class to its closing bracket. `left` stands at the left of the last operator, and
`members` were read after it, the latest first. -/
def classFrom? (spaced : Bool) (left : Option CharClass) (members : List CharClass)
    (text : List Char) : Option (CharClass × List Char) :=
  match classPiece? spaced text with
  | none => none
  | some (piece, rest) =>
    if _h : rest.length < text.length then
      match piece with
      | .closed => some (operands left members, rest)
      | .members part => classFrom? spaced left (part :: members) rest
      | .operator => classFrom? spaced (some (operands left members)) [] rest
      | .opened inverted first =>
        match classFrom? spaced none first.reverse rest with
        | none => none
        | some (inner, after) =>
          if _h : after.length < rest.length then
            classFrom? spaced left (.brackets inverted inner :: members) after
          else none
    else none
  termination_by text.length

/-- Reads a class after its opening bracket. -/
def class? (spaced : Bool) (text : List Char) : Option (Pattern × List Char) := do
  let (inverted, first, rest) := classOpening spaced text
  let (members, rest) ← classFrom? spaced none first.reverse rest
  return (.brackets inverted members, rest)

/-! ## Groups -/

/-- The head of a group. -/
inductive Opening where
  /-- Flags for what follows, without a group. -/
  | flags (change : FlagChange)
  | group (change : FlagChange) (name : Option String)
  deriving DecidableEq, Repr

/-- A name of a group. -/
def isGroupName : List Char → Bool
  | [] => false
  | c :: rest =>
    (c == '_' || Alphanumeric.isLetter c)
      && rest.all fun c => ['_', '.', '[', ']'].contains c || Alphanumeric.isAlphanumeric c

/-- Reads the name of a group. -/
def groupName? (text : List Char) : Option (Opening × List Char) :=
  let name := text.takeWhile (· != '>')
  match text.dropWhile (· != '>') with
  | [] => none
  | _ :: rest =>
    if isGroupName name then some (.group .none (some (String.ofList name)), rest) else none

/-- Reads flags up to a colon, which opens a group, or a closing parenthesis. `off` are the flags
after a minus sign. -/
def flags? (on : List Char) (off : Option (List Char)) : List Char → Option (Opening × List Char)
  | [] => none
  | c :: rest =>
    let change : FlagChange := ⟨on, off.getD []⟩
    if c = ':' ∨ c = ')' then
      if off = some [] ∨ c = ')' ∧ on = [] ∧ off = none then none
      else if c = ':' then some (.group change none, rest)
      else some (.flags change, rest)
    else if c = '-' then
      match off with
      | none => flags? on (some []) rest
      | some _ => none
    else if ['i', 'm', 's', 'U', 'u', 'R', 'x'].contains c && !(on ++ off.getD []).contains c then
      match off with
      | none => flags? (c :: on) none rest
      | some off => flags? on (some (c :: off)) rest
    else none

/-- Reads the head of a group after its opening parenthesis. -/
def opening? (spaced : Bool) (text : List Char) : Option (Opening × List Char) :=
  match skip spaced text with
  | '?' :: 'P' :: '<' :: rest => groupName? rest
  | '?' :: '<' :: rest => groupName? rest
  | '?' :: rest => flags? [] none rest
  | rest => some (.group .none none, rest)

/-! ## Whole patterns -/

/-- The alternatives of a choice that were read, the latest first, and the parts of the one that is
being read, the latest first. -/
structure Level where
  choices : List Pattern
  parts : List Pattern

namespace Level

def empty : Level := ⟨[], []⟩

def add (level : Level) (part : Pattern) : Level := { level with parts := part :: level.parts }

/-- Starts the next alternative. -/
def next (level : Level) : Level := ⟨Pattern.ofParts level.parts.reverse :: level.choices, []⟩

/-- The pattern of a level. -/
def close (level : Level) : Pattern :=
  let last := Pattern.ofParts level.parts.reverse
  match level.choices with
  | [] => last
  | choices => .choice (last :: choices).reverse

end Level

/-- An open group. -/
structure Frame where
  outer : Level
  spaced : Bool
  change : FlagChange

/-- What was read of a pattern. -/
structure State where
  names : List String
  spaced : Bool
  frames : List Frame
  level : Level

namespace State

def initial : State := ⟨[], false, [], .empty⟩

def add (state : State) (part : Pattern) : State := { state with level := state.level.add part }

/-- Opens a group, or sets flags. Names of groups are used once. -/
def open? (state : State) : Opening → Option State
  | .flags change =>
    some { state.add (.flags change) with spaced := change.apply 'x' state.spaced }
  | .group change name =>
    if name.any state.names.contains then none
    else
      some ⟨name.toList ++ state.names, change.apply 'x' state.spaced,
        ⟨state.level, state.spaced, change⟩ :: state.frames, .empty⟩

/-- Closes a group. -/
def close? (state : State) : Option State :=
  match state.frames with
  | [] => none
  | frame :: frames =>
    some ⟨state.names, frame.spaced, frames,
      frame.outer.add (.group frame.change state.level.close)⟩

/-- Repeats the last part. -/
def repeat? (state : State) : Option State :=
  match state.level.parts with
  | part :: parts =>
    if part.isRepeatable then
      some { state with level := ⟨state.level.choices, .repetition part :: parts⟩ }
    else none
  | [] => none

/-- The pattern of what an escape stands for. -/
def ofEscape : Escape → Pattern
  | .char c => .char c
  | .letters inverted => .letters inverted
  | .edge => .edge
  | .wordEdge => .wordEdge

/-- Reads on from the character `c`. A question mark right after a repetition belongs to it. -/
def step? (state : State) (c : Char) (rest : List Char) : Option (State × List Char) :=
  match c with
  | '(' => do
    let (opening, rest) ← opening? state.spaced rest
    return (← state.open? opening, rest)
  | ')' => state.close?.map fun state => (state, rest)
  | '|' => some ({ state with level := state.level.next }, rest)
  | '[' => do
    let (part, rest) ← class? state.spaced rest
    return (state.add part, rest)
  | '*' | '+' | '?' =>
    state.repeat?.map fun state =>
      match rest with
      | '?' :: rest => (state, rest)
      | rest => (state, rest)
  | '\x7b' => none
  | '\\' => do
    let (escape, rest) ← escape? state.spaced rest
    return (state.add (ofEscape escape), rest)
  | '.' => some (state.add .any, rest)
  | '^' | '$' => some (state.add .edge, rest)
  | c => some (state.add (.char ⟨c, false⟩), rest)

/-- Reads the rest of a pattern. -/
def readFrom? (state : State) (text : List Char) : Option State :=
  match skip state.spaced text with
  | [] => some state
  | c :: rest =>
    match state.step? c rest with
    | none => none
    | some (state, after) =>
      if _h : after.length < text.length then state.readFrom? after else none
  termination_by text.length

end State

end PatternReader

/-- Reads a pattern. -/
def Pattern.ofText? (text : List Char) : Option Pattern :=
  match PatternReader.State.initial.readFrom? text with
  | some ⟨_, _, [], level⟩ => some level.close
  | _ => none

end ContractEmulator
