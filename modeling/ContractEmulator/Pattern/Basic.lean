/-!
# Patterns

Search patterns as trees, and which of them can be searched for.

* `Pattern.depth` is how deep the parts of a pattern lie in each other.
* `Pattern.check` follows the flags through a pattern in the order of its text and refuses what
  cannot be searched for. No tables of letters stand behind a search. So a character of all scalar
  values cannot be met in either case, and word characters, digits and blanks are known among bytes
  only. Among bytes, on the other hand, nothing may match a byte outside of ASCII by itself,
  because the searched text stays whole.
-/

namespace ContractEmulator

/-- A character that stands for itself. -/
structure PatternChar where
  char : Char
  /-- Written as the number of a byte. -/
  byte : Bool
  deriving DecidableEq, Repr

namespace PatternChar

def isAscii (c : PatternChar) : Bool := c.char.toNat < 0x80

end PatternChar

/-- Flags that a pattern turns on and off, in letters. -/
structure FlagChange where
  on : List Char
  off : List Char
  deriving DecidableEq, Repr

namespace FlagChange

def none : FlagChange := ⟨[], []⟩

/-- What a change makes of a flag that had the state `old`. -/
def apply (change : FlagChange) (flag : Char) (old : Bool) : Bool :=
  if change.on.contains flag then true else if change.off.contains flag then false else old

end FlagChange

/-- The members of a class in brackets. -/
inductive CharClass where
  | empty
  | char (c : PatternChar)
  | range (low high : PatternChar)
  /-- A class with a name in colons. -/
  | named (inverted : Bool)
  /-- Digits, blanks or word characters. -/
  | letters (inverted : Bool)
  | brackets (inverted : Bool) (members : CharClass)
  | union (parts : List CharClass)
  /-- What an operator makes of the classes at its sides. -/
  | operation (left right : CharClass)

/-- A search pattern. -/
inductive Pattern where
  | empty
  | flags (change : FlagChange)
  | char (c : PatternChar)
  /-- Any character but a line feed. -/
  | any
  /-- An end of the text or of a line. -/
  | edge
  /-- An end of a word, or the lack of one. -/
  | wordEdge
  /-- Digits, blanks or word characters. -/
  | letters (inverted : Bool)
  | brackets (inverted : Bool) (members : CharClass)
  | repetition (part : Pattern)
  | group (change : FlagChange) (part : Pattern)
  | sequence (parts : List Pattern)
  | choice (parts : List Pattern)

/-! ## Depth -/

mutual

/-- How deep the parts of a class lie in each other. -/
def CharClass.depth : CharClass → Nat
  | .empty => 0
  | .char _ => 0
  | .range _ _ => 0
  | .named _ => 0
  | .letters _ => 0
  | .brackets _ members => members.depth + 1
  | .union parts => CharClass.depthOfAll parts + 1
  | .operation left right => max left.depth right.depth + 1

/-- The greatest depth of classes. -/
def CharClass.depthOfAll : List CharClass → Nat
  | [] => 0
  | part :: parts => max part.depth (CharClass.depthOfAll parts)

end

mutual

/-- How deep the parts of a pattern lie in each other. -/
def Pattern.depth : Pattern → Nat
  | .empty => 0
  | .flags _ => 0
  | .char _ => 0
  | .any => 0
  | .edge => 0
  | .wordEdge => 0
  | .letters _ => 0
  | .brackets _ members => members.depth + 1
  | .repetition part => part.depth + 1
  | .group _ part => part.depth + 1
  | .sequence parts => Pattern.depthOfAll parts + 1
  | .choice parts => Pattern.depthOfAll parts + 1

/-- The greatest depth of patterns. -/
def Pattern.depthOfAll : List Pattern → Nat
  | [] => 0
  | part :: parts => max part.depth (Pattern.depthOfAll parts)

end

/-- The greatest depth of a pattern that can be searched for. -/
def Pattern.maxDepth : Nat := 250

/-! ## Flags -/

/-- How characters are compared: in either case or not, and as scalar values or as bytes. -/
structure Comparison where
  anyCase : Bool
  scalars : Bool
  deriving DecidableEq, Repr

namespace Comparison

/-- The comparison with which a pattern starts. -/
def initial : Comparison := ⟨false, true⟩

def change (mode : Comparison) (change : FlagChange) : Comparison :=
  ⟨change.apply 'i' mode.anyCase, change.apply 'u' mode.scalars⟩

/-- Whether a character can be met. -/
def meets (mode : Comparison) (c : PatternChar) : Bool :=
  if mode.scalars then !mode.anyCase else c.isAscii || !c.byte

/-- Whether a character can be a member of a class. -/
def admits (mode : Comparison) (c : PatternChar) : Bool :=
  if mode.scalars then !mode.anyCase else c.isAscii

/-- Whether a class may be inverted. -/
def inverts (mode : Comparison) (inverted : Bool) : Bool := mode.scalars || !inverted

end Comparison

mutual

/-- Whether the members of a class can be found. -/
def CharClass.check (mode : Comparison) : CharClass → Bool
  | .empty => true
  | .char c => mode.admits c
  | .range low high => mode.admits low && mode.admits high
  | .named inverted => if mode.scalars then !mode.anyCase else !inverted
  | .letters inverted => !mode.scalars && !inverted
  | .brackets inverted members => mode.inverts inverted && members.check mode
  | .union parts => CharClass.checkAll mode parts
  | .operation left right => left.check mode && right.check mode

/-- Whether the members of all classes can be found. -/
def CharClass.checkAll (mode : Comparison) : List CharClass → Bool
  | [] => true
  | part :: parts => part.check mode && CharClass.checkAll mode parts

end

mutual

/-- The comparison after a pattern; `none` if it cannot be searched for. Flags that are set in a
group end with it. -/
def Pattern.check (mode : Comparison) : Pattern → Option Comparison
  | .empty => some mode
  | .flags change => some (mode.change change)
  | .char c => if mode.meets c then some mode else none
  | .any => if mode.scalars then some mode else none
  | .edge => some mode
  | .wordEdge => if mode.scalars then none else some mode
  | .letters inverted => if mode.scalars || inverted then none else some mode
  | .brackets inverted members =>
    if mode.inverts inverted && members.check mode then some mode else none
  | .repetition part => part.check mode
  | .group change part => (part.check (mode.change change)).map fun _ => mode
  | .sequence parts => Pattern.checkAll mode parts
  | .choice parts => Pattern.checkAll mode parts

/-- The comparison after patterns in a row. -/
def Pattern.checkAll (mode : Comparison) : List Pattern → Option Comparison
  | [] => some mode
  | part :: parts =>
    match part.check mode with
    | some mode => Pattern.checkAll mode parts
    | none => none

end

namespace Pattern

/-- Whether a pattern can be searched for. -/
def isSearchable (p : Pattern) : Bool := p.depth ≤ maxDepth && (p.check .initial).isSome

/-- Parts in a row as one pattern. -/
def ofParts : List Pattern → Pattern
  | [] => .empty
  | [part] => part
  | parts => .sequence parts

/-- Whether a pattern can be repeated; flags cannot. -/
def isRepeatable : Pattern → Bool
  | .flags _ => false
  | _ => true

end Pattern

/-- Members in a row as one class. -/
def CharClass.ofParts : List CharClass → CharClass
  | [] => .empty
  | [part] => part
  | parts => .union parts

end ContractEmulator
