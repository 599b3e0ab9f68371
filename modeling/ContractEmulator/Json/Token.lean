import ContractEmulator.Json.Number
import ContractEmulator.Text.Hex

/-!
# JSON tokens

* `Token.scan` cuts a text into tokens. Where the text fits no token it ends with `broken`, so
  what stands before the fault can still be used.

A string token holds the text between the quotes with its escapes resolved. A surrogate escape
without its partner is no character: such a string is a token, but has no text.
-/

namespace ContractEmulator

/-- A token of a JSON text. -/
inductive Token where
  | openBrace
  | closeBrace
  | openBracket
  | closeBracket
  | comma
  | colon
  | null
  | bool (b : Bool)
  | number (literal : NumberLiteral)
  /-- A string; without text if an escape in it names half a surrogate pair. -/
  | string (text : Option String)
  /-- The text fits no token from here on. -/
  | broken
  deriving DecidableEq, Repr

namespace Token

/-- What one step through a string yields: a character, or a UTF-16 code unit of an escape. -/
inductive Piece where
  | char (c : Char)
  | unit (u : Nat)
  deriving DecidableEq, Repr

/-- The character of an escape of one letter. -/
def shortEscape? (c : Char) : Option Char :=
  if c = '"' then some '"'
  else if c = '\\' then some '\\'
  else if c = '/' then some '/'
  else if c = 'b' then some '\x08'
  else if c = 'f' then some '\x0c'
  else if c = 'n' then some '\n'
  else if c = 'r' then some '\r'
  else if c = 't' then some '\t'
  else none

/-- The code unit of four hexadecimal digits. -/
def unit? (a b c d : Char) : Option Nat := do
  let a ← Hex.digit? a
  let b ← Hex.digit? b
  let c ← Hex.digit? c
  let d ← Hex.digit? d
  return ((a * 16 + b) * 16 + c) * 16 + d

/-- The pieces up to the closing quote, and the text after it; `none` if the string does not end,
or holds a raw character below U+0020 or an escape that is none. -/
def scanString : List Char → Option (List Piece × List Char)
  | [] => none
  | '"' :: text => some ([], text)
  | '\\' :: 'u' :: a :: b :: c :: d :: text => do
    let u ← unit? a b c d
    let (pieces, rest) ← scanString text
    return (.unit u :: pieces, rest)
  | '\\' :: e :: text => do
    let c ← shortEscape? e
    let (pieces, rest) ← scanString text
    return (.char c :: pieces, rest)
  | c :: text =>
    if c.toNat < 0x20 then none
    else do
      let (pieces, rest) ← scanString text
      return (.char c :: pieces, rest)

/-- The first half of a surrogate pair. -/
def isHigh (u : Nat) : Bool := 0xD800 ≤ u && u ≤ 0xDBFF

/-- The second half of a surrogate pair. -/
def isLow (u : Nat) : Bool := 0xDC00 ≤ u && u ≤ 0xDFFF

/-- The text of some pieces; `none` for half a surrogate pair. -/
def resolve : List Piece → Option (List Char)
  | [] => some []
  | .char c :: pieces => (resolve pieces).map (c :: ·)
  | .unit high :: .unit low :: pieces =>
    if isHigh high then
      if isLow low then
        (resolve pieces).map
          (Char.ofNat (0x10000 + (high - 0xD800) * 0x400 + (low - 0xDC00)) :: ·)
      else none
    else if isLow high then none
    else (resolve (.unit low :: pieces)).map (Char.ofNat high :: ·)
  | .unit u :: pieces =>
    if isHigh u || isLow u then none else (resolve pieces).map (Char.ofNat u :: ·)

theorem scanString_length {text rest : List Char} {pieces : List Piece}
    (h : scanString text = some (pieces, rest)) : rest.length < text.length := by
  fun_induction scanString text generalizing pieces rest with
  | case1 => cases h
  | case2 text => cases h; simp
  | case3 a b c d text ih =>
    simp only [Option.bind_eq_bind, Option.bind_eq_some_iff, Option.pure_def, Option.some.injEq,
      Prod.mk.injEq] at h
    obtain ⟨_, -, ⟨_, _⟩, hs, -, rfl⟩ := h
    have := ih hs
    simp only [List.length_cons]
    omega
  | case4 e text _ ih =>
    simp only [Option.bind_eq_bind, Option.bind_eq_some_iff, Option.pure_def, Option.some.injEq,
      Prod.mk.injEq] at h
    obtain ⟨_, -, ⟨_, _⟩, hs, -, rfl⟩ := h
    have := ih hs
    simp only [List.length_cons]
    omega
  | case5 => cases h
  | case6 c text _ _ _ _ ih =>
    simp only [Option.bind_eq_bind, Option.bind_eq_some_iff, Option.pure_def, Option.some.injEq,
      Prod.mk.injEq] at h
    obtain ⟨⟨_, _⟩, hs, -, rfl⟩ := h
    have := ih hs
    simp only [List.length_cons]
    omega

/-- The blanks between tokens. -/
def isBlank (c : Char) : Bool := c == ' ' || c == '\n' || c == '\t' || c == '\r'

/-- The token that is a single character. -/
def punctuation? (c : Char) : Option Token :=
  if c = '{' then some .openBrace
  else if c = '}' then some .closeBrace
  else if c = '[' then some .openBracket
  else if c = ']' then some .closeBracket
  else if c = ',' then some .comma
  else if c = ':' then some .colon
  else none

/-- A literal word at the front of a text, given its first character. -/
def scanWord (c : Char) (text : List Char) : Option (Token × List Char) :=
  match c, text with
  | 'n', 'u' :: 'l' :: 'l' :: rest => some (.null, rest)
  | 't', 'r' :: 'u' :: 'e' :: rest => some (.bool true, rest)
  | 'f', 'a' :: 'l' :: 's' :: 'e' :: rest => some (.bool false, rest)
  | _, _ => none

theorem scanWord_length {c : Char} {text rest : List Char} {t : Token}
    (h : scanWord c text = some (t, rest)) : rest.length < text.length := by
  unfold scanWord at h
  split at h <;> grind

/-- The token at the front of a text that starts with the character `c`, which is no blank. -/
def next? (c : Char) (text : List Char) : Option (Token × List Char) :=
  match punctuation? c with
  | some t => some (t, text)
  | none =>
    if c = '"' then
      (scanString text).map fun (pieces, rest) => (.string ((resolve pieces).map String.ofList), rest)
    else if c = '-' ∨ c.isDigit then
      (NumberLiteral.scan (c :: text)).map fun (literal, rest) => (.number literal, rest)
    else scanWord c text

theorem next?_length {c : Char} {text rest : List Char} {t : Token}
    (h : next? c text = some (t, rest)) : rest.length < text.length + 1 := by
  unfold next? at h
  split at h
  · cases h; omega
  split at h
  · obtain ⟨⟨_, _⟩, hs, he⟩ := Option.map_eq_some_iff.1 h
    cases he
    have := scanString_length hs
    omega
  split at h
  · obtain ⟨⟨_, _⟩, hs, he⟩ := Option.map_eq_some_iff.1 h
    cases he
    exact NumberLiteral.scan_length hs
  · have := scanWord_length h
    omega

/-- The tokens of a text, up to the first fault. -/
def scan : List Char → List Token
  | [] => []
  | c :: text =>
    if isBlank c then scan text
    else
      match _h : next? c text with
      | some (t, rest) => t :: scan rest
      | none => [.broken]
  termination_by text => text.length
  decreasing_by
    · simp
    · simpa using next?_length _h

end Token

end ContractEmulator
