/-!
# UTF-8

Byte strings as text. A scalar value takes one to four bytes; overlong forms, surrogates and
values above U+10FFFF have no form at all.

* `step` reads one scalar value, or says how far the bytes could still have become one.
* `decode` reads a whole byte string. It refuses at the first byte that cannot continue, and
  says where the refused sequence starts and how many of its bytes were still possible.
* `encode` is the byte string of a text.
-/

namespace ContractEmulator.Utf8

/-- Why a byte string is not text. -/
inductive Refusal where
  /-- The `length` bytes from `index` on start no scalar value. -/
  | invalid (index length : Nat)
  /-- The bytes end inside a scalar value that starts at `index`. -/
  | incomplete (index : Nat)
  deriving DecidableEq, Repr

/-- The wording of a refusal. -/
def Refusal.message : Refusal → String
  | .invalid index length =>
    s!"invalid utf-8 sequence of {length} bytes from index {index}"
  | .incomplete index => s!"incomplete utf-8 byte sequence from index {index}"

/-- What the front of a byte string holds. -/
inductive Step where
  /-- One scalar value, and the bytes after it. -/
  | scalar (c : Char) (rest : List UInt8)
  /-- The first `length` bytes are a dead end. -/
  | invalid (length : Nat)
  /-- The bytes end too early. -/
  | incomplete

/-- A byte of the form `10xxxxxx`. -/
def isContinuation (b : UInt8) : Bool := 0x80 ≤ b && b ≤ 0xBF

/-- The payload of a continuation byte. -/
def payload (b : UInt8) : Nat := b.toNat % 0x40

/-- The bytes that may follow a leading byte of a three-byte form: `E0` leaves out the overlong
forms and `ED` the surrogates. -/
def secondOfThree (lead b : UInt8) : Bool :=
  if lead = 0xE0 then 0xA0 ≤ b && b ≤ 0xBF
  else if lead = 0xED then 0x80 ≤ b && b ≤ 0x9F
  else isContinuation b

/-- The bytes that may follow a leading byte of a four-byte form: `F0` leaves out the overlong
forms and `F4` the values above U+10FFFF. -/
def secondOfFour (lead b : UInt8) : Bool :=
  if lead = 0xF0 then 0x90 ≤ b && b ≤ 0xBF
  else if lead = 0xF4 then 0x80 ≤ b && b ≤ 0x8F
  else isContinuation b

/-- The rest of a two-byte form. -/
def stepTwo (lead : UInt8) : List UInt8 → Step
  | [] => .incomplete
  | b :: rest =>
    if isContinuation b then
      .scalar (Char.ofNat (lead.toNat % 0x20 * 0x40 + payload b)) rest
    else .invalid 1

/-- The rest of a three-byte form. -/
def stepThree (lead : UInt8) : List UInt8 → Step
  | [] => .incomplete
  | b :: rest =>
    if secondOfThree lead b then
      match rest with
      | [] => .incomplete
      | c :: rest =>
        if isContinuation c then
          .scalar (Char.ofNat (lead.toNat % 0x10 * 0x1000 + payload b * 0x40 + payload c)) rest
        else .invalid 2
    else .invalid 1

/-- The rest of a four-byte form. -/
def stepFour (lead : UInt8) : List UInt8 → Step
  | [] => .incomplete
  | b :: rest =>
    if secondOfFour lead b then
      match rest with
      | [] => .incomplete
      | c :: rest =>
        if isContinuation c then
          match rest with
          | [] => .incomplete
          | d :: rest =>
            if isContinuation d then
              .scalar (Char.ofNat (lead.toNat % 0x8 * 0x40000 + payload b * 0x1000
                + payload c * 0x40 + payload d)) rest
            else .invalid 3
        else .invalid 2
    else .invalid 1

/-- Reads the scalar value that starts with the byte `lead`. -/
def step (lead : UInt8) (rest : List UInt8) : Step :=
  if lead < 0x80 then .scalar (Char.ofNat lead.toNat) rest
  else if 0xC2 ≤ lead && lead ≤ 0xDF then stepTwo lead rest
  else if 0xE0 ≤ lead && lead ≤ 0xEF then stepThree lead rest
  else if 0xF0 ≤ lead && lead ≤ 0xF4 then stepFour lead rest
  else .invalid 1

theorem stepTwo_length {lead : UInt8} {bytes rest : List UInt8} {c : Char}
    (h : stepTwo lead bytes = .scalar c rest) : rest.length < bytes.length + 1 := by
  unfold stepTwo at h
  split at h <;> grind

theorem stepThree_length {lead : UInt8} {bytes rest : List UInt8} {c : Char}
    (h : stepThree lead bytes = .scalar c rest) : rest.length < bytes.length + 1 := by
  unfold stepThree at h
  split at h <;> grind

theorem stepFour_length {lead : UInt8} {bytes rest : List UInt8} {c : Char}
    (h : stepFour lead bytes = .scalar c rest) : rest.length < bytes.length + 1 := by
  unfold stepFour at h
  split at h <;> grind

/-- A scalar value takes at least its leading byte. -/
theorem step_length {lead : UInt8} {bytes rest : List UInt8} {c : Char}
    (h : step lead bytes = .scalar c rest) : rest.length < bytes.length + 1 := by
  unfold step at h
  split at h
  · cases h
    exact Nat.lt_succ_self _
  split at h
  · exact stepTwo_length h
  split at h
  · exact stepThree_length h
  split at h
  · exact stepFour_length h
  · cases h

/-- Reads the text of a byte string of which `index` bytes were read before. -/
def decodeFrom (index : Nat) : List UInt8 → Except Refusal (List Char)
  | [] => .ok []
  | lead :: rest =>
    match _h : step lead rest with
    | .scalar c after =>
      match decodeFrom (index + c.utf8Size) after with
      | .ok text => .ok (c :: text)
      | .error refusal => .error refusal
    | .invalid length => .error (.invalid index length)
    | .incomplete => .error (.incomplete index)
  termination_by bytes => bytes.length
  decreasing_by simpa using step_length _h

/-- Reads the text of a byte string. -/
def decode (bytes : List UInt8) : Except Refusal (List Char) := decodeFrom 0 bytes

/-- The byte string of a text. -/
def encode (text : List Char) : List UInt8 := text.flatMap String.utf8EncodeChar

end ContractEmulator.Utf8
