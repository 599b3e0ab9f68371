import ContractEmulator.Text.Utf8

/-!
# Text and its bytes

Reading and writing UTF-8 undo each other.

* `Utf8.step_encodeChar`, `Utf8.eq_encodeChar_of_step`: the bytes that are read as a character are
  those that it is written with.
* `Utf8.decode_eq_ok_iff`: the bytes that are read as a text are those that it is written with.
* `Utf8.exists_decode_eq_error_iff`: bytes are refused if no text is written with them.
-/

namespace ContractEmulator.Utf8

/-! ## Bytes as numbers -/

theorem isContinuation_iff (b : UInt8) :
    isContinuation b = true ↔ 0x80 ≤ b.toNat ∧ b.toNat ≤ 0xBF := by
  simp [isContinuation, UInt8.le_iff_toNat_le]

theorem secondOfThree_iff (lead b : UInt8) : secondOfThree lead b = true ↔
    0x80 ≤ b.toNat ∧ b.toNat ≤ 0xBF ∧ (lead.toNat = 0xE0 → 0xA0 ≤ b.toNat) ∧
      (lead.toNat = 0xED → b.toNat ≤ 0x9F) := by
  simp only [secondOfThree, isContinuation, ← UInt8.toNat_inj, UInt8.le_iff_toNat_le,
    UInt8.reduceToNat]
  split
  · simp; omega
  · split <;> simp <;> omega

theorem secondOfFour_iff (lead b : UInt8) : secondOfFour lead b = true ↔
    0x80 ≤ b.toNat ∧ b.toNat ≤ 0xBF ∧ (lead.toNat = 0xF0 → 0x90 ≤ b.toNat) ∧
      (lead.toNat = 0xF4 → b.toNat ≤ 0x8F) := by
  simp only [secondOfFour, isContinuation, ← UInt8.toNat_inj, UInt8.le_iff_toNat_le,
    UInt8.reduceToNat]
  split
  · simp; omega
  · split <;> simp <;> omega

theorem step_eq (lead : UInt8) (rest : List UInt8) : step lead rest =
    if lead.toNat < 0x80 then .scalar (Char.ofNat lead.toNat) rest
    else if 0xC2 ≤ lead.toNat ∧ lead.toNat ≤ 0xDF then stepTwo lead rest
    else if 0xE0 ≤ lead.toNat ∧ lead.toNat ≤ 0xEF then stepThree lead rest
    else if 0xF0 ≤ lead.toNat ∧ lead.toNat ≤ 0xF4 then stepFour lead rest
    else .invalid 1 := by
  simp [step, UInt8.le_iff_toNat_le, UInt8.lt_iff_toNat_lt]

/-! ## Characters as numbers -/

/-- The numbers of characters lie below the surrogates or above them. -/
theorem toNat_valid (c : Char) : c.toNat < 0xD800 ∨ 0xDFFF < c.toNat ∧ c.toNat < 0x110000 :=
  c.valid

theorem toNat_ofNat {n : Nat} (h : n < 0xD800 ∨ 0xDFFF < n ∧ n < 0x110000) :
    (Char.ofNat n).toNat = n := by
  have hvalid : n.isValidChar := h
  rw [Char.ofNat, dif_pos hvalid]
  rfl

theorem encodeChar_one {c : Char} (h : c.toNat < 0x80) :
    String.utf8EncodeChar c = [UInt8.ofNat c.toNat] :=
  if_pos (Nat.le_of_lt_succ h)

theorem encodeChar_two {c : Char} (h : 0x80 ≤ c.toNat) (h' : c.toNat < 0x800) :
    String.utf8EncodeChar c =
      [UInt8.ofNat (c.toNat / 0x40 % 0x20 + 0xC0), UInt8.ofNat (c.toNat % 0x40 + 0x80)] :=
  (if_neg (Nat.not_le_of_lt h)).trans (if_pos (Nat.le_of_lt_succ h'))

theorem encodeChar_three {c : Char} (h : 0x800 ≤ c.toNat) (h' : c.toNat < 0x10000) :
    String.utf8EncodeChar c =
      [UInt8.ofNat (c.toNat / 0x1000 % 0x10 + 0xE0), UInt8.ofNat (c.toNat / 0x40 % 0x40 + 0x80),
        UInt8.ofNat (c.toNat % 0x40 + 0x80)] :=
  (if_neg (by change ¬c.toNat ≤ _; omega)).trans
    ((if_neg (Nat.not_le_of_lt h)).trans (if_pos (Nat.le_of_lt_succ h')))

theorem encodeChar_four {c : Char} (h : 0x10000 ≤ c.toNat) :
    String.utf8EncodeChar c =
      [UInt8.ofNat (c.toNat / 0x40000 % 0x8 + 0xF0), UInt8.ofNat (c.toNat / 0x1000 % 0x40 + 0x80),
        UInt8.ofNat (c.toNat / 0x40 % 0x40 + 0x80), UInt8.ofNat (c.toNat % 0x40 + 0x80)] :=
  (if_neg (by change ¬c.toNat ≤ _; omega)).trans
    ((if_neg (by change ¬c.toNat ≤ _; omega)).trans (if_neg (Nat.not_le_of_lt h)))

/-! ## One character -/

variable {lead b b' b'' : UInt8} {rest : List UInt8}

theorem stepTwo_cons (hb : isContinuation b = true) : stepTwo lead (b :: rest) =
    .scalar (Char.ofNat (lead.toNat % 0x20 * 0x40 + b.toNat % 0x40)) rest := by
  simp [stepTwo, hb, payload]

theorem stepThree_cons (hb : secondOfThree lead b = true) (hb' : isContinuation b' = true) :
    stepThree lead (b :: b' :: rest) = .scalar (Char.ofNat
      (lead.toNat % 0x10 * 0x1000 + b.toNat % 0x40 * 0x40 + b'.toNat % 0x40)) rest := by
  simp [stepThree, hb, hb', payload]

theorem stepFour_cons (hb : secondOfFour lead b = true) (hb' : isContinuation b' = true)
    (hb'' : isContinuation b'' = true) :
    stepFour lead (b :: b' :: b'' :: rest) = .scalar (Char.ofNat
      (lead.toNat % 0x8 * 0x40000 + b.toNat % 0x40 * 0x1000 + b'.toNat % 0x40 * 0x40
        + b''.toNat % 0x40)) rest := by
  simp [stepFour, hb, hb', hb'', payload]

theorem isContinuation_ofNat (n : Nat) :
    isContinuation (UInt8.ofNat (n % 0x40 + 0x80)) = true := by
  rw [isContinuation_iff, UInt8.toNat_ofNat']
  omega

/-- A written character is read. -/
theorem step_encodeChar (c : Char) (rest : List UInt8) :
    ∃ lead tail, String.utf8EncodeChar c = lead :: tail ∧
      step lead (tail ++ rest) = .scalar c rest := by
  have hvalid := toNat_valid c
  have hread : ∀ n, n = c.toNat → Char.ofNat n = c := fun n hn => hn ▸ Char.ofNat_toNat c
  -- The four lengths have disjoint first bytes, so each case picks one branch of the reader.
  by_cases hone : c.toNat < 0x80
  · refine ⟨_, _, encodeChar_one hone, ?_⟩
    rw [step_eq, UInt8.toNat_ofNat', if_pos (by omega), hread _ (by omega)]
    rfl
  by_cases htwo : c.toNat < 0x800
  · refine ⟨_, _, encodeChar_two (by omega) htwo, ?_⟩
    rw [step_eq, UInt8.toNat_ofNat', if_neg (by omega), if_pos (by omega), List.cons_append,
      stepTwo_cons (isContinuation_ofNat _), UInt8.toNat_ofNat', UInt8.toNat_ofNat',
      hread _ (by omega)]
    rfl
  by_cases hthree : c.toNat < 0x10000
  · refine ⟨_, _, encodeChar_three (by omega) hthree, ?_⟩
    have hsecond : secondOfThree (UInt8.ofNat (c.toNat / 0x1000 % 0x10 + 0xE0))
        (UInt8.ofNat (c.toNat / 0x40 % 0x40 + 0x80)) = true := by
      rw [secondOfThree_iff, UInt8.toNat_ofNat', UInt8.toNat_ofNat']
      omega
    rw [step_eq, UInt8.toNat_ofNat', if_neg (by omega), if_neg (by omega), if_pos (by omega),
      List.cons_append, List.cons_append, stepThree_cons hsecond (isContinuation_ofNat _),
      UInt8.toNat_ofNat', UInt8.toNat_ofNat', UInt8.toNat_ofNat', hread _ (by omega)]
    rfl
  · refine ⟨_, _, encodeChar_four (by omega), ?_⟩
    have hsecond : secondOfFour (UInt8.ofNat (c.toNat / 0x40000 % 0x8 + 0xF0))
        (UInt8.ofNat (c.toNat / 0x1000 % 0x40 + 0x80)) = true := by
      rw [secondOfFour_iff, UInt8.toNat_ofNat', UInt8.toNat_ofNat']
      omega
    rw [step_eq, UInt8.toNat_ofNat', if_neg (by omega), if_neg (by omega), if_neg (by omega),
      if_pos (by omega), List.cons_append, List.cons_append, List.cons_append,
      stepFour_cons hsecond (isContinuation_ofNat _) (isContinuation_ofNat _),
      UInt8.toNat_ofNat', UInt8.toNat_ofNat', UInt8.toNat_ofNat', UInt8.toNat_ofNat',
      hread _ (by omega)]
    rfl

variable {bytes : List UInt8} {c : Char}

theorem eq_ofNat_of_toNat {n : Nat} (h : b.toNat = n) : b = UInt8.ofNat n := by
  rw [← h, UInt8.ofNat_toNat]

theorem eq_encodeChar_of_stepTwo (hlead : 0xC2 ≤ lead.toNat ∧ lead.toNat ≤ 0xDF)
    (h : stepTwo lead bytes = .scalar c rest) :
    lead :: bytes = String.utf8EncodeChar c ++ rest := by
  unfold stepTwo at h
  split at h
  · cases h
  split at h
  · rename_i b _ hb
    rw [isContinuation_iff] at hb
    injection h with hchar hrest
    rw [payload] at hchar
    have hc : c.toNat = lead.toNat % 0x20 * 0x40 + b.toNat % 0x40 := by
      rw [← hchar]
      exact toNat_ofNat (by omega)
    rw [encodeChar_two (by omega) (by omega), hrest,
      ← eq_ofNat_of_toNat (b := lead) (by omega), ← eq_ofNat_of_toNat (b := b) (by omega)]
    rfl
  · cases h

theorem eq_encodeChar_of_stepThree (hlead : 0xE0 ≤ lead.toNat ∧ lead.toNat ≤ 0xEF)
    (h : stepThree lead bytes = .scalar c rest) :
    lead :: bytes = String.utf8EncodeChar c ++ rest := by
  unfold stepThree at h
  split at h
  · cases h
  split at h
  · rename_i b _ hb
    rw [secondOfThree_iff] at hb
    split at h
    · cases h
    split at h
    · rename_i b' _ hb'
      rw [isContinuation_iff] at hb'
      injection h with hchar hrest
      rw [payload, payload] at hchar
      have hc : c.toNat =
          lead.toNat % 0x10 * 0x1000 + b.toNat % 0x40 * 0x40 + b'.toNat % 0x40 := by
        rw [← hchar]
        exact toNat_ofNat (by omega)
      rw [encodeChar_three (by omega) (by omega), hrest,
        ← eq_ofNat_of_toNat (b := lead) (by omega), ← eq_ofNat_of_toNat (b := b) (by omega),
        ← eq_ofNat_of_toNat (b := b') (by omega)]
      rfl
    · cases h
  · cases h

theorem eq_encodeChar_of_stepFour (hlead : 0xF0 ≤ lead.toNat ∧ lead.toNat ≤ 0xF4)
    (h : stepFour lead bytes = .scalar c rest) :
    lead :: bytes = String.utf8EncodeChar c ++ rest := by
  unfold stepFour at h
  split at h
  · cases h
  split at h
  · rename_i b _ hb
    rw [secondOfFour_iff] at hb
    split at h
    · cases h
    split at h
    · rename_i b' _ hb'
      rw [isContinuation_iff] at hb'
      split at h
      · cases h
      split at h
      · rename_i b'' _ hb''
        rw [isContinuation_iff] at hb''
        injection h with hchar hrest
        rw [payload, payload, payload] at hchar
        have hc : c.toNat = lead.toNat % 0x8 * 0x40000 + b.toNat % 0x40 * 0x1000
            + b'.toNat % 0x40 * 0x40 + b''.toNat % 0x40 := by
          rw [← hchar]
          exact toNat_ofNat (by omega)
        rw [encodeChar_four (by omega), hrest,
          ← eq_ofNat_of_toNat (b := lead) (by omega), ← eq_ofNat_of_toNat (b := b) (by omega),
          ← eq_ofNat_of_toNat (b := b') (by omega), ← eq_ofNat_of_toNat (b := b'') (by omega)]
        rfl
      · cases h
    · cases h
  · cases h

/-- A character is read from no other bytes than those that it is written with. -/
theorem eq_encodeChar_of_step (h : step lead bytes = .scalar c rest) :
    lead :: bytes = String.utf8EncodeChar c ++ rest := by
  rw [step_eq] at h
  split at h
  · rename_i hone
    injection h with hchar hrest
    have hc : c.toNat = lead.toNat := by
      rw [← hchar]
      exact toNat_ofNat (by omega)
    rw [encodeChar_one (by omega), hrest, ← eq_ofNat_of_toNat (b := lead) hc.symm]
    rfl
  split at h
  · exact eq_encodeChar_of_stepTwo ‹_› h
  split at h
  · exact eq_encodeChar_of_stepThree ‹_› h
  split at h
  · exact eq_encodeChar_of_stepFour ‹_› h
  · cases h

/-! ## Texts -/

/-- A text that is written is read. The place where it starts does not matter. -/
theorem decodeFrom_encode (index : Nat) (text : List Char) :
    decodeFrom index (encode text) = .ok text := by
  induction text generalizing index with
  | nil => rw [encode, List.flatMap_nil, decodeFrom]
  | cons c text ih =>
    obtain ⟨lead, tail, hc, hstep⟩ := step_encodeChar c (encode text)
    have hbytes : encode (c :: text) = lead :: (tail ++ encode text) := by
      rw [encode, List.flatMap_cons, hc]
      rfl
    rw [hbytes, decodeFrom]
    split
    · rename_i hscalar
      rw [hstep] at hscalar
      cases hscalar
      rw [ih]
    · rename_i hinvalid
      rw [hstep] at hinvalid
      cases hinvalid
    · rename_i hincomplete
      rw [hstep] at hincomplete
      cases hincomplete

theorem eq_encode_of_decodeFrom {index : Nat} {text : List Char}
    (h : decodeFrom index bytes = .ok text) : bytes = encode text := by
  fun_induction decodeFrom index bytes generalizing text with
  | case1 =>
    cases h
    rfl
  | case2 index lead rest c after hstep text' hrest ih =>
    cases h
    rw [eq_encodeChar_of_step hstep, ih hrest]
    rfl
  | case3 | case4 | case5 => cases h

theorem decode_encode (text : List Char) : decode (encode text) = .ok text :=
  decodeFrom_encode 0 text

/-- Different texts are written differently. -/
theorem encode_injective {text text' : List Char} (h : encode text = encode text') :
    text = text' := by
  have hdecode := decode_encode text
  rw [h, decode_encode] at hdecode
  exact (Except.ok.inj hdecode).symm

/-- The bytes that are read as a text are those that it is written with. -/
theorem decode_eq_ok_iff {text : List Char} : decode bytes = .ok text ↔ bytes = encode text := by
  refine ⟨eq_encode_of_decodeFrom, ?_⟩
  rintro rfl
  exact decode_encode text

/-- Bytes are refused if no text is written with them. -/
theorem exists_decode_eq_error_iff :
    (∃ refusal, decode bytes = .error refusal) ↔ ∀ text, bytes ≠ encode text := by
  cases hdecode : decode bytes with
  | ok text =>
    refine ⟨(fun ⟨refusal, h⟩ => nomatch h), fun h => ?_⟩
    exact absurd (decode_eq_ok_iff.1 hdecode) (h text)
  | error refusal =>
    refine ⟨fun _ text heq => ?_, fun _ => ⟨refusal, rfl⟩⟩
    rw [decode_eq_ok_iff.2 heq] at hdecode
    cases hdecode

end ContractEmulator.Utf8
