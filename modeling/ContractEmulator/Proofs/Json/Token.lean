import ContractEmulator.Json.Token
import ContractEmulator.Proofs.Json.Number

/-!
# Tokens of joined texts

A text is cut into tokens from the left, and what follows a token makes no difference to it, if it
goes on no number.

* `Token.scan_append`: the tokens of a text without fault stay the same in front of another text,
  and the tokens of that one follow.
* `Token.exists_piece`, `Token.exists_scanString_escape`: what is written inside quotes is read
  back, one piece for each character.
* `Token.scan_punctuation`, `Token.scan_quote`, `Token.scan_intText`: what is written as one token
  is read as one.
-/

namespace ContractEmulator

namespace Token

variable {text rest more : List Char} {c : Char}

/-! ## Strings -/

/-- A piece in front of those that a string starts with. -/
theorem scanString_cons (hquote : c ≠ '"') (hescape : c ≠ '\\') (hcontrol : ¬c.toNat < 0x20)
    (text : List Char) : scanString (c :: text) =
      (scanString text).map fun found => (.char c :: found.1, found.2) := by
  rw [scanString.eq_5 c text hquote (fun _ _ _ _ _ heq => absurd heq hescape)
    (fun _ _ heq => absurd heq hescape), if_neg hcontrol]
  cases scanString text <;> rfl

theorem scanString_append {pieces : List Piece} (h : scanString text = some (pieces, rest)) :
    scanString (text ++ more) = some (pieces, rest ++ more) := by
  fun_induction scanString text generalizing pieces with
  | case1 => cases h
  | case2 text =>
    cases h
    rfl
  | case3 a b c d text ih =>
    simp only [Option.bind_eq_bind, Option.bind_eq_some_iff, Option.pure_def, Option.some.injEq,
      Prod.mk.injEq] at h
    obtain ⟨u, hu, ⟨pieces', rest'⟩, hrest, rfl, rfl⟩ := h
    simp only [List.cons_append, scanString, hu, ih hrest]
    rfl
  | case4 e text _ ih =>
    simp only [Option.bind_eq_bind, Option.bind_eq_some_iff, Option.pure_def, Option.some.injEq,
      Prod.mk.injEq] at h
    obtain ⟨c, hc, ⟨pieces', rest'⟩, hrest, rfl, rfl⟩ := h
    -- An escape with too few digits in it is none, whatever follows.
    have hunit : e ≠ 'u' := by
      rintro rfl
      cases hc
    rw [List.cons_append, List.cons_append, scanString.eq_4 _ _ (by simp [hunit]), hc, ih hrest]
    rfl
  | case5 => cases h
  | case6 c text hquote _ hescape hcontrol ih =>
    simp only [Option.bind_eq_bind, Option.bind_eq_some_iff, Option.pure_def, Option.some.injEq,
      Prod.mk.injEq] at h
    obtain ⟨⟨pieces', rest'⟩, hrest, rfl, rfl⟩ := h
    have hbackslash : c ≠ '\\' := by
      intro heq
      cases text with
      | nil => cases hrest
      | cons e text => exact hescape e text heq rfl
    rw [List.cons_append, scanString_cons hquote hbackslash hcontrol, ih hrest]
    rfl

theorem digit?_digitChar {k : Nat} (hk : k < 16) : Hex.digit? (Nat.digitChar k) = some k := by
  have hall : ∀ k : Fin 16, Hex.digit? (Nat.digitChar k) = some k.val := by decide
  exact hall ⟨k, hk⟩

/-- The code unit that a character below U+0020 is written as. -/
theorem unit?_digitChar (hcontrol : c.toNat < 0x20) :
    unit? '0' '0' (Nat.digitChar (c.toNat / 16)) (Nat.digitChar (c.toNat % 16)) =
      some c.toNat := by
  have hhigh := digit?_digitChar (k := c.toNat / 16) (by omega)
  have hlow := digit?_digitChar (k := c.toNat % 16) (by omega)
  have hzero : Hex.digit? '0' = some 0 := by decide
  have hsum : ((0 * 16 + 0) * 16 + c.toNat / 16) * 16 + c.toNat % 16 = c.toNat := by omega
  simp only [unit?, hhigh, hlow, hzero, Option.bind_eq_bind, Option.bind_some, Option.pure_def,
    hsum]

theorem resolve_unit {u : Nat} (hu : u < 0xD800) (pieces : List Piece) :
    resolve (.unit u :: pieces) = (resolve pieces).map (Char.ofNat u :: ·) := by
  have hhigh : isHigh u = false := by simp [isHigh]; omega
  have hlow : isLow u = false := by simp [isLow]; omega
  rw [resolve.eq_def]
  split
  · rename_i heq
    cases heq
  · rename_i heq
    cases heq
  · rename_i heq
    cases heq
    simp [hhigh, hlow]
  · rename_i heq
    cases heq
    simp [hhigh, hlow]

/-- A character inside quotes is read as one piece that stands for it. -/
theorem exists_piece (c : Char) : ∃ piece,
    (∀ text, scanString (Json.escape c ++ text) =
      (scanString text).map fun found => (piece :: found.1, found.2)) ∧
    ∀ pieces, resolve (piece :: pieces) = (resolve pieces).map (c :: ·) := by
  have hshort : ∀ {e : Char}, e ≠ 'u' → shortEscape? e = some c →
      ∀ text, scanString ('\\' :: e :: text) =
        (scanString text).map fun found => (.char c :: found.1, found.2) := by
    intro e hunit he text
    rw [scanString.eq_4 _ _ (by simp [hunit]), he]
    cases scanString text <;> rfl
  -- The seven short escapes come first, then the other characters below U+0020.
  unfold Json.escape
  split
  · subst c
    exact ⟨.char '"', hshort (by decide) (by decide), fun _ => rfl⟩
  split
  · subst c
    exact ⟨.char '\\', hshort (by decide) (by decide), fun _ => rfl⟩
  split
  · subst c
    exact ⟨.char '\x08', hshort (by decide) (by decide), fun _ => rfl⟩
  split
  · subst c
    exact ⟨.char '\x0c', hshort (by decide) (by decide), fun _ => rfl⟩
  split
  · subst c
    exact ⟨.char '\n', hshort (by decide) (by decide), fun _ => rfl⟩
  split
  · subst c
    exact ⟨.char '\r', hshort (by decide) (by decide), fun _ => rfl⟩
  split
  · subst c
    exact ⟨.char '\t', hshort (by decide) (by decide), fun _ => rfl⟩
  split
  · rename_i hcontrol
    refine ⟨.unit c.toNat, fun text => ?_, fun pieces => ?_⟩
    · simp only [List.cons_append, List.nil_append, scanString, unit?_digitChar hcontrol]
      cases scanString text <;> rfl
    · rw [resolve_unit (by omega), Char.ofNat_toNat]
  · rename_i hquote hescape _ _ _ _ _ hcontrol
    exact ⟨.char c, scanString_cons hquote hescape hcontrol, fun _ => rfl⟩

/-- What is written inside quotes is read back. -/
theorem exists_scanString_escape (s : List Char) (text : List Char) : ∃ pieces,
    scanString (s.flatMap Json.escape ++ '"' :: text) = some (pieces, text) ∧
      resolve pieces = some s := by
  induction s with
  | nil => exact ⟨[], rfl, rfl⟩
  | cons c s ih =>
    obtain ⟨piece, hscan, hresolve⟩ := exists_piece c
    obtain ⟨pieces, hpieces, hs⟩ := ih
    refine ⟨piece :: pieces, ?_, ?_⟩
    · rw [List.flatMap_cons, List.append_assoc, hscan, hpieces]
      rfl
    · rw [hresolve, hs]
      rfl

/-! ## Whole texts -/

theorem scan_nil : scan [] = [] := by
  rw [scan]

theorem scan_blank (hblank : isBlank c = true) (text : List Char) :
    scan (c :: text) = scan text := by
  rw [scan, if_pos hblank]

theorem scan_next {t : Token} (hblank : isBlank c = false) (h : next? c text = some (t, rest)) :
    scan (c :: text) = t :: scan rest := by
  rw [scan, if_neg (by simp [hblank])]
  split
  · rename_i heq
    rw [h] at heq
    cases heq
    rfl
  · rename_i heq
    rw [h] at heq
    cases heq

theorem scanWord_append {t : Token} (h : scanWord c text = some (t, rest)) :
    scanWord c (text ++ more) = some (t, rest ++ more) := by
  unfold scanWord at h
  split at h
  · cases h
    rfl
  · cases h
    rfl
  · cases h
    rfl
  · cases h

theorem next?_append {t : Token} (hmore : NumberLiteral.EndsBefore more)
    (h : next? c text = some (t, rest)) :
    next? c (text ++ more) = some (t, rest ++ more) := by
  unfold next? at h ⊢
  split at h
  · cases h
    rfl
  split at h
  · rename_i hquote
    obtain ⟨⟨pieces, rest'⟩, hscan, heq⟩ := Option.map_eq_some_iff.1 h
    cases heq
    rw [if_pos hquote, scanString_append hscan]
    rfl
  split at h
  · rename_i hquote hnumber
    obtain ⟨⟨literal, rest'⟩, hscan, heq⟩ := Option.map_eq_some_iff.1 h
    cases heq
    rw [if_neg hquote, if_pos hnumber, ← List.cons_append, NumberLiteral.scan_append hmore hscan]
    rfl
  · rename_i hquote hnumber
    rw [if_neg hquote, if_neg hnumber]
    exact scanWord_append h

/-- A text without fault is cut into the same tokens in front of a text that goes on no number. -/
theorem scan_append (hmore : NumberLiteral.EndsBefore more) (h : .broken ∉ scan text) :
    scan (text ++ more) = scan text ++ scan more := by
  fun_induction scan text with
  | case1 => rfl
  | case2 c text hblank ih => rw [List.cons_append, scan_blank hblank, ih h]
  | case3 c text hblank t rest hnext ih =>
    have hrest : .broken ∉ scan rest := fun hmem => h (List.mem_cons_of_mem _ hmem)
    rw [List.cons_append, scan_next (by simpa using hblank) (next?_append hmore hnext), ih hrest,
      List.cons_append]
  | case4 => exact absurd List.mem_cons_self h

theorem scan_punctuation {t : Token} (h : punctuation? c = some t) (text : List Char) :
    scan (c :: text) = t :: scan text := by
  refine scan_next ?_ (by rw [next?, h])
  cases hblank : isBlank c with
  | false => rfl
  | true =>
    simp only [isBlank, Bool.or_eq_true, beq_iff_eq] at hblank
    obtain ((rfl | rfl) | rfl) | rfl := hblank <;> cases h

/-- A string in quotes is one token, and its text is the string. -/
theorem scan_quote (s : String) (text : List Char) :
    scan (Json.quote s ++ text) = .string (some s) :: scan text := by
  obtain ⟨pieces, hscan, hresolve⟩ := exists_scanString_escape s.toList text
  have hnext : next? '"' (s.toList.flatMap Json.escape ++ '"' :: text) =
      some (.string (some s), text) := by
    have hpunctuation : punctuation? '"' = none := by decide
    rw [next?, hpunctuation]
    dsimp only
    rw [if_pos rfl, hscan, Option.map_some, hresolve, Option.map_some, String.ofList_toList]
  rw [Json.quote, List.cons_append, List.append_assoc]
  exact scan_next (by decide) hnext

theorem scan_number {literal : NumberLiteral} (hc : c = '-' ∨ c.isDigit = true)
    (h : NumberLiteral.scan (c :: text) = some (literal, rest)) :
    scan (c :: text) = .number literal :: scan rest := by
  have hother : ∀ d : Char, ¬(d = '-' ∨ d.isDigit = true) → c ≠ d := by
    rintro d hd rfl
    exact hd hc
  have hblank : isBlank c = false := by
    simp [isBlank, hother ' ' (by decide), hother '\n' (by decide), hother '\t' (by decide),
      hother '\r' (by decide)]
  have hpunctuation : punctuation? c = none := by
    simp [punctuation?, hother '\x7b' (by decide), hother '\x7d' (by decide),
      hother '[' (by decide), hother ']' (by decide), hother ',' (by decide),
      hother ':' (by decide)]
  refine scan_next hblank ?_
  rw [next?, hpunctuation]
  dsimp only
  rw [if_neg (hother '"' (by decide)), if_pos hc, h]
  rfl

/-- An integer is one token. -/
theorem scan_intText (n : Int) (hmore : NumberLiteral.EndsBefore more) :
    scan (Json.intText n ++ more) = .number (.ofInt n) :: scan more := by
  have hscan := NumberLiteral.scan_intText n hmore
  have hfirst : ∃ c text, Json.intText n ++ more = c :: text ∧ (c = '-' ∨ c.isDigit = true) := by
    unfold Json.intText
    split
    · exact ⟨'-', _, rfl, .inl rfl⟩
    · cases hdigits : Nat.toDigits 10 n.natAbs with
      | nil => exact absurd hdigits Nat.toDigits_ne_nil
      | cons c digits =>
        have hmem : c ∈ Nat.toDigits 10 n.natAbs := by
          rw [hdigits]
          exact List.mem_cons_self
        exact ⟨c, _, rfl, .inr (Nat.isDigit_of_mem_toDigits (by decide) (by decide) hmem)⟩
  obtain ⟨c, text, htext, hc⟩ := hfirst
  rw [htext] at hscan ⊢
  exact scan_number hc hscan

end Token

end ContractEmulator
