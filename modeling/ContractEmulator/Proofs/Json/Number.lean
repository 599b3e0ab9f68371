import ContractEmulator.Json.Printer
import ContractEmulator.Json.Number

/-!
# Numbers in front of a text

A number takes all that can go on one. If the text after it cannot, then it makes no difference.

* `NumberLiteral.EndsBefore`: a text that goes on no number. `NumberLiteral.scan_append`: in front
  of such a text a literal is read off as it is read off alone.
* `NumberLiteral.scan_intText`: the text of an integer is a literal, `NumberLiteral.ofInt`, and
  `NumberLiteral.value?_ofInt`: its value is the integer.
-/

namespace ContractEmulator

namespace NumberLiteral

/-- A literal in front of the text does not go on in it. -/
def EndsBefore (text : List Char) : Prop :=
  ∀ c ∈ text.head?, c.isDigit = false ∧ c ≠ '.' ∧ c ≠ 'e' ∧ c ≠ 'E'

theorem EndsBefore.nil : EndsBefore [] := by
  rintro c ⟨⟩

theorem EndsBefore.cons {c : Char} (hdigit : c.isDigit = false)
    (hmark : c ≠ '.' ∧ c ≠ 'e' ∧ c ≠ 'E') (text : List Char) : EndsBefore (c :: text) := by
  rintro _ ⟨⟩
  exact ⟨hdigit, hmark⟩

variable {text rest more : List Char}

theorem takeWhile_isDigit_append (text : List Char) (hmore : EndsBefore more) :
    (text ++ more).takeWhile Char.isDigit = text.takeWhile Char.isDigit ∧
      (text ++ more).dropWhile Char.isDigit = text.dropWhile Char.isDigit ++ more := by
  induction text with
  | nil =>
    cases more with
    | nil => exact ⟨rfl, rfl⟩
    | cons c more =>
      have hc : ¬c.isDigit = true := by simp [(hmore c rfl).1]
      exact ⟨List.takeWhile_cons_of_neg hc, List.dropWhile_cons_of_neg hc⟩
  | cons c text ih =>
    rw [List.cons_append, List.takeWhile_cons, List.dropWhile_cons, List.takeWhile_cons,
      List.dropWhile_cons]
    split
    · exact ⟨by rw [ih.1], ih.2⟩
    · exact ⟨rfl, rfl⟩

theorem scanDigits_append {digits : List Char} (hmore : EndsBefore more)
    (h : scanDigits text = some (digits, rest)) :
    scanDigits (text ++ more) = some (digits, rest ++ more) := by
  obtain ⟨htake, hdrop⟩ := takeWhile_isDigit_append text hmore
  unfold scanDigits at h ⊢
  rw [htake, hdrop]
  dsimp only at h ⊢
  split at h
  · cases h
  · rename_i hdigits
    cases h
    rw [if_neg hdigits]

theorem scanWhole_append {digits : List Char} (hmore : EndsBefore more)
    (h : scanWhole text = some (digits, rest)) :
    scanWhole (text ++ more) = some (digits, rest ++ more) := by
  unfold scanWhole at h ⊢
  split at h
  · cases h
  · rename_i hzero
    rw [scanDigits_append hmore h]
    split
    · rename_i heq
      cases heq
      exact absurd h (hzero _ _ _)
    · rfl

theorem scanFraction_append {fraction : Option (List Char)} (hmore : EndsBefore more)
    (h : scanFraction text = some (fraction, rest)) :
    scanFraction (text ++ more) = some (fraction, rest ++ more) := by
  unfold scanFraction at h
  split at h
  · obtain ⟨⟨digits, rest'⟩, hdigits, heq⟩ := Option.map_eq_some_iff.1 h
    cases heq
    rw [List.cons_append, scanFraction, scanDigits_append hmore hdigits]
    rfl
  · rename_i hpoint
    cases h
    cases text with
    | cons c text => exact scanFraction.eq_2 _ fun tail heq => by cases heq; exact hpoint _ rfl
    | nil =>
      refine scanFraction.eq_2 _ fun tail heq => ?_
      rw [List.nil_append] at heq
      exact (hmore '.' (by rw [heq]; rfl)).2.1 rfl

theorem scanPower_append {power : Bool × List Char} (hmore : EndsBefore more)
    (h : scanPower text = some (power, rest)) :
    scanPower (text ++ more) = some (power, rest ++ more) := by
  unfold scanPower at h
  split at h
  · obtain ⟨⟨digits, rest'⟩, hdigits, heq⟩ := Option.map_eq_some_iff.1 h
    cases heq
    rw [List.cons_append, scanPower, scanDigits_append hmore hdigits]
    rfl
  · obtain ⟨⟨digits, rest'⟩, hdigits, heq⟩ := Option.map_eq_some_iff.1 h
    cases heq
    rw [List.cons_append, scanPower, scanDigits_append hmore hdigits]
    rfl
  · rename_i hplus hminus
    obtain ⟨⟨digits, rest'⟩, hdigits, heq⟩ := Option.map_eq_some_iff.1 h
    cases heq
    cases text with
    | nil => cases hdigits
    | cons c text =>
      rw [List.cons_append, scanPower.eq_3, ← List.cons_append, scanDigits_append hmore hdigits]
      · rfl
      · rintro tail ⟨⟩
        exact hplus _ rfl
      · rintro tail ⟨⟩
        exact hminus _ rfl

theorem scanExponent_append {exponent : Option (Bool × List Char)} (hmore : EndsBefore more)
    (h : scanExponent text = some (exponent, rest)) :
    scanExponent (text ++ more) = some (exponent, rest ++ more) := by
  unfold scanExponent at h
  split at h
  · obtain ⟨⟨power, rest'⟩, hpower, heq⟩ := Option.map_eq_some_iff.1 h
    cases heq
    rw [List.cons_append, scanExponent, scanPower_append hmore hpower]
    rfl
  · obtain ⟨⟨power, rest'⟩, hpower, heq⟩ := Option.map_eq_some_iff.1 h
    cases heq
    rw [List.cons_append, scanExponent, scanPower_append hmore hpower]
    rfl
  · rename_i hlower hupper
    cases h
    cases text with
    | cons c text =>
      refine scanExponent.eq_3 _ (fun tail heq => ?_) fun tail heq => ?_
      · cases heq
        exact hlower _ rfl
      · cases heq
        exact hupper _ rfl
    | nil =>
      refine scanExponent.eq_3 _ (fun tail heq => ?_) fun tail heq => ?_ <;>
        rw [List.nil_append] at heq
      · exact (hmore 'e' (by rw [heq]; rfl)).2.2.1 rfl
      · exact (hmore 'E' (by rw [heq]; rfl)).2.2.2 rfl

theorem scanUnsigned_append {negative : Bool} {literal : NumberLiteral} (hmore : EndsBefore more)
    (h : scanUnsigned negative text = some (literal, rest)) :
    scanUnsigned negative (text ++ more) = some (literal, rest ++ more) := by
  simp only [scanUnsigned, Option.bind_eq_bind, Option.bind_eq_some_iff, Option.pure_def,
    Option.some.injEq, Prod.mk.injEq] at h ⊢
  obtain ⟨⟨whole, text₁⟩, hwhole, ⟨fraction, text₂⟩, hfraction, ⟨exponent, text₃⟩, hexponent,
    hliteral, rfl⟩ := h
  exact ⟨_, scanWhole_append hmore hwhole, _, scanFraction_append hmore hfraction, _,
    scanExponent_append hmore hexponent, hliteral, rfl⟩

theorem scan_append {literal : NumberLiteral} (hmore : EndsBefore more)
    (h : scan text = some (literal, rest)) :
    scan (text ++ more) = some (literal, rest ++ more) := by
  unfold scan at h
  split at h
  · exact scanUnsigned_append hmore h
  · rename_i hminus
    cases text with
    | nil => cases h
    | cons c text =>
      rw [List.cons_append, scan.eq_2 _ (by rintro tail ⟨⟩; exact hminus _ rfl)]
      exact scanUnsigned_append hmore h

/-! ## Integers -/

/-- The literal of an integer as it is written. -/
def ofInt (n : Int) : NumberLiteral := ⟨decide (n < 0), Nat.toDigits 10 n.natAbs, none, none⟩

/-- Only zero is written with a zero in front. -/
theorem eq_nil_of_toDigits_eq_zero_cons {n : Nat} {digits : List Char}
    (h : Nat.toDigits 10 n = '0' :: digits) : digits = [] := by
  induction n using Nat.strongRecOn generalizing digits with
  | ind n ih =>
    by_cases hn : n < 10
    · rw [Nat.toDigits_of_lt_base hn] at h
      exact (List.cons.inj h).2.symm
    · have hbase : 10 ≤ n := by omega
      rw [Nat.toDigits_of_base_le (by decide) hbase] at h
      cases hfront : Nat.toDigits 10 (n / 10) with
      | nil => exact absurd hfront Nat.toDigits_ne_nil
      | cons c front =>
        rw [hfront, List.cons_append] at h
        obtain ⟨rfl, -⟩ := List.cons.inj h
        obtain rfl := ih (n / 10) (by omega) hfront
        have hzero : n / 10 = 0 := by
          rw [← Nat.ofDigitChars_toDigits (b := 10) (n := n / 10) (by decide) (by decide), hfront]
          rfl
        omega

theorem scanWhole_toDigits (n : Nat) (hmore : EndsBefore more) :
    scanWhole (Nat.toDigits 10 n ++ more) = some (Nat.toDigits 10 n, more) := by
  have hall : ∀ c ∈ Nat.toDigits 10 n, c.isDigit = true := fun c hc =>
    Nat.isDigit_of_mem_toDigits (by decide) (by decide) hc
  obtain ⟨htake, hdrop⟩ := takeWhile_isDigit_append [] hmore
  have hdigits : scanDigits (Nat.toDigits 10 n ++ more) = some (Nat.toDigits 10 n, more) := by
    unfold scanDigits
    rw [List.takeWhile_append_of_pos hall, List.dropWhile_append_of_pos hall]
    rw [List.nil_append] at htake hdrop
    simp [htake, hdrop, Nat.toDigits_ne_nil]
  unfold scanWhole
  rw [hdigits]
  split
  · rename_i c digits rest heq
    rw [Option.some.injEq, Prod.mk.injEq] at heq
    exact absurd (eq_nil_of_toDigits_eq_zero_cons heq.1) (List.cons_ne_nil _ _)
  · rfl

theorem scanUnsigned_toDigits (negative : Bool) (n : Nat) (hmore : EndsBefore more) :
    scanUnsigned negative (Nat.toDigits 10 n ++ more) =
      some (⟨negative, Nat.toDigits 10 n, none, none⟩, more) := by
  have hfraction : scanFraction ([] ++ more) = some (none, [] ++ more) :=
    scanFraction_append hmore rfl
  have hexponent : scanExponent ([] ++ more) = some (none, [] ++ more) :=
    scanExponent_append hmore rfl
  rw [List.nil_append] at hfraction hexponent
  simp [scanUnsigned, scanWhole_toDigits n hmore, hfraction, hexponent]

/-- The literal of an integer is read off the front of a text. -/
theorem scan_intText (n : Int) (hmore : EndsBefore more) :
    scan (Json.intText n ++ more) = some (ofInt n, more) := by
  unfold Json.intText ofInt
  split
  · rename_i hn
    rw [List.cons_append, scan, scanUnsigned_toDigits _ _ hmore, decide_eq_true hn]
  · rename_i hn
    rw [decide_eq_false hn, ← scanUnsigned_toDigits _ _ hmore]
    refine scan.eq_2 _ fun tail heq => ?_
    have hmem : '-' ∈ Nat.toDigits 10 n.natAbs := by
      cases hdigits : Nat.toDigits 10 n.natAbs with
      | nil => exact absurd hdigits Nat.toDigits_ne_nil
      | cons c digits =>
        rw [hdigits, List.cons_append] at heq
        rw [(List.cons.inj heq).1]
        exact List.mem_cons_self
    exact absurd (Nat.isDigit_of_mem_toDigits (by decide) (by decide) hmem) (by decide)

/-- The integers that are no fractions when they are read. -/
theorem value?_ofInt {n : Int} (hlow : -0x8000000000000000 ≤ n) (hhigh : n < 0x10000000000000000) :
    (ofInt n).value? = some (.int n) := by
  have hnat : natOf (ofInt n).whole = n.natAbs :=
    Nat.ofDigitChars_toDigits (by decide) (by decide)
  unfold value?
  dsimp only
  rw [hnat, if_pos ⟨rfl, rfl⟩]
  by_cases hn : n < 0
  · have hbounds : 0 < n.natAbs ∧ n.natAbs ≤ 0x8000000000000000 := by omega
    have habs : -(n.natAbs : Int) = n := by omega
    rw [if_pos (by simp [ofInt, hn]), if_pos hbounds, habs]
  · have hbound : n.natAbs < 0x10000000000000000 := by omega
    have habs : (n.natAbs : Int) = n := by omega
    rw [if_neg (by simp [ofInt, hn]), if_pos hbound, habs]

end NumberLiteral

end ContractEmulator
