import ContractEmulator.Descriptor
import ContractEmulator.Proofs.Text.Utf8

/-!
# The grammar of descriptors

A descriptor is the marker and a symbol, with blanks around both, in UTF-8.

* `Blank.trim_eq_iff`: what is left of a text without the blanks at its ends.
* `Descriptor.Names`: a code is a descriptor with a given symbol. `Descriptor.trims_iff`: this is
  what the two trims of the reader find out.
* `Descriptor.parse_eq_ok_iff`: what is accepted. `Descriptor.Explains`: why the rest is refused.
* `Descriptor.parse_grammar`: all of this, and what follows for names with blanks at their ends.
-/

namespace ContractEmulator

namespace Blank

/-- Nothing but blanks. -/
def AllBlank (text : List Char) : Prop := ∀ c ∈ text, isBlank c = true

instance (text : List Char) : Decidable (AllBlank text) :=
  decidable_of_iff (text.all isBlank = true) List.all_eq_true

/-- No blank at either end. -/
structure Bare (text : List Char) : Prop where
  first {c : Char} : text.head? = some c → isBlank c = false
  last {c : Char} : text.getLast? = some c → isBlank c = false

theorem AllBlank.append {text text' : List Char} (h : AllBlank text) (h' : AllBlank text') :
    AllBlank (text ++ text') := by
  intro c hc
  rcases List.mem_append.1 hc with hc | hc
  · exact h c hc
  · exact h' c hc

theorem allBlank_takeWhile (text : List Char) : AllBlank (text.takeWhile isBlank) := by
  intro c hc
  exact List.all_eq_true.1 List.all_takeWhile c hc

theorem head?_dropWhile {text : List Char} {c : Char}
    (h : (text.dropWhile isBlank).head? = some c) : isBlank c = false := by
  have hnot := List.head?_dropWhile_not isBlank text
  rw [h] at hnot
  exact hnot

theorem dropWhile_eq_self {text : List Char}
    (h : ∀ {c}, text.head? = some c → isBlank c = false) : text.dropWhile isBlank = text := by
  cases text with
  | nil => rfl
  | cons c text =>
    have hc := h rfl
    exact List.dropWhile_cons_of_neg (by simp [hc])

theorem dropWhile_of_allBlank {text : List Char} (h : AllBlank text) :
    text.dropWhile isBlank = [] := by
  rw [← List.append_nil text, List.dropWhile_append_of_pos h]
  rfl

/-- The second half of a trim only takes blanks away. -/
theorem trim_append_reverse (text : List Char) :
    trim text ++ ((trimStart text).reverse.takeWhile isBlank).reverse = trimStart text := by
  rw [trim, trimEnd, ← List.reverse_append, List.takeWhile_append_dropWhile, List.reverse_reverse]

theorem exists_of_trim (text : List Char) :
    ∃ w w', AllBlank w ∧ AllBlank w' ∧ text = w ++ trim text ++ w' := by
  refine ⟨text.takeWhile isBlank, ((trimStart text).reverse.takeWhile isBlank).reverse,
    allBlank_takeWhile text, fun c hc => ?_, ?_⟩
  · exact allBlank_takeWhile _ c (List.mem_reverse.1 hc)
  · rw [List.append_assoc, trim_append_reverse]
    exact List.takeWhile_append_dropWhile.symm

theorem bare_trim (text : List Char) : Bare (trim text) where
  first {c} h := by
    have hstart : (trimStart text).head? = some c := by
      rw [← trim_append_reverse text, List.head?_append, h]
      rfl
    exact head?_dropWhile hstart
  last h := by
    rw [trim, trimEnd, List.getLast?_reverse] at h
    exact head?_dropWhile h

/-- What is left without the blanks at the ends is bare, and only blanks are gone. -/
theorem trim_eq_iff {text core : List Char} :
    trim text = core ↔ Bare core ∧ ∃ w w', AllBlank w ∧ AllBlank w' ∧ text = w ++ core ++ w' := by
  constructor
  · rintro rfl
    exact ⟨bare_trim text, exists_of_trim text⟩
  · rintro ⟨hcore, w, w', hw, hw', rfl⟩
    have hstart : trimStart (w ++ core ++ w') = (core ++ w').dropWhile isBlank := by
      rw [trimStart, List.append_assoc, List.dropWhile_append_of_pos hw]
    rw [trim, hstart]
    cases core with
    | nil => rw [List.nil_append, dropWhile_of_allBlank hw']; rfl
    | cons c core =>
      have hc := hcore.first rfl
      have hw'' : AllBlank w'.reverse := fun c hc => hw' c (List.mem_reverse.1 hc)
      rw [List.cons_append, List.dropWhile_cons_of_neg (by simp [hc]), ← List.cons_append, trimEnd,
        List.reverse_append, List.dropWhile_append_of_pos hw'',
        dropWhile_eq_self fun h => hcore.last (by rwa [List.head?_reverse] at h),
        List.reverse_reverse]

end Blank

namespace Descriptor

open Blank

/-- A code is the marker and a symbol, with blanks before, between and after them. -/
def Names (symbol : String) (code : List UInt8) : Prop :=
  ∃ w w' w'', AllBlank w ∧ AllBlank w' ∧ AllBlank w'' ∧
    code = Utf8.encode (w ++ marker ++ w' ++ symbol.toList ++ w'')

theorem afterMarker?_eq_some_iff {text rest : List Char} :
    afterMarker? text = some rest ↔ text = marker ++ rest := by
  unfold afterMarker?
  split
  · rename_i hmarker
    obtain ⟨rest', rfl⟩ := List.isPrefixOf_iff_prefix.1 hmarker
    simp
  · rename_i hmarker
    refine ⟨nofun, ?_⟩
    rintro rfl
    exact absurd (List.isPrefixOf_iff_prefix.2 (List.prefix_append _ _)) hmarker

theorem afterMarker?_eq_none_iff {text : List Char} :
    afterMarker? text = none ↔ ¬marker <+: text := by
  unfold afterMarker?
  split
  · rename_i hmarker
    exact ⟨nofun, fun h => absurd (List.isPrefixOf_iff_prefix.1 hmarker) h⟩
  · rename_i hmarker
    exact ⟨fun _ h => hmarker (List.isPrefixOf_iff_prefix.2 h), fun _ => rfl⟩

theorem bare_marker_append {text : List Char}
    (h : ∀ {c}, text.getLast? = some c → isBlank c = false) : Bare (marker ++ text) where
  first hc := by
    cases hc
    decide
  last {c} hc := by
    rw [List.getLast?_append] at hc
    cases hlast : text.getLast? with
    | none =>
      rw [hlast] at hc
      cases hc
      decide
    | some d =>
      rw [hlast] at hc
      cases hc
      exact h hlast

/-- What is found by a trim, the marker and another trim. -/
theorem trims_iff {text core : List Char} :
    (∃ rest, trim text = marker ++ rest ∧ trim rest = core) ↔
      Bare core ∧ ∃ w w' w'', AllBlank w ∧ AllBlank w' ∧ AllBlank w'' ∧
        text = w ++ marker ++ w' ++ core ++ w'' := by
  constructor
  · rintro ⟨rest, htext, hrest⟩
    obtain ⟨-, v, v', hv, hv', rfl⟩ := trim_eq_iff.1 htext
    obtain ⟨hcore, w, w', hw, hw', rfl⟩ := trim_eq_iff.1 hrest
    exact ⟨hcore, v, w, w' ++ v', hv, hw, hw'.append hv', by simp⟩
  · rintro ⟨hcore, w, w', w'', hw, hw', hw'', rfl⟩
    cases core with
    | nil =>
      -- With an empty symbol the first trim takes the blanks after the marker too.
      refine ⟨[], trim_eq_iff.2
        ⟨bare_marker_append nofun, w, w' ++ w'', hw, hw'.append hw'', ?_⟩, rfl⟩
      simp
    | cons c core =>
      refine ⟨w' ++ c :: core, trim_eq_iff.2 ⟨bare_marker_append fun h => hcore.last ?_, w, w'', hw,
        hw'', by simp⟩, trim_eq_iff.2 ⟨hcore, w', [], hw', List.forall_mem_nil _, by simp⟩⟩
      have hlast : (w' ++ c :: core).getLast? = (c :: core).getLast? := by
        simp [List.getLast?_append, List.getLast?_cons]
      rwa [← hlast]

variable {name : String} {code : List UInt8}

theorem symbol_encode (name : String) (text : List Char) :
    symbol name (Utf8.encode text) =
      match afterMarker? (trim text) with
      | none => .error .noMarker
      | some rest =>
        if String.ofList (trim rest) = name then .ok (String.ofList (trim rest))
        else .error (.declares (String.ofList (trim rest))) := by
  cases h : afterMarker? (trim text) <;> simp [symbol, Utf8.decode_encode, h]

theorem symbol_eq_ok_iff {found : String} : symbol name code = .ok found ↔
    found = name ∧ ∃ text rest, code = Utf8.encode text ∧ trim text = marker ++ rest ∧
      trim rest = name.toList := by
  constructor
  · intro h
    obtain rfl := eq_of_symbol h
    refine ⟨rfl, ?_⟩
    cases hdecode : Utf8.decode code with
    | error refusal =>
      rw [symbol, hdecode] at h
      cases h
    | ok text =>
      obtain rfl := Utf8.decode_eq_ok_iff.1 hdecode
      rw [symbol_encode] at h
      split at h
      · cases h
      · rename_i rest hrest
        refine ⟨text, rest, rfl, afterMarker?_eq_some_iff.1 hrest, ?_⟩
        split at h
        · rename_i heq
          rw [← heq, String.toList_ofList]
        · cases h
  · rintro ⟨rfl, text, rest, rfl, htext, hrest⟩
    rw [symbol_encode, afterMarker?_eq_some_iff.2 htext]
    simp [hrest]

theorem parse_eq_ok_iff_symbol {found : String} :
    parse name code = .ok found ↔ symbol name code = .ok found := by
  unfold parse
  cases symbol name code <;> simp

/-- A code is accepted if it is a descriptor with the binary name for its symbol, and this name has
no blank at its ends. -/
theorem parse_eq_ok_iff {found : String} : parse name code = .ok found ↔
    found = name ∧ Bare name.toList ∧ Names name code := by
  rw [parse_eq_ok_iff_symbol, symbol_eq_ok_iff]
  refine and_congr_right fun _ => ?_
  constructor
  · rintro ⟨text, rest, rfl, htrims⟩
    obtain ⟨hbare, w, w', w'', hw, hw', hw'', rfl⟩ := trims_iff.1 ⟨rest, htrims⟩
    exact ⟨hbare, w, w', w'', hw, hw', hw'', rfl⟩
  · rintro ⟨hbare, w, w', w'', hw, hw', hw'', rfl⟩
    obtain ⟨rest, htrims⟩ := trims_iff.2 ⟨hbare, w, w', w'', hw, hw', hw'', rfl⟩
    exact ⟨_, rest, rfl, htrims⟩

/-- A code names one symbol at most. -/
theorem eq_of_symbol_eq_ok {other found found' : String} (h : symbol name code = .ok found)
    (h' : symbol other code = .ok found') : name = other := by
  obtain ⟨-, text, rest, hcode, htext, hrest⟩ := symbol_eq_ok_iff.1 h
  obtain ⟨-, text', rest', hcode', htext', hrest'⟩ := symbol_eq_ok_iff.1 h'
  have hsame : text = text' := Utf8.encode_injective (hcode.symm.trans hcode')
  have hrests : marker ++ rest = marker ++ rest' := by rw [← htext, ← htext', hsame]
  have hnames : name.toList = other.toList := by
    rw [← hrest, ← hrest', List.append_cancel_left hrests]
  exact String.toList_inj.1 hnames

/-- Why a code is refused. Either it is no text, or without the blanks at its ends it does not start
with the marker, or what comes after the marker is another symbol. -/
structure Explains (code : List UInt8) (fault : LoadFault) : Prop where
  notText : (∃ refusal, fault = .notText refusal ∧
      fault.message = s!"code is not UTF-8: {refusal.message}") ↔
    ∀ text, code ≠ Utf8.encode text
  noMarker : (fault = .noMarker ∧ fault.message = "code does not start with 'native:'") ↔
    ∃ text, code = Utf8.encode text ∧ ¬marker <+: trim text
  declares {found : String} : (fault = .declares found ∧
      fault.message = s!"code declares '{found}'") ↔
    ∃ text rest, code = Utf8.encode text ∧ trim text = marker ++ rest ∧ trim rest = found.toList

theorem explains_of_symbol {fault : LoadFault} (h : symbol name code = .error fault) :
    Explains code fault := by
  cases hdecode : Utf8.decode code with
  | error refusal =>
    have hnone : ∀ text, code ≠ Utf8.encode text := Utf8.exists_decode_eq_error_iff.1 ⟨_, hdecode⟩
    rw [symbol, hdecode] at h
    cases h
    refine ⟨⟨fun _ => hnone, fun _ => ⟨refusal, rfl, rfl⟩⟩, ⟨nofun, ?_⟩, ⟨nofun, ?_⟩⟩
    · rintro ⟨text, hcode, -⟩
      exact absurd hcode (hnone text)
    · rintro ⟨text, _, hcode, -⟩
      exact absurd hcode (hnone text)
  | ok text =>
    obtain rfl := Utf8.decode_eq_ok_iff.1 hdecode
    rw [symbol_encode] at h
    split at h
    · rename_i hmarker
      cases h
      rw [afterMarker?_eq_none_iff] at hmarker
      refine ⟨⟨nofun, fun h => absurd rfl (h text)⟩,
        ⟨fun _ => ⟨text, rfl, hmarker⟩, fun _ => ⟨rfl, rfl⟩⟩, ⟨nofun, ?_⟩⟩
      rintro ⟨text', rest, heq, htrim, -⟩
      obtain rfl := Utf8.encode_injective heq
      exact absurd ⟨rest, htrim.symm⟩ hmarker
    · rename_i rest hrest
      split at h
      · cases h
      · cases h
        rw [afterMarker?_eq_some_iff] at hrest
        refine ⟨⟨nofun, fun h => absurd rfl (h text)⟩, ⟨nofun, ?_⟩, ⟨?_, ?_⟩⟩
        · rintro ⟨text', heq, hmarker⟩
          obtain rfl := Utf8.encode_injective heq
          exact absurd ⟨rest, hrest.symm⟩ hmarker
        · rintro ⟨hfound, -⟩
          cases hfound
          exact ⟨text, rest, rfl, hrest, String.toList_ofList.symm⟩
        · rintro ⟨text', rest', heq, hrest', hfound⟩
          obtain rfl := Utf8.encode_injective heq
          rw [hrest] at hrest'
          obtain rfl := List.append_cancel_left hrest'
          rw [hfound, String.ofList_toList]
          exact ⟨rfl, rfl⟩

theorem parse_eq_error_iff {failure : Failure} : parse name code = .error failure ↔
    ∃ fault, failure = .notLoadable name fault ∧ symbol name code = .error fault := by
  unfold parse
  cases symbol name code <;> simp [eq_comm]

theorem names_encode (name : String) : Names name (encode name) :=
  ⟨[], [], [], List.forall_mem_nil _, List.forall_mem_nil _, List.forall_mem_nil _,
    by simp [encode]⟩

/-- Which codes are accepted for a name, and why the others are not. A code is accepted for one name
at most. The code that is made for a name is accepted for it, unless the name has a blank at an end:
then no code is. -/
theorem parse_grammar (name : String) (code : List UInt8) :
    (∀ found, parse name code = .ok found ↔
      found = name ∧ Bare name.toList ∧ Names name code) ∧
    (∀ other found found', parse name code = .ok found → parse other code = .ok found' →
      name = other) ∧
    (parse name (encode name) = .ok name ↔ Bare name.toList) ∧
    (¬Bare name.toList → ∀ code found, parse name code ≠ .ok found) ∧
    (∀ failure, parse name code = .error failure →
      ∃ fault, failure = .notLoadable name fault ∧ failure.kind = "Transformation" ∧
        Explains code fault) := by
  refine ⟨fun found => parse_eq_ok_iff, fun other found found' h h' => ?_, ?_,
    fun hends code found h => hends (parse_eq_ok_iff.1 h).2.1, fun failure h => ?_⟩
  · exact eq_of_symbol_eq_ok (parse_eq_ok_iff_symbol.1 h) (parse_eq_ok_iff_symbol.1 h')
  · rw [parse_eq_ok_iff]
    exact ⟨fun h => h.2.1, fun hbare => ⟨rfl, hbare, names_encode name⟩⟩
  · obtain ⟨fault, rfl, hsymbol⟩ := parse_eq_error_iff.1 h
    exact ⟨fault, rfl, rfl, explains_of_symbol hsymbol⟩

/-- A descriptor with wide blanks around its parts. -/
def spacedCode : List UInt8 := Utf8.encode "\u3000native:\u00a0é b\n".toList

/-- It is accepted for the name in it. It is refused for a name with a blank at its end, as is every
other code, and for another name because of the name in it. -/
theorem spaced_parse_grammar : parse "é b" spacedCode = .ok "é b" ∧
    (∀ code found, parse "é " code ≠ .ok found) ∧
    ∃ fault, parse "b" spacedCode = .error (.notLoadable "b" fault) ∧ fault = .declares "é b" := by
  have hbare : Bare "é b".toList := ⟨by rintro _ ⟨⟩; decide, by rintro _ ⟨⟩; decide⟩
  have hnames : Names "é b" spacedCode :=
    ⟨['\u3000'], ['\u00a0'], ['\n'], by decide, by decide, by decide, by decide⟩
  have hparse := ((parse_grammar "é b" spacedCode).1 "é b").2 ⟨rfl, hbare, hnames⟩
  refine ⟨hparse, (parse_grammar "é " spacedCode).2.2.2.1 fun h => ?_, ?_⟩
  · exact absurd (h.last (c := ' ') rfl) (by decide)
  · cases hother : parse "b" spacedCode with
    | ok found => exact absurd ((parse_grammar "b" spacedCode).2.1 _ _ _ hother hparse) (by decide)
    | error failure =>
      obtain ⟨fault, rfl, -, hexplains⟩ := (parse_grammar "b" spacedCode).2.2.2.2 failure hother
      refine ⟨fault, rfl, (hexplains.declares.2 ⟨"\u3000native:\u00a0é b\n".toList,
        "\u00a0é b".toList, rfl, by decide, by decide⟩).1⟩

end Descriptor

end ContractEmulator
