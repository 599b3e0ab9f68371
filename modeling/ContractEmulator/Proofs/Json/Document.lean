import ContractEmulator.Json.Node
import ContractEmulator.Proofs.Json.Token
import Mathlib.Data.List.Forall2

/-!
# Trees of joined texts

A text that is a whole value is read in the same way wherever it stands: the containers that are
open around it stay as they are.

* `Node.HasText`: a text that is one value, with nothing after it. `Node.HasText.isIntact`: its tree
  holds no fault.
* `Document.step_within`, `Document.build_append`: reading inside of open containers, token by token
  and up to the end of a value.
* `Node.HasText.seq`, `Node.HasText.map`: texts with commas between them, in brackets or under keys
  in braces, are an array and an object.
-/

namespace ContractEmulator

/-- The text is this value, and nothing follows it. -/
def Node.HasText (n : Node) (text : List Char) : Prop := Document.ofText text = ⟨n, true⟩

namespace Document

variable {awaited : Awaited} {inner frames : List Frame} {t : Token} {n : Node}
  {tokens more : List Token}

/-! ## Open containers -/

/-- What a token leads to if there are more open containers around. -/
def Progress.within (frames : List Frame) : Progress → Progress
  | .reading awaited inner => .reading awaited (inner ++ frames)
  | .finished n => resume n frames
  | .fault root => .fault root

/-- Goes on with the other tokens. -/
def Progress.document : Progress → List Token → Document
  | .reading awaited frames, tokens => build awaited frames tokens
  | .finished root, tokens => ⟨root, tokens.isEmpty⟩
  | .fault root, _ => ⟨root, false⟩

theorem build_cons (awaited : Awaited) (frames : List Frame) (t : Token) (tokens : List Token) :
    build awaited frames (t :: tokens) = (step awaited frames t).document tokens := by
  rw [build]
  cases step awaited frames t <;> rfl

theorem resume_append (n : Node) (inner frames : List Frame) :
    resume n (inner ++ frames) = (resume n inner).within frames := by
  cases inner with
  | nil => rfl
  | cons frame inner => cases frame <;> rfl

theorem stepValue_append (h : ∀ root, stepValue inner t ≠ .fault root) :
    stepValue (inner ++ frames) t = (stepValue inner t).within frames := by
  cases t with
  | openBracket | openBrace => rfl
  | null | bool | number | string => exact resume_append _ _ _
  | _ => exact absurd rfl (h _)

theorem stepKey_append (h : ∀ root, stepKey inner t ≠ .fault root) :
    stepKey (inner ++ frames) t = (stepKey inner t).within frames := by
  cases t with
  | string => rfl
  | _ => exact absurd rfl (h _)

theorem stepSeparator_append (h : ∀ root, stepSeparator inner t ≠ .fault root) :
    stepSeparator (inner ++ frames) t = (stepSeparator inner t).within frames := by
  unfold stepSeparator at h
  split at h
  · rfl
  · rfl
  · exact absurd rfl (h _)

theorem close?_append {rest : List Frame} (h : close? t inner = some (n, rest)) :
    close? t (inner ++ frames) = some (n, rest ++ frames) := by
  unfold close? at h
  split at h
  · cases h
    rfl
  · cases h
    rfl
  · cases h

/-- A token that closes nothing leads on to `next`, which allows no closing bracket or brace. -/
theorem close?_or_append {next : List Frame → Token → Progress}
    (hbracket : ∃ root, next [] .closeBracket = .fault root)
    (hbrace : ∃ root, next [] .closeBrace = .fault root)
    (hnext : (∀ root, next inner t ≠ .fault root) →
      next (inner ++ frames) t = (next inner t).within frames)
    (h : ∀ root, (match close? t inner with
      | some (n, rest) => resume n rest
      | none => next inner t) ≠ .fault root) :
    (match close? t (inner ++ frames) with
      | some (n, rest) => resume n rest
      | none => next (inner ++ frames) t) =
    (match close? t inner with
      | some (n, rest) => resume n rest
      | none => next inner t).within frames := by
  cases hclose : close? t inner with
  | some closed =>
    obtain ⟨n, rest⟩ := closed
    rw [close?_append hclose]
    exact resume_append n rest frames
  | none =>
    rw [hclose] at h
    -- A closing token that closes nothing inside could close a container around it, but is a fault.
    have hnone : close? t (inner ++ frames) = none := by
      cases inner with
      | cons frame inner => cases t <;> cases frame <;> first | rfl | cases hclose
      | nil =>
        cases t with
        | closeBracket => exact absurd hbracket.choose_spec (h _)
        | closeBrace => exact absurd hbrace.choose_spec (h _)
        | _ => rfl
    rw [hnone]
    exact hnext h

/-- A token that fits is read in the same way inside of more open containers. -/
theorem step_within (h : ∀ root, step awaited inner t ≠ .fault root) (frames : List Frame) :
    step awaited (inner ++ frames) t = (step awaited inner t).within frames := by
  cases awaited with
  | value => exact stepValue_append h
  | key => exact stepKey_append h
  | colon key =>
    dsimp only [step] at h
    split at h
    · rfl
    · exact absurd rfl (h _)
  | firstItem => exact close?_or_append ⟨_, rfl⟩ ⟨_, rfl⟩ stepValue_append h
  | firstKey => exact close?_or_append ⟨_, rfl⟩ ⟨_, rfl⟩ stepKey_append h
  | separator => exact close?_or_append ⟨_, rfl⟩ ⟨_, rfl⟩ stepSeparator_append h

/-- A value is read in the same way inside of more open containers, and in front of more tokens. -/
theorem build_append (h : build awaited inner tokens = ⟨n, true⟩) (frames : List Frame)
    (more : List Token) :
    build awaited (inner ++ frames) (tokens ++ more) = (resume n frames).document more := by
  induction tokens generalizing awaited inner with
  | nil => cases h
  | cons t tokens ih =>
    rw [build_cons] at h
    have hfits : ∀ root, step awaited inner t ≠ .fault root := by
      intro root hfault
      rw [hfault] at h
      cases h
    rw [List.cons_append, build_cons, step_within hfits]
    cases hstep : step awaited inner t with
    | reading awaited' inner' =>
      rw [hstep] at h
      exact ih h
    | finished root =>
      rw [hstep, Progress.document] at h
      obtain ⟨rfl, hempty⟩ := Document.mk.inj h
      rw [List.isEmpty_iff.1 hempty]
      rfl
    | fault root => exact absurd hstep (hfits root)

/-- What starts a value may stand where an array could end. -/
theorem build_firstItem (h : build .value [] tokens = ⟨n, true⟩) (frames : List Frame)
    (more : List Token) :
    build .firstItem frames (tokens ++ more) = build .value frames (tokens ++ more) := by
  cases tokens with
  | nil => cases h
  | cons t tokens =>
    have hclose : close? t frames = none := by
      cases t with
      | closeBracket | closeBrace => cases h
      | _ => rfl
    have hsame : step .firstItem frames t = step .value frames t := by
      dsimp only [step]
      rw [hclose]
    rw [List.cons_append, build_cons, build_cons, hsame]

/-! ## Faults -/

theorem broken_notMem (h : build awaited frames tokens = ⟨n, true⟩) : .broken ∉ tokens := by
  induction tokens generalizing awaited frames with
  | nil => cases h
  | cons t tokens ih =>
    rw [build_cons] at h
    have hbroken : t ≠ .broken := by
      rintro rfl
      cases awaited <;> cases h
    rw [List.mem_cons, not_or]
    refine ⟨hbroken.symm, ?_⟩
    cases hstep : step awaited frames t with
    | reading awaited' frames' =>
      rw [hstep] at h
      exact ih h
    | finished root =>
      rw [hstep, Progress.document] at h
      rw [List.isEmpty_iff.1 (Document.mk.inj h).2]
      exact List.not_mem_nil
    | fault root =>
      rw [hstep] at h
      cases h

/-- What was read into an open container holds no fault. -/
def Frame.IsIntact : Frame → Prop
  | .seq done => ∀ n ∈ done, n.isIntact = true
  | .map done => ∀ entry ∈ done, entry.2.isIntact = true
  | .field done _ => ∀ entry ∈ done, entry.2.isIntact = true

/-- What a token leads to holds no fault so far. -/
def Progress.IsIntact : Progress → Prop
  | .reading _ frames => ∀ frame ∈ frames, frame.IsIntact
  | .finished root => root.isIntact = true
  | .fault _ => True

end Document

theorem Node.areIntact_iff (items : List Node) :
    areIntact items = true ↔ ∀ n ∈ items, n.isIntact = true := by
  induction items with
  | nil => simp [areIntact]
  | cons n items ih => simp [areIntact, ih]

theorem Node.entriesIntact_iff (entries : List (Option String × Node)) :
    entriesIntact entries = true ↔ ∀ entry ∈ entries, entry.2.isIntact = true := by
  induction entries with
  | nil => simp [entriesIntact]
  | cons entry entries ih =>
    obtain ⟨key, n⟩ := entry
    rw [entriesIntact, Bool.and_eq_true, ih, List.forall_mem_cons]

namespace Document

variable {awaited : Awaited} {frames : List Frame} {t : Token} {n : Node} {tokens : List Token}

theorem isIntact_resume (hn : n.isIntact = true) (hframes : ∀ frame ∈ frames, frame.IsIntact) :
    (resume n frames).IsIntact := by
  cases frames with
  | nil => exact hn
  | cons frame frames =>
    obtain ⟨hframe, hrest⟩ := List.forall_mem_cons.1 hframes
    cases frame with
    | seq | field =>
      exact List.forall_mem_cons.2 ⟨List.forall_mem_cons.2 ⟨hn, hframe⟩, hrest⟩
    | map => exact List.forall_mem_cons.2 ⟨hframe, hrest⟩

theorem isIntact_stepValue (hframes : ∀ frame ∈ frames, frame.IsIntact) :
    (stepValue frames t).IsIntact := by
  cases t with
  | openBracket | openBrace =>
    exact List.forall_mem_cons.2 ⟨List.forall_mem_nil _, hframes⟩
  | null | bool | number | string => exact isIntact_resume rfl hframes
  | _ => trivial

theorem isIntact_stepKey (hframes : ∀ frame ∈ frames, frame.IsIntact) :
    (stepKey frames t).IsIntact := by
  cases t with
  | string => exact hframes
  | _ => trivial

theorem isIntact_stepSeparator (hframes : ∀ frame ∈ frames, frame.IsIntact) :
    (stepSeparator frames t).IsIntact := by
  unfold stepSeparator
  split
  · exact hframes
  · exact hframes
  · trivial

theorem isIntact_close? {rest : List Frame} (hframes : ∀ frame ∈ frames, frame.IsIntact)
    (h : close? t frames = some (n, rest)) : (resume n rest).IsIntact := by
  unfold close? at h
  split at h
  · rename_i done rest
    cases h
    obtain ⟨hdone, hrest⟩ := List.forall_mem_cons.1 hframes
    refine isIntact_resume ?_ hrest
    have hall : ∀ m ∈ done.reverse, m.isIntact = true := fun m hm =>
      hdone m (List.mem_reverse.1 hm)
    rw [Node.isIntact, (Node.areIntact_iff _).2 hall, Bool.and_self]
  · rename_i done rest
    cases h
    obtain ⟨hdone, hrest⟩ := List.forall_mem_cons.1 hframes
    refine isIntact_resume ?_ hrest
    have hall : ∀ entry ∈ done.reverse, entry.2.isIntact = true := fun entry hentry =>
      hdone entry (List.mem_reverse.1 hentry)
    rw [Node.isIntact, (Node.entriesIntact_iff _).2 hall, Bool.and_self]
  · cases h

theorem isIntact_step (hframes : ∀ frame ∈ frames, frame.IsIntact) :
    (step awaited frames t).IsIntact := by
  cases awaited with
  | value => exact isIntact_stepValue hframes
  | key => exact isIntact_stepKey hframes
  | colon key =>
    dsimp only [step]
    split
    · obtain ⟨hframe, hrest⟩ := List.forall_mem_cons.1 hframes
      exact List.forall_mem_cons.2 ⟨hframe, hrest⟩
    · trivial
  | firstItem =>
    dsimp only [step]
    split
    · exact isIntact_close? hframes ‹_›
    · exact isIntact_stepValue hframes
  | firstKey =>
    dsimp only [step]
    split
    · exact isIntact_close? hframes ‹_›
    · exact isIntact_stepKey hframes
  | separator =>
    dsimp only [step]
    split
    · exact isIntact_close? hframes ‹_›
    · exact isIntact_stepSeparator hframes

theorem isIntact_of_build (hframes : ∀ frame ∈ frames, frame.IsIntact)
    (h : build awaited frames tokens = ⟨n, true⟩) : n.isIntact = true := by
  induction tokens generalizing awaited frames with
  | nil => cases h
  | cons t tokens ih =>
    have hstep : (step awaited frames t).IsIntact := isIntact_step hframes
    rw [build_cons] at h
    cases hprogress : step awaited frames t with
    | reading awaited' frames' =>
      rw [hprogress] at h hstep
      exact ih hstep h
    | finished root =>
      rw [hprogress] at h hstep
      obtain ⟨rfl, -⟩ := Document.mk.inj h
      exact hstep
    | fault root =>
      rw [hprogress] at h
      cases h

end Document

namespace Node.HasText

open Document

variable {n : Node} {text rest : List Char}

/-- A text with nothing after its tree is the text of this tree. -/
theorem of_ends (h : (ofText text).ends = true) : (ofText text).root.HasText text := by
  rw [HasText, ← h]

/-- A text that is a value holds no fault. -/
theorem isIntact (h : n.HasText text) : n.isIntact = true :=
  isIntact_of_build (List.forall_mem_nil _) h

/-! ## Arrays and objects -/

/-- The text of a value is read wherever it stands. -/
theorem build_scan (h : n.HasText text) (hrest : NumberLiteral.EndsBefore rest)
    (frames : List Frame) :
    build .value frames (Token.scan (text ++ rest)) =
      (resume n frames).document (Token.scan rest) := by
  rw [Token.scan_append hrest (broken_notMem h)]
  exact build_append h frames (Token.scan rest)

theorem build_firstItem_scan (h : n.HasText text) (hrest : NumberLiteral.EndsBefore rest)
    (frames : List Frame) :
    build .firstItem frames (Token.scan (text ++ rest)) =
      build .value frames (Token.scan (text ++ rest)) := by
  rw [Token.scan_append hrest (broken_notMem h)]
  exact build_firstItem h frames (Token.scan rest)

end Node.HasText

namespace Json

/-- Texts with commas between them. -/
def joinTexts : List (List Char) → List Char
  | [] => []
  | text :: texts => text ++ (if texts.isEmpty then [] else [',']) ++ joinTexts texts

/-- The text of an array of values with the given texts. -/
def arrayText (texts : List (List Char)) : List Char := '[' :: (joinTexts texts ++ [']'])

/-- Texts under keys with commas between them. -/
def joinMembers : List (String × List Char) → List Char
  | [] => []
  | (key, text) :: members =>
    quote key ++ ':' :: (text ++ (if members.isEmpty then [] else [',']) ++ joinMembers members)

/-- The text of an object of values with the given texts under the given keys. -/
def objectText (members : List (String × List Char)) : List Char :=
  '\x7b' :: (joinMembers members ++ ['\x7d'])

theorem joinTexts_singleton (text : List Char) : joinTexts [text] = text := by
  simp [joinTexts]

theorem joinTexts_cons_cons (text next : List Char) (texts : List (List Char)) :
    joinTexts (text :: next :: texts) = text ++ ',' :: joinTexts (next :: texts) := by
  simp [joinTexts]

theorem joinMembers_singleton (key : String) (text : List Char) :
    joinMembers [(key, text)] = quote key ++ ':' :: text := by
  simp [joinMembers]

theorem joinMembers_cons_cons (key : String) (text : List Char) (next : String × List Char)
    (members : List (String × List Char)) : joinMembers ((key, text) :: next :: members) =
      quote key ++ ':' :: (text ++ ',' :: joinMembers (next :: members)) := by
  simp [joinMembers]

theorem compactChars_arr (items : List Json) :
    compactChars (.arr items) = arrayText (items.map compactChars) := by
  have hitems : ∀ items, compactItems items = joinTexts (items.map compactChars) := by
    intro items
    induction items with
    | nil => rfl
    | cons item items ih =>
      rw [compactItems, ih, List.map_cons, joinTexts, List.isEmpty_map]
  rw [compactChars, hitems, arrayText]

theorem compactChars_obj (entries : List (String × Json)) :
    compactChars (.obj entries) =
      objectText (entries.map fun entry => (entry.1, compactChars entry.2)) := by
  have hentries : ∀ entries : List (String × Json), compactEntries entries =
      joinMembers (entries.map fun entry => (entry.1, compactChars entry.2)) := by
    intro entries
    induction entries with
    | nil => rfl
    | cons entry entries ih =>
      rw [compactEntries, ih, List.map_cons, joinMembers, List.isEmpty_map]
  rw [compactChars, hentries, objectText]

end Json

namespace Node.HasText

open Document Json

variable {n : Node} {nodes : List Node} {text : List Char} {texts : List (List Char)}

/-- From an item on, an array is read up to its end. -/
theorem build_joinTexts (h : n.HasText text) (hall : List.Forall₂ HasText nodes texts)
    (done : List Node) :
    build .value [.seq done] (Token.scan (joinTexts (text :: texts) ++ [']'])) =
      ⟨.seq (done.reverse ++ n :: nodes) true, true⟩ := by
  induction hall generalizing n text done with
  | nil =>
    have hend : Token.scan [']'] = [.closeBracket] := by
      rw [Token.scan_punctuation rfl, Token.scan_nil]
    rw [joinTexts_singleton, h.build_scan (.cons (by decide) (by decide) []), hend]
    simp [Progress.document, resume, place, build_cons, step, close?]
  | @cons next nextText nodes texts hnext _ ih =>
    rw [joinTexts_cons_cons, List.append_assoc, List.cons_append,
      h.build_scan (.cons (by decide) (by decide) _), Token.scan_punctuation (c := ',') rfl]
    refine (ih hnext (n :: done)).trans ?_
    rw [List.reverse_cons, List.append_assoc]
    rfl

/-- Values with commas between them are an array. -/
theorem seq (hall : List.Forall₂ HasText nodes texts) :
    (Node.seq nodes true).HasText (arrayText texts) := by
  have hopen : ofText (arrayText texts) =
      build .firstItem [.seq []] (Token.scan (joinTexts texts ++ [']'])) := by
    rw [ofText, arrayText, Token.scan_punctuation rfl]
    rfl
  rw [HasText, hopen]
  cases hall with
  | nil =>
    have hend : Token.scan [']'] = [.closeBracket] := by
      rw [Token.scan_punctuation rfl, Token.scan_nil]
    rw [joinTexts, List.nil_append, hend]
    rfl
  | @cons n text nodes texts h hall =>
    refine Eq.trans ?_ (build_joinTexts h hall [])
    cases texts with
    | nil =>
      rw [joinTexts_singleton]
      exact h.build_firstItem_scan (.cons (by decide) (by decide) _) _
    | cons next texts =>
      rw [joinTexts_cons_cons, List.append_assoc]
      exact h.build_firstItem_scan (.cons (by decide) (by decide) _) _

/-- The text stands under the key. -/
def Member (entry : Option String × Node) (member : String × List Char) : Prop :=
  entry.1 = some member.1 ∧ entry.2.HasText member.2

variable {entries : List (Option String × Node)} {members : List (String × List Char)}

/-- A key is read up to its value. -/
theorem build_quote (key : String) (done : List (Option String × Node)) (rest : List Char) :
    build .key [.map done] (Token.scan (quote key ++ ':' :: rest)) =
      build .value [.field done (some key)] (Token.scan rest) := by
  rw [Token.scan_quote, Token.scan_punctuation rfl]
  rfl

theorem build_joinMembers {key : String} (h : n.HasText text)
    (hall : List.Forall₂ Member entries members) (done : List (Option String × Node)) :
    build .key [.map done] (Token.scan (joinMembers ((key, text) :: members) ++ ['\x7d'])) =
      ⟨.map (done.reverse ++ (some key, n) :: entries) true, true⟩ := by
  induction hall generalizing n key text done with
  | nil =>
    have hend : Token.scan ['\x7d'] = [.closeBrace] := by
      rw [Token.scan_punctuation rfl, Token.scan_nil]
    rw [joinMembers_singleton, List.append_assoc, List.cons_append, build_quote,
      h.build_scan (.cons (by decide) (by decide) []), hend]
    simp [Progress.document, resume, place, build_cons, step, close?]
  | @cons entry member entries members hmember _ ih =>
    obtain ⟨_, next⟩ := entry
    obtain ⟨nextKey, nextText⟩ := member
    obtain ⟨rfl, hnext⟩ := hmember
    rw [joinMembers_cons_cons, List.append_assoc, List.cons_append, List.append_assoc,
      List.cons_append, build_quote, h.build_scan (.cons (by decide) (by decide) _),
      Token.scan_punctuation (c := ',') rfl]
    refine (ih hnext ((some key, n) :: done)).trans ?_
    rw [List.reverse_cons, List.append_assoc]
    rfl

/-- Values under keys are an object. -/
theorem map (hall : List.Forall₂ Member entries members) :
    (Node.map entries true).HasText (objectText members) := by
  have hopen : ofText (objectText members) =
      build .firstKey [.map []] (Token.scan (joinMembers members ++ ['\x7d'])) := by
    rw [ofText, objectText, Token.scan_punctuation rfl]
    rfl
  rw [HasText, hopen]
  cases hall with
  | nil =>
    have hend : Token.scan ['\x7d'] = [.closeBrace] := by
      rw [Token.scan_punctuation rfl, Token.scan_nil]
    rw [joinMembers, List.nil_append, hend]
    rfl
  | @cons entry member entries members hmember hall =>
    obtain ⟨_, n⟩ := entry
    obtain ⟨key, text⟩ := member
    obtain ⟨rfl, h⟩ := hmember
    refine Eq.trans ?_ (build_joinMembers h hall [])
    have hfirst : ∃ rest, joinMembers ((key, text) :: members) ++ ['\x7d'] = quote key ++ rest :=
      ⟨_, by rw [joinMembers, List.append_assoc]⟩
    obtain ⟨rest, hrest⟩ := hfirst
    rw [hrest, Token.scan_quote]
    rfl

end Node.HasText

end ContractEmulator
