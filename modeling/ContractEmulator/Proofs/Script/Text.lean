import ContractEmulator.Proofs.Script.Loading
import ContractEmulator.Proofs.Text.Utf8
import Mathlib.Data.List.Forall2

/-!
# Loading a script

A script is loaded as a whole: its file is a text, the text is a JSON array, and every item of the
array is a step.

* `Script.ofText_eq_ok_iff`, `Script.load_eq_ok_iff`: the steps of a text, and of a file.
* `Script.Unloadable`, `Script.exists_load_eq_error_iff`: why a script cannot be loaded.
-/

namespace ContractEmulator

namespace Script

/-- How many containers may be nested in a step of a script. -/
def stepDepth : Nat := Json.maxDepth - 1

/-- Why a script cannot be loaded. -/
inductive Unloadable (files : FileReader) (path : String) : Prop where
  | unreadable {cause : FileError} : files path = .error cause → Unloadable files path
  | notText {bytes : List UInt8} :
      files path = .ok bytes → (∀ text, bytes ≠ Utf8.encode text) → Unloadable files path
  /-- The text is no JSON text, or its value is no array. -/
  | noArray {text : List Char} : files path = .ok (Utf8.encode text) →
      (∀ items, Document.ofText text ≠ ⟨.seq items true, true⟩) → Unloadable files path
  /-- Some item of the array is no step, be it the last. -/
  | noStep {text : List Char} {items : List Node} {item : Node} :
      files path = .ok (Utf8.encode text) → Document.ofText text = ⟨.seq items true, true⟩ →
      item ∈ items → (∀ step, Step.read stepDepth item ≠ .ok step) → Unloadable files path

theorem readSteps_eq_ok_iff {depth : Nat} {items : List Node} {steps : List Step} :
    readSteps depth items = .ok steps ↔
      List.Forall₂ (fun item step => Step.read depth item = .ok step) items steps := by
  induction items generalizing steps with
  | nil => cases steps <;> simp [readSteps]
  | cons item items ih =>
    constructor
    · intro h
      obtain ⟨step, hstep, h⟩ := ReadError.exists_of_bind_eq_ok h
      obtain ⟨steps', hsteps, h⟩ := ReadError.exists_of_bind_eq_ok h
      cases h
      exact .cons hstep (ih.1 hsteps)
    · rintro (_ | ⟨hstep, hsteps⟩)
      rw [readSteps, hstep, ih.2 hsteps]
      rfl

/-- What is read as steps is an array of steps. -/
theorem read_eq_ok {root : Node} {steps : List Step} (h : read Json.maxDepth root = .ok steps) :
    ∃ items, root = .seq items true ∧ readSteps stepDepth items = .ok steps := by
  cases root with
  | seq items closed =>
    obtain ⟨inner, hinner, h⟩ := ReadError.exists_of_bind_eq_ok h
    cases hinner
    obtain ⟨steps', hsteps, h⟩ := ReadError.exists_of_bind_eq_ok h
    cases closed <;> cases h
    exact ⟨items, rfl, hsteps⟩
  | _ =>
    obtain ⟨_, -, h⟩ := ReadError.exists_of_bind_eq_ok h
    cases h

/-- A text is a script if it is a JSON array of steps. -/
theorem ofText_eq_ok_iff {text : List Char} {steps : List Step} : ofText text = .ok steps ↔
    ∃ items, Document.ofText text = ⟨.seq items true, true⟩ ∧
      List.Forall₂ (fun item step => Step.read stepDepth item = .ok step) items steps := by
  constructor
  · intro h
    obtain ⟨steps', hread, h⟩ := ReadError.exists_of_bind_eq_ok h
    cases hdocument : Document.ofText text with
    | mk root ends =>
      rw [hdocument] at hread h
      cases ends <;> cases h
      obtain ⟨items, rfl, hsteps⟩ := read_eq_ok hread
      exact ⟨items, rfl, readSteps_eq_ok_iff.1 hsteps⟩
  · rintro ⟨items, htext, hsteps⟩
    have hread : read Json.maxDepth (.seq items true) = .ok steps := by
      change (readSteps stepDepth items >>= fun steps => if true then .ok steps else _) = _
      rw [readSteps_eq_ok_iff.2 hsteps]
      rfl
    rw [ofText, htext]
    change (read Json.maxDepth (.seq items true) >>= fun steps => if true then .ok steps else _) = _
    rw [hread]
    rfl

theorem load_eq_ok_iff {files : FileReader} {path : String} {steps : List Step} :
    load files path = .ok steps ↔
      ∃ text, files path = .ok (Utf8.encode text) ∧ ofText text = .ok steps := by
  constructor
  · intro h
    unfold load at h
    split at h
    · cases h
    · rename_i bytes hfile
      split at h
      · cases h
      · rename_i text hdecode
        obtain rfl := Utf8.decode_eq_ok_iff.1 hdecode
        split at h
        · cases h
        · rename_i htext
          cases h
          exact ⟨text, hfile, htext⟩
  · rintro ⟨text, hfile, htext⟩
    simp [load, hfile, Utf8.decode_encode, htext]

theorem exists_forall₂_of_forall {depth : Nat} {items : List Node}
    (h : ∀ item ∈ items, ∃ step, Step.read depth item = .ok step) :
    ∃ steps, List.Forall₂ (fun item step => Step.read depth item = .ok step) items steps := by
  induction items with
  | nil => exact ⟨[], .nil⟩
  | cons item items ih =>
    obtain ⟨⟨step, hstep⟩, hitems⟩ := List.forall_mem_cons.1 h
    obtain ⟨steps, hsteps⟩ := ih hitems
    exact ⟨step :: steps, .cons hstep hsteps⟩

theorem exists_read_of_mem {depth : Nat} {items : List Node} {steps : List Step} {item : Node}
    (h : List.Forall₂ (fun item step => Step.read depth item = .ok step) items steps)
    (hitem : item ∈ items) : ∃ step, Step.read depth item = .ok step := by
  induction h with
  | nil => cases hitem
  | @cons _ step _ _ hstep _ ih =>
    rcases List.mem_cons.1 hitem with rfl | hitem
    · exact ⟨step, hstep⟩
    · exact ih hitem

theorem unloadable_of_ofText {files : FileReader} {path : String} {text : List Char}
    (hfile : files path = .ok (Utf8.encode text)) (h : ∀ steps, ofText text ≠ .ok steps) :
    Unloadable files path := by
  by_cases harray : ∃ items, Document.ofText text = ⟨.seq items true, true⟩
  · obtain ⟨items, hitems⟩ := harray
    by_cases hread : ∀ item ∈ items, ∃ step, Step.read stepDepth item = .ok step
    · obtain ⟨steps, hsteps⟩ := exists_forall₂_of_forall hread
      exact absurd (ofText_eq_ok_iff.2 ⟨items, hitems, hsteps⟩) (h steps)
    · simp only [not_forall, not_exists] at hread
      obtain ⟨item, hitem, hnone⟩ := hread
      exact .noStep hfile hitems hitem hnone
  · exact .noArray hfile (not_exists.1 harray)

theorem Unloadable.load_ne {files : FileReader} {path : String} (h : Unloadable files path)
    (steps : List Step) : load files path ≠ .ok steps := by
  intro hload
  obtain ⟨text, hfile, htext⟩ := load_eq_ok_iff.1 hload
  obtain ⟨items, hitems, hsteps⟩ := ofText_eq_ok_iff.1 htext
  cases h with
  | unreadable hfile' =>
    rw [hfile] at hfile'
    cases hfile'
  | notText hfile' hnone =>
    rw [hfile] at hfile'
    cases hfile'
    exact hnone text rfl
  | noArray hfile' hnone =>
    rw [hfile] at hfile'
    rw [Utf8.encode_injective (Except.ok.inj hfile')] at hitems
    exact hnone items hitems
  | noStep hfile' hitems' hitem hnone =>
    rw [hfile] at hfile'
    rw [Utf8.encode_injective (Except.ok.inj hfile'), hitems'] at hitems
    cases hitems
    obtain ⟨step, hstep⟩ := exists_read_of_mem hsteps hitem
    exact hnone step hstep

/-- A script that is not loaded is one of these. -/
theorem exists_load_eq_error_iff {files : FileReader} {path : String} :
    (∃ e, load files path = .error e) ↔ Unloadable files path := by
  constructor
  · rintro ⟨e, hload⟩
    have hnone : ∀ steps, load files path ≠ .ok steps := by simp [hload]
    cases hfile : files path with
    | error cause => exact .unreadable hfile
    | ok bytes =>
      by_cases htext : ∃ text, bytes = Utf8.encode text
      · obtain ⟨text, rfl⟩ := htext
        exact unloadable_of_ofText hfile fun steps htext =>
          hnone steps (load_eq_ok_iff.2 ⟨text, hfile, htext⟩)
      · exact .notText hfile (not_exists.1 htext)
  · intro h
    cases hload : load files path with
    | error e => exact ⟨e, rfl⟩
    | ok steps => exact absurd hload (h.load_ne steps)

end Script

end ContractEmulator
