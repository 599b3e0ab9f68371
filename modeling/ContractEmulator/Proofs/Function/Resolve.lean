import ContractEmulator.Function.Manager
import ContractEmulator.Proofs.Replay

/-!
# What a function id stands for

A function manager resolves an id to the logic that was loaded for it, or else to the logic that
its entry names at the time. Loading and running functions change what is loaded and what is
remembered, but not what an id stands for.

* `resolve_eq_ok_iff`: what resolves is registered and loadable, or was loaded before.
* `fetch_eq_ok`, `fetch_eq_error_iff`: a fetch hands out what the id resolves to.
* `resolve_of_fetch`, `resolve_setMemory`: neither a fetch nor a new memory changes what an id
  stands for.
* `WellFormed`: what was loaded is registered. Every operation keeps it.
-/

namespace ContractEmulator

namespace FunctionManager

variable {m m' : FunctionManager} {id : String} {function : LoadedFunction}
  {logic : FunctionLogic} {f : Failure}

/-- The logic that an id stands for. -/
def resolve (m : FunctionManager) (id : String) : Except Failure FunctionLogic :=
  match m.loaded.find? id with
  | some function => .ok function.logic
  | none => (m.load id).map LoadedFunction.logic

/-- A function is usable if it is registered and its id stands for some logic. -/
def Usable (m : FunctionManager) (id : String) : Prop :=
  (∃ entry, m.get id = .ok entry) ∧ ∃ logic, m.resolve id = .ok logic

theorem get_eq_ok_iff {entry : FunctionEntry} :
    m.get id = .ok entry ↔ m.registry.find? id = some entry :=
  FunctionRegistry.lookup_eq_ok_iff

theorem get_eq_error_iff : m.get id = .error f ↔
    m.registry.find? id = none ∧ f = .missingFunction id :=
  FunctionRegistry.lookup_eq_error_iff

theorem load_eq_ok_iff : m.load id = .ok function ↔
    ∃ entry logic, m.get id = .ok entry ∧
      m.loader.load .function entry.binaryName entry.code = .ok logic ∧
      function = ⟨logic, .null⟩ := by
  unfold load
  cases hget : m.get id with
  | error f => simp
  | ok entry =>
    cases hload : m.loader.load .function entry.binaryName entry.code with
    | error f => simp [hload]
    | ok logic => simp [hload, eq_comm]

theorem load_eq_error_iff : m.load id = .error f ↔
    (m.registry.find? id = none ∧ f = .missingFunction id) ∨
      ∃ entry, m.registry.find? id = some entry ∧
        m.loader.load .function entry.binaryName entry.code = .error f := by
  unfold load
  cases hget : m.get id with
  | error f' =>
    obtain ⟨hnone, rfl⟩ := get_eq_error_iff.1 hget
    simp [hnone, eq_comm]
  | ok entry =>
    have hbound := get_eq_ok_iff.1 hget
    cases hload : m.loader.load .function entry.binaryName entry.code with
    | error f' => simp [hbound, hload]
    | ok logic => simp [hbound, hload]

theorem resolve_of_loaded (h : m.loaded.find? id = some function) :
    m.resolve id = .ok function.logic := by
  rw [resolve, h]

theorem resolve_of_not_loaded (h : m.loaded.find? id = none) :
    m.resolve id = (m.load id).map LoadedFunction.logic := by
  rw [resolve, h]

/-- What an id stands for was loaded before, or its entry names it. -/
theorem resolve_eq_ok_iff : m.resolve id = .ok logic ↔
    (∃ function, m.loaded.find? id = some function ∧ function.logic = logic) ∨
      (m.loaded.find? id = none ∧ ∃ entry, m.get id = .ok entry ∧
        m.loader.load .function entry.binaryName entry.code = .ok logic) := by
  cases hfind : m.loaded.find? id with
  | some function =>
    rw [resolve_of_loaded hfind]
    simp
  | none =>
    rw [resolve_of_not_loaded hfind]
    constructor
    · intro h
      cases hload : m.load id with
      | error f =>
        rw [hload] at h
        cases h
      | ok function =>
        rw [hload] at h
        cases h
        obtain ⟨entry, logic, hget, hlogic, rfl⟩ := load_eq_ok_iff.1 hload
        exact .inr ⟨rfl, entry, hget, hlogic⟩
    · rintro (⟨function, h, -⟩ | ⟨-, entry, hget, hlogic⟩)
      · cases h
      · rw [load_eq_ok_iff.2 ⟨entry, logic, hget, hlogic, rfl⟩]
        rfl

/-! ## Fetching -/

theorem fetch_eq_ok (h : m.fetch id = .ok (function, m')) :
    m.resolve id = .ok function.logic ∧
      (m' = m ∨ m' = { m with loaded := m.loaded.insert id function }) := by
  unfold fetch at h
  split at h
  · next hfind =>
    cases h
    exact ⟨resolve_of_loaded hfind, .inl rfl⟩
  · next hfind =>
    split at h
    · cases h
    · next hload =>
      cases h
      rw [resolve_of_not_loaded hfind, hload]
      exact ⟨rfl, .inr rfl⟩

theorem fetch_eq_error_iff : m.fetch id = .error f ↔ m.resolve id = .error f := by
  unfold fetch resolve
  cases m.loaded.find? id with
  | some function => simp
  | none =>
    cases m.load id with
    | error f => simp [Except.map]
    | ok function => simp [Except.map]

/-- Loading what an id stands for changes nothing about what ids stand for. -/
theorem resolve_insert (h : m.resolve id = .ok logic) (memory : Json) (id' : String) :
    resolve { m with loaded := m.loaded.insert id ⟨logic, memory⟩ } id' = m.resolve id' := by
  unfold resolve
  dsimp only
  rw [OrderedMap.find?_insert]
  by_cases hid : id' = id
  · subst hid
    rw [if_pos rfl]
    exact h.symm
  · rw [if_neg hid]
    rfl

theorem resolve_of_fetch (h : m.fetch id = .ok (function, m')) (id' : String) :
    m'.resolve id' = m.resolve id' := by
  obtain ⟨hlogic, rfl | rfl⟩ := fetch_eq_ok h
  · rfl
  · exact resolve_insert hlogic function.memory id'

theorem resolve_setMemory (m : FunctionManager) (id : String) (memory : Json) (id' : String) :
    (m.setMemory id memory).resolve id' = m.resolve id' := by
  unfold setMemory
  split
  · next function hfind => exact resolve_insert (resolve_of_loaded hfind) memory id'
  · rfl

/-- A fetch leaves other functions as they are. -/
theorem find?_of_fetch (h : m.fetch id = .ok (function, m')) {id' : String} (hne : id' ≠ id) :
    m'.loaded.find? id' = m.loaded.find? id' := by
  obtain ⟨-, rfl | rfl⟩ := fetch_eq_ok h
  · rfl
  · exact (OrderedMap.find?_insert _ _ _ _).trans (if_neg hne)

/-- So does a new memory. -/
theorem find?_setMemory (m : FunctionManager) (id : String) (memory : Json) {id' : String}
    (hne : id' ≠ id) : (m.setMemory id memory).loaded.find? id' = m.loaded.find? id' := by
  unfold setMemory
  split
  · exact (OrderedMap.find?_insert _ _ _ _).trans (if_neg hne)
  · rfl

/-- A fetch binds nothing. -/
theorem registry_of_fetch (h : m.fetch id = .ok (function, m')) : m'.registry = m.registry := by
  obtain ⟨-, rfl | rfl⟩ := fetch_eq_ok h <;> rfl

theorem registry_setMemory (m : FunctionManager) (id : String) (memory : Json) :
    (m.setMemory id memory).registry = m.registry := by
  unfold setMemory
  split <;> rfl

/-! ## What is loaded is registered -/

/-- Whatever was loaded was registered before. -/
def WellFormed (m : FunctionManager) : Prop :=
  ∀ id function, m.loaded.find? id = some function → ∃ entry, m.get id = .ok entry

theorem wellFormed_new (loader : Loader FunctionLogic) : (new loader).WellFormed :=
  fun _ _ h => nomatch h

/-- Another instance of a registered function may be loaded. -/
theorem WellFormed.insert (hw : m.WellFormed) (h : ∃ entry, m.get id = .ok entry)
    (function : LoadedFunction) :
    WellFormed { m with loaded := m.loaded.insert id function } := by
  intro id' function' hfind
  dsimp only at hfind
  rw [OrderedMap.find?_insert] at hfind
  by_cases hid : id' = id
  · subst hid
    exact h
  · rw [if_neg hid] at hfind
    exact hw id' function' hfind

theorem WellFormed.register (hw : m.WellFormed) (entry : FunctionEntry) :
    (m.register entry).1.WellFormed := by
  intro id function hfind
  obtain ⟨before, hget⟩ := hw id function hfind
  have hbind : (m.register entry).1.registry.find? id =
      if id = entry.id then some entry else m.registry.find? id :=
    OrderedMap.find?_insert m.registry entry.id entry id
  by_cases hid : id = entry.id
  · exact ⟨entry, get_eq_ok_iff.2 (by rw [hbind, if_pos hid])⟩
  · exact ⟨before, get_eq_ok_iff.2 (by rw [hbind, if_neg hid, get_eq_ok_iff.1 hget])⟩

theorem WellFormed.fetch (hw : m.WellFormed) (h : m.fetch id = .ok (function, m')) :
    m'.WellFormed := by
  unfold FunctionManager.fetch at h
  split at h
  · cases h
    exact hw
  · split at h
    · cases h
    · next hload =>
      cases h
      obtain ⟨entry, logic, hget, -, rfl⟩ := load_eq_ok_iff.1 hload
      exact hw.insert ⟨entry, hget⟩ _

theorem WellFormed.setMemory (hw : m.WellFormed) (id : String) (memory : Json) :
    (m.setMemory id memory).WellFormed := by
  unfold FunctionManager.setMemory
  split
  · next hfind => exact hw.insert (hw id _ hfind) _
  · exact hw

/-- What an id stands for is usable. -/
theorem WellFormed.usable_iff (hw : m.WellFormed) :
    m.Usable id ↔ ∃ logic, m.resolve id = .ok logic := by
  constructor
  · exact fun h => h.2
  · rintro ⟨logic, h⟩
    refine ⟨?_, logic, h⟩
    rcases resolve_eq_ok_iff.1 h with ⟨function, hfind, -⟩ | ⟨-, entry, hget, -⟩
    · exact hw id function hfind
    · exact ⟨entry, hget⟩

end FunctionManager

end ContractEmulator
