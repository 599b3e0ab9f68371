import ContractEmulator.Proofs.Function.Service

/-!
# The history of a function manager

A function manager changes by one deed at a time: an entry is bound, a function is fetched, or a
function that runs replaces its memory. The deeds tell which entry is bound to an id, what was
loaded for it, and what that remembers.

* `FunctionManager.Step`, `FunctionManager.Steps`: a manager does a deed, or one after the other.
* `FunctionDeed.bound?`, `FunctionDeed.firstLogic?`, `FunctionDeed.lastMemory`: what some deeds say
  of an id.
* `FunctionManager.Follows`: a manager is as its deeds say. `Follows.step`: one more deed.
* `FunctionDesk.run_steps`, `FunctionDesk.Serves.steps`: functions that are run, and lists of them,
  change their manager by such deeds only.
-/

namespace ContractEmulator

/-- What a function manager did, and what came of it. -/
inductive FunctionDeed where
  /-- An entry was bound; `warned` if its function was loaded before. -/
  | registered (entry : FunctionEntry) (warned : Bool)
  /-- A function was handed out; `fresh` if it was loaded for this. -/
  | fetched (id : String) (fresh : Bool) (function : LoadedFunction)
  /-- There was no function to hand out. -/
  | refused (id : String) (failure : Failure)
  /-- A function replaced its memory. -/
  | remembered (id : String) (memory : Json)

namespace FunctionDeed

/-- The entry that the deed bound to an id. -/
def entered? (id : String) : FunctionDeed → Option FunctionEntry
  | .registered entry _ => if id = entry.id then some entry else none
  | _ => none

/-- The entry that was bound to an id last. -/
def bound? (id : String) (deeds : List FunctionDeed) : Option FunctionEntry :=
  deeds.reverse.findSome? (entered? id)

/-- The logic of an id that the deed handed out. -/
def logic? (id : String) : FunctionDeed → Option FunctionLogic
  | .fetched id' _ function => if id = id' then some function.logic else none
  | _ => none

/-- The logic of an id that was handed out first. -/
def firstLogic? (id : String) (deeds : List FunctionDeed) : Option FunctionLogic :=
  deeds.findSome? (logic? id)

/-- The memory that the deed gave to an id. -/
def memory? (id : String) : FunctionDeed → Option Json
  | .remembered id' memory => if id = id' then some memory else none
  | _ => none

/-- What an id remembers, `null` at first. -/
def lastMemory (id : String) (deeds : List FunctionDeed) : Json :=
  (deeds.reverse.findSome? (memory? id)).getD .null

/-- The deed loaded the function `id`. -/
def loads (id : String) : FunctionDeed → Bool
  | .fetched id' fresh _ => fresh && id' == id
  | _ => false

/-- The id that a function was asked for. -/
def asked? : FunctionDeed → Option String
  | .fetched id _ _ => some id
  | .refused id _ => some id
  | _ => none

/-- No function was registered as `id`. -/
def Unregistered (id : String) (deeds : List FunctionDeed) : Prop :=
  ∀ entry warned, .registered entry warned ∈ deeds → entry.id ≠ id

variable {id : String} {deeds deeds' : List FunctionDeed} {entry : FunctionEntry}

theorem bound?_append (id : String) (deeds deeds' : List FunctionDeed) :
    bound? id (deeds ++ deeds') = (bound? id deeds').or (bound? id deeds) := by
  rw [bound?, List.reverse_append, List.findSome?_append]
  rfl

theorem bound?_concat (id : String) (deeds : List FunctionDeed) (deed : FunctionDeed) :
    bound? id (deeds ++ [deed]) = (deed.entered? id).or (bound? id deeds) := by
  rw [bound?_append]
  congr 1
  exact List.findSome?_singleton

theorem bound?_eq_none_iff : bound? id deeds = none ↔ Unregistered id deeds := by
  rw [bound?, List.findSome?_eq_none_iff]
  simp only [List.mem_reverse, Unregistered]
  constructor
  · rintro h entry warned hmem rfl
    cases (if_pos rfl).symm.trans (h _ hmem)
  · intro h deed hmem
    cases deed with
    | registered entry warned => exact if_neg fun hid => h entry warned hmem hid.symm
    | _ => rfl

theorem lastMemory_concat (id : String) (deeds : List FunctionDeed) (deed : FunctionDeed) :
    lastMemory id (deeds ++ [deed]) = (deed.memory? id).getD (lastMemory id deeds) := by
  rw [lastMemory, List.reverse_append, List.findSome?_append, List.reverse_singleton,
    List.findSome?_singleton, Option.getD_or]
  rfl

theorem firstLogic?_append (id : String) (deeds deeds' : List FunctionDeed) :
    firstLogic? id (deeds ++ deeds') = (firstLogic? id deeds).or (firstLogic? id deeds') :=
  List.findSome?_append

theorem firstLogic?_singleton (id : String) (deed : FunctionDeed) :
    firstLogic? id [deed] = deed.logic? id := List.findSome?_singleton

end FunctionDeed

namespace FunctionManager

/-- The manager does a deed. -/
inductive Step : FunctionManager → FunctionDeed → FunctionManager → Prop where
  | register (m : FunctionManager) (entry : FunctionEntry) :
      Step m (.registered entry (m.loaded.contains entry.id)) (m.register entry).1
  | fetch {m m' : FunctionManager} {id : String} {function : LoadedFunction} :
      m.fetch id = .ok (function, m') →
      Step m (.fetched id (!m.loaded.contains id) function) m'
  | refuse {m : FunctionManager} {id : String} {f : Failure} :
      m.fetch id = .error f → Step m (.refused id f) m
  | remember {m : FunctionManager} {id : String} {function : LoadedFunction} {memory : Json} :
      m.loaded.find? id = some function →
      Step m (.remembered id memory) (m.setMemory id memory)

/-- The manager does one deed after the other. -/
inductive Steps : FunctionManager → List FunctionDeed → FunctionManager → Prop where
  | nil (m : FunctionManager) : Steps m [] m
  | cons {m m₁ m' : FunctionManager} {deed : FunctionDeed} {deeds : List FunctionDeed} :
      Step m deed m₁ → Steps m₁ deeds m' → Steps m (deed :: deeds) m'

variable {m m' m₁ : FunctionManager} {deed : FunctionDeed} {deeds deeds' : List FunctionDeed}
  {id : String} {function : LoadedFunction} {loader : Loader FunctionLogic} {f : Failure}

theorem Steps.append (h : m.Steps deeds m₁) (h' : m₁.Steps deeds' m') :
    m.Steps (deeds ++ deeds') m' := by
  induction h with
  | nil => exact h'
  | cons hstep _ ih => exact .cons hstep (ih h')

theorem Step.steps (h : m.Step deed m') : m.Steps [deed] m' := .cons h (.nil m')

theorem Steps.split (h : m.Steps (deeds ++ deeds') m') :
    ∃ m₁, m.Steps deeds m₁ ∧ m₁.Steps deeds' m' := by
  induction deeds generalizing m with
  | nil => exact ⟨m, .nil m, h⟩
  | cons deed deeds ih =>
    cases h with
    | cons hstep hrest =>
      obtain ⟨m₁, h₁, h₂⟩ := ih hrest
      exact ⟨m₁, .cons hstep h₁, h₂⟩

/-- A fetch hands out what was loaded before, or loads what is bound. -/
theorem fetch_cases (h : m.fetch id = .ok (function, m')) :
    (m.loaded.find? id = some function ∧ m' = m) ∨
      (m.loaded.find? id = none ∧ m.load id = .ok function ∧
        m' = { m with loaded := m.loaded.insert id function }) := by
  unfold fetch at h
  split at h
  · next hfind =>
    cases h
    exact .inl ⟨hfind, rfl⟩
  · next hfind =>
    split at h
    · cases h
    · next hload =>
      cases h
      exact .inr ⟨hfind, hload, rfl⟩

/-- A fetch fails for an id without a function only, and as it fails to be loaded. -/
theorem fetch_eq_error_iff_load :
    m.fetch id = .error f ↔ m.loaded.find? id = none ∧ m.load id = .error f := by
  unfold fetch
  cases m.loaded.find? id with
  | some function => simp
  | none => cases m.load id <;> simp

theorem setMemory_of_find? (h : m.loaded.find? id = some function) (memory : Json) :
    m.setMemory id memory =
      { m with loaded := m.loaded.insert id { function with memory := memory } } := by
  rw [setMemory, h]

theorem find?_register (m : FunctionManager) (entry : FunctionEntry) (id : String) :
    (m.register entry).1.registry.find? id =
      (FunctionDeed.entered? id (.registered entry (m.loaded.contains entry.id))).or
        (m.registry.find? id) := by
  rw [FunctionDeed.entered?]
  refine (OrderedMap.find?_insert _ _ _ _).trans ?_
  split <;> rfl

theorem Step.loader_eq (h : m.Step deed m') : m'.loader = m.loader := by
  cases h with
  | fetch hfetch => rcases fetch_cases hfetch with ⟨-, rfl⟩ | ⟨-, -, rfl⟩ <;> rfl
  | remember hfind => rw [setMemory_of_find? hfind]
  | register | refuse => rfl

theorem Steps.loader_eq (h : m.Steps deeds m') : m'.loader = m.loader := by
  induction h with
  | nil => rfl
  | cons hstep _ ih => rw [ih, hstep.loader_eq]

/-- The logic that is loaded for an id stays, or is what was handed out first. -/
theorem Step.logic_eq (h : m.Step deed m') (id : String) :
    (m'.loaded.find? id).map LoadedFunction.logic =
      ((m.loaded.find? id).map LoadedFunction.logic).or (deed.logic? id) := by
  cases h with
  | @fetch _ id' function h =>
    rcases fetch_cases h with ⟨hfind, rfl⟩ | ⟨hnone, -, rfl⟩
    · by_cases hid : id = id'
      · rw [hid, hfind]
        rfl
      · rw [FunctionDeed.logic?, if_neg hid, Option.or_none]
    · dsimp only
      rw [OrderedMap.find?_insert, FunctionDeed.logic?]
      by_cases hid : id = id'
      · rw [if_pos hid, if_pos hid, hid, hnone]
        rfl
      · rw [if_neg hid, if_neg hid, Option.or_none]
  | @remember id' function memory hfind =>
    have hlogic : FunctionDeed.logic? id (.remembered id' memory) = none := rfl
    rw [setMemory_of_find? hfind, hlogic, Option.or_none]
    dsimp only
    rw [OrderedMap.find?_insert]
    by_cases hid : id = id'
    · rw [if_pos hid, hid, hfind]
      rfl
    · rw [if_neg hid]
  | register | refuse => exact (Option.or_none).symm

theorem Steps.logic_eq (h : m.Steps deeds m') (id : String) :
    (m'.loaded.find? id).map LoadedFunction.logic =
      ((m.loaded.find? id).map LoadedFunction.logic).or (FunctionDeed.firstLogic? id deeds) := by
  induction h with
  | nil => exact (Option.or_none).symm
  | @cons m m₁ m' deed deeds hstep _ ih =>
    rw [ih, hstep.logic_eq, Option.or_assoc, ← FunctionDeed.firstLogic?_singleton,
      ← FunctionDeed.firstLogic?_append]
    rfl

/-- What is bound to an id stays, or is what was bound last. -/
theorem Step.find?_registry (h : m.Step deed m') (id : String) :
    m'.registry.find? id = (deed.entered? id).or (m.registry.find? id) := by
  cases h with
  | register entry => exact find?_register m entry id
  | fetch h =>
    rw [registry_of_fetch h]
    rfl
  | remember =>
    rw [registry_setMemory]
    rfl
  | refuse => rfl

theorem Steps.find?_registry (h : m.Steps deeds m') (id : String) :
    m'.registry.find? id = (FunctionDeed.bound? id deeds).or (m.registry.find? id) := by
  induction h with
  | nil => rfl
  | @cons m m₁ m' deed deeds hstep _ ih =>
    have hhead : FunctionDeed.bound? id [deed] = deed.entered? id := List.findSome?_singleton
    rw [ih, hstep.find?_registry, ← Option.or_assoc, ← hhead, ← FunctionDeed.bound?_append]
    rfl

/-! ## What the deeds say -/

/-- The manager is as the deeds say. -/
structure Follows (loader : Loader FunctionLogic) (deeds : List FunctionDeed)
    (m : FunctionManager) : Prop where
  loader_eq : m.loader = loader
  /-- The entry that was bound last is bound. -/
  bound : ∀ id, m.registry.find? id = FunctionDeed.bound? id deeds
  /-- What was handed out first is kept, with the memory it has by now. -/
  loaded : ∀ id, m.loaded.find? id =
    (FunctionDeed.firstLogic? id deeds).map fun logic => ⟨logic, FunctionDeed.lastMemory id deeds⟩
  /-- Only what was handed out remembers something. -/
  blank : ∀ id, FunctionDeed.firstLogic? id deeds = none → FunctionDeed.lastMemory id deeds = .null
  /-- A function is loaded for each id that was handed out, and for no other. -/
  loads : ∀ id, deeds.countP (FunctionDeed.loads id) =
    if (FunctionDeed.firstLogic? id deeds).isSome then 1 else 0

theorem follows_new (loader : Loader FunctionLogic) : Follows loader [] (new loader) where
  loader_eq := rfl
  bound _ := rfl
  loaded _ := rfl
  blank _ _ := rfl
  loads _ := rfl

theorem Follows.loaded_eq_some_iff (hf : Follows loader deeds m) :
    m.loaded.find? id = some function ↔ FunctionDeed.firstLogic? id deeds = some function.logic ∧
      function.memory = FunctionDeed.lastMemory id deeds := by
  rw [hf.loaded, Option.map_eq_some_iff]
  constructor
  · rintro ⟨logic, hlogic, rfl⟩
    exact ⟨hlogic, rfl⟩
  · rintro ⟨hlogic, hmemory⟩
    exact ⟨function.logic, hlogic, by rw [← hmemory]⟩

theorem Follows.loaded_eq_none_iff (hf : Follows loader deeds m) :
    m.loaded.find? id = none ↔ FunctionDeed.firstLogic? id deeds = none := by
  rw [hf.loaded, Option.map_eq_none_iff]

theorem Follows.contains_loaded (hf : Follows loader deeds m) (id : String) :
    m.loaded.contains id = (FunctionDeed.firstLogic? id deeds).isSome := by
  rw [OrderedMap.contains, hf.loaded, Option.isSome_map]

/-- A function that is handed out for the first time is loaded from the entry that is bound. -/
theorem Follows.of_fetch_first (hf : Follows loader deeds m)
    (h : m.fetch id = .ok (function, m')) (hn : FunctionDeed.firstLogic? id deeds = none) :
    m' = { m with loaded := m.loaded.insert id function } ∧ function.memory = .null ∧
      ∃ entry, FunctionDeed.bound? id deeds = some entry ∧
        loader.load .function entry.binaryName entry.code = .ok function.logic := by
  rcases fetch_cases h with ⟨hfind, -⟩ | ⟨-, hload, hm⟩
  · cases (hf.loaded_eq_none_iff.2 hn).symm.trans hfind
  · obtain ⟨entry, logic, hget, hlogic, rfl⟩ := load_eq_ok_iff.1 hload
    rw [get_eq_ok_iff, hf.bound] at hget
    rw [hf.loader_eq] at hlogic
    exact ⟨hm, rfl, entry, hget, hlogic⟩

/-- Later it is handed out as it was kept. -/
theorem Follows.of_fetch_later {logic : FunctionLogic} (hf : Follows loader deeds m)
    (h : m.fetch id = .ok (function, m'))
    (hfirst : FunctionDeed.firstLogic? id deeds = some logic) :
    m' = m ∧ function = ⟨logic, FunctionDeed.lastMemory id deeds⟩ := by
  rcases fetch_cases h with ⟨hfind, hm⟩ | ⟨hnone, -, -⟩
  · obtain ⟨hlogic, hmemory⟩ := hf.loaded_eq_some_iff.1 hfind
    obtain rfl : logic = function.logic := Option.some.inj (hfirst.symm.trans hlogic)
    exact ⟨hm, by rw [← hmemory]⟩
  · cases (hf.loaded_eq_none_iff.1 hnone).symm.trans hfirst

/-- A deed that neither loads a function nor changes what one remembers. -/
theorem Follows.still (hf : Follows loader deeds m) (hloader : m'.loader = m.loader)
    (hbound : ∀ id, m'.registry.find? id = (deed.entered? id).or (m.registry.find? id))
    (hloaded : m'.loaded = m.loaded)
    (hlogic : ∀ id,
      FunctionDeed.firstLogic? id (deeds ++ [deed]) = FunctionDeed.firstLogic? id deeds)
    (hmemory : ∀ id, deed.memory? id = none)
    (hloads : ∀ id, deed.loads id = false) : Follows loader (deeds ++ [deed]) m' where
  loader_eq := hloader.trans hf.loader_eq
  bound id := by rw [hbound, hf.bound, FunctionDeed.bound?_concat]
  loaded id := by
    rw [hloaded, hf.loaded, hlogic, FunctionDeed.lastMemory_concat, hmemory, Option.getD_none]
  blank id hn := by
    rw [hlogic] at hn
    rw [FunctionDeed.lastMemory_concat, hmemory, Option.getD_none, hf.blank id hn]
  loads id := by
    rw [List.countP_append, hf.loads, hlogic, List.countP_singleton, hloads]
    rfl

theorem firstLogic?_concat_of_logic?_none (h : deed.logic? id = none) :
    FunctionDeed.firstLogic? id (deeds ++ [deed]) = FunctionDeed.firstLogic? id deeds := by
  rw [FunctionDeed.firstLogic?_append, FunctionDeed.firstLogic?_singleton, h, Option.or_none]

/-- A function that is loaded for the first time. -/
theorem Follows.first (hf : Follows loader deeds m) (h : m.fetch id = .ok (function, m'))
    (hn : FunctionDeed.firstLogic? id deeds = none) :
    Follows loader (deeds ++ [.fetched id (!m.loaded.contains id) function]) m' := by
  obtain ⟨rfl, hnull, -⟩ := hf.of_fetch_first h hn
  have hfresh : (!m.loaded.contains id) = true := by rw [hf.contains_loaded, hn]; rfl
  have hlogic : ∀ id', FunctionDeed.firstLogic? id'
      (deeds ++ [.fetched id (!m.loaded.contains id) function]) =
        if id' = id then some function.logic else FunctionDeed.firstLogic? id' deeds := by
    intro id'
    rw [FunctionDeed.firstLogic?_append, FunctionDeed.firstLogic?_singleton, FunctionDeed.logic?]
    by_cases hid : id' = id
    · rw [if_pos hid, if_pos hid, hid, hn]
      rfl
    · rw [if_neg hid, if_neg hid, Option.or_none]
  have hmemory : ∀ id', FunctionDeed.lastMemory id'
      (deeds ++ [.fetched id (!m.loaded.contains id) function]) =
        FunctionDeed.lastMemory id' deeds := fun id' => FunctionDeed.lastMemory_concat _ _ _
  exact {
    loader_eq := hf.loader_eq
    bound := fun id' => by rw [FunctionDeed.bound?_concat]; exact hf.bound id'
    loaded := by
      intro id'
      rw [hlogic, hmemory]
      refine (OrderedMap.find?_insert _ _ _ _).trans ?_
      by_cases hid : id' = id
      · rw [if_pos hid, if_pos hid, hid, hf.blank id hn, ← hnull]
        rfl
      · rw [if_neg hid, if_neg hid]
        exact hf.loaded id'
    blank := by
      intro id' hn'
      rw [hlogic] at hn'
      rw [hmemory]
      by_cases hid : id' = id
      · cases (if_pos hid).symm.trans hn'
      · exact hf.blank id' ((if_neg hid).symm.trans hn')
    loads := by
      intro id'
      rw [List.countP_append, hf.loads, hlogic, List.countP_singleton, FunctionDeed.loads, hfresh]
      by_cases hid : id' = id
      · subst hid
        simp [hn]
      · have hne : ¬id = id' := fun heq => hid heq.symm
        simp [hid, hne] }

/-- A function that replaces its memory. -/
theorem Follows.remember (hf : Follows loader deeds m) (hfind : m.loaded.find? id = some function)
    (memory : Json) :
    Follows loader (deeds ++ [.remembered id memory]) (m.setMemory id memory) := by
  rw [setMemory_of_find? hfind]
  have hlogic : ∀ id', FunctionDeed.firstLogic? id' (deeds ++ [.remembered id memory]) =
      FunctionDeed.firstLogic? id' deeds := fun id' => firstLogic?_concat_of_logic?_none rfl
  have hmemory : ∀ id', FunctionDeed.lastMemory id' (deeds ++ [.remembered id memory]) =
      if id' = id then memory else FunctionDeed.lastMemory id' deeds := by
    intro id'
    rw [FunctionDeed.lastMemory_concat, FunctionDeed.memory?]
    split <;> rfl
  obtain ⟨hfirst, -⟩ := hf.loaded_eq_some_iff.1 hfind
  exact {
    loader_eq := hf.loader_eq
    bound := fun id' => by rw [FunctionDeed.bound?_concat]; exact hf.bound id'
    loaded := by
      intro id'
      rw [hlogic, hmemory]
      refine (OrderedMap.find?_insert _ _ _ _).trans ?_
      by_cases hid : id' = id
      · rw [if_pos hid, if_pos hid, hid, hfirst]
        rfl
      · rw [if_neg hid, if_neg hid]
        exact hf.loaded id'
    blank := by
      intro id' hn
      rw [hlogic] at hn
      rw [hmemory]
      by_cases hid : id' = id
      · cases (hid ▸ hn).symm.trans hfirst
      · rw [if_neg hid, hf.blank id' hn]
    loads := fun id' => by rw [List.countP_append, hf.loads, hlogic]; rfl }

/-- One more deed. -/
theorem Follows.step (hf : Follows loader deeds m) (h : m.Step deed m') :
    Follows loader (deeds ++ [deed]) m' := by
  cases h with
  | register entry =>
    exact hf.still rfl (find?_register m entry) rfl
      (fun id => firstLogic?_concat_of_logic?_none rfl) (fun _ => rfl) (fun _ => rfl)
  | @fetch _ id function h =>
    cases hfirst : FunctionDeed.firstLogic? id deeds with
    | none => exact hf.first h hfirst
    | some logic =>
      obtain ⟨rfl, -⟩ := hf.of_fetch_later h hfirst
      have hfresh : (!m'.loaded.contains id) = false := by rw [hf.contains_loaded, hfirst]; rfl
      refine hf.still rfl (fun _ => rfl) rfl (fun id' => ?_) (fun _ => rfl) (fun id' => ?_)
      · by_cases hid : id' = id
        · rw [hid, FunctionDeed.firstLogic?_append, hfirst]
          rfl
        · exact firstLogic?_concat_of_logic?_none (if_neg hid)
      · rw [FunctionDeed.loads, hfresh]
        rfl
  | refuse =>
    exact hf.still rfl (fun _ => rfl) rfl (fun id => firstLogic?_concat_of_logic?_none rfl)
      (fun _ => rfl) (fun _ => rfl)
  | remember hfind => exact hf.remember hfind _

theorem Follows.steps (hf : Follows loader deeds m) (h : m.Steps deeds' m') :
    Follows loader (deeds ++ deeds') m' := by
  induction h generalizing deeds with
  | nil =>
    rw [List.append_nil]
    exact hf
  | cons hstep _ ih =>
    rw [List.append_cons]
    exact ih (hf.step hstep)

/-- The deeds before one deed of a history lead to where it was done. -/
theorem Follows.at_deed {pre post : List FunctionDeed} (hf : Follows loader [] m)
    (h : m.Steps (pre ++ deed :: post) m') :
    ∃ m₁ m₂, Follows loader pre m₁ ∧ m₁.Step deed m₂ := by
  obtain ⟨m₁, hpre, hrest⟩ := h.split
  cases hrest with
  | cons hstep _ => exact ⟨m₁, _, hf.steps hpre, hstep⟩

end FunctionManager

/-! ## Functions that run -/

namespace FunctionDeed

/-- The deeds of a run: the function is fetched, and then replaces its memory some times. -/
def ofRun (id : String) (fresh : Bool) (function : LoadedFunction) (memories : List Json) :
    List FunctionDeed :=
  .fetched id fresh function :: memories.map (.remembered id)

theorem filterMap_asked?_ofRun (id : String) (fresh : Bool) (function : LoadedFunction)
    (memories : List Json) : (ofRun id fresh function memories).filterMap asked? = [id] := by
  have hmemories : (memories.map (remembered id)).filterMap asked? = [] := by
    simp [asked?]
  have hfetched : asked? (.fetched id fresh function) = some id := rfl
  rw [ofRun, List.filterMap_cons_some hfetched, hmemories]

theorem bound?_ofRun (id id' : String) (fresh : Bool) (function : LoadedFunction)
    (memories : List Json) : bound? id (ofRun id' fresh function memories) = none := by
  simp [bound?, ofRun, entered?]

theorem firstLogic?_ofRun (id id' : String) (fresh : Bool) (function : LoadedFunction)
    (memories : List Json) : firstLogic? id (ofRun id' fresh function memories) =
      if id = id' then some function.logic else none := by
  have hmemories : (memories.map (remembered id')).findSome? (logic? id) = none := by
    simp [logic?]
  rw [firstLogic?, ofRun, List.findSome?_cons, hmemories]
  by_cases hid : id = id'
  · simp [logic?, hid]
  · simp [logic?, hid]

end FunctionDeed

namespace FunctionDesk

variable {δ ρ : Type} [Database δ] {id contractId : String} {input : FunctionInput}
  {desk desk' : FunctionDesk δ} {v : Invocation} {entries : List Json}
  {invocations : List Invocation} {result : Except Failure Unit}

/-- A program of a function changes of a manager what the function remembers. -/
theorem interpret_steps (p : Program FunctionQuery.Answer ρ) (desk : FunctionDesk δ) :
    ∃ memories : List Json, desk.manager.Steps (memories.map (.remembered id))
      (Program.interpret (m := StateM (FunctionDesk δ)) (answer id) p desk).2.manager := by
  induction p generalizing desk with
  | done => exact ⟨[], .nil _⟩
  | ask q next ih =>
    rw [interpret_ask]
    obtain ⟨memories, hrest⟩ := ih (answer id q desk).1 (answer id q desk).2
    cases q with
    | remember memory =>
      have hmanager : (answer id (.remember memory) desk).2.manager =
          desk.manager.setMemory id memory := rfl
      rw [hmanager] at hrest
      cases hfind : desk.manager.loaded.find? id with
      | some function => exact ⟨memory :: memories, .cons (.remember hfind) hrest⟩
      | none =>
        rw [FunctionManager.setMemory, hfind] at hrest
        exact ⟨memories, hrest⟩
    | get | put | delete | memory => exact ⟨memories, hrest⟩

theorem run_steps (id : String) (logic : FunctionLogic) (input : FunctionInput)
    (desk : FunctionDesk δ) :
    ∃ memories : List Json, desk.manager.Steps (memories.map (.remembered id))
      (run id logic input desk).2.manager :=
  interpret_steps (logic input).run desk

theorem Invokes.steps (h : Invokes contractId input desk v desk') :
    ∃ function memories, desk.manager.Steps
      (FunctionDeed.ofRun v.functionId v.fresh function memories) desk'.manager := by
  cases h with
  | @intro id function manager events hfetch hlog =>
    obtain ⟨memories, hmemories⟩ :=
      run_steps id function.logic input (desk.ready contractId id manager)
    exact ⟨function, memories, .cons (.fetch hfetch) hmemories⟩

/-- The functions that a list names are asked for in order, each entry once, up to the entry that
ends it. Nothing else happens to their manager than that they are fetched and run. -/
theorem Serves.steps (h : Serves contractId input desk entries invocations result desk') :
    ∃ deeds, desk.manager.Steps deeds desk'.manager ∧
      (deeds.filterMap FunctionDeed.asked?).map Json.str <+: entries ∧
      (result = .ok () → (deeds.filterMap FunctionDeed.asked?).map Json.str = entries) := by
  induction h with
  | finished => exact ⟨[], .nil _, List.prefix_refl _, fun _ => rfl⟩
  | malformed => exact ⟨[], .nil _, List.nil_prefix, by rintro ⟨⟩⟩
  | @refused desk id entries f hresolve =>
    have hrefused : desk.manager.Step (.refused id f) desk.manager :=
      .refuse (FunctionManager.fetch_eq_error_iff.2 hresolve)
    refine ⟨_, hrefused.steps, ?_, by rintro ⟨⟩⟩
    show [Json.str id] <+: .str id :: entries
    exact List.prefix_append [.str id] entries
  | @failed desk desk' v entries f hv _ =>
    obtain ⟨function, memories, hsteps⟩ := hv.steps
    refine ⟨_, hsteps, ?_, by rintro ⟨⟩⟩
    rw [FunctionDeed.filterMap_asked?_ofRun]
    exact List.prefix_append [.str v.functionId] entries
  | @served desk desk₁ desk' v entries invocations result hv _ _ ih =>
    obtain ⟨function, memories, hsteps⟩ := hv.steps
    obtain ⟨deeds, hrest, hasked, hall⟩ := ih
    refine ⟨_, hsteps.append hrest, ?_, fun hresult => ?_⟩
    · rw [List.filterMap_append, FunctionDeed.filterMap_asked?_ofRun]
      exact (List.prefix_cons_inj _).2 hasked
    · rw [List.filterMap_append, FunctionDeed.filterMap_asked?_ofRun]
      exact congrArg (Json.str v.functionId :: ·) (hall hresult)

end FunctionDesk

end ContractEmulator
