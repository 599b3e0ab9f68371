import ContractEmulator.Proofs.Function.SingleLoad

/-!
# Stale instances are announced

What was loaded stays as it is when its id is registered again, and the engine warns of that. So a
history without warnings leaves nothing loaded but what is registered.

* `Engine.Slot`: a place where something is registered, and loaded once. `Slot.Lawful`: what one
  deed may do to it.
* `Slot.Announced`: in a history, the warnings tell of all that is stale. `Slot.Lawful.announced`:
  so it is for every lawful place.
* `Step.mem_events_iff`: a turn warns only if it registers what was loaded before.
* `Slot.contract`, `Slot.function`: the places of contracts and of functions. Both are lawful.
* `Host.Reach.stale_announced`: what this says of the engines of a host.
-/

namespace ContractEmulator

/-- A contract or a function was registered. -/
def Deed.isRegistration : Deed → Bool
  | .registered _ _ | .registeredFunction _ _ => true
  | _ => false

namespace Engine

/-- A place of an engine where something is registered, and loaded once. -/
structure Slot (Entry Made : Type) where
  /-- What is registered. -/
  bound? : Engine → Option Entry
  /-- What was loaded. -/
  made? : Engine → Option Made
  /-- What a deed registers. -/
  entered? : Deed → Option Entry
  /-- The deed loads what is registered. -/
  loads : Deed → Bool
  /-- What an engine makes of a registration. -/
  MadeOf : Engine → Entry → Made → Prop
  /-- The announcement of a registration that comes after the load. -/
  warning : Event

namespace Slot

variable {Entry Made : Type} {slot : Slot Entry Made} {e e' : Engine} {turn : Turn}
  {turns : List Turn} {made : Made}

/-- What one deed does to a place. -/
structure Lawful (slot : Slot Entry Made) : Prop where
  bound : ∀ {e turn e'}, Step e turn e' →
    slot.bound? e' = (slot.entered? turn.deed).or (slot.bound? e)
  /-- What was loaded stays, and is not loaded again. -/
  kept : ∀ {e turn e' made}, e.WellFormed → Step e turn e' → slot.made? e = some made →
    slot.made? e' = some made ∧ slot.loads turn.deed = false
  /-- What is loaded is made of what is registered at the time. -/
  loaded : ∀ {e turn e'}, e.WellFormed → Step e turn e' → slot.made? e = none →
    slot.loads turn.deed = true → slot.entered? turn.deed = none ∧
      ∃ entry made, slot.bound? e = some entry ∧ slot.MadeOf e entry made ∧
        slot.made? e' = some made
  unloaded : ∀ {e turn e'}, e.WellFormed → Step e turn e' → slot.made? e = none →
    slot.loads turn.deed = false → slot.made? e' = none
  madeOf : ∀ {e turn e'}, Step e turn e' → slot.MadeOf e' = slot.MadeOf e
  /-- The warning comes with a registration of what was loaded before, and with nothing else. -/
  warned : ∀ {e turn e'}, Step e turn e' → (slot.warning ∈ turn.events ↔
    (slot.entered? turn.deed).isSome ∧ (slot.made? e).isSome)

/-- What some turns have registered last. -/
def last? (slot : Slot Entry Made) (turns : List Turn) : Option Entry :=
  turns.reverse.findSome? fun turn => slot.entered? turn.deed

theorem last?_cons (slot : Slot Entry Made) (turn : Turn) (turns : List Turn) :
    slot.last? (turn :: turns) = (slot.last? turns).or (slot.entered? turn.deed) := by
  rw [last?, List.reverse_cons, List.findSome?_append, List.findSome?_singleton]
  rfl

theorem last?_eq_none_iff :
    slot.last? turns = none ↔ ∀ turn ∈ turns, slot.entered? turn.deed = none := by
  simp [last?, List.findSome?_eq_none_iff]

/-! ## A history of a place -/

theorem Lawful.bound_eq (hl : slot.Lawful) (h : Steps e turns e') :
    slot.bound? e' = (slot.last? turns).or (slot.bound? e) := by
  induction h with
  | nil => rfl
  | cons hstep _ ih => rw [ih, hl.bound hstep, last?_cons, Option.or_assoc]

theorem Lawful.madeOf_eq (hl : slot.Lawful) (h : Steps e turns e') :
    slot.MadeOf e' = slot.MadeOf e := by
  induction h with
  | nil => rfl
  | cons hstep _ ih => rw [ih, hl.madeOf hstep]

theorem Lawful.made_kept (hl : slot.Lawful) (hw : e.WellFormed) (h : Steps e turns e')
    (hmade : slot.made? e = some made) : slot.made? e' = some made := by
  induction h with
  | nil => exact hmade
  | cons hstep _ ih => exact ih (hstep.wellFormed hw) (hl.kept hw hstep hmade).1

/-- Something is loaded exactly if it was before, or some deed has loaded it. -/
theorem Lawful.isSome_made_iff (hl : slot.Lawful) (hw : e.WellFormed) (h : Steps e turns e') :
    (slot.made? e').isSome = true ↔
      (slot.made? e).isSome = true ∨ ∃ turn ∈ turns, slot.loads turn.deed = true := by
  induction h with
  | nil => simp
  | @cons e e₁ e' turn turns hstep _ ih =>
    simp only [ih (hstep.wellFormed hw), List.mem_cons, exists_eq_or_imp, ← or_assoc]
    refine or_congr_left ?_
    cases hmade : slot.made? e with
    | some made => simp [(hl.kept hw hstep hmade).1]
    | none =>
      cases hloads : slot.loads turn.deed with
      | true =>
        obtain ⟨-, entry, made, -, -, hmade'⟩ := hl.loaded hw hstep hmade hloads
        simp [hmade']
      | false => simp [hl.unloaded hw hstep hmade hloads]

/-- What is loaded by the end was loaded at some point, from what was registered then. -/
theorem Lawful.exists_load (hl : slot.Lawful) (hw : e.WellFormed) (h : Steps e turns e')
    (hnone : slot.made? e = none) (hmade : slot.made? e' = some made) :
    ∃ pre load post e₁ e₂ entry, turns = pre ++ load :: post ∧ slot.loads load.deed = true ∧
      Steps e pre e₁ ∧ Step e₁ load e₂ ∧ Steps e₂ post e' ∧ slot.made? e₂ = some made ∧
      slot.entered? load.deed = none ∧ slot.bound? e₁ = some entry ∧ slot.MadeOf e' entry made := by
  induction h with
  | nil => cases hnone.symm.trans hmade
  | @cons e e₁ e' turn turns hstep hrest ih =>
    have hw₁ := hstep.wellFormed hw
    cases hloads : slot.loads turn.deed with
    | true =>
      obtain ⟨hentry, entry, made', hbound, hof, hmade'⟩ := hl.loaded hw hstep hnone hloads
      obtain rfl : made' = made :=
        Option.some.inj ((hl.made_kept hw₁ hrest hmade').symm.trans hmade)
      rw [← hl.madeOf hstep, ← hl.madeOf_eq hrest] at hof
      exact ⟨[], turn, turns, e, e₁, entry, rfl, hloads, .nil e, hstep, hrest, hmade', hentry,
        hbound, hof⟩
    | false =>
      obtain ⟨pre, load, post, e₂, e₃, entry, rfl, hload, hpre, hdone⟩ :=
        ih hw₁ (hl.unloaded hw hstep hnone hloads) hmade
      exact ⟨turn :: pre, load, post, e₂, e₃, entry, rfl, hload, .cons hstep hpre, hdone⟩

/-- What was registered stays registered, in one form or another. -/
theorem Lawful.bound_kept {entry : Entry} (hl : slot.Lawful) (h : Steps e turns e')
    (hbound : slot.bound? e = some entry) : ∃ entry', slot.bound? e' = some entry' := by
  rw [hl.bound_eq h, hbound]
  cases slot.last? turns with
  | none => exact ⟨entry, rfl⟩
  | some entry' => exact ⟨entry', rfl⟩

/-- Only what is registered is loaded. -/
theorem Lawful.bound_of_made (hl : slot.Lawful) (hw : e.WellFormed) (h : Steps e turns e')
    (hnone : slot.made? e = none) (hmade : slot.made? e' = some made) :
    ∃ entry, slot.bound? e' = some entry := by
  obtain ⟨pre, load, post, e₁, e₂, entry, -, -, -, hstep, hpost, -, hentry, hbound, -⟩ :=
    hl.exists_load hw h hnone hmade
  have hbound₂ : slot.bound? e₂ = some entry := by rw [hl.bound hstep, hentry, hbound]; rfl
  exact hl.bound_kept hpost hbound₂

/-- In a history, the warnings of a place tell of all that is stale there. -/
structure Announced (slot : Slot Entry Made) (turns : List Turn) (e : Engine) : Prop where
  /-- A turn warns exactly if it registers something and some turn before has loaded it. -/
  warned : ∀ {pre turn post}, turns = pre ++ turn :: post → (slot.warning ∈ turn.events ↔
    (∃ entry, slot.entered? turn.deed = some entry) ∧
      ∃ before ∈ pre, slot.loads before.deed = true)
  /-- What is loaded was loaded by some turn, from what was registered last before. All
  registrations since then came with a warning; without any, it is still what is registered. -/
  since : ∀ {made}, slot.made? e = some made → ∃ pre load post entry,
    turns = pre ++ load :: post ∧ slot.loads load.deed = true ∧
      slot.last? pre = some entry ∧ slot.MadeOf e entry made ∧
      (∀ turn ∈ post, (∃ entry, slot.entered? turn.deed = some entry) →
        slot.warning ∈ turn.events) ∧
      ((∀ turn ∈ post, slot.entered? turn.deed = none) → slot.bound? e = some entry)
  /-- Without a warning, what is loaded is made of what is registered. -/
  silent : (∀ turn ∈ turns, slot.warning ∉ turn.events) →
    ∀ {made}, slot.made? e = some made → ∃ entry, slot.bound? e = some entry ∧
      slot.MadeOf e entry made

variable {start : Engine}

theorem Lawful.warning_mem_iff (hl : slot.Lawful) (hw : start.WellFormed)
    (hnone : slot.made? start = none) {pre post : List Turn}
    (h : Steps start (pre ++ turn :: post) e) :
    slot.warning ∈ turn.events ↔ (∃ entry, slot.entered? turn.deed = some entry) ∧
      ∃ before ∈ pre, slot.loads before.deed = true := by
  obtain ⟨e₁, hpre, hrest⟩ := h.split
  cases hrest with
  | cons hstep _ =>
    rw [hl.warned hstep, hl.isSome_made_iff hw hpre, hnone, ← Option.isSome_iff_exists]
    simp

/-- In every history of an engine in which nothing was loaded at first. -/
theorem Lawful.announced (hl : slot.Lawful) (hw : start.WellFormed)
    (hunbound : slot.bound? start = none) (hnone : slot.made? start = none)
    (h : Steps start turns e) : slot.Announced turns e := by
  have hsince : ∀ {made}, slot.made? e = some made → ∃ pre load post entry,
      turns = pre ++ load :: post ∧ slot.loads load.deed = true ∧ slot.last? pre = some entry ∧
        slot.MadeOf e entry made ∧
        (∀ turn ∈ post, (∃ entry, slot.entered? turn.deed = some entry) →
          slot.warning ∈ turn.events) ∧
        ((∀ turn ∈ post, slot.entered? turn.deed = none) → slot.bound? e = some entry) := by
    intro made hmade
    obtain ⟨pre, load, post, e₁, e₂, entry, rfl, hload, hpre, hstep, hpost, hmade₂, hentry, hbound,
      hof⟩ := hl.exists_load hw h hnone hmade
    refine ⟨pre, load, post, entry, rfl, hload, ?_, hof, fun turn hmem hregisters => ?_,
      fun hquiet => ?_⟩
    · rw [hl.bound_eq hpre, hunbound, Option.or_none] at hbound
      exact hbound
    · obtain ⟨before, after, rfl⟩ := List.append_of_mem hmem
      rw [← List.cons_append, ← List.append_assoc] at h
      exact (hl.warning_mem_iff hw hnone h).2
        ⟨hregisters, load, List.mem_append_right pre List.mem_cons_self, hload⟩
    · rw [hl.bound_eq hpost, last?_eq_none_iff.2 hquiet, hl.bound hstep, hentry]
      exact hbound
  refine ⟨?_, hsince, fun hsilent made hmade => ?_⟩
  · rintro pre turn post rfl
    exact hl.warning_mem_iff hw hnone h
  · obtain ⟨pre, load, post, entry, rfl, -, -, hof, hwarned, hbound⟩ := hsince hmade
    refine ⟨entry, hbound fun turn hmem => ?_, hof⟩
    cases hentry : slot.entered? turn.deed with
    | none => rfl
    | some entry' =>
      have hmem' : turn ∈ pre ++ load :: post :=
        List.mem_append_right pre (List.mem_cons_of_mem load hmem)
      exact absurd (hwarned turn hmem ⟨entry', hentry⟩) (hsilent turn hmem')

end Slot

/-! ## Warnings -/

/-- The warning that a contract was registered again after it was loaded. -/
def staleEvent (id : String) : Event :=
  ⟨.warn, .engine,
    "contract re-registered after load; cached instance keeps running the earlier code",
    [.plain "contract_id" id]⟩

/-- The warning that a function was. -/
def staleFunctionEvent (id : String) : Event :=
  ⟨.warn, .functions, "function re-registered after load; cached instance kept",
    [.plain "function_id" id]⟩

variable {e e' : Engine} {turn : Turn} {event : Event} {id : String}

theorem staleEvent_inj {id' : String} : staleEvent id = staleEvent id' ↔ id = id' := by
  simp [staleEvent, EventField.plain]

theorem staleFunctionEvent_inj {id' : String} :
    staleFunctionEvent id = staleFunctionEvent id' ↔ id = id' := by
  simp [staleFunctionEvent, EventField.plain]

theorem staleEvent_ne_staleFunctionEvent {id' : String} :
    staleEvent id ≠ staleFunctionEvent id' := by
  simp [staleEvent, staleFunctionEvent]

/-- A registration of a contract warns if the contract was loaded before. -/
theorem mem_events_register {artifact : Artifact} (h : event.level = .warn) :
    event ∈ (e.register artifact).2 ↔
      e.loaded.contains artifact.id = true ∧ event = staleEvent artifact.id := by
  have hne : ∀ fields, event ≠ ⟨.debug, .engine, "register contract", fields⟩ := by
    rintro fields rfl
    cases h
  show event ∈ (if e.loaded.contains artifact.id then [_, staleEvent artifact.id] else [_]) ↔ _
  split
  · next hcontains => simp [hne, hcontains]
  · next hcontains => simp [hne, hcontains]

/-- So does a registration of a function. -/
theorem mem_events_registerFunction {entry : FunctionEntry} (h : event.level = .warn) :
    event ∈ (e.registerFunction entry).2 ↔
      e.functions.loaded.contains entry.id = true ∧ event = staleFunctionEvent entry.id := by
  have hne : ∀ fields, event ≠ ⟨.debug, .functions, "register function", fields⟩ := by
    rintro fields rfl
    cases h
  show event ∈ (if e.functions.loaded.contains entry.id then [_, staleFunctionEvent entry.id]
    else [_]) ↔ _
  split
  · next hcontains => simp [hne, hcontains]
  · next hcontains => simp [hne, hcontains]

/-- Only registrations warn. -/
theorem Step.level_ne_warn (h : Step e turn e') (hmem : event ∈ turn.events)
    (hn : turn.deed.isRegistration = false) : event.level ≠ .warn := by
  obtain ⟨deed, events⟩ := turn
  cases deed with
  | registered | registeredFunction => cases hn
  | certified identity =>
    cases h with
    | certify =>
      rw [List.mem_singleton.1 hmem]
      exact nofun
  | fetched fresh i =>
    obtain ⟨id, j, source, hob, -, -, -, rfl⟩ := h.of_fetched
    have hsource : source.level = .debug := by
      rcases obtain_eq_ok_iff.1 hob with ⟨-, rfl⟩ | ⟨-, -, rfl⟩ <;> rfl
    have hdebug : ∀ event ∈ source :: stampEvent id e.certificate ::
        (if i.isRoot then [] else [nestedEvent id]), event.level = .debug := by
      cases i.isRoot <;> simp [hsource, stampEvent, nestedEvent]
    rw [hdebug event hmem]
    exact nofun
  | ran contractId functionId fresh input =>
    cases h with
    | run =>
      rw [List.mem_singleton.1 hmem]
      exact nofun
  | refused | called | remembered | keptHandle | droppedHandle =>
    cases h
    cases hmem

/-- A turn warns exactly if it registers what was loaded before, and says which one. -/
theorem Step.mem_events_iff (h : Step e turn e') (hlevel : event.level = .warn) :
    event ∈ turn.events ↔
      (∃ artifact warned, turn.deed = .registered artifact warned ∧
        e.loaded.contains artifact.id = true ∧ event = staleEvent artifact.id) ∨
      ∃ entry warned, turn.deed = .registeredFunction entry warned ∧
        e.functions.loaded.contains entry.id = true ∧ event = staleFunctionEvent entry.id := by
  obtain ⟨deed, events⟩ := turn
  cases deed with
  | registered artifact warned =>
    cases h with
    | register => simpa using mem_events_register hlevel
  | registeredFunction entry warned =>
    cases h with
    | registerFunction => simpa using mem_events_registerFunction hlevel
  | _ =>
    have hquiet : event ∉ events := fun hmem => h.level_ne_warn hmem rfl hlevel
    simpa using hquiet

/-! ## Contracts -/

/-- The place of the contract `id`. -/
def Slot.contract (id : String) : Slot Artifact Make where
  bound? e := e.registry.find? id
  made? e := (e.loaded.find? id).map Instance.make
  entered?
    | .registered artifact _ => if id = artifact.id then some artifact else none
    | _ => none
  loads := Deed.loads id
  MadeOf e artifact made := ∃ logic,
    e.loader.load .contract artifact.binaryName artifact.code = .ok logic ∧
      made = .ofArtifact id artifact logic
  warning := staleEvent id

theorem Slot.isSome_entered?_contract {deed : Deed} :
    ((Slot.contract id).entered? deed).isSome = true ↔
      ∃ artifact warned, deed = .registered artifact warned ∧ id = artifact.id := by
  cases deed with
  | registered artifact warned =>
    show (if id = artifact.id then some artifact else none).isSome = true ↔ _
    by_cases hid : id = artifact.id
    · simp [hid]
    · simp [hid]
  | _ => simp [Slot.contract]

theorem Slot.entered?_contract_of_loads {deed : Deed} (h : deed.loads id = true) :
    (Slot.contract id).entered? deed = none := by
  cases deed with
  | registered => cases h
  | _ => rfl

/-- A turn that loads a contract makes it of what is registered. -/
theorem Step.loaded_of_loads (h : Step e turn e') (hw : e.WellFormed)
    (hfind : e.loaded.find? id = none) (hloads : turn.deed.loads id = true) :
    ∃ artifact logic i, e.registry.find? id = some artifact ∧
      e.loader.load .contract artifact.binaryName artifact.code = .ok logic ∧
      i.make = .ofArtifact id artifact logic ∧ e'.loaded.find? id = some i := by
  have hsome : (turn.deed.instance? id).isSome = true :=
    (h.loads_of_not_loaded hw hfind).symm.trans hloads
  obtain ⟨i, hi⟩ := Option.isSome_iff_exists.1 hsome
  have hkept : e'.loaded.find? id = some i := (h.find?_of_not_loaded hw hfind).trans hi
  obtain ⟨deed, events⟩ := turn
  obtain ⟨⟨fresh, rfl⟩, rfl⟩ := Deed.instance?_eq_some_iff.1 hi
  obtain ⟨-, -, -, artifact, logic, hbound, hload, hmake⟩ := h.fetched_of_not_loaded hw hfind
  exact ⟨artifact, logic, i, hbound, hload, hmake, hkept⟩

/-- A turn announces a stale contract exactly if it registers one that was loaded. -/
theorem Step.staleEvent_mem_iff (h : Step e turn e') : staleEvent id ∈ turn.events ↔
    ((Slot.contract id).entered? turn.deed).isSome ∧ e.loaded.contains id = true := by
  rw [h.mem_events_iff rfl, Slot.isSome_entered?_contract]
  constructor
  · rintro (⟨artifact, warned, hdeed, hcontains, hevent⟩ | ⟨entry, warned, -, -, hevent⟩)
    · obtain rfl := staleEvent_inj.1 hevent
      exact ⟨⟨artifact, warned, hdeed, rfl⟩, hcontains⟩
    · exact absurd hevent staleEvent_ne_staleFunctionEvent
  · rintro ⟨⟨artifact, warned, hdeed, rfl⟩, hcontains⟩
    exact .inl ⟨artifact, warned, hdeed, hcontains, rfl⟩

theorem Slot.lawful_contract (id : String) : (Slot.contract id).Lawful where
  bound {e turn e'} h := by
    show e'.registry.find? id = _
    rw [h.find?_registry]
    cases turn.deed with
    | registered artifact warned =>
      by_cases hid : id = artifact.id
      · simp [Deed.boundAfter, contract, hid]
      · simp [Deed.boundAfter, contract, hid]
    | _ => rfl
  kept {e turn e' made} hw h hmade := by
    obtain ⟨i, hfind, rfl⟩ := Option.map_eq_some_iff.1 hmade
    obtain ⟨j, hj, hsame⟩ := h.make_kept hw hfind
    refine ⟨?_, h.loads_of_loaded hw hfind⟩
    show (e'.loaded.find? id).map Instance.make = _
    rw [hj, ← hsame]
    rfl
  loaded {e turn e'} hw h hnone hloads := by
    have hfind : e.loaded.find? id = none := Option.map_eq_none_iff.1 hnone
    obtain ⟨artifact, logic, i, hbound, hload, hmake, hkept⟩ :=
      h.loaded_of_loads hw hfind hloads
    refine ⟨Slot.entered?_contract_of_loads hloads, artifact, i.make, hbound,
      ⟨logic, hload, hmake⟩, ?_⟩
    exact congrArg (Option.map Instance.make) hkept
  unloaded {e turn e'} hw h hnone hloads := by
    have hfind : e.loaded.find? id = none := Option.map_eq_none_iff.1 hnone
    have hinstance : turn.deed.instance? id = none := by
      rw [← Option.not_isSome_iff_eq_none, ← h.loads_of_not_loaded hw hfind]
      exact Bool.not_eq_true _ ▸ hloads
    exact congrArg (Option.map Instance.make)
      ((h.find?_of_not_loaded hw hfind).trans hinstance)
  madeOf {e turn e'} h := by
    funext artifact made
    show (∃ logic, e'.loader.load _ _ _ = _ ∧ _) = (∃ logic, e.loader.load _ _ _ = _ ∧ _)
    rw [h.loader_eq]
  warned {e turn e'} h := by
    have hmade : ((Slot.contract id).made? e).isSome = e.loaded.contains id := Option.isSome_map
    rw [hmade]
    exact h.staleEvent_mem_iff

/-! ## Functions -/

/-- The place of the function `id`. -/
def Slot.function (id : String) : Slot FunctionEntry FunctionLogic where
  bound? e := e.functions.registry.find? id
  made? e := (e.functions.loaded.find? id).map LoadedFunction.logic
  entered?
    | .registeredFunction entry _ => if id = entry.id then some entry else none
    | _ => none
  loads
    | .ran _ functionId fresh _ => fresh && functionId == id
    | _ => false
  MadeOf e entry logic := e.functions.loader.load .function entry.binaryName entry.code = .ok logic
  warning := staleFunctionEvent id

theorem Slot.entered?_function_of_not_functional {deed : Deed} (h : deed.isFunctional = false) :
    (Slot.function id).entered? deed = none ∧ (Slot.function id).loads deed = false := by
  cases deed with
  | registeredFunction | ran => cases h
  | _ => exact ⟨rfl, rfl⟩

theorem Step.fresh_of_ran {contractId functionId : String} {fresh : Bool} {input : FunctionInput}
    {events : List Event} (h : Step e ⟨.ran contractId functionId fresh input, events⟩ e') :
    fresh = !e.functions.loaded.contains functionId := by
  cases h with
  | run => rfl

/-- A function that was loaded is not loaded by a turn. -/
theorem Step.loads_function_of_loaded (h : Step e turn e')
    (hcontains : e.functions.loaded.contains id = true) :
    (Slot.function id).loads turn.deed = false := by
  obtain ⟨deed, events⟩ := turn
  cases deed with
  | ran contractId functionId fresh input =>
    obtain rfl := h.fresh_of_ran
    show (!e.functions.loaded.contains functionId && functionId == id) = false
    by_cases hid : functionId = id
    · rw [hid, hcontains]
      rfl
    · simp [hid]
  | _ => rfl

theorem Slot.isSome_entered?_function {deed : Deed} :
    ((Slot.function id).entered? deed).isSome = true ↔
      ∃ entry warned, deed = .registeredFunction entry warned ∧ id = entry.id := by
  cases deed with
  | registeredFunction entry warned =>
    show (if id = entry.id then some entry else none).isSome = true ↔ _
    by_cases hid : id = entry.id
    · simp [hid]
    · simp [hid]
  | _ => simp [Slot.function]

theorem Slot.entered?_function_of_loads {deed : Deed}
    (h : (Slot.function id).loads deed = true) : (Slot.function id).entered? deed = none := by
  cases deed with
  | registeredFunction => cases h
  | _ => rfl

/-- What is registered as a function after a turn. -/
theorem Step.find?_functionRegistry (h : Step e turn e') : e'.functions.registry.find? id =
    ((Slot.function id).entered? turn.deed).or (e.functions.registry.find? id) := by
  obtain ⟨deeds, hinvolves, hsteps⟩ := h.functions_steps
  have hbound : FunctionDeed.bound? id deeds = (Slot.function id).entered? turn.deed := by
    obtain ⟨deed, events⟩ := turn
    cases hinvolves with
    | registered entry warned => exact List.findSome?_singleton
    | ran => exact FunctionDeed.bound?_ofRun _ _ _ _ _
    | other hd => exact (Slot.entered?_function_of_not_functional hd).1.symm
  rw [← hbound]
  exact hsteps.find?_registry id

/-- A turn that loads a function loads what is registered, and that stays loaded while the function
runs. -/
theorem Step.function_loaded_of_loads (h : Step e turn e')
    (hfind : e.functions.loaded.find? id = none)
    (hloads : (Slot.function id).loads turn.deed = true) :
    ∃ entry logic, e.functions.registry.find? id = some entry ∧
      e.functions.loader.load .function entry.binaryName entry.code = .ok logic ∧
      (e'.functions.loaded.find? id).map LoadedFunction.logic = some logic := by
  obtain ⟨deed, events⟩ := turn
  cases deed with
  | ran contractId functionId fresh input =>
    obtain ⟨-, hid⟩ := Bool.and_eq_true_iff.1 hloads
    obtain rfl : functionId = id := eq_of_beq hid
    cases h with
    | @run _ _ _ _ _ _ _ function manager database log _ _ hfetch =>
      rcases FunctionManager.fetch_cases hfetch with ⟨hsome, -⟩ | ⟨-, hload, hmanager⟩
      · cases hfind.symm.trans hsome
      · obtain ⟨entry, logic, hget, hlogic, rfl⟩ := FunctionManager.load_eq_ok_iff.1 hload
        obtain ⟨memories, hrun⟩ :=
          FunctionDesk.run_steps functionId logic input ⟨manager, database, log⟩
        have hloaded : (manager.loaded.find? functionId).map LoadedFunction.logic =
            some logic := by
          rw [hmanager, OrderedMap.find?_insert, if_pos rfl]
          rfl
        refine ⟨entry, logic, FunctionManager.get_eq_ok_iff.1 hget, hlogic, ?_⟩
        refine (hrun.logic_eq functionId).trans ?_
        rw [hloaded, Option.some_or]
  | _ => cases hloads

/-- A turn that does not load a function leaves it as it was. -/
theorem Step.function_unloaded_of_not_loads (h : Step e turn e')
    (hfind : e.functions.loaded.find? id = none)
    (hloads : (Slot.function id).loads turn.deed = false) :
    (e'.functions.loaded.find? id).map LoadedFunction.logic = none := by
  obtain ⟨deeds, hinvolves, hsteps⟩ := h.functions_steps
  rw [hsteps.logic_eq id, hfind, Option.map_none, Option.none_or]
  obtain ⟨deed, events⟩ := turn
  cases hinvolves with
  | registered | other => rfl
  | ran contractId functionId fresh input handed memories =>
    rw [FunctionDeed.firstLogic?_ofRun, if_neg]
    rintro rfl
    have hfresh := h.fresh_of_ran
    rw [(OrderedMap.contains_eq_false_iff _ _).2 hfind] at hfresh
    rw [hfresh] at hloads
    simp [Slot.function] at hloads

/-- A turn announces a stale function exactly if it registers one that was loaded. -/
theorem Step.staleFunctionEvent_mem_iff (h : Step e turn e') :
    staleFunctionEvent id ∈ turn.events ↔
      ((Slot.function id).entered? turn.deed).isSome ∧
        e.functions.loaded.contains id = true := by
  rw [h.mem_events_iff rfl, Slot.isSome_entered?_function]
  constructor
  · rintro (⟨artifact, warned, -, -, hevent⟩ | ⟨entry, warned, hdeed, hcontains, hevent⟩)
    · exact absurd hevent.symm staleEvent_ne_staleFunctionEvent
    · obtain rfl := staleFunctionEvent_inj.1 hevent
      exact ⟨⟨entry, warned, hdeed, rfl⟩, hcontains⟩
  · rintro ⟨⟨entry, warned, hdeed, rfl⟩, hcontains⟩
    exact .inr ⟨entry, warned, hdeed, hcontains, rfl⟩

theorem Slot.lawful_function (id : String) : (Slot.function id).Lawful where
  bound h := h.find?_functionRegistry
  kept {e turn e' logic} _ h hmade := by
    obtain ⟨deeds, -, hsteps⟩ := h.functions_steps
    have hcontains : e.functions.loaded.contains id = true := by
      obtain ⟨function, hfind, -⟩ := Option.map_eq_some_iff.1 hmade
      exact OrderedMap.contains_of_find? hfind
    refine ⟨(hsteps.logic_eq id).trans ?_, h.loads_function_of_loaded hcontains⟩
    have hbefore : (e.functions.loaded.find? id).map LoadedFunction.logic = some logic := hmade
    rw [hbefore, Option.some_or]
  loaded {e turn e'} _ h hnone hloads := by
    have hfind : e.functions.loaded.find? id = none := Option.map_eq_none_iff.1 hnone
    exact ⟨entered?_function_of_loads hloads, h.function_loaded_of_loads hfind hloads⟩
  unloaded {e turn e'} _ h hnone hloads := by
    have hfind : e.functions.loaded.find? id = none := Option.map_eq_none_iff.1 hnone
    exact h.function_unloaded_of_not_loads hfind hloads
  madeOf {e turn e'} h := by
    obtain ⟨deeds, -, hsteps⟩ := h.functions_steps
    funext entry logic
    show (e'.functions.loader.load _ _ _ = _) = (e.functions.loader.load _ _ _ = _)
    rw [hsteps.loader_eq]
  warned {e turn e'} h := by
    have hmade : ((Slot.function id).made? e).isSome = e.functions.loaded.contains id :=
      Option.isSome_map
    rw [hmade]
    exact h.staleFunctionEvent_mem_iff

/-! ## Every history -/

/-- In the history of an engine, all that is stale is announced. -/
structure StaleAnnounced (turns : List Turn) (log : List Event) (e : Engine) : Prop where
  contracts : ∀ id, (Slot.contract id).Announced turns e
  functions : ∀ id, (Slot.function id).Announced turns e
  /-- What is announced stands in the log. -/
  logged : ∀ turn ∈ turns, ∀ event ∈ turn.events, event ∈ log
  /-- If nothing in the log is a warning, every contract that is loaded is made of what is
  registered. -/
  silent : (∀ event ∈ log, event.level ≠ .warn) → ∀ {id i}, e.loaded.find? id = some i →
    ∃ artifact logic, e.get id = .ok artifact ∧
      e.loader.load .contract artifact.binaryName artifact.code = .ok logic ∧
      i.make = .ofArtifact id artifact logic
  /-- So is every function. -/
  silent_functions : (∀ event ∈ log, event.level ≠ .warn) →
    ∀ {id function}, e.functions.loaded.find? id = some function →
    ∃ entry, e.functions.get id = .ok entry ∧
      e.functions.loader.load .function entry.binaryName entry.code = .ok function.logic

theorem Steps.staleAnnounced {place : Nat} {loader : Loader ContractLogic}
    {functions : Loader FunctionLogic} {turns : List Turn} {log : List Event}
    (h : (new place loader functions).Steps turns e)
    (hlogged : ∀ turn ∈ turns, ∀ event ∈ turn.events, event ∈ log) :
    StaleAnnounced turns log e := by
  have hw := wellFormed_new place loader functions
  have hcontracts : ∀ id, (Slot.contract id).Announced turns e :=
    fun id => (Slot.lawful_contract id).announced hw rfl rfl h
  have hfunctions : ∀ id, (Slot.function id).Announced turns e :=
    fun id => (Slot.lawful_function id).announced hw rfl rfl h
  refine ⟨hcontracts, hfunctions, hlogged, fun hsilent id i hfind => ?_,
    fun hsilent id function hfind => ?_⟩
  · have hquiet : ∀ turn ∈ turns, staleEvent id ∉ turn.events :=
      fun turn hmem hwarning => hsilent _ (hlogged turn hmem _ hwarning) rfl
    obtain ⟨artifact, hbound, logic, hload, hmake⟩ :=
      (hcontracts id).silent hquiet (congrArg (Option.map Instance.make) hfind)
    exact ⟨artifact, logic, get_eq_ok_iff.2 hbound, hload, hmake⟩
  · have hquiet : ∀ turn ∈ turns, staleFunctionEvent id ∉ turn.events :=
      fun turn hmem hwarning => hsilent _ (hlogged turn hmem _ hwarning) rfl
    obtain ⟨entry, hbound, hload⟩ :=
      (hfunctions id).silent hquiet (congrArg (Option.map LoadedFunction.logic) hfind)
    exact ⟨entry, FunctionManager.get_eq_ok_iff.2 hbound, hload⟩

end Engine

namespace Host

/-- In every scene that comes about from where a host has arrived, be it between two operations or
in the middle of a call, the engines have announced all that is stale. Where executions and calls of
instances leave the world, a host can arrive (`Reach.of_execute`, `Reach.of_invoke`). -/
theorem Reach.stale_announced {σ : Type} {trace t : Trace} {h : Host} {ledger : σ} {s : Scene σ}
    {k : Nat} {e : Engine} (hr : Reach trace h) (hp : (h.scene ledger).Plays t s)
    (hk : s.world.engines[k]? = some e) :
    Engine.StaleAnnounced (Trace.turns k (trace ++ t)) s.log e := by
  have ha := hr.accounts_of_plays hp
  obtain ⟨loader, functions, hsteps⟩ := ha.steps k e hk
  refine hsteps.staleAnnounced fun turn hmem event hevent => ?_
  have hlog : s.log = (Trace.events (trace ++ t)).reverse := ha.log
  rw [hlog, List.mem_reverse]
  exact List.mem_flatMap.2 ⟨_, Trace.mem_turns.1 hmem, hevent⟩

/-- A contract that was executed and then registered again has been announced. -/
theorem looping_stale_announced : ∃ trace outcome s' database' h e,
    (looping.scene MemoryLedger.empty).execute 0 0 "loop" .null none MemoryDatabase.empty =
      some (outcome, s', database') ∧
    h = s'.host.update 0 (fun e => e.register (SampleContract.loop none)) ∧
    Reach trace h ∧ h.world.engines[0]? = some e ∧ e.loaded.contains "loop" = true ∧
    Engine.StaleAnnounced (Trace.turns 0 (trace ++ [])) h.log e ∧
    Engine.staleEvent "loop" ∈ h.log := by
  obtain ⟨trace, hr⟩ := exists_reach_looping
  have hdone : ((looping.scene MemoryLedger.empty).execute 0 0 "loop" .null none
      MemoryDatabase.empty).any (fun r => (r.2.1.world.engines[0]?).any fun e =>
        e.loaded.contains "loop" && r.2.1.world.handle? 0 == some 0) = true := by decide +kernel
  obtain ⟨⟨outcome, s', database'⟩, hrun, hend⟩ := (Option.any_eq_true _ _).1 hdone
  obtain ⟨e, hk, hboth⟩ := (Option.any_eq_true _ _).1 hend
  obtain ⟨hloaded, hbeq⟩ := Bool.and_eq_true_iff.1 hboth
  have hstart : looping.world.handle? 0 = some 0 := rfl
  have hhandle : s'.host.world.handle? 0 = some 0 := eq_of_beq hbeq
  obtain ⟨t, hr₁⟩ := hr.of_execute hstart hrun
  have hr' := hr₁.step (.register (SampleContract.loop none) hhandle)
  have hk' := getElem?_update (h := s'.host) hk fun e => e.register (SampleContract.loop none)
  have hwarning : Engine.staleEvent "loop" ∈ (e.register (SampleContract.loop none)).2 :=
    (Engine.mem_events_register rfl).2 ⟨hloaded, rfl⟩
  refine ⟨_, outcome, s', database', _, _, hrun, rfl, hr', hk', hloaded,
    hr'.stale_announced (.refl (Host.scene _ ())) hk', ?_⟩
  have hengine : (s'.host.scene ()).world.engines[0]? = some e := hk
  rw [update, Scene.update, hengine]
  exact List.mem_append_left _ (List.mem_reverse.2 hwarning)

end Host

end ContractEmulator
