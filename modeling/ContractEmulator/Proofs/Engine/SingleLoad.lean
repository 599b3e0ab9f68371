import ContractEmulator.Database.Memory
import ContractEmulator.Ledger.Memory
import ContractEmulator.Proofs.World.Host

/-!
# Every contract is loaded once

The deeds of an engine say which artifact was bound to an id at any time and which instance was
handed out first. The engine keeps just that: for every id the latest artifact, and what the first
instance was made of.

* `Deed.bound?`, `Deed.firstFetch?`, `Deed.lastMemory`: what a list of deeds says of an id.
* `Engine.Follows`: an engine agrees with a list of deeds. `Follows.step`: one more deed.
* `Follows.of_fetched`, `Follows.of_called`, `Follows.of_ran`, `Follows.of_refused`: what this says
  of the next deed.
* `Engine.LoadsOnce`, `Host.Reach.single_load`: what it says of every history.
-/

namespace ContractEmulator

namespace Deed

/-- The deed made an instance of the contract `id`. -/
def loads (id : String) : Deed → Bool
  | .fetched fresh i => fresh && i.id == id
  | _ => false

/-- The instance of an id that the deed handed out. -/
def instance? (id : String) : Deed → Option Instance
  | .fetched _ i => if id = i.id then some i else none
  | _ => none

/-- The instance of an id that was handed out first. -/
def firstFetch? (id : String) (deeds : List Deed) : Option Instance :=
  deeds.findSome? (instance? id)

/-- The artifact that was bound to an id last. -/
def bound? (id : String) (deeds : List Deed) : Option Artifact :=
  deeds.foldl (boundAfter id) none

/-- The memory of an id after a deed, from the one before it. -/
def memoryAfter (id : String) (before : Json) : Deed → Json
  | .remembered id' memory => if id = id' then memory else before
  | _ => before

/-- What an id remembers, `null` at first. -/
def lastMemory (id : String) (deeds : List Deed) : Json := deeds.foldl (memoryAfter id) .null

theorem bound?_concat (id : String) (deeds : List Deed) (deed : Deed) :
    bound? id (deeds ++ [deed]) = deed.boundAfter id (bound? id deeds) := by
  rw [bound?, List.foldl_append]
  rfl

theorem lastMemory_concat (id : String) (deeds : List Deed) (deed : Deed) :
    lastMemory id (deeds ++ [deed]) = deed.memoryAfter id (lastMemory id deeds) := by
  rw [lastMemory, List.foldl_append]
  rfl

theorem firstFetch?_concat_of_some {id : String} {deeds : List Deed} {i : Instance}
    (h : firstFetch? id deeds = some i) (deed : Deed) :
    firstFetch? id (deeds ++ [deed]) = some i := by
  rw [firstFetch?, List.findSome?_append, ← firstFetch?, h]
  rfl

theorem firstFetch?_concat_of_none {id : String} {deeds : List Deed}
    (h : firstFetch? id deeds = none) (deed : Deed) :
    firstFetch? id (deeds ++ [deed]) = deed.instance? id := by
  rw [firstFetch?, List.findSome?_append, ← firstFetch?, h]
  exact List.findSome?_singleton

/-- Without an instance, the first one is the one that is handed out. -/
theorem loadedAfter_none (id : String) (deed : Deed) :
    deed.loadedAfter id none = deed.instance? id := by
  cases deed with
  | remembered id' memory =>
    show (if id = id' then _ else _) = none
    split
    · rfl
    · rfl
  | _ => rfl

end Deed

namespace Event

/-- The event announces that an instance of the contract `id` was made. -/
def isMaterialized (id : String) (event : Event) : Bool :=
  decide (event.message = "materialized contract" ∧
    event.fields.head? = some (.text "contract_id" id))

/-- How many of some events announce that an instance of the contract `id` was made. -/
def materializations (id : String) (events : List Event) : Nat :=
  events.countP (isMaterialized id)

theorem materializations_cons_of_message_ne {event : Event} (id : String)
    (h : event.message ≠ "materialized contract") (events : List Event) :
    materializations id (event :: events) = materializations id events :=
  List.countP_cons_of_neg fun hm => h (of_decide_eq_true hm).1

/-- An announcement that comes with or without a warning. -/
theorem materializations_of_warned {event warning : Event} (id : String) (warned : Bool)
    (h : event.message ≠ "materialized contract")
    (h' : warning.message ≠ "materialized contract") :
    materializations id (if warned then [event, warning] else [event]) = 0 := by
  cases warned with
  | true =>
    rw [if_pos rfl, materializations_cons_of_message_ne id h]
    exact materializations_cons_of_message_ne id h' []
  | false => exact materializations_cons_of_message_ne id h []

theorem materializations_cons_materializedEvent (id id' binaryName : String)
    (events : List Event) :
    materializations id (Engine.materializedEvent id' binaryName :: events) =
      materializations id events + if id' = id then 1 else 0 := by
  rw [materializations, List.countP_cons, ← materializations]
  congr 1
  simp [isMaterialized, Engine.materializedEvent, EventField.text]

end Event

namespace Engine

variable {e e' : Engine} {turn : Turn} {turns : List Turn} {id : String} {i j : Instance}
  {events : List Event} {fresh : Bool} {deeds : List Deed} {loader : Loader ContractLogic}

/-! ## What a fetch hands out -/

/-- What an engine remembers of an id, `null` if there is no instance. -/
def memoryOf (e : Engine) (id : String) : Json :=
  ((e.loaded.find? id).map Instance.memory).getD .null

/-- A fetch hands out the instance that was kept, under a new stamp. -/
theorem Step.fetched_of_loaded (hw : e.WellFormed) (h : Step e ⟨.fetched fresh i, events⟩ e')
    (hfind : e.loaded.find? i.id = some j) : fresh = false ∧
      i = j.stamped i.isRoot e.certificate ∧ events.head? = some (hitEvent i.id) := by
  obtain ⟨j₀, event, hob, hfresh, hi, -, hevents⟩ := hw.id_of_fetched h
  rcases obtain_eq_ok_iff.1 hob with ⟨hj₀, hevent⟩ | ⟨hnone, -⟩
  · obtain rfl : j₀ = j := Option.some.inj (hj₀.symm.trans hfind)
    rw [OrderedMap.contains_of_find? hfind] at hfresh
    rw [hevents, hevent]
    exact ⟨hfresh, hi, rfl⟩
  · cases hnone.symm.trans hfind

/-- Without one, it hands out an instance made from the artifact that is bound at the time. -/
theorem Step.fetched_of_not_loaded (hw : e.WellFormed)
    (h : Step e ⟨.fetched fresh i, events⟩ e') (hfind : e.loaded.find? i.id = none) :
    fresh = true ∧ i.memory = .null ∧
      events.head? = some (materializedEvent i.id i.binaryName) ∧
      ∃ artifact logic, e.registry.find? i.id = some artifact ∧
        e.loader.load .contract artifact.binaryName artifact.code = .ok logic ∧
        i.make = .ofArtifact i.id artifact logic := by
  obtain ⟨j, event, hob, hfresh, hi, -, hevents⟩ := hw.id_of_fetched h
  rcases obtain_eq_ok_iff.1 hob with ⟨hj, -⟩ | ⟨-, hmat, hevent⟩
  · cases hj.symm.trans hfind
  · obtain ⟨artifact, logic, hget, hload, hmake, hmemory⟩ := make_of_materialize hmat
    have hij : i.make = j.make := Instance.make_of_stamped hi
    have hname : i.binaryName = j.binaryName := congrArg Make.binaryName hij
    have himemory : i.memory = j.memory := Instance.memory_of_stamped hi
    rw [(OrderedMap.contains_eq_false_iff _ _).2 hfind] at hfresh
    rw [hevents, hevent, hname]
    exact ⟨hfresh, himemory.trans hmemory, rfl, artifact, logic, get_eq_ok_iff.1 hget, hload,
      hij.trans hmake⟩

/-- What is remembered changes by a deed that says so, and not by a fetch. -/
theorem Step.memoryOf_eq (h : Step e turn e') (hw : e.WellFormed) (id : String) :
    e'.memoryOf id = turn.deed.memoryAfter id (e.memoryOf id) := by
  have hafter := h.find?_loaded hw id
  obtain ⟨deed, events⟩ := turn
  cases deed with
  | fetched fresh i =>
    by_cases hid : id = i.id
    · subst hid
      have hkept : e'.loaded.find? i.id = some i := hafter.trans (if_pos rfl)
      rw [memoryOf, hkept]
      show i.memory = e.memoryOf i.id
      cases hfind : e.loaded.find? i.id with
      | some j =>
        obtain ⟨-, hi, -⟩ := h.fetched_of_loaded hw hfind
        rw [memoryOf, hfind]
        exact Instance.memory_of_stamped hi
      | none =>
        rw [memoryOf, hfind]
        exact (h.fetched_of_not_loaded hw hfind).2.1
    · have hkept : e'.loaded.find? id = e.loaded.find? id := hafter.trans (if_neg hid)
      rw [memoryOf, hkept]
      rfl
  | remembered id' memory =>
    by_cases hid : id = id'
    · subst hid
      have hkept := hafter.trans (if_pos rfl)
      cases h with
      | remember hfind =>
        rw [hfind] at hkept
        rw [memoryOf, hkept]
        exact (if_pos rfl).symm
    · have hkept : e'.loaded.find? id = e.loaded.find? id := hafter.trans (if_neg hid)
      rw [memoryOf, hkept]
      exact (if_neg hid).symm
  | _ => exact congrArg (fun o => (o.map Instance.memory).getD .null) hafter

/-! ## What is announced -/

theorem materializations_fetched (id id' : String) (identity : Identity) (isRoot : Bool) :
    Event.materializations id
      (stampEvent id' identity :: (if isRoot then [] else [nestedEvent id'])) = 0 := by
  rw [Event.materializations_cons_of_message_ne id (show "stamp root call" ≠ _ by decide)]
  cases isRoot with
  | true => rfl
  | false =>
    exact Event.materializations_cons_of_message_ne id
      (show "nested invocation" ≠ _ by decide) []

theorem materializations_register (id : String) (e : Engine) (artifact : Artifact) :
    Event.materializations id (e.register artifact).2 = 0 := by
  have hevent : "register contract" ≠ "materialized contract" := by decide
  have hwarning :
      "contract re-registered after load; cached instance keeps running the earlier code" ≠
        "materialized contract" := by simp
  exact Event.materializations_of_warned id (e.loaded.contains artifact.id) hevent hwarning

theorem materializations_registerFunction (id : String) (e : Engine) (entry : FunctionEntry) :
    Event.materializations id (e.registerFunction entry).2 = 0 := by
  have hevent : "register function" ≠ "materialized contract" := by decide
  have hwarning : "function re-registered after load; cached instance kept" ≠
      "materialized contract" := by simp
  exact Event.materializations_of_warned id (e.functions.loaded.contains entry.id) hevent hwarning

/-- The announcement of a new instance comes with a deed that makes one, and with no other. -/
theorem Step.announces (h : Step e turn e') (hw : e.WellFormed) (id : String) :
    Event.materializations id turn.events = if turn.deed.loads id then 1 else 0 := by
  obtain ⟨deed, events⟩ := turn
  cases deed with
  | fetched fresh i =>
    obtain ⟨j, event, hob, hfresh, hi, -, hevents⟩ := hw.id_of_fetched h
    rcases obtain_eq_ok_iff.1 hob with ⟨hfind, rfl⟩ | ⟨hfind, -, rfl⟩
    · rw [OrderedMap.contains_of_find? hfind] at hfresh
      subst hfresh
      rw [hevents,
        Event.materializations_cons_of_message_ne id (show "instance cache hit" ≠ _ by decide)]
      exact materializations_fetched id i.id e.certificate i.isRoot
    · rw [(OrderedMap.contains_eq_false_iff _ _).2 hfind] at hfresh
      subst hfresh
      rw [hevents, Event.materializations_cons_materializedEvent, materializations_fetched,
        Nat.zero_add]
      simp [Deed.loads]
  | registered artifact warned =>
    cases h with
    | register => exact materializations_register id e artifact
  | registeredFunction entry warned =>
    cases h with
    | registerFunction => exact materializations_registerFunction id e entry
  | certified identity =>
    cases h with
    | certify =>
      exact Event.materializations_cons_of_message_ne id
        (show "emulated certificate changed" ≠ _ by decide) []
  | ran contractId functionId fresh input =>
    cases h with
    | run =>
      exact Event.materializations_cons_of_message_ne id
        (show "invoke function" ≠ _ by decide) []
  | refused | called | remembered | keptHandle | droppedHandle =>
    cases h
    rfl

/-! ## Engines and their deeds -/

/-- The engine is as the deeds say. -/
structure Follows (loader : Loader ContractLogic) (deeds : List Deed) (e : Engine) : Prop where
  wellFormed : e.WellFormed
  loader_eq : e.loader = loader
  /-- The artifact that was bound last is bound. -/
  bound : ∀ id, e.registry.find? id = Deed.bound? id deeds
  /-- What is kept was made of the same as what was handed out first. -/
  loaded : ∀ id, (e.loaded.find? id).map Instance.make =
    (Deed.firstFetch? id deeds).map Instance.make
  memory : ∀ id, e.memoryOf id = Deed.lastMemory id deeds
  /-- An instance is made for each contract that is kept, and for no other. -/
  loads : ∀ id, deeds.countP (Deed.loads id) = if e.loaded.contains id then 1 else 0

theorem follows_new (place : Nat) (loader : Loader ContractLogic)
    (functions : Loader FunctionLogic) : Follows loader [] (new place loader functions) where
  wellFormed := wellFormed_new place loader functions
  loader_eq := rfl
  bound _ := rfl
  loaded _ := rfl
  memory _ := rfl
  loads _ := rfl

/-- What is kept was handed out before. -/
theorem Follows.firstFetch?_of_loaded (hf : Follows loader deeds e)
    (hfind : e.loaded.find? id = some i) :
    ∃ first, Deed.firstFetch? id deeds = some first ∧ i.make = first.make := by
  have hloaded := hf.loaded id
  rw [hfind] at hloaded
  obtain ⟨first, hfirst, hmake⟩ := Option.map_eq_some_iff.1 hloaded.symm
  exact ⟨first, hfirst, hmake.symm⟩

theorem Follows.firstFetch?_of_not_loaded (hf : Follows loader deeds e)
    (hfind : e.loaded.find? id = none) : Deed.firstFetch? id deeds = none := by
  have hloaded := hf.loaded id
  rw [hfind] at hloaded
  exact Option.map_eq_none_iff.1 hloaded.symm

theorem Step.find?_of_not_loaded (h : Step e turn e') (hw : e.WellFormed)
    (hfind : e.loaded.find? id = none) : e'.loaded.find? id = turn.deed.instance? id := by
  rw [h.find?_loaded hw, hfind, Deed.loadedAfter_none]

/-- A contract that is kept is not made again. -/
theorem Step.loads_of_loaded (h : Step e turn e') (hw : e.WellFormed)
    (hfind : e.loaded.find? id = some i) : turn.deed.loads id = false := by
  obtain ⟨deed, events⟩ := turn
  cases deed with
  | fetched fresh j =>
    by_cases hid : j.id = id
    · subst hid
      obtain ⟨hfresh, -⟩ := h.fetched_of_loaded hw hfind
      rw [hfresh]
      rfl
    · simp [Deed.loads, hid]
  | _ => rfl

/-- A contract that is not kept is made when it is handed out. -/
theorem Step.loads_of_not_loaded (h : Step e turn e') (hw : e.WellFormed)
    (hfind : e.loaded.find? id = none) :
    turn.deed.loads id = (turn.deed.instance? id).isSome := by
  obtain ⟨deed, events⟩ := turn
  cases deed with
  | fetched fresh j =>
    by_cases hid : id = j.id
    · subst hid
      obtain ⟨hfresh, -⟩ := h.fetched_of_not_loaded hw hfind
      simp [Deed.loads, Deed.instance?, hfresh]
    · have hne : ¬ j.id = id := fun heq => hid heq.symm
      simp [Deed.loads, Deed.instance?, hid, hne]
  | _ => rfl

/-- One more deed. -/
theorem Follows.step (hf : Follows loader deeds e) (h : Step e turn e') :
    Follows loader (deeds ++ [turn.deed]) e' where
  wellFormed := h.wellFormed hf.wellFormed
  loader_eq := h.loader_eq.trans hf.loader_eq
  bound id := by rw [h.find?_registry, hf.bound, Deed.bound?_concat]
  loaded id := by
    cases hfind : e.loaded.find? id with
    | some i =>
      obtain ⟨first, hfirst, hmake⟩ := hf.firstFetch?_of_loaded hfind
      obtain ⟨j, hj, hsame⟩ := h.make_kept hf.wellFormed hfind
      rw [Deed.firstFetch?_concat_of_some hfirst, hj]
      exact congrArg some (hsame.trans hmake)
    | none =>
      rw [Deed.firstFetch?_concat_of_none (hf.firstFetch?_of_not_loaded hfind),
        h.find?_of_not_loaded hf.wellFormed hfind]
  memory id := by rw [h.memoryOf_eq hf.wellFormed, hf.memory, Deed.lastMemory_concat]
  loads id := by
    rw [List.countP_append, hf.loads id, List.countP_singleton]
    cases hfind : e.loaded.find? id with
    | some i =>
      obtain ⟨j, hj, -⟩ := h.make_kept hf.wellFormed hfind
      rw [h.loads_of_loaded hf.wellFormed hfind, OrderedMap.contains_of_find? hfind,
        OrderedMap.contains_of_find? hj]
      rfl
    | none =>
      rw [h.loads_of_not_loaded hf.wellFormed hfind, (OrderedMap.contains_eq_false_iff _ _).2 hfind,
        OrderedMap.contains, h.find?_of_not_loaded hf.wellFormed hfind]
      exact Nat.zero_add _

theorem Follows.steps (hf : Follows loader deeds e) (h : Steps e turns e') :
    Follows loader (deeds ++ turns.map Turn.deed) e' := by
  induction h generalizing deeds with
  | nil =>
    rw [List.map_nil, List.append_nil]
    exact hf
  | cons hstep _ ih =>
    rw [List.map_cons, List.append_cons]
    exact ih (hf.step hstep)

/-- The deeds before one deed of a history lead to where it was done. -/
theorem Follows.at_deed {pre post : List Deed} {deed : Deed} (hf : Follows loader [] e)
    (h : Steps e turns e') (hdeeds : turns.map Turn.deed = pre ++ deed :: post) :
    ∃ e₁ e₂ events, Follows loader pre e₁ ∧ Step e₁ ⟨deed, events⟩ e₂ := by
  obtain ⟨turns₁, turns₂, rfl, rfl, hrest⟩ := List.map_eq_append_iff.1 hdeeds
  obtain ⟨⟨_, events⟩, turns₃, rfl, rfl, -⟩ := List.map_eq_cons_iff.1 hrest
  obtain ⟨e₁, hsteps, hsteps'⟩ := h.split
  cases hsteps' with
  | cons hstep _ => exact ⟨e₁, _, events, hf.steps hsteps, hstep⟩

/-- As many instances are announced as are made. -/
theorem Steps.materializations_eq (h : Steps e turns e') (hw : e.WellFormed) (id : String) :
    Event.materializations id (turns.flatMap Turn.events) =
      (turns.map Turn.deed).countP (Deed.loads id) := by
  induction h with
  | nil => rfl
  | @cons e e₁ _ turn turns hstep _ ih =>
    rw [List.flatMap_cons, Event.materializations, List.countP_append, ← Event.materializations,
      ← Event.materializations, hstep.announces hw, ih (hstep.wellFormed hw), List.map_cons,
      List.countP_cons, Nat.add_comm]

/-! ## The next deed -/

/-- The instance that is handed out first was made from the artifact that was bound last. -/
theorem Follows.of_first (hf : Follows loader deeds e)
    (h : Step e ⟨.fetched fresh i, events⟩ e') (hfirst : Deed.firstFetch? i.id deeds = none) :
    fresh = true ∧ i.memory = .null ∧
      ∃ artifact logic, Deed.bound? i.id deeds = some artifact ∧
        loader.load .contract artifact.binaryName artifact.code = .ok logic ∧
        i.make = .ofArtifact i.id artifact logic := by
  cases hfind : e.loaded.find? i.id with
  | some j =>
    obtain ⟨first, hsome, -⟩ := hf.firstFetch?_of_loaded hfind
    cases hfirst.symm.trans hsome
  | none =>
    obtain ⟨hfresh, hmemory, -, artifact, logic, hbound, hload, hmake⟩ :=
      h.fetched_of_not_loaded hf.wellFormed hfind
    rw [hf.bound] at hbound
    rw [hf.loader_eq] at hload
    exact ⟨hfresh, hmemory, artifact, logic, hbound, hload, hmake⟩

/-- The instance that is handed out later is the first one, with the memory it has by then. -/
theorem Follows.of_later {first : Instance} (hf : Follows loader deeds e)
    (h : Step e ⟨.fetched fresh i, events⟩ e')
    (hfirst : Deed.firstFetch? i.id deeds = some first) :
    fresh = false ∧ i.make = first.make ∧ i.memory = Deed.lastMemory i.id deeds := by
  cases hfind : e.loaded.find? i.id with
  | none => cases (hf.firstFetch?_of_not_loaded hfind).symm.trans hfirst
  | some j =>
    obtain ⟨hfresh, hi, -⟩ := h.fetched_of_loaded hf.wellFormed hfind
    obtain ⟨first', hfirst', hmake⟩ := hf.firstFetch?_of_loaded hfind
    obtain rfl : first' = first := Option.some.inj (hfirst'.symm.trans hfirst)
    have hmemory : e.memoryOf i.id = j.memory := by
      rw [memoryOf, hfind]
      rfl
    refine ⟨hfresh, ?_, ?_⟩
    · exact (Instance.make_of_stamped hi).trans hmake
    · rw [← hf.memory, hmemory]
      exact Instance.memory_of_stamped hi

/-- What is called was handed out before, and gets the properties of the first instance. -/
theorem Follows.of_called {argument : Json} {properties : Option Json}
    (hf : Follows loader deeds e) (h : Step e ⟨.called i argument properties, events⟩ e') :
    ∃ first, Deed.firstFetch? i.id deeds = some first ∧ i.make = first.make ∧
      properties = first.properties := by
  cases h with
  | call hfind =>
    obtain ⟨first, hfirst, hmake⟩ := hf.firstFetch?_of_loaded hfind
    exact ⟨first, hfirst, hmake, Instance.properties_eq_of_make hmake⟩

/-- Functions get the properties of the first instance of their contract. -/
theorem Follows.of_ran {functionId : String} {input : FunctionInput}
    (hf : Follows loader deeds e) (h : Step e ⟨.ran id functionId fresh input, events⟩ e') :
    ∃ first, Deed.firstFetch? id deeds = some first ∧ input.properties = first.properties := by
  cases h with
  | run _ _ hfind hprops _ =>
    obtain ⟨first, hfirst, hmake⟩ := hf.firstFetch?_of_loaded hfind
    exact ⟨first, hfirst, hprops.trans (Instance.properties_eq_of_make hmake)⟩

/-- What is refused was not handed out before, and no code to load it from is bound. -/
theorem Follows.of_refused {f : Failure} (hf : Follows loader deeds e)
    (h : Step e ⟨.refused id f, events⟩ e') :
    Deed.firstFetch? id deeds = none ∧
      ((Deed.bound? id deeds = none ∧ f = .missingContract id) ∨
        ∃ artifact, Deed.bound? id deeds = some artifact ∧
          loader.load .contract artifact.binaryName artifact.code = .error f) := by
  cases h with
  | refuse h =>
    obtain ⟨hfind, hmat⟩ := fetch_eq_error h
    refine ⟨hf.firstFetch?_of_not_loaded hfind, ?_⟩
    rw [← hf.bound, ← hf.loader_eq]
    exact materialize_eq_error_iff.1 hmat

/-- What is listed is what was bound last. -/
theorem Follows.mem_scan_iff (hf : Follows loader deeds e) (artifact : Artifact) :
    artifact ∈ e.scan ↔ Deed.bound? artifact.id deeds = some artifact := by
  rw [← hf.bound]
  constructor
  · intro h
    obtain ⟨id, hfind⟩ := (e.registry.mem_values_iff artifact).1 h
    rw [hf.wellFormed.registry_id hfind]
    exact hfind
  · intro h
    exact (e.registry.mem_values_iff artifact).2 ⟨artifact.id, h⟩

end Engine

/-! ## Every history -/

/-- In the history of an engine, the contract `id` is loaded at most once, and all that is handed
out or called under this id is what was loaded then. -/
structure Engine.LoadsOnce (id : String) (turns : List Turn) (e : Engine) : Prop where
  loads_le_one : (turns.map Turn.deed).countP (Deed.loads id) ≤ 1
  announced_le_one : Event.materializations id (turns.flatMap Turn.events) ≤ 1
  /-- The first fetch that succeeds makes the instance, from the artifact that is bound at the time.
  Fetches before it may have failed. -/
  first : ∀ {pre fresh i post}, turns.map Turn.deed = pre ++ .fetched fresh i :: post → i.id = id →
    Deed.firstFetch? id pre = none →
    fresh = true ∧ i.memory = .null ∧
      ∃ artifact logic, Deed.bound? id pre = some artifact ∧
        e.loader.load .contract artifact.binaryName artifact.code = .ok logic ∧
        i.make = .ofArtifact id artifact logic
  /-- Every later fetch hands out that instance, whatever was registered meanwhile, with the memory
  it has by then. -/
  later : ∀ {pre fresh i post j},
    turns.map Turn.deed = pre ++ .fetched fresh i :: post → i.id = id →
    Deed.firstFetch? id pre = some j →
    fresh = false ∧ i.make = j.make ∧ i.memory = Deed.lastMemory id pre
  /-- A fetch fails only before the first one that succeeds, for what is bound at the time. -/
  refused : ∀ {pre f post}, turns.map Turn.deed = pre ++ .refused id f :: post →
    Deed.firstFetch? id pre = none ∧
      ((Deed.bound? id pre = none ∧ f = .missingContract id) ∨
        ∃ artifact, Deed.bound? id pre = some artifact ∧
          e.loader.load .contract artifact.binaryName artifact.code = .error f)
  /-- The logic that runs is that of the instance, and it gets the properties of the instance. -/
  called : ∀ {pre i argument properties post},
    turns.map Turn.deed = pre ++ .called i argument properties :: post → i.id = id →
    ∃ j, Deed.firstFetch? id pre = some j ∧ i.make = j.make ∧ properties = j.properties
  /-- So do the functions that run for the contract. -/
  ran : ∀ {pre functionId fresh input post},
    turns.map Turn.deed = pre ++ .ran id functionId fresh input :: post →
    ∃ j, Deed.firstFetch? id pre = some j ∧ input.properties = j.properties
  /-- What is looked up is the artifact that was registered last. -/
  get : ∀ artifact, e.get id = .ok artifact ↔ Deed.bound? id (turns.map Turn.deed) = some artifact
  /-- So is what is listed. -/
  scan : ∀ artifact, artifact.id = id →
    (artifact ∈ e.scan ↔ Deed.bound? id (turns.map Turn.deed) = some artifact)

/-- In every run of a host, and for every emulator in it, every contract is loaded at most once.
Executions and calls of instances lead from where a host can arrive to where it can arrive
(`Reach.of_execute`, `Reach.of_invoke`). -/
theorem Host.Reach.single_load {trace : Trace} {h : Host} {k : Nat} {e : Engine}
    (hr : Reach trace h) (hk : h.world.engines[k]? = some e) (id : String) :
    Engine.LoadsOnce id (Trace.turns k trace) e := by
  obtain ⟨loader, functions, hsteps⟩ := hr.accounts.steps k e hk
  have hnew := Engine.follows_new k loader functions
  have hend : Engine.Follows loader ((Trace.turns k trace).map Turn.deed) e := hnew.steps hsteps
  obtain rfl : e.loader = loader := hend.loader_eq
  have hloads : ((Trace.turns k trace).map Turn.deed).countP (Deed.loads id) ≤ 1 := by
    rw [hend.loads]
    split
    · omega
    · omega
  exact {
    loads_le_one := hloads
    announced_le_one := by
      rw [hsteps.materializations_eq hnew.wellFormed]
      exact hloads
    first := by
      rintro pre fresh i post hdeeds rfl hfirst
      obtain ⟨e₁, e₂, events, hf, hstep⟩ := hnew.at_deed hsteps hdeeds
      exact hf.of_first hstep hfirst
    later := by
      rintro pre fresh i post j hdeeds rfl hfirst
      obtain ⟨e₁, e₂, events, hf, hstep⟩ := hnew.at_deed hsteps hdeeds
      exact hf.of_later hstep hfirst
    refused := by
      intro pre f post hdeeds
      obtain ⟨e₁, e₂, events, hf, hstep⟩ := hnew.at_deed hsteps hdeeds
      exact hf.of_refused hstep
    called := by
      rintro pre i argument properties post hdeeds rfl
      obtain ⟨e₁, e₂, events, hf, hstep⟩ := hnew.at_deed hsteps hdeeds
      exact hf.of_called hstep
    ran := by
      intro pre functionId fresh input post hdeeds
      obtain ⟨e₁, e₂, events, hf, hstep⟩ := hnew.at_deed hsteps hdeeds
      exact hf.of_ran hstep
    get := by
      intro artifact
      rw [Engine.get_eq_ok_iff, hend.bound]
    scan := by
      rintro artifact rfl
      exact hend.mem_scan_iff artifact }

/-- A contract that was executed and then registered again is looked up with its new properties,
and it was loaded once all the same. -/
theorem Host.looping_single_load : ∃ trace outcome s' database' h e,
    (looping.scene MemoryLedger.empty).execute 0 0 "loop" .null none MemoryDatabase.empty =
      some (outcome, s', database') ∧
    h = s'.host.update 0 (fun e => e.register (SampleContract.loop (some .null))) ∧
    Reach trace h ∧ h.world.engines[0]? = some e ∧
    e.loaded.contains "loop" = true ∧ e.get "loop" = .ok (SampleContract.loop (some .null)) ∧
    Engine.LoadsOnce "loop" (Trace.turns 0 trace) e := by
  obtain ⟨trace, hr⟩ := exists_reach_looping
  have hdone : ((looping.scene MemoryLedger.empty).execute 0 0 "loop" .null none
      MemoryDatabase.empty).any (fun r => (r.2.1.world.engines[0]?).any fun e =>
        e.loaded.contains "loop" && r.2.1.world.handle? 0 == some 0) = true := by decide +kernel
  obtain ⟨⟨outcome, s', database'⟩, hrun, hend⟩ := (Option.any_eq_true _ _).1 hdone
  obtain ⟨e, hk, hboth⟩ := (Option.any_eq_true _ _).1 hend
  obtain ⟨hloaded, hbeq⟩ := Bool.and_eq_true_iff.1 hboth
  have hstart : looping.world.handle? 0 = some 0 := rfl
  have hhandle : s'.host.world.handle? 0 = some 0 := eq_of_beq hbeq
  obtain ⟨t, hr₁⟩ := hr.of_execute hstart hrun
  have hr' := hr₁.step (.register (SampleContract.loop (some .null)) hhandle)
  have hk' := getElem?_update (h := s'.host) hk fun e =>
    e.register (SampleContract.loop (some .null))
  have hget : (e.register (SampleContract.loop (some .null))).1.get "loop" =
      .ok (SampleContract.loop (some .null)) :=
    Engine.get_eq_ok_iff.2 ((OrderedMap.find?_insert _ _ _ _).trans (if_pos rfl))
  exact ⟨_, outcome, s', database', _, _, hrun, rfl, hr', hk', hloaded, hget,
    hr'.single_load hk' "loop"⟩

end ContractEmulator
