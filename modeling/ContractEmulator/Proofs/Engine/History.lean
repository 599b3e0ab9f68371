import ContractEmulator.Proofs.Engine.Fetch
import ContractEmulator.Proofs.Function.Service

/-!
# The history of an engine

Whatever happens in an emulator, its engine changes by one deed at a time. A deed says what was
done and what came of it; a turn is a deed with what the engine announced.

* `Engine.Step`: the engine does a deed. Each rule is one operation of the engine, so what a deed
  does is what the operation does.
* `Engine.Steps`: the engine does one deed after the other.
* `Step.find?_loaded`, `Step.parts`: what a deed does to each part of the engine.
* `Engine.WellFormed`: instances and artifacts are kept under their own ids, each instance runs
  logic that the loader knows and has a weak reference to the engine, and only registered functions
  are loaded. Every step keeps it (`Step.wellFormed`).
* `Step.of_fetched`: where the instance of a fetch comes from.
-/

namespace ContractEmulator

/-- What an engine did, and what came of it. -/
inductive Deed where
  /-- An artifact was bound; `warned` if a contract with its id was loaded before. -/
  | registered (artifact : Artifact) (warned : Bool)
  /-- A function was bound; `warned` if a function with its id was loaded before. -/
  | registeredFunction (entry : FunctionEntry) (warned : Bool)
  | certified (identity : Identity)
  /-- An instance was handed out, with the stamp it got; `fresh` if it was made for this fetch. -/
  | fetched (fresh : Bool) (i : Instance)
  /-- There was no instance to hand out. -/
  | refused (id : String) (failure : Failure)
  /-- The logic of an instance was started. -/
  | called (i : Instance) (argument : Json) (properties : Option Json)
  /-- The logic of an instance replaced its memory. -/
  | remembered (id : String) (memory : Json)
  /-- A function was run for a contract; `fresh` if it was loaded for this run. -/
  | ran (contractId functionId : String) (fresh : Bool) (input : FunctionInput)
  /-- A contract kept one more handle. -/
  | keptHandle
  /-- A contract dropped a handle that was kept. -/
  | droppedHandle

/-- A deed with its announcements. -/
structure Turn where
  deed : Deed
  events : List Event

namespace Engine

/-- The engine does a deed. -/
inductive Step : Engine → Turn → Engine → Prop where
  | register (e : Engine) (artifact : Artifact) :
      Step e ⟨.registered artifact (e.loaded.contains artifact.id), (e.register artifact).2⟩
        (e.register artifact).1
  | registerFunction (e : Engine) (entry : FunctionEntry) :
      Step e
        ⟨.registeredFunction entry (e.functions.loaded.contains entry.id),
          (e.registerFunction entry).2⟩
        (e.registerFunction entry).1
  | certify (e : Engine) (identity : Identity) :
      Step e ⟨.certified identity, (e.setCertificate identity).2⟩ (e.setCertificate identity).1
  | fetch {e e' : Engine} {id : String} {i : Instance} {events : List Event} :
      e.fetch id = .ok (i, e', events) →
      Step e ⟨.fetched (!e.loaded.contains id) i, events⟩ e'
  | fetchNested {e e' : Engine} {id : String} {i : Instance} {events : List Event} :
      e.fetchNested id = .ok (i, e', events) →
      Step e ⟨.fetched (!e.loaded.contains id) i, events⟩ e'
  | refuse {e : Engine} {id : String} {f : Failure} :
      e.fetch id = .error f → Step e ⟨.refused id f, []⟩ e
  /-- Only an instance that is kept is called, and with its own properties. -/
  | call {e : Engine} {i : Instance} {argument : Json} :
      e.loaded.find? i.id = some i → Step e ⟨.called i argument i.properties, []⟩ e
  | remember {e : Engine} {id : String} {i : Instance} {memory : Json} :
      e.loaded.find? id = some i → Step e ⟨.remembered id memory, []⟩ (e.setMemory id memory)
  /-- A function is run for a contract that is loaded, with the properties of that contract. -/
  | run {δ : Type} [Database δ] {e : Engine} {contractId functionId : String}
      {input : FunctionInput} {i : Instance} {function : LoadedFunction}
      {manager : FunctionManager} (database : δ) (log : List Event) :
      e.loaded.find? contractId = some i → input.properties = i.properties →
      e.functions.fetch functionId = .ok (function, manager) →
      Step e
        ⟨.ran contractId functionId (!e.functions.loaded.contains functionId) input,
          [FunctionDesk.invokeEvent functionId contractId]⟩
        { e with
          functions :=
            (FunctionDesk.run functionId function.logic input ⟨manager, database, log⟩).2.manager }
  | keepHandle (e : Engine) : Step e ⟨.keptHandle, e.keepHandle.2⟩ e.keepHandle.1
  | dropHandle {e : Engine} :
      0 < e.kept → Step e ⟨.droppedHandle, e.dropHandle.2⟩ e.dropHandle.1

/-- The engine takes one turn after the other. -/
inductive Steps : Engine → List Turn → Engine → Prop where
  | nil (e : Engine) : Steps e [] e
  | cons {e e₁ e' : Engine} {turn : Turn} {turns : List Turn} :
      Step e turn e₁ → Steps e₁ turns e' → Steps e (turn :: turns) e'

variable {e e' e₁ : Engine} {turn : Turn} {turns turns' : List Turn} {id : String}
  {i j : Instance} {events : List Event}

theorem Steps.append (h : Steps e turns e₁) (h' : Steps e₁ turns' e') :
    Steps e (turns ++ turns') e' := by
  induction h with
  | nil => exact h'
  | cons hstep _ ih => exact .cons hstep (ih h')

/-- A history can be cut at any place. -/
theorem Steps.split (h : Steps e (turns ++ turns') e') :
    ∃ e₁, Steps e turns e₁ ∧ Steps e₁ turns' e' := by
  induction turns generalizing e with
  | nil => exact ⟨e, .nil e, h⟩
  | cons turn turns ih =>
    cases h with
    | cons hstep hrest =>
      obtain ⟨e₁, h₁, h₂⟩ := ih hrest
      exact ⟨e₁, .cons hstep h₁, h₂⟩

/-- What every step keeps, a history keeps. -/
theorem Steps.keep {P : Engine → Prop} (hstep : ∀ {e turn e'}, Step e turn e' → P e → P e')
    (h : Steps e turns e') (hP : P e) : P e' := by
  induction h with
  | nil => exact hP
  | cons hone _ ih => exact ih (hstep hone hP)

/-- A part of the engine that no deed of a history changes stays. -/
theorem Steps.part_eq {α : Type} {part : Engine → α} (h : Steps e turns e')
    (hstep : ∀ turn ∈ turns, ∀ {e e'}, Step e turn e' → part e' = part e) : part e' = part e := by
  induction h with
  | nil => rfl
  | cons hone _ ih =>
    obtain ⟨hhead, htail⟩ := List.forall_mem_cons.1 hstep
    rw [ih htail, hhead hone]

/-- A part that depends on what it was before and on the deed depends on the deeds of a history. -/
theorem Steps.part_eq_foldl {α : Type} {part : Engine → α} {after : α → Deed → α}
    (hstep : ∀ {e turn e'}, Step e turn e' → part e' = after (part e) turn.deed)
    (h : Steps e turns e') : part e' = (turns.map Turn.deed).foldl after (part e) := by
  induction h with
  | nil => rfl
  | cons hone _ ih => rw [ih, hstep hone, List.map_cons, List.foldl_cons]

/-! ## What a deed does to each part -/

/-- Both kinds of fetch hand out what was obtained, under a new stamp, and keep it. -/
theorem Step.of_fetched {fresh : Bool} (h : Step e ⟨.fetched fresh i, events⟩ e') :
    ∃ id j event, e.obtain id = .ok (j, event) ∧ fresh = !e.loaded.contains id ∧
      i = j.stamped i.isRoot e.certificate ∧ e' = e.keep i ∧
      events = event :: stampEvent id e.certificate ::
        (if i.isRoot then [] else [nestedEvent id]) := by
  cases h with
  | @fetch _ _ id _ _ h =>
    obtain ⟨j, event, hob, rfl, rfl, rfl⟩ := fetch_eq_ok h
    exact ⟨id, j, event, hob, rfl, rfl, rfl, rfl⟩
  | @fetchNested _ _ id _ _ h =>
    obtain ⟨j, event, hob, rfl, rfl, rfl⟩ := fetchNested_eq_ok h
    exact ⟨id, j, event, hob, rfl, rfl, rfl, rfl⟩

theorem setMemory_of_find? (h : e.loaded.find? id = some i) (memory : Json) :
    e.setMemory id memory = e.keep { i with memory := memory } := by
  rw [setMemory, h]

end Engine

namespace Deed

/-- The instance of an id after a deed, from the one before it. -/
def loadedAfter (id : String) (before : Option Instance) : Deed → Option Instance
  | .fetched _ i => if id = i.id then some i else before
  | .remembered id' memory =>
    if id = id' then before.map fun i => { i with memory := memory } else before
  | _ => before

/-- The artifact of an id after a deed, from the one before it. -/
def boundAfter (id : String) (before : Option Artifact) : Deed → Option Artifact
  | .registered artifact _ => if id = artifact.id then some artifact else before
  | _ => before

/-- The registry after a deed, from the one before it. -/
def registryAfter (before : ContractRegistry) : Deed → ContractRegistry
  | .registered artifact _ => before.bind artifact
  | _ => before

/-- The certificate after a deed, from the one before it. -/
def certificateAfter (before : Identity) : Deed → Identity
  | .certified identity => identity
  | _ => before

/-- The registered functions after a deed, from those before it. -/
def functionsAfter (before : FunctionRegistry) : Deed → FunctionRegistry
  | .registeredFunction entry _ => before.bind entry
  | _ => before

/-- How many handles are kept after a deed, from how many were before it. -/
def keptAfter (before : Nat) : Deed → Nat
  | .keptHandle => before + 1
  | .droppedHandle => before - 1
  | _ => before

/-- The deed has to do with functions. -/
def isFunctional : Deed → Bool
  | .registeredFunction _ _ | .ran _ _ _ _ => true
  | _ => false

/-- A function was run. -/
def isRun : Deed → Bool
  | .ran _ _ _ _ => true
  | _ => false

/-- What a logic has to ask for to have the deed done. -/
def request? : Deed → Option ContractQuery
  | .registered artifact _ => some (.register artifact)
  | .registeredFunction entry _ => some (.registerFunction entry)
  | .certified identity => some (.setCertificate identity)
  | .keptHandle => some .keepHandle
  | .droppedHandle => some .dropHandle
  | _ => none

/-- The deed is a fetch, whether it was granted or refused. -/
def isFetch : Deed → Bool
  | .fetched _ _ | .refused _ _ => true
  | _ => false

theorem certificateAfter_eq {deed : Deed} (hn : ∀ identity, deed ≠ .certified identity)
    (before : Identity) : certificateAfter before deed = before := by
  cases deed with
  | certified identity => exact absurd rfl (hn identity)
  | _ => rfl

theorem registryAfter_eq {deed : Deed} (hn : ∀ artifact warned, deed ≠ .registered artifact warned)
    (before : ContractRegistry) : registryAfter before deed = before := by
  cases deed with
  | registered artifact warned => exact absurd rfl (hn artifact warned)
  | _ => rfl

theorem functionsAfter_eq {deed : Deed}
    (hn : ∀ entry warned, deed ≠ .registeredFunction entry warned) (before : FunctionRegistry) :
    functionsAfter before deed = before := by
  cases deed with
  | registeredFunction entry warned => exact absurd rfl (hn entry warned)
  | _ => rfl

theorem isFunctional_eq_false {deed : Deed} (hrun : deed.isRun = false)
    (hregistered : ∀ entry warned, deed ≠ .registeredFunction entry warned) :
    deed.isFunctional = false := by
  cases deed with
  | registeredFunction entry warned => exact absurd rfl (hregistered entry warned)
  | ran => cases hrun
  | _ => rfl

theorem isFunctional_of_isFetch {deed : Deed} (h : deed.isFetch = true) :
    deed.isFunctional = false := by
  cases deed with
  | fetched | refused => rfl
  | _ => cases h

theorem isRun_of_isFetch {deed : Deed} (h : deed.isFetch = true) : deed.isRun = false := by
  cases deed with
  | fetched | refused => rfl
  | _ => cases h

theorem request?_of_isFetch {deed : Deed} (h : deed.isFetch = true) : deed.request? = none := by
  cases deed with
  | fetched | refused => rfl
  | _ => cases h

theorem ne_certified_of_isFetch {deed : Deed} (h : deed.isFetch = true) (identity : Identity) :
    deed ≠ .certified identity := by
  rintro rfl
  cases h

end Deed

namespace Engine

variable {e e' e₁ : Engine} {turn : Turn} {turns turns' : List Turn} {id : String}
  {i j : Instance} {events : List Event}

/-- Instances and artifacts are kept under their own ids, instances run known logic and have a weak
reference to the engine, and functions that are loaded are registered. -/
structure WellFormed (e : Engine) : Prop where
  registry_id : ∀ {id artifact}, e.registry.find? id = some artifact → artifact.id = id
  loaded_id : ∀ {id i}, e.loaded.find? id = some i → i.id = id
  loaded_known : ∀ {id i}, e.loaded.find? id = some i →
    ∃ symbol, e.loader.factories.find? symbol = some i.logic
  loaded_wired : ∀ {id i}, e.loaded.find? id = some i → i.invoker = some (.weak e.place)
  functions : e.functions.WellFormed

/-- An engine that has just been made is well formed. -/
theorem wellFormed_new (place : Nat) (loader : Loader ContractLogic)
    (functions : Loader FunctionLogic) : (new place loader functions).WellFormed where
  registry_id h := by cases h
  loaded_id h := by cases h
  loaded_known h := by cases h
  loaded_wired h := by cases h
  functions := FunctionManager.wellFormed_new functions

/-- An instance that was obtained has the id it was asked for. -/
theorem WellFormed.id_of_obtain (hw : e.WellFormed) {event : Event}
    (h : e.obtain id = .ok (j, event)) : j.id = id := by
  rcases obtain_eq_ok_iff.1 h with ⟨hfind, -⟩ | ⟨-, hmat, -⟩
  · exact hw.loaded_id hfind
  · obtain ⟨artifact, logic, -, -, rfl⟩ := materialize_eq_ok_iff.1 hmat
    rfl

theorem WellFormed.id_of_fetched (hw : e.WellFormed) {fresh : Bool}
    (h : Step e ⟨.fetched fresh i, events⟩ e') : ∃ j event, e.obtain i.id = .ok (j, event) ∧
      fresh = !e.loaded.contains i.id ∧
      i = j.stamped i.isRoot e.certificate ∧ e' = e.keep i ∧
      events = event :: stampEvent i.id e.certificate ::
        (if i.isRoot then [] else [nestedEvent i.id]) := by
  obtain ⟨id, j, event, hob, hfresh, hi, he', hev⟩ := h.of_fetched
  have hj : j.id = id := hw.id_of_obtain hob
  obtain rfl : i.id = id := (congrArg Instance.id hi).trans hj
  exact ⟨j, event, hob, hfresh, hi, he', hev⟩

/-- A deed changes the instance that it names and no other. -/
theorem Step.find?_loaded (h : Step e turn e') (hw : e.WellFormed) (id : String) :
    e'.loaded.find? id = turn.deed.loadedAfter id (e.loaded.find? id) := by
  cases h with
  | fetch h =>
    obtain rfl := eq_keep_of_fetch h
    exact find?_keep e _ id
  | fetchNested h =>
    obtain rfl := eq_keep_of_fetchNested h
    exact find?_keep e _ id
  | @remember _ id' i memory h =>
    rw [setMemory_of_find? h, find?_keep, Deed.loadedAfter]
    simp only [hw.loaded_id h]
    split
    · next heq =>
      subst heq
      rw [h]
      exact congrArg some (congrArg (Instance.mk · _ _ _ _ _ _ _) (hw.loaded_id h).symm)
    · rfl
  | register | registerFunction | certify | refuse | call | run | keepHandle | dropHandle => rfl

/-- What a deed does to the parts of an engine beside its instances and functions. -/
theorem Step.parts (h : Step e turn e') :
    e'.registry = turn.deed.registryAfter e.registry ∧
      e'.certificate = turn.deed.certificateAfter e.certificate ∧ e'.loader = e.loader ∧
      e'.place = e.place ∧ e'.kept = turn.deed.keptAfter e.kept := by
  cases h with
  | fetch h =>
    obtain rfl := eq_keep_of_fetch h
    exact ⟨rfl, rfl, rfl, rfl, rfl⟩
  | fetchNested h =>
    obtain rfl := eq_keep_of_fetchNested h
    exact ⟨rfl, rfl, rfl, rfl, rfl⟩
  | remember h =>
    rw [setMemory_of_find? h]
    exact ⟨rfl, rfl, rfl, rfl, rfl⟩
  | register | registerFunction | certify | refuse | call | run | keepHandle | dropHandle =>
    exact ⟨rfl, rfl, rfl, rfl, rfl⟩

/-- A deed binds the artifact that it names and no other. -/
theorem Step.find?_registry (h : Step e turn e') (id : String) :
    e'.registry.find? id = turn.deed.boundAfter id (e.registry.find? id) := by
  rw [h.parts.1]
  cases turn.deed with
  | registered artifact => exact OrderedMap.find?_insert e.registry artifact.id artifact id
  | _ => rfl

/-- Only what has to do with functions changes the functions. -/
theorem Step.functions_eq (h : Step e turn e') (hd : turn.deed.isFunctional = false) :
    e'.functions = e.functions := by
  cases h with
  | fetch h =>
    obtain rfl := eq_keep_of_fetch h
    rfl
  | fetchNested h =>
    obtain rfl := eq_keep_of_fetchNested h
    rfl
  | remember h =>
    rw [setMemory_of_find? h]
    rfl
  | registerFunction | run => cases hd
  | register | certify | refuse | call | keepHandle | dropHandle => rfl

/-- As long as no function is run, the functions change by what is registered only. -/
theorem Step.functions_of_isRun (h : Step e turn e') (hd : turn.deed.isRun = false) :
    e'.functions =
      { e.functions with registry := turn.deed.functionsAfter e.functions.registry } := by
  cases hf : turn.deed.isFunctional with
  | false =>
    rw [h.functions_eq hf]
    cases hdeed : turn.deed with
    | registeredFunction =>
      rw [hdeed] at hf
      cases hf
    | _ => rfl
  | true =>
    cases h with
    | registerFunction => rfl
    | run => cases hd
    | _ => cases hf

/-- A run registers nothing. -/
theorem Step.functionRegistry_eq (h : Step e turn e') :
    e'.functions.registry = turn.deed.functionsAfter e.functions.registry := by
  cases hd : turn.deed.isRun with
  | false => rw [h.functions_of_isRun hd]
  | true =>
    cases h with
    | run database log _ _ hfetch =>
      refine FunctionDesk.run_keeps (P := fun m => m.registry = _) (fun m memory hP => ?_) ?_
      · exact (m.registry_setMemory _ memory).trans hP
      · exact FunctionManager.registry_of_fetch hfetch
    | _ => cases hd

theorem Step.functions_wellFormed (h : Step e turn e') (hw : e.functions.WellFormed) :
    e'.functions.WellFormed := by
  cases hd : turn.deed.isFunctional with
  | false => exact h.functions_eq hd ▸ hw
  | true =>
    cases h with
    | registerFunction _ entry => exact hw.register entry
    | run _ _ _ _ hfetch => exact FunctionDesk.wellFormed_run (hw.fetch hfetch)
    | _ => cases hd

theorem Step.certificate_eq (h : Step e turn e') :
    e'.certificate = turn.deed.certificateAfter e.certificate := h.parts.2.1

theorem Step.loader_eq (h : Step e turn e') : e'.loader = e.loader := h.parts.2.2.1

theorem Step.place_eq (h : Step e turn e') : e'.place = e.place := h.parts.2.2.2.1

theorem Step.kept_eq (h : Step e turn e') : e'.kept = turn.deed.keptAfter e.kept :=
  h.parts.2.2.2.2

/-- Without a deed that replaces it, the certificate stays. -/
theorem Steps.certificate_eq (h : Steps e turns e')
    (hn : ∀ turn ∈ turns, ∀ identity, turn.deed ≠ .certified identity) :
    e'.certificate = e.certificate :=
  h.part_eq fun turn hmem _ _ hstep =>
    hstep.certificate_eq.trans (Deed.certificateAfter_eq (hn turn hmem) _)

/-- Without a deed that has to do with functions, the functions stay. -/
theorem Steps.functions_eq (h : Steps e turns e')
    (hn : ∀ turn ∈ turns, turn.deed.isFunctional = false) : e'.functions = e.functions :=
  h.part_eq fun turn hmem _ _ hstep => hstep.functions_eq (hn turn hmem)

theorem Steps.functions_of_isRun (h : Steps e turns e')
    (hn : ∀ turn ∈ turns, turn.deed.isRun = false) :
    e'.functions =
      { e.functions with
        registry := (turns.map Turn.deed).foldl Deed.functionsAfter e.functions.registry } := by
  induction h with
  | nil => rfl
  | cons hstep _ ih =>
    obtain ⟨hhead, htail⟩ := List.forall_mem_cons.1 hn
    rw [ih htail, hstep.functions_of_isRun hhead, List.map_cons, List.foldl_cons]

theorem Steps.functionRegistry_eq (h : Steps e turns e') :
    e'.functions.registry =
      (turns.map Turn.deed).foldl Deed.functionsAfter e.functions.registry :=
  h.part_eq_foldl Step.functionRegistry_eq

theorem Steps.loader_eq (h : Steps e turns e') : e'.loader = e.loader :=
  h.part_eq fun _ _ _ _ hstep => hstep.loader_eq

theorem Steps.place_eq (h : Steps e turns e') : e'.place = e.place :=
  h.part_eq fun _ _ _ _ hstep => hstep.place_eq

/-- The deeds of an engine tell how many handles its contracts keep. -/
theorem Steps.kept_eq (h : Steps e turns e') :
    e'.kept = (turns.map Turn.deed).foldl Deed.keptAfter e.kept :=
  h.part_eq_foldl Step.kept_eq

theorem WellFormed.known_of_obtain (hw : e.WellFormed) {event : Event}
    (h : e.obtain id = .ok (j, event)) :
    ∃ symbol, e.loader.factories.find? symbol = some j.logic := by
  rcases obtain_eq_ok_iff.1 h with ⟨hfind, -⟩ | ⟨-, hmat, -⟩
  · exact hw.loaded_known hfind
  · obtain ⟨artifact, logic, -, hload, rfl⟩ := materialize_eq_ok_iff.1 hmat
    exact Loader.known_of_load hload

/-- If the instances that are loaded have a weak reference to the engine, so has one that was
obtained. -/
theorem wired_of_obtain
    (hw : ∀ {id i}, e.loaded.find? id = some i → i.invoker = some (.weak e.place)) {event : Event}
    (h : e.obtain id = .ok (j, event)) : j.invoker = some (.weak e.place) := by
  rcases obtain_eq_ok_iff.1 h with ⟨hfind, -⟩ | ⟨-, hmat, -⟩
  · exact hw hfind
  · obtain ⟨artifact, logic, -, -, rfl⟩ := materialize_eq_ok_iff.1 hmat
    rfl

/-- An instance that was handed out has a weak reference to the engine. -/
theorem WellFormed.wired_of_fetched (hw : e.WellFormed) {fresh : Bool}
    (h : Step e ⟨.fetched fresh i, events⟩ e') : i.invoker = some (.weak e.place) := by
  obtain ⟨j, event, hob, -, hi, -⟩ := hw.id_of_fetched h
  have hj : j.invoker = some (.weak e.place) := wired_of_obtain hw.loaded_wired hob
  exact (congrArg Instance.invoker hi).trans hj

/-- The logic of an instance that was handed out is known to the loader. -/
theorem WellFormed.known_of_fetched (hw : e.WellFormed) {fresh : Bool}
    (h : Step e ⟨.fetched fresh i, events⟩ e') :
    ∃ symbol, e.loader.factories.find? symbol = some i.logic := by
  obtain ⟨j, event, hob, -, hi, -⟩ := hw.id_of_fetched h
  obtain ⟨symbol, hfind⟩ := hw.known_of_obtain hob
  exact ⟨symbol, hfind.trans (congrArg some (congrArg Instance.logic hi).symm)⟩

/-- Every step keeps an engine well formed. -/
theorem Step.wellFormed (h : Step e turn e') (hw : e.WellFormed) : e'.WellFormed where
  registry_id {id artifact} hfind := by
    rw [h.find?_registry] at hfind
    unfold Deed.boundAfter at hfind
    split at hfind
    · split at hfind
      · cases hfind
        next heq => exact heq.symm
      · exact hw.registry_id hfind
    · exact hw.registry_id hfind
  loaded_id {id i} hfind := by
    rw [h.find?_loaded hw] at hfind
    unfold Deed.loadedAfter at hfind
    split at hfind
    · split at hfind
      · cases hfind
        next heq => exact heq.symm
      · exact hw.loaded_id hfind
    · split at hfind
      · obtain ⟨j, hj, rfl⟩ := Option.map_eq_some_iff.1 hfind
        exact (hw.loaded_id hj : j.id = id)
      · exact hw.loaded_id hfind
    · exact hw.loaded_id hfind
  loaded_known {id i} hfind := by
    rw [h.find?_loaded hw] at hfind
    rw [h.loader_eq]
    obtain ⟨deed, events⟩ := turn
    dsimp only at hfind
    unfold Deed.loadedAfter at hfind
    split at hfind
    · split at hfind
      · cases hfind
        exact hw.known_of_fetched h
      · exact hw.loaded_known hfind
    · split at hfind
      · obtain ⟨j, hj, rfl⟩ := Option.map_eq_some_iff.1 hfind
        exact (hw.loaded_known hj : ∃ symbol, _ = some j.logic)
      · exact hw.loaded_known hfind
    · exact hw.loaded_known hfind
  loaded_wired {id i} hfind := by
    rw [h.find?_loaded hw] at hfind
    rw [h.place_eq]
    obtain ⟨deed, events⟩ := turn
    dsimp only at hfind
    unfold Deed.loadedAfter at hfind
    split at hfind
    · split at hfind
      · cases hfind
        exact hw.wired_of_fetched h
      · exact hw.loaded_wired hfind
    · split at hfind
      · obtain ⟨j, hj, rfl⟩ := Option.map_eq_some_iff.1 hfind
        exact (hw.loaded_wired hj : j.invoker = _)
      · exact hw.loaded_wired hfind
    · exact hw.loaded_wired hfind
  functions := h.functions_wellFormed hw.functions

theorem Steps.wellFormed (h : Steps e turns e') (hw : e.WellFormed) : e'.WellFormed :=
  h.keep (P := WellFormed) Step.wellFormed hw

/-- A contract that was loaded stays what it was made of. -/
theorem Step.make_kept (h : Step e turn e') (hw : e.WellFormed)
    (hfind : e.loaded.find? id = some i) :
    ∃ j, e'.loaded.find? id = some j ∧ j.make = i.make := by
  have hafter := h.find?_loaded hw id
  rw [hfind] at hafter
  obtain ⟨deed, events⟩ := turn
  cases deed with
  | fetched fresh j =>
    by_cases hid : id = j.id
    · subst hid
      obtain ⟨j₀, event, hob, -, hj, -⟩ := hw.id_of_fetched h
      have hkept : j₀ = i := by
        rcases obtain_eq_ok_iff.1 hob with ⟨hj₀, -⟩ | ⟨hnone, -⟩
        · exact Option.some.inj (hj₀.symm.trans hfind)
        · cases hnone.symm.trans hfind
      refine ⟨j, hafter.trans (if_pos rfl), ?_⟩
      rw [Instance.make_of_stamped hj, hkept]
    · exact ⟨i, hafter.trans (if_neg hid), rfl⟩
  | remembered id' memory =>
    by_cases hid : id = id'
    · exact ⟨{ i with memory := memory }, hafter.trans (if_pos hid), rfl⟩
    · exact ⟨i, hafter.trans (if_neg hid), rfl⟩
  | _ => exact ⟨i, hafter, rfl⟩

theorem Steps.make_kept (h : Steps e turns e') (hw : e.WellFormed)
    (hfind : e.loaded.find? id = some i) :
    ∃ j, e'.loaded.find? id = some j ∧ j.make = i.make := by
  induction h generalizing i with
  | nil => exact ⟨i, hfind, rfl⟩
  | cons hstep _ ih =>
    obtain ⟨j, hj, hmake⟩ := hstep.make_kept hw hfind
    obtain ⟨j', hj', hmake'⟩ := ih (hstep.wellFormed hw) hj
    exact ⟨j', hj', hmake'.trans hmake⟩

end Engine

end ContractEmulator
