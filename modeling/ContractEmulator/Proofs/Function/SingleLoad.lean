import ContractEmulator.Proofs.Engine.Outcome
import ContractEmulator.Proofs.Function.History
import Mathlib.Data.List.Forall2

/-!
# Every function is loaded once

A function is loaded by the first request for it that succeeds, from the entry that is bound at the
time, and then handed out to all later requests.

* `FunctionManager.LoadsOnce`: what a history of a manager says of an id, and what the next request
  comes to. `FunctionManager.Steps.loadsOnce`: so it is in every history.
* `Deed.Involves`: what a deed of an engine means for its functions. `Engine.Steps.functions_steps`:
  a history of an engine contains one of its functions.
* `FunctionManager.loads_all_once`: every manager loads functions once, be it used directly, by a
  list of functions, or by the engines of a host.
-/

namespace ContractEmulator

namespace FunctionManager

/-- In the history of a manager whose loader was filled with some registrations, the function `id`
is loaded at most once, and all requests for it come to what they should. -/
structure LoadsOnce (registrations : List (String × FunctionLogic)) (id : String)
    (deeds : List FunctionDeed) (m : FunctionManager) : Prop where
  loads_le_one : deeds.countP (FunctionDeed.loads id) ≤ 1
  /-- The first request that succeeds loads the function, from the entry that is bound at the time.
  Requests before it may have failed. -/
  first : ∀ {pre fresh function post}, deeds = pre ++ .fetched id fresh function :: post →
    FunctionDeed.firstLogic? id pre = none →
    fresh = true ∧ function.memory = .null ∧
      ∃ entry, FunctionDeed.bound? id pre = some entry ∧
        Loader.Loadable registrations entry.binaryName entry.code function.logic
  /-- Every later request is given that function, whatever was registered meanwhile, with the memory
  it has by then. -/
  later : ∀ {pre fresh function post logic},
    deeds = pre ++ .fetched id fresh function :: post →
    FunctionDeed.firstLogic? id pre = some logic →
    fresh = false ∧ function = ⟨logic, FunctionDeed.lastMemory id pre⟩
  /-- A request fails only before the first one that succeeds, and for what is bound at the time. -/
  refused : ∀ {pre f post}, deeds = pre ++ .refused id f :: post →
    FunctionDeed.firstLogic? id pre = none ∧
      ((FunctionDeed.Unregistered id pre ∧ f = .missingFunction id) ∨
        ∃ entry fault, FunctionDeed.bound? id pre = some entry ∧
          (∀ logic, ¬Loader.Loadable registrations entry.binaryName entry.code logic) ∧
          f = .notLoadable entry.binaryName fault)
  /-- What is looked up is the entry that was registered last. -/
  get : ∀ entry, m.get id = .ok entry ↔ FunctionDeed.bound? id deeds = some entry
  /-- Once it was loaded, a request is given the function that is kept, and changes nothing. -/
  kept : ∀ {logic}, FunctionDeed.firstLogic? id deeds = some logic →
    m.fetch id = .ok (⟨logic, FunctionDeed.lastMemory id deeds⟩, m)
  /-- Before, it is missing exactly if it was never registered. -/
  missing : FunctionDeed.firstLogic? id deeds = none →
    (m.fetch id = .error (.missingFunction id) ↔ FunctionDeed.Unregistered id deeds)
  /-- It is refused in the name of its binary exactly if the code of the last entry does not declare
  this name, or the loader does not know it. -/
  broken : ∀ {entry : FunctionEntry}, FunctionDeed.firstLogic? id deeds = none →
    FunctionDeed.bound? id deeds = some entry →
    ((∃ fault, m.fetch id = .error (.notLoadable entry.binaryName fault)) ↔
      (∀ symbol, Descriptor.parse entry.binaryName entry.code ≠ .ok symbol) ∨
        Loader.lastOf? entry.binaryName registrations = none)
  /-- A request that fails leaves the manager as it was, also on behalf of a list. -/
  unchanged : ∀ {f : Failure}, m.fetch id = .error f → m.Step (.refused id f) m ∧
    ∀ {δ : Type} [Database δ] (contractId : String) (input : FunctionInput) (database : δ)
      (log : List Event), FunctionDesk.runEntry contractId input ⟨m, database, log⟩ (.str id) =
        (.error f, ⟨m, database, log⟩)
  /-- So it can be made good: once the last registration under the id can be loaded, whatever else
  happened, a request succeeds, and the first that does loads that. -/
  repaired : ∀ {deeds' : List FunctionDeed} {m' : FunctionManager} {entry : FunctionEntry}
    {logic : FunctionLogic}, FunctionDeed.firstLogic? id deeds = none → m.Steps deeds' m' →
    FunctionDeed.bound? id deeds' = some entry →
    Loader.Loadable registrations entry.binaryName entry.code logic →
    ∃ function m'', m'.fetch id = .ok (function, m'') ∧
      (FunctionDeed.firstLogic? id deeds' = none → function = ⟨logic, .null⟩)

variable {registrations : List (String × FunctionLogic)} {id : String} {deeds : List FunctionDeed}
  {m m' : FunctionManager} {function : LoadedFunction} {f : Failure} {entry : FunctionEntry}
  {logic : FunctionLogic} {loader : Loader FunctionLogic}

/-- A function that was not handed out before fails to be fetched as it fails to be loaded. -/
theorem Follows.fetch_eq_error_iff (hf : m.Follows (.ofList registrations) deeds)
    (hn : FunctionDeed.firstLogic? id deeds = none) : m.fetch id = .error f ↔
      (FunctionDeed.bound? id deeds = none ∧ f = .missingFunction id) ∨
        ∃ entry, FunctionDeed.bound? id deeds = some entry ∧
          (Loader.ofList registrations).load .function entry.binaryName entry.code = .error f := by
  rw [fetch_eq_error_iff_load, load_eq_error_iff, hf.bound, hf.loader_eq,
    and_iff_right (hf.loaded_eq_none_iff.2 hn)]

theorem Follows.fetch_missing_iff (hf : m.Follows (.ofList registrations) deeds)
    (hn : FunctionDeed.firstLogic? id deeds = none) :
    m.fetch id = .error (.missingFunction id) ↔ FunctionDeed.Unregistered id deeds := by
  rw [hf.fetch_eq_error_iff hn, ← FunctionDeed.bound?_eq_none_iff]
  constructor
  · rintro (⟨hnone, -⟩ | ⟨entry, -, hload⟩)
    · exact hnone
    · obtain ⟨fault, hfault⟩ := Loader.load_failure hload
      cases hfault
  · exact fun hnone => .inl ⟨hnone, rfl⟩

theorem Follows.fetch_broken_iff (hf : m.Follows (.ofList registrations) deeds)
    (hn : FunctionDeed.firstLogic? id deeds = none)
    (hbound : FunctionDeed.bound? id deeds = some entry) :
    (∃ fault, m.fetch id = .error (.notLoadable entry.binaryName fault)) ↔
      ∀ logic, ¬Loader.Loadable registrations entry.binaryName entry.code logic := by
  rw [← Loader.load_ofList_refused_iff .function]
  refine exists_congr fun fault => ?_
  simp [hf.fetch_eq_error_iff hn, hbound]

/-- A function whose last entry can be loaded is loaded. -/
theorem Follows.exists_fetch (hf : m.Follows (.ofList registrations) deeds)
    (hn : FunctionDeed.firstLogic? id deeds = none)
    (hbound : FunctionDeed.bound? id deeds = some entry)
    (hloadable : Loader.Loadable registrations entry.binaryName entry.code logic) :
    ∃ m', m.fetch id = .ok (⟨logic, .null⟩, m') := by
  cases hfetch : m.fetch id with
  | ok fetched =>
    obtain ⟨function, m'⟩ := fetched
    obtain ⟨-, hnull, entry', hbound', hload⟩ := hf.of_fetch_first hfetch hn
    obtain rfl : entry' = entry := Option.some.inj (hbound'.symm.trans hbound)
    obtain rfl := ((Loader.load_ofList_eq_ok_iff .function).1 hload).unique hloadable
    exact ⟨m', by rw [← hnull]⟩
  | error f =>
    rcases (hf.fetch_eq_error_iff hn).1 hfetch with ⟨hnone, -⟩ | ⟨entry', hbound', hload⟩
    · cases hnone.symm.trans hbound
    · obtain rfl : entry' = entry := Option.some.inj (hbound'.symm.trans hbound)
      cases hload.symm.trans ((Loader.load_ofList_eq_ok_iff .function).2 hloadable)

theorem Follows.fetch_kept (hf : m.Follows (.ofList registrations) deeds)
    (hfirst : FunctionDeed.firstLogic? id deeds = some logic) :
    m.fetch id = .ok (⟨logic, FunctionDeed.lastMemory id deeds⟩, m) := by
  rw [fetch, hf.loaded, hfirst]
  rfl

/-- A request that was granted, first or later. -/
theorem Follows.of_fetched {fresh : Bool} (hf : m.Follows (.ofList registrations) deeds)
    (h : m.Step (.fetched id fresh function) m') :
    (FunctionDeed.firstLogic? id deeds = none ∧ fresh = true ∧ function.memory = .null ∧
      ∃ entry, FunctionDeed.bound? id deeds = some entry ∧
        Loader.Loadable registrations entry.binaryName entry.code function.logic) ∨
      ∃ logic, FunctionDeed.firstLogic? id deeds = some logic ∧ fresh = false ∧
        function = ⟨logic, FunctionDeed.lastMemory id deeds⟩ := by
  cases h with
  | fetch hfetch =>
    rw [hf.contains_loaded]
    cases hfirst : FunctionDeed.firstLogic? id deeds with
    | none =>
      obtain ⟨-, hnull, entry, hbound, hload⟩ := hf.of_fetch_first hfetch hfirst
      exact .inl ⟨rfl, rfl, hnull, entry, hbound, (Loader.load_ofList_eq_ok_iff .function).1 hload⟩
    | some logic => exact .inr ⟨logic, rfl, rfl, (hf.of_fetch_later hfetch hfirst).2⟩

theorem Follows.of_refused (hf : m.Follows (.ofList registrations) deeds)
    (h : m.Step (.refused id f) m') :
    FunctionDeed.firstLogic? id deeds = none ∧
      ((FunctionDeed.Unregistered id deeds ∧ f = .missingFunction id) ∨
        ∃ entry fault, FunctionDeed.bound? id deeds = some entry ∧
          (∀ logic, ¬Loader.Loadable registrations entry.binaryName entry.code logic) ∧
          f = .notLoadable entry.binaryName fault) := by
  cases h with
  | refuse hfetch =>
    have hn := hf.loaded_eq_none_iff.1 (fetch_eq_error_iff_load.1 hfetch).1
    refine ⟨hn, ?_⟩
    rcases (hf.fetch_eq_error_iff hn).1 hfetch with ⟨hnone, hmissing⟩ | ⟨entry, hbound, hload⟩
    · exact .inl ⟨FunctionDeed.bound?_eq_none_iff.1 hnone, hmissing⟩
    · obtain ⟨fault, rfl⟩ := Loader.load_failure hload
      have hnot := (Loader.load_ofList_refused_iff .function).1 ⟨fault, hload⟩
      exact .inr ⟨entry, fault, hbound, hnot, rfl⟩

/-- In every history, every function is loaded once. -/
theorem Steps.loadsOnce (h : (new (.ofList registrations)).Steps deeds m) (id : String) :
    LoadsOnce registrations id deeds m := by
  have hnew := follows_new (.ofList registrations)
  have hf : m.Follows (.ofList registrations) deeds := hnew.steps h
  exact {
    loads_le_one := by
      rw [hf.loads]
      split
      · omega
      · omega
    first := by
      rintro pre fresh function post rfl hn
      obtain ⟨m₁, m₂, hpre, hstep⟩ := hnew.at_deed h
      rcases hpre.of_fetched hstep with ⟨-, hfirst⟩ | ⟨logic, hsome, -⟩
      · exact hfirst
      · cases hn.symm.trans hsome
    later := by
      rintro pre fresh function post logic rfl hsome
      obtain ⟨m₁, m₂, hpre, hstep⟩ := hnew.at_deed h
      rcases hpre.of_fetched hstep with ⟨hn, -⟩ | ⟨logic', hsome', hlater⟩
      · cases hn.symm.trans hsome
      · obtain rfl : logic' = logic := Option.some.inj (hsome'.symm.trans hsome)
        exact hlater
    refused := by
      rintro pre f post rfl
      obtain ⟨m₁, m₂, hpre, hstep⟩ := hnew.at_deed h
      exact hpre.of_refused hstep
    get := by
      intro entry
      rw [get_eq_ok_iff, hf.bound]
    kept := hf.fetch_kept
    missing := hf.fetch_missing_iff
    broken := by
      intro entry hn hbound
      rw [hf.fetch_broken_iff hn hbound, Loader.forall_not_loadable_iff]
    unchanged := by
      intro f hfetch
      refine ⟨.refuse hfetch, fun contractId input database log => ?_⟩
      exact FunctionDesk.runEntry_refused (FunctionManager.fetch_eq_error_iff.1 hfetch)
    repaired := by
      intro deeds' m' entry logic hn hmore hbound hloadable
      have hf' := hf.steps hmore
      have hbound' : FunctionDeed.bound? id (deeds ++ deeds') = some entry := by
        rw [FunctionDeed.bound?_append, hbound, Option.some_or]
      have hfirst : FunctionDeed.firstLogic? id (deeds ++ deeds') =
          FunctionDeed.firstLogic? id deeds' := by
        rw [FunctionDeed.firstLogic?_append, hn, Option.none_or]
      cases hsince : FunctionDeed.firstLogic? id deeds' with
      | none =>
        obtain ⟨m'', hfetch⟩ := hf'.exists_fetch (hfirst.trans hsince) hbound' hloadable
        exact ⟨_, m'', hfetch, fun _ => rfl⟩
      | some logic' =>
        exact ⟨_, m', hf'.fetch_kept (hfirst.trans hsince), by rintro ⟨⟩⟩ }

end FunctionManager

/-! ## The functions of engines -/

/-- What a deed of an engine means for its functions. -/
inductive Deed.Involves : Deed → List FunctionDeed → Prop where
  | registered (entry : FunctionEntry) (warned : Bool) :
      Involves (.registeredFunction entry warned) [.registered entry warned]
  | ran (contractId id : String) (fresh : Bool) (input : FunctionInput)
      (function : LoadedFunction) (memories : List Json) :
      Involves (.ran contractId id fresh input) (FunctionDeed.ofRun id fresh function memories)
  | other {deed : Deed} : deed.isFunctional = false → Involves deed []

namespace Engine

variable {e e' : Engine} {turn : Turn} {turns : List Turn}

/-- The functions of an engine change by what its deeds mean for them. -/
theorem Step.functions_steps (h : Step e turn e') :
    ∃ deeds, turn.deed.Involves deeds ∧ e.functions.Steps deeds e'.functions := by
  cases hd : turn.deed.isFunctional with
  | false =>
    rw [h.functions_eq hd]
    exact ⟨[], .other hd, .nil _⟩
  | true =>
    cases h with
    | registerFunction _ entry =>
      exact ⟨_, .registered _ _, (FunctionManager.Step.register e.functions entry).steps⟩
    | @run _ _ _ contractId functionId input _ function manager database log _ _ hfetch =>
      obtain ⟨memories, hmemories⟩ :=
        FunctionDesk.run_steps functionId function.logic input ⟨manager, database, log⟩
      exact ⟨_, .ran _ _ _ _ function memories, .cons (.fetch hfetch) hmemories⟩
    | _ => cases hd

/-- So a history of an engine contains one of its functions. -/
theorem Steps.functions_steps (h : Steps e turns e') :
    ∃ parts, List.Forall₂ Deed.Involves (turns.map Turn.deed) parts ∧
      e.functions.Steps parts.flatten e'.functions := by
  induction h with
  | nil => exact ⟨[], .nil, .nil _⟩
  | cons hstep _ ih =>
    obtain ⟨deeds, hinvolves, hfirst⟩ := hstep.functions_steps
    obtain ⟨parts, hparts, hrest⟩ := ih
    exact ⟨deeds :: parts, .cons hinvolves hparts, hfirst.append hrest⟩

end Engine

/-! ## Every use of a manager -/

/-- Managers whose loader was filled with some registrations load every function once. -/
structure FunctionManager.LoadsAllOnce (registrations : List (String × FunctionLogic)) : Prop where
  /-- A manager that is used directly. -/
  direct : ∀ {deeds m}, (new (.ofList registrations)).Steps deeds m →
    ∀ id, LoadsOnce registrations id deeds m
  /-- A list of functions asks for them in order, each entry once, up to the one that ends it. So a
  history goes on through it, whether it fails or not. -/
  listed : ∀ {δ : Type} [Database δ] {contractId : String} {input : FunctionInput}
    {entries : List Json} {desk desk' : FunctionDesk δ} {result : Except Failure Unit},
    FunctionDesk.runEntries contractId input entries desk = (result, desk') →
    ∃ deeds, desk.manager.Steps deeds desk'.manager ∧
      (deeds.filterMap FunctionDeed.asked?).map Json.str <+: entries ∧
      (result = .ok () → (deeds.filterMap FunctionDeed.asked?).map Json.str = entries)
  /-- The manager of an engine, in every scene that comes about from where a host has arrived, also
  in the middle of a list. Its history is contained in that of the engine. -/
  engines : ∀ {σ : Type} {trace t : Trace} {h : Host} {ledger : σ} {s : Scene σ} {k : Nat}
    {e : Engine}, h.Reach trace → (h.scene ledger).Plays t s → s.world.engines[k]? = some e →
    e.functions.loader = .ofList registrations →
    ∃ parts, List.Forall₂ Deed.Involves (Trace.deeds k (trace ++ t)) parts ∧
      (new (.ofList registrations)).Steps parts.flatten e.functions ∧
      ∀ id, LoadsOnce registrations id parts.flatten e.functions

/-- However a manager is used, every function is loaded once. -/
theorem FunctionManager.loads_all_once (registrations : List (String × FunctionLogic)) :
    LoadsAllOnce registrations where
  direct h := h.loadsOnce
  listed {δ _ contractId input entries desk desk' result} h := by
    obtain ⟨invocations, hserves⟩ := FunctionDesk.exists_serves contractId input entries desk
    rw [h] at hserves
    exact hserves.steps
  engines {σ trace t h ledger s k e} hr hp hk hl := by
    obtain ⟨loader, functions, hsteps⟩ := (hr.accounts_of_plays hp).steps k e hk
    obtain ⟨parts, hparts, hfunctions⟩ := hsteps.functions_steps
    have hloader := ((follows_new functions).steps hfunctions).loader_eq
    obtain rfl : functions = .ofList registrations := hloader.symm.trans hl
    exact ⟨parts, hparts, hfunctions, hfunctions.loadsOnce⟩

namespace Host

/-- The function `note` with code that declares another name. -/
def mislabelledNote : FunctionEntry :=
  ⟨"note", "test.Failing", Descriptor.encode "test.Recorder", 0⟩

/-- A list names a function and then one that is not there. The first one stays loaded, although
what is registered for it afterwards cannot be loaded. -/
theorem probing_functions_load_once : ∃ trace h e parts, Reach trace h ∧
    h.world.engines[0]? = some e ∧
    List.Forall₂ Deed.Involves (Trace.deeds 0 trace) parts ∧
    FunctionManager.LoadsOnce SampleFunction.symbols "note" parts.flatten e.functions ∧
    e.functions.get "note" = .ok mislabelledNote ∧
    ∃ function, e.functions.fetch "note" = .ok (function, e.functions) := by
  obtain ⟨trace, hr⟩ := exists_reach_probing
  have hhandle : (probing.scene MemoryLedger.empty).world.handle? 0 = some 0 := rfl
  have hdone : ((probing.scene MemoryLedger.empty).execute 0 0 "probe" (.obj [("do", .arr []),
      ("_functions_", .arr [.str "note", .str "gone"])]) none MemoryDatabase.empty).any
        (fun r => (r.2.1.world.engines[0]?).any fun e => e.functions.loaded.contains "note") =
      true := by decide +kernel
  obtain ⟨⟨outcome, s', database'⟩, hrun, hend⟩ := (Option.any_eq_true _ _).1 hdone
  obtain ⟨e₀, hk₀, hcontains⟩ := (Option.any_eq_true _ _).1 hend
  obtain ⟨function, hfind⟩ := Option.isSome_iff_exists.1 hcontains
  obtain ⟨t, hexec⟩ := Scene.exists_executes hrun
  have hw : (probing.scene MemoryLedger.empty).world.WellFormed := hr.accounts.wellFormed
  have hp := hexec.plays hw
  have hhandle' : s'.host.world.handle? 0 = some 0 := by
    rw [World.handle?, Scene.host, hp.world.handles_eq.1]
    exact hhandle
  have hr' := (hr.step (.execute hhandle hexec)).step (.registerFunction mislabelledNote hhandle')
  have hk := getElem?_update (h := s'.host) hk₀ fun e => e.registerFunction mislabelledNote
  have hloader : (e₀.registerFunction mislabelledNote).1.functions.loader =
      .ofList SampleFunction.symbols := by
    obtain ⟨e₁, hk₁, hsteps⟩ := hp.world.steps (k := 0) rfl
    obtain rfl : e₁ = e₀ := Option.some.inj (hk₁.symm.trans hk₀)
    obtain ⟨parts, -, hfunctions⟩ := hsteps.functions_steps
    exact hfunctions.loader_eq
  obtain ⟨parts, hparts, -, honce⟩ :=
    (FunctionManager.loads_all_once SampleFunction.symbols).engines hr' (.refl (Host.scene _ ())) hk
      hloader
  rw [List.append_nil] at hparts
  refine ⟨_, _, _, parts, hr', hk, hparts, honce "note", ?_, function, ?_⟩
  · rw [FunctionManager.get_eq_ok_iff]
    exact FunctionManager.find?_register e₀.functions mislabelledNote "note"
  · have hkept : (e₀.registerFunction mislabelledNote).1.functions.loaded.find? "note" =
        some function := hfind
    rw [FunctionManager.fetch, hkept]

end Host

end ContractEmulator
