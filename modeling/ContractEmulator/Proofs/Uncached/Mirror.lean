import ContractEmulator.Proofs.Contract.Questions
import ContractEmulator.Proofs.Engine.Stamps
import ContractEmulator.Proofs.Uncached.Engine

/-!
# Engines and what they would load now

An engine mirrors a bare one if both have the same registrations and the same certificate, and
whatever the engine has loaded is what the bare one would load at present.

* `FunctionManager.Mirrors`, `Engine.Mirrors`: this relation.
* `FunctionManager.Mirrors.runEntries`: functions that remember nothing do the same on both sides.
* `Engine.Mirrors.fetchAs`: an instance that is handed out is what the bare engine makes.
* `Engine.Mirrors.register`, `Engine.Mirrors.registerFunction`: registering what was not loaded
  keeps the relation.
-/

namespace ContractEmulator

/-- The question is not about what the contract keeps between calls: the memory of its instance and
handles. -/
def ContractQuery.Stateless : ContractQuery → Prop
  | .memory | .remember _ | .keepHandle | .dropHandle => False
  | _ => True

theorem ContractQuery.ledgerBlind_stateless : ContractQuery.LedgerBlind ContractQuery.Stateless :=
  ⟨fun _ => trivial, fun _ _ => trivial⟩

/-- The question is not about the memory of the instance. -/
def FunctionQuery.Stateless : FunctionQuery → Prop
  | .memory | .remember _ => False
  | _ => True

/-- Every function that a loader knows asks only questions that are `ok`. -/
def Loader.FunctionsAsk (ok : FunctionQuery → Prop) (loader : Loader FunctionLogic) : Prop :=
  ∀ symbol logic, loader.factories.find? symbol = some logic → ∀ input, (logic input).run.Asks ok

namespace BareEngine

variable {b : BareEngine} {id : String}

/-- A contract is made from the artifact bound to its id, with the logic that its code names. -/
theorem make_eq_ok {made : Make} (h : b.make id = .ok made) :
    ∃ artifact logic, b.loader.load .contract artifact.binaryName artifact.code = .ok logic ∧
      made = .ofArtifact id artifact logic := by
  unfold make at h
  split at h
  · cases h
  · next artifact _ =>
    cases hload : b.loader.load .contract artifact.binaryName artifact.code with
    | error f =>
      rw [hload] at h
      cases h
    | ok logic =>
      rw [hload] at h
      cases h
      exact ⟨artifact, logic, hload, rfl⟩

theorem id_of_make {made : Make} (h : b.make id = .ok made) : made.id = id := by
  obtain ⟨artifact, logic, -, rfl⟩ := make_eq_ok h
  rfl

theorem known_of_make {made : Make} (h : b.make id = .ok made) :
    ∃ symbol, b.loader.factories.find? symbol = some made.logic := by
  obtain ⟨artifact, logic, hload, rfl⟩ := make_eq_ok h
  exact Loader.known_of_load hload

theorem known_of_makeFunction {logic : FunctionLogic} (h : b.makeFunction id = .ok logic) :
    ∃ symbol, b.functionLoader.factories.find? symbol = some logic := by
  unfold makeFunction at h
  split at h
  · cases h
  · exact Loader.known_of_load h

end BareEngine

/-! ## Functions -/

namespace FunctionManager

/-- The manager has the functions of the bare engine, and has loaded what that would load now. -/
structure Mirrors (m : FunctionManager) (b : BareEngine) : Prop where
  registry : m.registry = b.functions
  loader : m.loader = b.functionLoader
  loaded : ∀ {id function}, m.loaded.find? id = some function →
    b.makeFunction id = .ok function.logic

variable {m m' : FunctionManager} {b : BareEngine} {id : String} {function : LoadedFunction}

/-- An id stands for what the bare engine makes of it, whether it was loaded or not. -/
theorem Mirrors.resolve_eq (hm : m.Mirrors b) (id : String) : m.resolve id = b.makeFunction id := by
  cases hfind : m.loaded.find? id with
  | some function => rw [resolve_of_loaded hfind, hm.loaded hfind]
  | none =>
    rw [resolve_of_not_loaded hfind, load, get, BareEngine.makeFunction, hm.registry, hm.loader]
    cases b.functions.lookup id with
    | error f => rfl
    | ok entry =>
      dsimp only
      cases b.functionLoader.load .function entry.binaryName entry.code <;> rfl

theorem Mirrors.fetch (hm : m.Mirrors b) (h : m.fetch id = .ok (function, m')) : m'.Mirrors b := by
  obtain ⟨hlogic, rfl | rfl⟩ := fetch_eq_ok h
  · exact hm
  · refine ⟨hm.registry, hm.loader, fun {id' function'} hfind => ?_⟩
    rw [OrderedMap.find?_insert] at hfind
    split at hfind
    · next hid =>
      cases hfind
      rw [hid, ← hm.resolve_eq, hlogic]
    · exact hm.loaded hfind

variable {δ ρ : Type} [Database δ]

/-- A program that remembers nothing does the same on a desk as on a bare database, and it leaves
the functions of the desk. -/
theorem interpret_of_stateless {p : Program FunctionQuery.Answer ρ}
    (hp : p.Asks FunctionQuery.Stateless) (id : String) (desk : FunctionDesk δ) :
    (Program.interpret (m := StateM (FunctionDesk δ)) (FunctionDesk.answer id) p desk).1 =
        (Program.interpret (m := StateM δ) BareEngine.answer p desk.database).1 ∧
      (Program.interpret (m := StateM (FunctionDesk δ)) (FunctionDesk.answer id) p
          desk).2.database =
        (Program.interpret (m := StateM δ) BareEngine.answer p desk.database).2 ∧
      (Program.interpret (m := StateM (FunctionDesk δ)) (FunctionDesk.answer id) p desk).2.manager =
        desk.manager := by
  induction p generalizing desk with
  | done => exact ⟨rfl, rfl, rfl⟩
  | ask q next ih =>
    obtain ⟨hq, hnext⟩ := hp
    rw [FunctionDesk.interpret_ask]
    cases q with
    | memory | remember => exact hq.elim
    | get | put | delete => exact ih _ (hnext _) _

variable (contractId : String) (input : FunctionInput) {desk : FunctionDesk δ}

theorem Mirrors.runEntry (hs : b.functionLoader.FunctionsAsk FunctionQuery.Stateless)
    (hm : desk.manager.Mirrors b) (entry : Json) :
    (FunctionDesk.runEntry contractId input desk entry).1 =
        (b.runEntry input desk.database entry).1 ∧
      (FunctionDesk.runEntry contractId input desk entry).2.database =
        (b.runEntry input desk.database entry).2 ∧
      (FunctionDesk.runEntry contractId input desk entry).2.manager.Mirrors b := by
  cases entry with
  | str id =>
    rw [FunctionDesk.runEntry_str, BareEngine.runEntry]
    cases hfetch : desk.manager.fetch id with
    | error f =>
      rw [← hm.resolve_eq, fetch_eq_error_iff.1 hfetch]
      exact ⟨rfl, rfl, hm⟩
    | ok loaded =>
      obtain ⟨function, manager⟩ := loaded
      have hmake : b.makeFunction id = .ok function.logic :=
        (hm.resolve_eq id).symm.trans (fetch_eq_ok hfetch).1
      obtain ⟨symbol, hknown⟩ := BareEngine.known_of_makeFunction hmake
      have hasks := hs symbol function.logic hknown input
      rw [hmake]
      obtain ⟨hresult, hdatabase, hmanager⟩ :=
        interpret_of_stateless hasks id (desk.ready contractId id manager)
      refine ⟨hresult, hdatabase, ?_⟩
      show (Program.interpret (m := StateM (FunctionDesk δ)) (FunctionDesk.answer id)
        (function.logic input).run (desk.ready contractId id manager)).2.manager.Mirrors b
      rw [hmanager]
      exact hm.fetch hfetch
  | _ => exact ⟨rfl, rfl, hm⟩

/-- A list of functions that remember nothing does the same on both sides. -/
theorem Mirrors.runEntries (hs : b.functionLoader.FunctionsAsk FunctionQuery.Stateless)
    (hm : desk.manager.Mirrors b) (entries : List Json) :
    (FunctionDesk.runEntries contractId input entries desk).1 =
        (b.runEntries input entries desk.database).1 ∧
      (FunctionDesk.runEntries contractId input entries desk).2.database =
        (b.runEntries input entries desk.database).2 ∧
      (FunctionDesk.runEntries contractId input entries desk).2.manager.Mirrors b := by
  induction entries generalizing desk with
  | nil => exact ⟨rfl, rfl, hm⟩
  | cons entry entries ih =>
    obtain ⟨hresult, hdatabase, hm'⟩ := Mirrors.runEntry contractId input hs hm entry
    rw [FunctionDesk.runEntries, BareEngine.runEntries]
    generalize FunctionDesk.runEntry contractId input desk entry = ran at *
    generalize b.runEntry input desk.database entry = ran' at *
    obtain ⟨result, desk'⟩ := ran
    obtain ⟨result', database'⟩ := ran'
    dsimp only at hresult hdatabase hm'
    subst hresult hdatabase
    cases result with
    | error f => exact ⟨rfl, rfl, hm'⟩
    | ok => exact ih hm'

end FunctionManager

/-! ## Contracts -/

namespace Engine

/-- The engine has the registrations and the certificate of the bare one, and has loaded what that
would load now. -/
structure Mirrors (e : Engine) (b : BareEngine) : Prop where
  registry : e.registry = b.registry
  certificate : e.certificate = b.certificate
  loader : e.loader = b.loader
  functions : e.functions.Mirrors b
  loaded : ∀ {id i}, e.loaded.find? id = some i → b.make id = .ok i.make
  wired : ∀ {id i}, e.loaded.find? id = some i → i.invoker = some (.weak e.place)

variable {e e' : Engine} {b : BareEngine} {id : String} {i : Instance} {event : Event}
  {events : List Event} {isRoot : Bool} {f : Failure}

theorem mirrors_new (place : Nat) (loader : Loader ContractLogic)
    (functions : Loader FunctionLogic) :
    (new place loader functions).Mirrors (.new loader functions) where
  registry := rfl
  certificate := rfl
  loader := rfl
  functions := ⟨rfl, rfl, (nomatch ·)⟩
  loaded := (nomatch ·)
  wired := (nomatch ·)

/-- What is materialized is what the bare engine makes. -/
theorem Mirrors.materialize_eq (hm : e.Mirrors b) (id : String) :
    (e.materialize id).map Instance.make = b.make id := by
  rw [materialize, get, BareEngine.make, hm.registry, hm.loader]
  cases b.registry.lookup id with
  | error f => rfl
  | ok artifact =>
    dsimp only
    cases b.loader.load .contract artifact.binaryName artifact.code <;> rfl

/-- So is what is obtained, whether it was loaded before or not. -/
theorem Mirrors.obtain_eq (hm : e.Mirrors b) (id : String) :
    (e.obtain id).map (fun obtained => obtained.1.make) = b.make id := by
  unfold obtain
  cases hfind : e.loaded.find? id with
  | some i => exact (hm.loaded hfind).symm
  | none =>
    rw [← hm.materialize_eq]
    dsimp only
    cases e.materialize id <;> rfl

/-- An instance that the bare engine would make now may be kept. -/
theorem Mirrors.keep (hm : e.Mirrors b) (h : b.make i.id = .ok i.make)
    (hi : i.invoker = some (.weak e.place)) : (e.keep i).Mirrors b where
  registry := hm.registry
  certificate := hm.certificate
  loader := hm.loader
  functions := hm.functions
  loaded {id j} hfind := by
    rw [find?_keep] at hfind
    split at hfind
    · next hid =>
      cases hfind
      rw [hid, h]
    · exact hm.loaded hfind
  wired {id j} hfind := by
    rw [find?_keep] at hfind
    split at hfind
    · cases hfind
      exact hi
    · exact hm.wired hfind

/-- Both kinds of fetch hand out what the bare engine makes, and fail as it fails. -/
theorem Mirrors.fetchAs (hm : e.Mirrors b) (isRoot : Bool) (id : String) :
    (∃ f, e.fetchAs isRoot id = .error f ∧ b.make id = .error f) ∨
      ∃ i e' events, e.fetchAs isRoot id = .ok (i, e', events) ∧ b.make id = .ok i.make ∧
        i.context = ⟨i.make.id, isRoot, b.certificate⟩ ∧ i.invoker = some (.weak e.place) ∧
        e'.place = e.place ∧ e'.Mirrors b := by
  have hmake := hm.obtain_eq id
  cases hfetch : e.fetchAs isRoot id with
  | error f =>
    rw [fetchAs_error_iff.1 hfetch] at hmake
    exact .inl ⟨f, rfl, hmake.symm⟩
  | ok fetched =>
    obtain ⟨i, e', events⟩ := fetched
    obtain ⟨j, event, hob, hi⟩ := fetchAs_eq_ok hfetch
    have hij : i.make = j.make := Instance.make_of_stamped hi
    rw [hob] at hmake
    have hmade : b.make id = .ok i.make := by rw [← hmake, hij]; rfl
    have hid : i.id = id := BareEngine.id_of_make hmade
    have hj : j.invoker = some (.weak e.place) := wired_of_obtain hm.wired hob
    have hwired : i.invoker = some (.weak e.place) := (congrArg Instance.invoker hi).trans hj
    obtain rfl := eq_keep_of_fetchAs hfetch
    refine .inr ⟨i, _, events, rfl, hmade, ?_, hwired, rfl, hm.keep (hid ▸ hmade) hwired⟩
    rw [← hm.certificate, hi]
    rfl

/-! ## Registrations and certificates -/

/-- A contract that was not loaded may be bound. -/
theorem Mirrors.register (hm : e.Mirrors b) {artifact : Artifact}
    (h : e.loaded.contains artifact.id = false) :
    (e.register artifact).1.Mirrors { b with registry := b.registry.bind artifact } where
  registry := congrArg (ContractRegistry.bind · artifact) hm.registry
  certificate := hm.certificate
  loader := hm.loader
  functions := ⟨hm.functions.registry, hm.functions.loader, hm.functions.loaded⟩
  loaded {id i} hfind := by
    have hne : id ≠ artifact.id := by
      rintro rfl
      have hloaded : e.loaded.find? artifact.id = some i := hfind
      cases (OrderedMap.contains_of_find? hloaded).symm.trans h
    have hlookup :
        ContractRegistry.lookup (b.registry.bind artifact) id = b.registry.lookup id := by
      rw [ContractRegistry.lookup, ContractRegistry.lookup, ContractRegistry.bind,
        OrderedMap.find?_insert, if_neg hne]
    rw [BareEngine.make, hlookup]
    exact hm.loaded hfind
  wired := hm.wired

/-- So may a function. -/
theorem Mirrors.registerFunction (hm : e.Mirrors b) {entry : FunctionEntry}
    (h : e.functions.loaded.contains entry.id = false) :
    (e.registerFunction entry).1.Mirrors { b with functions := b.functions.bind entry } where
  registry := hm.registry
  certificate := hm.certificate
  loader := hm.loader
  functions := {
    registry := congrArg (FunctionRegistry.bind · entry) hm.functions.registry
    loader := hm.functions.loader
    loaded := fun {id function} hfind => by
      have hne : id ≠ entry.id := by
        rintro rfl
        have hloaded : e.functions.loaded.find? entry.id = some function := hfind
        cases (OrderedMap.contains_of_find? hloaded).symm.trans h
      have hlookup :
          FunctionRegistry.lookup (b.functions.bind entry) id = b.functions.lookup id := by
        rw [FunctionRegistry.lookup, FunctionRegistry.lookup, FunctionRegistry.bind,
          OrderedMap.find?_insert, if_neg hne]
      rw [BareEngine.makeFunction, hlookup]
      exact hm.functions.loaded hfind }
  loaded := hm.loaded
  wired := hm.wired

theorem Mirrors.setCertificate (hm : e.Mirrors b) (identity : Identity) :
    (e.setCertificate identity).1.Mirrors { b with certificate := identity } :=
  ⟨hm.registry, rfl, hm.loader,
    ⟨hm.functions.registry, hm.functions.loader, hm.functions.loaded⟩, hm.loaded, hm.wired⟩

end Engine

end ContractEmulator
