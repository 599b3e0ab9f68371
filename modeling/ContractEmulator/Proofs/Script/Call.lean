import ContractEmulator.Proofs.Call.Execution
import ContractEmulator.Proofs.Engine.Builtin
import ContractEmulator.Proofs.Ledger.History
import ContractEmulator.Script.Session

/-!
# The calls of a script

A step of a script calls one contract at most. The contract is a built-in one, so all that a call
touches is the engine of the session, its ledger and its database.

* `Step.call?`: the call that a step makes. `Session.run_of_call`: what such a step does.
* `Call.Serves`: the functions are run that a call lists.
* `Call.Ends`: how a call ends, and what it leaves. `Call.exists_ends`: this is how calls end.
* `Call.Ends.agrees`, `Call.Ends.binaryName?`, `Call.Ends.history`: what becomes of the
  registrations, of what is loaded and of the ledger.
* `Call.Ends.ok`, `Call.Ends.error`: what a call returns, and what is left of one that fails.
* `Session.run_of_no_call`, `Session.run_of_no_call_error`: what the other steps do.
-/

namespace ContractEmulator

open BuiltinContract

/-- A call of a contract. -/
structure Call where
  id : String
  argument : Json
  functionArgument : Option Json

namespace Call

/-- The functions are run that a call lists, with the functions of a manager. -/
inductive Serves (c : Call) (properties : Option Json) (manager : FunctionManager)
    (database : MemoryDatabase) :
    Except Failure Unit → FunctionManager → MemoryDatabase → Prop where
  | unlisted : c.argument.get? Scene.functionsKey = none →
      Serves c properties manager database (.ok ()) manager database
  | noArray {list : Json} :
      c.argument.get? Scene.functionsKey = some list → list.asArr? = none →
      Serves c properties manager database
        (.error (.badArgument "_functions_ must be an array")) manager database
  | listed {entries : List Json} {log : List Event} {invocations : List Invocation}
      {result : Except Failure Unit} {desk : FunctionDesk MemoryDatabase} :
      c.argument.get? Scene.functionsKey = some (.arr entries) →
      FunctionDesk.Serves c.id ⟨c.argument, c.functionArgument, properties⟩
        ⟨manager, database, log⟩ entries invocations result desk →
      Serves c properties manager database result desk.manager desk.database

/-- A call ends: with an outcome, and with what becomes of the engine, of the ledger and of the
database. -/
inductive Ends (c : Call) (e : Engine) (ledger : MemoryLedger) (database : MemoryDatabase) :
    Outcome → Engine → MemoryLedger → MemoryDatabase → Prop where
  | refused {f : Failure} : e.fetch c.id = .error f →
      Ends c e ledger database (.error f) e ledger database
  | failed {i : Instance} {e₁ : Engine} {events : List Event} {kind : Kind} {f : Failure} :
      e.fetch c.id = .ok (i, e₁, events) → i.OfKind kind →
      (kind.perform ledger c.argument).1 = .error f →
      Ends c e ledger database (.error f) e₁ ledger database
  | performed {i : Instance} {e₁ : Engine} {events : List Event} {kind : Kind} {r : Option Json}
      {result : Except Failure Unit} {manager : FunctionManager} {database' : MemoryDatabase} :
      e.fetch c.id = .ok (i, e₁, events) → i.OfKind kind →
      (kind.perform ledger c.argument).1 = .ok r →
      c.Serves i.properties e₁.functions database result manager database' →
      Ends c e ledger database (result.map fun _ => r) { e₁ with functions := manager }
        (kind.perform ledger c.argument).2 database'

end Call

/-- The engines have the same registrations and the same certificate. -/
structure Engine.Agrees (e e' : Engine) : Prop where
  contracts : e'.registry = e.registry
  functions : e'.functions.registry = e.functions.registry
  certificate : e'.certificate = e.certificate

namespace Call

variable {c : Call} {e e' : Engine} {ledger ledger' : MemoryLedger}
  {database database' : MemoryDatabase} {outcome : Outcome}

/-- The functions that a scene runs are those that a call lists. -/
theorem serves_of_performs {k : Nat} {scene scene' : Scene MemoryLedger} {properties : Option Json}
    {invocations : List Invocation} {result : Except Failure Unit}
    (hk : scene.world.engines[k]? = some e)
    (h : Scene.Performs k c.id ⟨c.argument, c.functionArgument, properties⟩ scene database
      invocations result scene' database') :
    ∃ manager, scene'.world.engines[k]? = some { e with functions := manager } ∧
      scene'.ledger = scene.ledger ∧
      c.Serves properties e.functions database result manager database' := by
  cases h with
  | unlisted hget => exact ⟨e.functions, hk, rfl, .unlisted hget⟩
  | noArray hget harr => exact ⟨e.functions, hk, rfl, .noArray hget harr⟩
  | gone _ hnone => cases hnone.symm.trans hk
  | @listed _ e' _ _ desk hget hk' hserves =>
    obtain rfl : e' = e := Option.some.inj (hk'.symm.trans hk)
    exact ⟨desk.manager, World.getElem?_setEngine_self hk _, rfl, .listed hget hserves⟩

theorem fetch_eq_map {k : Nat} {scene : Scene MemoryLedger}
    (hk : scene.world.engines[k]? = some e) (id : String) :
    scene.fetch k id = (e.fetch id).map fun fetched => (fetched.1, scene.advance k fetched.2) := by
  rw [Scene.fetch, hk]
  dsimp only
  cases e.fetch id <;> rfl

/-- This is how calls end, and they all do: a built-in contract calls no other. -/
theorem exists_ends {k : Nat} {scene : Scene MemoryLedger}
    (hk : scene.world.engines[k]? = some e) (hb : e.Builtin) (depth : Nat) (c : Call)
    (database : MemoryDatabase) :
    ∃ outcome scene' database' e',
      scene.execute depth k c.id c.argument c.functionArgument database =
        some (outcome, scene', database') ∧
      scene'.world.engines[k]? = some e' ∧
      c.Ends e scene.ledger database outcome e' scene'.ledger database' := by
  rw [Scene.execute, fetch_eq_map hk]
  cases hfetch : e.fetch c.id with
  | error f => exact ⟨_, _, _, e, rfl, hk, .refused hfetch⟩
  | ok fetched =>
    obtain ⟨i, e₁, events⟩ := fetched
    obtain ⟨-, kind, hkind⟩ := hb.ofKind_of_fetch hfetch
    -- The contract works on the ledger alone, so the engine is the one that the fetch has left.
    obtain ⟨scene₂, hrun, hk₂, hledger⟩ : ∃ scene₂,
        Scene.call depth k i c.argument i.properties (scene.advance k (e₁, events)) =
          some ((kind.perform scene.ledger c.argument).1, scene₂) ∧
        scene₂.world.engines[k]? = some e₁ ∧
        scene₂.ledger = (kind.perform scene.ledger c.argument).2 := by
      obtain ⟨log, hrun⟩ := Scene.exists_call_builtin depth k hkind.logic c.argument i.properties
        (scene.advance k (e₁, events))
      exact ⟨_, hrun, World.getElem?_setEngine_self hk _, rfl⟩
    dsimp only [Except.map]
    rw [hrun]
    cases hperform : (kind.perform scene.ledger c.argument).1 with
    | error f =>
      refine ⟨_, _, _, e₁, rfl, hk₂, ?_⟩
      rw [hledger, Kind.perform_error hperform]
      exact .failed hfetch hkind hperform
    | ok r =>
      dsimp only
      obtain ⟨invocations, hperforms⟩ := Scene.exists_performs k c.id
        ⟨c.argument, c.functionArgument, i.properties⟩ scene₂ database
      obtain ⟨manager, hk', hsame, hserves⟩ := serves_of_performs hk₂ hperforms
      have hends := Ends.performed hfetch hkind hperform hserves
      rw [← hledger, ← hsame] at hends
      generalize Scene.runFunctions k c.id _ scene₂ database = ran at hk' hends
      obtain ⟨result, scene', database'⟩ := ran
      cases result with
      | error f => exact ⟨_, _, _, _, rfl, hk', hends⟩
      | ok => exact ⟨_, _, _, _, rfl, hk', hends⟩

/-! ## What a call leaves -/

theorem Serves.registry_eq {properties : Option Json} {manager manager' : FunctionManager}
    {result : Except Failure Unit}
    (h : c.Serves properties manager database result manager' database') :
    manager'.registry = manager.registry := by
  cases h with
  | unlisted | noArray => rfl
  | listed _ hserves => exact hserves.registry_eq

theorem Serves.builtin {properties : Option Json} {manager manager' : FunctionManager}
    {result : Except Failure Unit} (hb : manager.Builtin)
    (h : c.Serves properties manager database result manager' database') : manager'.Builtin := by
  cases h with
  | unlisted | noArray => exact hb
  | listed _ hserves => exact hserves.builtin hb

/-- A call leaves the registrations and the certificate. -/
theorem Ends.agrees (h : c.Ends e ledger database outcome e' ledger' database') : e.Agrees e' := by
  cases h with
  | refused => exact ⟨rfl, rfl, rfl⟩
  | failed hfetch =>
    obtain rfl := Engine.eq_keep_of_fetch hfetch
    exact ⟨rfl, rfl, rfl⟩
  | performed hfetch _ _ hserves =>
    obtain rfl := Engine.eq_keep_of_fetch hfetch
    exact ⟨rfl, hserves.registry_eq, rfl⟩

theorem Ends.builtin (hb : e.Builtin) (h : c.Ends e ledger database outcome e' ledger' database') :
    e'.Builtin := by
  cases h with
  | refused => exact hb
  | failed hfetch => exact hb.fetch hfetch
  | performed hfetch _ _ hserves =>
    have hb₁ := hb.fetch hfetch
    exact ⟨hb₁.loader, hb₁.loaded, hserves.builtin hb₁.functions⟩

/-- A call loads the contract that it calls, if it can be fetched, and no other. -/
theorem Ends.binaryName? (hb : e.Builtin)
    (h : c.Ends e ledger database outcome e' ledger' database') (id : String) :
    e'.binaryName? id = (e.binaryName? id).or
      (if c.id = id then (e.fetchable? id).map Artifact.binaryName else none) := by
  cases h with
  | refused hfetch =>
    by_cases hid : c.id = id
    · obtain ⟨hunloaded, hunfetchable⟩ := Engine.unloaded_of_fetch_error hfetch
      rw [if_pos hid, ← hid, hunloaded, hunfetchable]
      rfl
    · rw [if_neg hid, Option.or_none]
  | failed hfetch => exact hb.binaryName?_of_fetch hfetch id
  | performed hfetch => exact hb.binaryName?_of_fetch hfetch id

/-- A call writes to the ledger if the contract is the one that writes. It does not matter how the
call ends. -/
theorem Ends.history (hb : e.Builtin) (h : c.Ends e ledger database outcome e' ledger' database')
    (id : String) : ledger'.history id = ledger.history id ++
      (if e'.binaryName? c.id = some Kind.put.symbol then dataFor? c.argument id
        else none).toList := by
  cases h with
  | refused hfetch =>
    rw [(Engine.unloaded_of_fetch_error hfetch).1, if_neg (by rintro ⟨⟩), Option.toList_none,
      List.append_nil]
  | @failed _ _ _ kind _ hfetch hkind hperform =>
    have hhistory := history_perform kind ledger c.argument id
    rw [Kind.perform_error hperform] at hhistory
    simpa only [hb.binaryName?_of_kind hfetch hkind, Kind.some_symbol_inj] using hhistory
  | @performed _ e₁ _ kind _ _ manager _ hfetch hkind =>
    have hname : Engine.binaryName? { e₁ with functions := manager } c.id = some kind.symbol :=
      hb.binaryName?_of_kind hfetch hkind
    simpa only [hname, Kind.some_symbol_inj] using history_perform kind ledger c.argument id

/-- A call that succeeds returns what the contract returns. -/
theorem Ends.ok {output : Option Json} (hb : e.Builtin)
    (h : c.Ends e ledger database (.ok output) e' ledger' database') :
    ∃ kind : Kind, e'.binaryName? c.id = some kind.symbol ∧
      (kind.perform ledger c.argument).1 = .ok output := by
  generalize houtcome : Except.ok output = outcome at h
  cases h with
  | refused | failed => cases houtcome
  | @performed _ _ _ kind r result _ _ hfetch hkind hperform =>
    refine ⟨kind, hb.binaryName?_of_kind hfetch hkind, ?_⟩
    cases result with
    | error => cases houtcome
    | ok =>
      cases houtcome
      exact hperform

/-- A call that fails leaves the ledger and the database, unless the contract returned and its
functions failed. -/
theorem Ends.error {f : Failure} (hb : e.Builtin)
    (h : c.Ends e ledger database (.error f) e' ledger' database') :
    (ledger' = ledger ∧ database' = database) ∨
      ∃ (kind : Kind) (r properties : Option Json) (manager : FunctionManager),
        e'.binaryName? c.id = some kind.symbol ∧
        (kind.perform ledger c.argument).1 = .ok r ∧
        ledger' = (kind.perform ledger c.argument).2 ∧
        c.Serves properties e.functions database (.error f) manager database' := by
  generalize houtcome : Except.error f = outcome at h
  cases h with
  | refused | failed => exact .inl ⟨rfl, rfl⟩
  | @performed i _ _ kind r result manager _ hfetch hkind hperform hserves =>
    have hname := hb.binaryName?_of_kind hfetch hkind
    obtain rfl := Engine.eq_keep_of_fetch hfetch
    cases result with
    | ok => cases houtcome
    | error =>
      cases houtcome
      exact .inr ⟨kind, r, i.properties, manager, hname, hperform, rfl, hserves⟩

end Call

/-! ## The steps of a script -/

namespace Step

/-- The call that a step makes, if it makes one. -/
def call? : Step → Option Call
  | .execute id argument functionArgument => some ⟨id, argument, functionArgument⟩
  | .get assetId => some ⟨"get", .ofEntries [("asset_id", .str assetId)], none⟩
  | .put assetId data => some ⟨"put", .ofEntries [("asset_id", .str assetId), ("data", data)], none⟩
  | .scan assetId start stop limit ascending =>
    some ⟨"scan", Session.scanArgument assetId start stop limit ascending, none⟩
  | .register .. | .registerFunction .. | .setCertificate .. | .listContracts | .database .. => none

/-- Only a step that says so lists functions. -/
theorem functions_of_call {step : Step} {c : Call} (h : step.call? = some c) :
    step = .execute c.id c.argument c.functionArgument ∨
      c.argument.get? Scene.functionsKey = none := by
  cases step with
  | execute =>
    cases h
    exact .inl rfl
  | get =>
    cases h
    exact .inr (Json.get?_ofEntries_eq_none (by simp [Scene.functionsKey]))
  | put =>
    cases h
    exact .inr (Json.get?_ofEntries_eq_none (by simp [Scene.functionsKey]))
  | scan assetId start stop limit ascending =>
    cases h
    refine .inr (Json.get?_ofEntries_eq_none ?_)
    cases start <;> cases stop <;> cases limit <;> simp [Scene.functionsKey]
  | _ => cases h

end Step

namespace Session

variable {s : Session} {e : Engine} {step : Step} {c : Call}

theorem run_of_call (h : step.call? = some c) :
    s.run step = s.call c.id c.argument c.functionArgument := by
  cases step with
  | execute | get | put | scan =>
    cases h
    rfl
  | _ => cases h

/-- The engine of a session. -/
def engine? (s : Session) : Option Engine := s.scene.world.engines[engineIndex]?

theorem engine?_new (base : String) (files : FileReader) :
    (new base files).engine? = some (Engine.withBuiltins engineIndex).1 := rfl

theorem engine?_update (hk : s.engine? = some e) (change : Engine → Engine × List Event) :
    (s.update change).engine? = some (change e).1 := by
  have hscene : s.scene.world.engines[engineIndex]? = some e := hk
  rw [engine?, update, Scene.update, hscene]
  exact World.getElem?_setEngine_self hscene _

/-- A step that calls a contract does so with the engine, the ledger and the database of the
session. -/
theorem run_ends (hk : s.engine? = some e) (hb : e.Builtin) (h : step.call? = some c) :
    ∃ outcome e', (s.run step).1 = outcome.mapError (.call c.id) ∧
      (s.run step).2.engine? = some e' ∧
      c.Ends e s.scene.ledger s.database outcome e' (s.run step).2.scene.ledger
        (s.run step).2.database := by
  obtain ⟨outcome, scene', database', e', hexec, hk', hends⟩ :=
    Call.exists_ends hk hb callDepth c s.database
  rw [run_of_call h, call, hexec]
  cases outcome with
  | error f => exact ⟨.error f, e', rfl, hk', hends⟩
  | ok r => exact ⟨.ok r, e', rfl, hk', hends⟩

/-- A step that calls no contract loads none and leaves the ledger. -/
theorem run_of_no_call (hk : s.engine? = some e) (hb : e.Builtin) (h : step.call? = none) :
    ∃ e', (s.run step).2.engine? = some e' ∧ e'.Builtin ∧ e'.loaded = e.loaded ∧
      (s.run step).2.scene.ledger = s.scene.ledger := by
  have hledger : ∀ change, (s.update change).scene.ledger = s.scene.ledger := by
    intro change
    rw [update, Scene.update]
    split <;> rfl
  cases step with
  | execute | get | put | scan => cases h
  | register id name file properties =>
    dsimp only [run]
    cases s.readCode id file with
    | error => exact ⟨e, hk, hb, rfl, rfl⟩
    | ok code => exact ⟨_, engine?_update hk _, hb.register _, rfl, hledger _⟩
  | registerFunction id name file =>
    dsimp only [run]
    cases s.readCode id file with
    | error => exact ⟨e, hk, hb, rfl, rfl⟩
    | ok code => exact ⟨_, engine?_update hk _, hb.registerFunction _, rfl, hledger _⟩
  | setCertificate identity =>
    exact ⟨_, engine?_update hk _, hb.setCertificate identity, rfl, hledger _⟩
  | listContracts => exact ⟨e, hk, hb, rfl, rfl⟩
  | database method space table assetId object =>
    cases method with
    | get | delete => exact ⟨e, hk, hb, rfl, rfl⟩
    | put => cases object <;> exact ⟨e, hk, hb, rfl, rfl⟩

/-- If it fails, it has changed nothing. -/
theorem run_of_no_call_error {err : StepError} (h : step.call? = none)
    (herr : (s.run step).1 = .error err) : (s.run step).2 = s := by
  cases step with
  | execute | get | put | scan => cases h
  | register id name file | registerFunction id name file =>
    dsimp only [run] at herr ⊢
    cases hread : s.readCode id file with
    | error => rfl
    | ok code =>
      rw [hread] at herr
      cases herr
  | setCertificate | listContracts => cases herr
  | database method space table assetId object =>
    cases method with
    | get | delete => cases herr
    | put =>
      cases object with
      | none => rfl
      | some => cases herr

end Session

end ContractEmulator
