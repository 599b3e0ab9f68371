import ContractEmulator.Database.Memory
import ContractEmulator.Ledger.Memory
import ContractEmulator.Proofs.World.Host
import ContractEmulator.Proofs.World.Task

/-!
# The functions of an execution

Functions run after the contract, if the contract returned and its argument lists any.

* `Scene.ListRun`: what is so when a list of functions was run.
* `Scene.FunctionPhase`: what comes after a contract that returned. `Performs.functionPhase`: this
  is what comes.
* `Scene.FunctionsKept`, `Scene.Goes.functionsKept`: a contract loads and runs no function, with all
  that it calls, and registers only those for which a contract asks.
* `Host.Reach.function_phase`: what this says of executions.
-/

namespace ContractEmulator

namespace Scene

variable {σ δ : Type} [Database δ]

/-- The functions of `manager` that a list names were run for a contract, on a database, from the
scene `s` to the scene `s'`. -/
structure ListRun (k : Nat) (id : String) (input : FunctionInput) (manager : FunctionManager)
    (s : Scene σ) (database : δ) (entries : List Json) (invocations : List Invocation)
    (result : Except Failure Unit) (s' : Scene σ) (database' : δ) : Prop where
  /-- The entries are taken in order, up to the first that is bad. -/
  serves : ∃ e' desk, s'.world.engines[k]? = some e' ∧ e'.functions = desk.manager ∧
    database' = desk.database ∧
    FunctionDesk.Serves id input ⟨manager, database, s.log⟩ entries invocations result desk
  /-- Up to there every entry has its function run, each once, and the failure is that of the entry
  that is bad. -/
  verdict : FunctionDesk.Verdict manager entries invocations result
  /-- Every function is given the same input. -/
  input_eq : ∀ v ∈ invocations, v.input = input
  /-- The database receives what the functions ask of it that are run, and nothing else. -/
  database_eq : database' = Database.replay database (Invocation.allCalls invocations)
  /-- A function that is not run is not loaded either. -/
  others : ∀ functionId, (∀ v ∈ invocations, functionId ≠ v.functionId) →
    ∃ e', s'.world.engines[k]? = some e' ∧
      e'.functions.loaded.find? functionId = manager.loaded.find? functionId
  /-- All goes well exactly if every entry names a function that is registered and can be loaded,
  and every function that is run returns. -/
  ok_iff : result = .ok () ↔
    (∀ entry ∈ entries, ∃ functionId, entry = .str functionId ∧ manager.Usable functionId) ∧
      ∀ v ∈ invocations, v.outcome = .ok ()

/-- What comes after a contract that returned `r`: how the execution ends, and what becomes of the
scene and of the database. -/
inductive FunctionPhase (k : Nat) (id : String) (input : FunctionInput)
    (manager : FunctionManager) (r : Option Json) (s : Scene σ) (database : δ) :
    Outcome → Scene σ → δ → Prop where
  /-- The argument is no object, or has no list of functions. -/
  | unlisted :
      (∀ fields, input.argument = .obj fields → functionsKey ∉ fields.map Prod.fst) →
      FunctionPhase k id input manager r s database (.ok r) s database
  /-- What should be a list of functions is no array. -/
  | noArray {list : Json} :
      input.argument.get? functionsKey = some list → (∀ entries, list ≠ .arr entries) →
      FunctionPhase k id input manager r s database
        (.error (.badArgument "_functions_ must be an array")) s database
  | listed {entries : List Json} {invocations : List Invocation} {result : Except Failure Unit}
      {s' : Scene σ} {database' : δ} :
      input.argument.get? functionsKey = some (.arr entries) →
      ListRun k id input manager s database entries invocations result s' database' →
      FunctionPhase k id input manager r s database (result.map fun _ => r) s' database'

/-- What a call leaves of the functions of the engine `k`. -/
structure FunctionsKept (k : Nat) (story : Story) (before after : FunctionManager) : Prop where
  /-- None is loaded or run, and what is registered are those from before, with what was registered
  in the call. -/
  functions : after =
    { before with
      registry := (Trace.deeds k story.trace).foldl Deed.functionsAfter before.registry }
  /-- Unless a contract asks for it, none is registered. -/
  unasked : (∀ entry, ¬story.Asks (.registerFunction entry)) → after = before

variable {k : Nat} {a : Activation} {p : ContractProgram} {s s' s₁ : Scene σ}
  {story : Story} {id : String} {i : Instance} {e e₁ : Engine} {input : FunctionInput}
  {manager : FunctionManager} {database database' : δ} {entries : List Json}
  {invocations : List Invocation} {result : Except Failure Unit} {desk : FunctionDesk δ}

theorem listRun_of_serves (hk : s.world.engines[k]? = some e) (hw : e.functions.WellFormed)
    (hserves : FunctionDesk.Serves id input ⟨e.functions, database, s.log⟩ entries invocations
      result desk) :
    ListRun k id input e.functions s database entries invocations result (s.seated k e desk)
      desk.database := by
  have hk' : (s.seated k e desk).world.engines[k]? = some { e with functions := desk.manager } :=
    World.getElem?_setEngine_self hk _
  have hinvocations := hserves.invocations_input
  exact {
    serves := ⟨_, desk, hk', rfl, rfl, hserves⟩
    verdict := hserves.verdict
    input_eq := fun v hv => (hinvocations v hv).1
    database_eq := hserves.database_eq
    others := fun functionId hne => ⟨_, hk', hserves.find?_loaded hne⟩
    ok_iff := by
      rw [hserves.verdict.ok_iff fun v hv => (hinvocations v hv).2]
      simp only [hw.usable_iff, exists_and_left] }

/-- This is what comes after a contract that returned. -/
theorem Performs.functionPhase (hk : s.world.engines[k]? = some e) (hw : e.functions.WellFormed)
    (h : Performs k id input s database invocations result s' database') (r : Option Json) :
    FunctionPhase k id input e.functions r s database (result.map fun _ => r) s' database' := by
  cases h with
  | unlisted hget => exact .unlisted ((Json.get?_eq_none_iff _ _).1 hget)
  | noArray hget harr => exact .noArray hget ((Json.asArr?_eq_none_iff _).1 harr)
  | gone _ hnone => cases hnone.symm.trans hk
  | @listed _ e' _ _ _ hget hk' hserves =>
    obtain rfl : e' = e := Option.some.inj (hk'.symm.trans hk)
    exact .listed hget (listRun_of_serves hk hw hserves)

omit [Database δ] in
theorem functions_of_fetch (h : s.fetch k id = .ok (i, s₁)) (hk : s.world.engines[k]? = some e) :
    ∃ e', s₁.world.engines[k]? = some e' ∧ e'.functions = e.functions := by
  obtain ⟨e', hk', hsteps⟩ := (plays_fetch h).world.steps hk
  refine ⟨e', hk', hsteps.functions_eq fun turn hmem => ?_⟩
  exact Deed.isFunctional_of_isFetch (isFetch_of_mem_fetchMarks (Trace.mem_turns.1 hmem))

variable [Ledger σ]

omit [Database δ] in
/-- A contract loads and runs no function, with all that it calls. -/
theorem Goes.functionsKept (h : Goes a p s story s') (hk : s.world.engines[k]? = some e) :
    ∃ e', s'.world.engines[k]? = some e' ∧ FunctionsKept k story e.functions e'.functions := by
  obtain ⟨e', hk', hsteps⟩ := h.plays.world.steps hk
  have hdeed : ∀ turn ∈ Trace.turns k story.trace, turn.deed.isRun = false ∧
      ∀ q, turn.deed.request? = some q → story.Asks q :=
    fun turn hmem => h.deed_of_mem_trace (Trace.mem_turns.1 hmem)
  refine ⟨e', hk', hsteps.functions_of_isRun fun turn hmem => (hdeed turn hmem).1, fun hn => ?_⟩
  refine hsteps.functions_eq fun turn hmem => ?_
  obtain ⟨hrun, hrequest⟩ := hdeed turn hmem
  refine Deed.isFunctional_eq_false hrun fun entry warned heq => hn entry ?_
  exact hrequest (.registerFunction entry) (by rw [heq]; rfl)

end Scene

namespace Host

variable {σ δ : Type} [Ledger σ] [Database δ] {trace : Trace} {h : Host} {k : Nat} {e : Engine}

/-- If the contract cannot be fetched, or fails, the execution fails that way: no function is loaded
or run, and the database is not touched. If the contract returns, the execution comes to an end, and
this is how: the functions that the argument lists are run, for the argument, the argument for
functions and the properties of the contract. The functions are those from before the execution,
with what contracts have registered in it. Only a contract that calls too deep leaves the execution
without an end. -/
theorem Reach.function_phase (hr : Reach trace h) (hk : h.world.engines[k]? = some e) (depth : Nat)
    (id : String) (argument : Json) (functionArgument : Option Json) (ledger : σ) (database : δ) :
    (∃ f, (h.scene ledger).fetch k id = .error f ∧
        (h.scene ledger).execute depth k id argument functionArgument database =
          some (.error f, h.scene ledger, database)) ∨
      ∃ i s₁, (h.scene ledger).fetch k id = .ok (i, s₁) ∧
        ((Scene.call depth k i argument i.properties s₁ = none ∧
            (h.scene ledger).execute depth k id argument functionArgument database = none) ∨
          ∃ story s₂ e₂, Scene.call depth k i argument i.properties s₁ =
              some (story.outcome, s₂) ∧
            Scene.CallGoes k i argument i.properties s₁ story s₂ ∧
            s₂.world.engines[k]? = some e₂ ∧
            Scene.FunctionsKept k story e.functions e₂.functions ∧
            ((∃ f, story.outcome = .error f ∧
                (h.scene ledger).execute depth k id argument functionArgument database =
                  some (.error f, s₂, database)) ∨
              ∃ r outcome s' database', story.outcome = .ok r ∧
                (h.scene ledger).execute depth k id argument functionArgument database =
                  some (outcome, s', database') ∧
                Scene.FunctionPhase k id ⟨argument, functionArgument, i.properties⟩ e₂.functions r
                  s₂ database outcome s' database')) := by
  cases hfetch : (h.scene ledger).fetch k id with
  | error f => exact .inl ⟨f, rfl, Scene.execute_of_fetch_error hfetch _ _ _ _⟩
  | ok fetched =>
    obtain ⟨i, s₁⟩ := fetched
    refine .inr ⟨i, s₁, rfl, ?_⟩
    rw [Scene.execute_of_fetch hfetch]
    cases hrun : Scene.call depth k i argument i.properties s₁ with
    | none => exact .inl ⟨rfl, rfl⟩
    | some ended =>
      obtain ⟨outcome, s₂⟩ := ended
      obtain ⟨story, rfl, hgoes⟩ := Scene.call_eq_some hrun
      obtain ⟨e₁, hk₁, hsame⟩ := Scene.functions_of_fetch hfetch hk
      obtain ⟨e₂, hk₂, hkept⟩ := hgoes.functionsKept hk₁
      rw [hsame] at hkept
      refine .inr ⟨story, s₂, e₂, rfl, hgoes, hk₂, hkept, ?_⟩
      cases hout : story.outcome with
      | error f => exact .inl ⟨f, rfl, rfl⟩
      | ok r =>
        have hw₂ := (hgoes.plays.world.wellFormed
          ((Scene.plays_fetch hfetch).world.wellFormed hr.accounts.wellFormed)).engine hk₂
        obtain ⟨invocations, hperforms⟩ :=
          Scene.exists_performs k id ⟨argument, functionArgument, i.properties⟩ s₂ database
        exact .inr ⟨r, _, _, _, rfl, rfl, hperforms.functionPhase hk₂ hw₂.functions r⟩

/-- A list names a function twice and then one that is not registered. The function is run twice,
each time with the argument for functions, and then the execution fails. -/
theorem probing_function_phase : ∃ (e : Engine) (story : Story) (manager : FunctionManager)
    (outcome : Outcome) (s' : Scene MemoryLedger) (database' : RecordedDatabase MemoryDatabase)
    (invocations : List Invocation), probing.world.engines[0]? = some e ∧
      (probing.scene MemoryLedger.empty).execute 0 0 "probe"
        (.obj [("do", .arr []),
          ("_functions_", .arr [.str "note", .str "note", .str "gone", .str "note"])])
        (some (.obj [("key", .str "seen")])) (⟨.empty, []⟩ : RecordedDatabase MemoryDatabase) =
          some (outcome, s', database') ∧
      Scene.FunctionsKept 0 story e.functions manager ∧
      FunctionDesk.Verdict manager [.str "note", .str "note", .str "gone", .str "note"]
        invocations (.error (.missingFunction "gone")) ∧
      (∀ v ∈ invocations, v.input.functionArgument = some (.obj [("key", .str "seen")])) ∧
      outcome = .error (.missingFunction "gone") ∧
      database'.calls = Invocation.allCalls invocations ∧
      (Invocation.allCalls invocations).length = 4 := by
  obtain ⟨trace, hr⟩ := exists_reach_probing
  have hdone : ((probing.scene MemoryLedger.empty).execute 0 0 "probe"
      (.obj [("do", .arr []),
        ("_functions_", .arr [.str "note", .str "note", .str "gone", .str "note"])])
      (some (.obj [("key", .str "seen")]))
      (⟨.empty, []⟩ : RecordedDatabase MemoryDatabase)).any (fun r =>
        (match r.1 with
          | .ok _ => false
          | .error f => f == .missingFunction "gone") && r.2.2.calls.length == 4) = true := by
    decide +kernel
  obtain ⟨⟨outcome, s', database'⟩, hrun, hboth⟩ := (Option.any_eq_true _ _).1 hdone
  obtain ⟨houtcome, hbeq⟩ := Bool.and_eq_true_iff.1 hboth
  have hlength : database'.calls.length = 4 := eq_of_beq hbeq
  -- In all other cases the execution would have no end, or the database no calls.
  have hk : probing.world.engines[0]? = some _ := rfl
  rcases hr.function_phase hk 0 "probe" _ _ MemoryLedger.empty
    (⟨.empty, []⟩ : RecordedDatabase MemoryDatabase) with ⟨f, -, hexec⟩ |
    ⟨i, s₁, -, ⟨-, hexec⟩ |
      ⟨story, s₂, e₂, -, -, -, hkept, ⟨f, -, hexec⟩ | ⟨r, _, _, _, -, hexec, hphase⟩⟩⟩
  · cases hrun.symm.trans hexec
    cases hlength
  · cases hrun.symm.trans hexec
  · cases hrun.symm.trans hexec
    cases hlength
  · cases hrun.symm.trans hexec
    cases hphase with
    | unlisted => cases hlength
    | noArray => cases hlength
    | @listed entries invocations result _ _ hget hlist =>
      have hcalls : database'.calls = Invocation.allCalls invocations := by
        rw [hlist.database_eq, RecordedDatabase.calls_replay]
        rfl
      obtain rfl := Json.arr.inj (Option.some.inj hget)
      cases result with
      | ok => cases houtcome
      | error f =>
        obtain rfl : f = .missingFunction "gone" := eq_of_beq houtcome
        exact ⟨_, story, e₂.functions, _, s', database', invocations, rfl, hrun, hkept,
          hlist.verdict, fun v hv => congrArg FunctionInput.functionArgument (hlist.input_eq v hv),
          rfl, hcalls, hcalls ▸ hlength⟩

end Host

end ContractEmulator
