import ContractEmulator.Proofs.Call.Story
import ContractEmulator.Proofs.Function.Service

/-!
# Executions

An execution fetches a contract, lets its story take place, and then has the functions run that the
argument lists.

* `Scene.Performs`: the functions that an argument lists are run, if it lists any.
* `Scene.Executes`: a contract is executed. `Scene.exists_execute_iff`: this is how executions come
  to an end.
* `Scene.Executes.plays`: the trace of an execution accounts for the engines and the log after it.
-/

namespace ContractEmulator

/-- The trace of an invocation: the engine announces it, and then the database has its say. -/
def Invocation.marks (k : Nat) (contractId : String) (v : Invocation) : Trace :=
  [.engine k ⟨.ran contractId v.functionId v.fresh v.input,
    [FunctionDesk.invokeEvent v.functionId contractId]⟩, .voice v.events]

namespace Scene

variable {σ δ : Type} [Database δ]

/-- The functions that an argument lists are run, with those of the engine `k`. -/
inductive Performs (k : Nat) (id : String) (input : FunctionInput) (s : Scene σ) (database : δ) :
    List Invocation → Except Failure Unit → Scene σ → δ → Prop where
  | unlisted : input.argument.get? functionsKey = none →
      Performs k id input s database [] (.ok ()) s database
  | noArray {list : Json} :
      input.argument.get? functionsKey = some list → list.asArr? = none →
      Performs k id input s database []
        (.error (.badArgument "_functions_ must be an array")) s database
  | gone {entries : List Json} :
      input.argument.get? functionsKey = some (.arr entries) → s.world.engines[k]? = none →
      Performs k id input s database [] (.error .emulatorGone) s database
  | listed {entries : List Json} {e : Engine} {invocations : List Invocation}
      {result : Except Failure Unit} {desk : FunctionDesk δ} :
      input.argument.get? functionsKey = some (.arr entries) → s.world.engines[k]? = some e →
      FunctionDesk.Serves id input ⟨e.functions, database, s.log⟩ entries invocations result desk →
      Performs k id input s database invocations result
        { s with
          world := s.world.setEngine k { e with functions := desk.manager }
          log := desk.log }
        desk.database

/-- A contract of the engine `k` is executed. -/
inductive Executes [Ledger σ] (k : Nat) (id : String) (argument : Json)
    (functionArgument : Option Json) (s : Scene σ) (database : δ) :
    Outcome → Scene σ → δ → Trace → Prop where
  | refused {f : Failure} : s.fetch k id = .error f →
      Executes k id argument functionArgument s database (.error f) s database (s.fetchMarks k id)
  | failed {i : Instance} {story : Story} {f : Failure} {s₁ s₂ : Scene σ} :
      s.fetch k id = .ok (i, s₁) →
      CallGoes k i argument i.properties s₁ story s₂ →
      story.outcome = .error f →
      Executes k id argument functionArgument s database (.error f) s₂ database
        (s.fetchMarks k id ++ ([callMark k i argument] ++ story.trace))
  | finished {i : Instance} {story : Story} {r : Option Json} {s₁ s₂ s' : Scene σ}
      {invocations : List Invocation} {result : Except Failure Unit} {database' : δ} :
      s.fetch k id = .ok (i, s₁) →
      CallGoes k i argument i.properties s₁ story s₂ →
      story.outcome = .ok r →
      Performs k id ⟨argument, functionArgument, i.properties⟩ s₂ database invocations result s'
        database' →
      Executes k id argument functionArgument s database (result.map fun _ => r) s' database'
        (s.fetchMarks k id ++ ([callMark k i argument] ++ story.trace) ++
          invocations.flatMap (Invocation.marks k id))

variable {k depth : Nat} {id : String} {argument : Json} {functionArgument : Option Json}
  {input : FunctionInput} {s s' s₁ s₂ : Scene σ} {database database' : δ} {outcome : Outcome}
  {invocations : List Invocation} {result : Except Failure Unit} {trace : Trace}

/-! ## The functions -/

theorem exists_performs (k : Nat) (id : String) (input : FunctionInput) (s : Scene σ)
    (database : δ) :
    ∃ invocations, Performs k id input s database invocations
      (runFunctions k id input s database).1 (runFunctions k id input s database).2.1
      (runFunctions k id input s database).2.2 := by
  unfold runFunctions
  split
  · next hget => exact ⟨[], .unlisted hget⟩
  · next list hget =>
    split
    · next harr => exact ⟨[], .noArray hget harr⟩
    · next entries harr =>
      obtain rfl : list = .arr entries := by
        cases list with
        | arr items => exact congrArg Json.arr (Option.some.inj harr)
        | _ => cases harr
      split
      · next hk => exact ⟨[], .gone hget hk⟩
      · next e hk =>
        obtain ⟨invocations, hserves⟩ :=
          FunctionDesk.exists_serves id input entries ⟨e.functions, database, s.log⟩
        exact ⟨invocations, .listed hget hk hserves⟩

theorem Performs.runFunctions
    (h : Performs k id input s database invocations result s' database') :
    runFunctions k id input s database = (result, s', database') := by
  unfold Scene.runFunctions
  cases h with
  | unlisted hget => rw [hget]
  | noArray hget harr =>
    rw [hget]
    dsimp only
    rw [harr]
    rfl
  | gone hget hk =>
    rw [hget]
    dsimp only [Json.asArr?]
    rw [hk]
  | listed hget hk hserves =>
    rw [hget]
    dsimp only [Json.asArr?]
    rw [hk]
    dsimp only
    rw [hserves.runEntries]

/-- The scene while functions of the engine `e` are run at a desk. -/
def seated (s : Scene σ) (k : Nat) (e : Engine) (desk : FunctionDesk δ) : Scene σ :=
  { s with
    world := s.world.setEngine k { e with functions := desk.manager }
    log := desk.log }

theorem plays_invokes {e : Engine} {i : Instance} {desk desk' : FunctionDesk δ} {v : Invocation}
    (hk : s.world.engines[k]? = some e) (hfind : e.loaded.find? id = some i)
    (hprops : input.properties = i.properties)
    (h : FunctionDesk.Invokes id input desk v desk') :
    (s.seated k e desk).Plays (v.marks k id) (s.seated k e desk') := by
  cases h with
  | @intro functionId function manager events hfetch hlog =>
    have hstep : Engine.Step { e with functions := desk.manager } _ _ :=
      .run desk.database (FunctionDesk.invokeEvent functionId id :: desk.log) hfind hprops hfetch
    refine ⟨.engine (World.getElem?_setEngine_self hk _) hstep (.voice ?_), ?_⟩
    · rw [seated, World.setEngine_setEngine]
      exact .nil _
    · rw [seated, hlog]
      simp [Invocation.marks, Trace.events, Mark.events, FunctionDesk.ready, seated]

theorem plays_serves {e : Engine} {i : Instance} {desk desk' : FunctionDesk δ}
    {entries : List Json} (hk : s.world.engines[k]? = some e)
    (hfind : e.loaded.find? id = some i) (hprops : input.properties = i.properties)
    (h : FunctionDesk.Serves id input desk entries invocations result desk') :
    (s.seated k e desk).Plays (invocations.flatMap (Invocation.marks k id))
      (s.seated k e desk') := by
  induction h with
  | finished | malformed | refused => exact .refl _
  | failed hv _ =>
    rw [List.flatMap_cons, List.flatMap_nil, List.append_nil]
    exact plays_invokes hk hfind hprops hv
  | served hv _ _ ih =>
    rw [List.flatMap_cons]
    exact (plays_invokes hk hfind hprops hv).append ih

theorem Performs.plays {e : Engine} {i : Instance} (hk : s.world.engines[k]? = some e)
    (hfind : e.loaded.find? id = some i) (hprops : input.properties = i.properties)
    (h : Performs k id input s database invocations result s' database') :
    s.Plays (invocations.flatMap (Invocation.marks k id)) s' := by
  cases h with
  | unlisted | noArray | gone => exact .refl s
  | @listed entries e' _ _ desk _ hk' hserves =>
    obtain rfl : e' = e := Option.some.inj (hk'.symm.trans hk)
    have hstart : s.seated k e' (⟨e'.functions, database, s.log⟩ : FunctionDesk δ) = s := by
      rw [seated, World.setEngine_self hk]
    have hplays := plays_serves hk hfind hprops hserves
    rwa [hstart] at hplays

/-! ## Executions that come to an end -/

variable [Ledger σ]

/-- An execution that comes to an end had no contract to run, or ran one, and then, if all went
well, the functions. -/
theorem execute_eq_some
    (h : execute depth k id argument functionArgument s database =
      some (outcome, s', database')) :
    (∃ f, s.fetch k id = .error f ∧ outcome = .error f ∧ s' = s ∧ database' = database) ∨
      ∃ i s₁ story s₂, s.fetch k id = .ok (i, s₁) ∧
        call depth k i argument i.properties s₁ = some (story.outcome, s₂) ∧
        CallGoes k i argument i.properties s₁ story s₂ ∧
        ((∃ f, story.outcome = .error f ∧ outcome = .error f ∧ s' = s₂ ∧ database' = database) ∨
          ∃ r invocations result, story.outcome = .ok r ∧ outcome = result.map (fun _ => r) ∧
            Performs k id ⟨argument, functionArgument, i.properties⟩ s₂ database invocations result
              s' database') := by
  unfold execute at h
  split at h
  · next f hfetch =>
    cases h
    exact .inl ⟨f, hfetch, rfl, rfl, rfl⟩
  · next i s₁ hfetch =>
    split at h
    · cases h
    · next f s₂ hrun =>
      cases h
      obtain ⟨story, hout, hgoes⟩ := call_eq_some hrun
      rw [← hout] at hrun
      exact .inr ⟨i, s₁, story, s', hfetch, hrun, hgoes, .inl ⟨f, hout, rfl, rfl, rfl⟩⟩
    · next r s₂ hrun =>
      obtain ⟨story, hout, hgoes⟩ := call_eq_some hrun
      rw [← hout] at hrun
      obtain ⟨invocations, hperforms⟩ :=
        exists_performs k id ⟨argument, functionArgument, i.properties⟩ s₂ database
      refine .inr ⟨i, s₁, story, s₂, hfetch, hrun, hgoes, .inr ⟨r, invocations, ?_⟩⟩
      split at h
      · next hfunctions =>
        cases h
        rw [hfunctions] at hperforms
        exact ⟨_, hout, rfl, hperforms⟩
      · next hfunctions =>
        cases h
        rw [hfunctions] at hperforms
        exact ⟨_, hout, rfl, hperforms⟩

theorem exists_executes
    (h : execute depth k id argument functionArgument s database =
      some (outcome, s', database')) :
    ∃ trace, Executes k id argument functionArgument s database outcome s' database' trace := by
  rcases execute_eq_some h with ⟨f, hfetch, rfl, rfl, rfl⟩ |
    ⟨i, s₁, story, s₂, hfetch, -, hgoes, hend⟩
  · exact ⟨_, .refused hfetch⟩
  · rcases hend with ⟨f, hout, rfl, rfl, rfl⟩ | ⟨r, invocations, result, hout, rfl, hperforms⟩
    · exact ⟨_, .failed hfetch hgoes hout⟩
    · exact ⟨_, .finished hfetch hgoes hout hperforms⟩

theorem Executes.exists_execute
    (h : Executes k id argument functionArgument s database outcome s' database' trace) :
    ∃ depth, execute depth k id argument functionArgument s database =
      some (outcome, s', database') := by
  cases h with
  | refused hfetch =>
    refine ⟨0, ?_⟩
    rw [execute, hfetch]
  | @failed i story f s₁ s₂ hfetch hgoes hout =>
    have hrun : call story.depth k i argument i.properties s₁ = some (story.outcome, s') :=
      hgoes.call_eq (Nat.le_refl _)
    rw [hout] at hrun
    refine ⟨story.depth, ?_⟩
    rw [execute, hfetch]
    dsimp only
    rw [hrun]
  | @finished i story r s₁ s₂ _ invocations result _ hfetch hgoes hout hperforms =>
    have hrun : call story.depth k i argument i.properties s₁ = some (story.outcome, s₂) :=
      hgoes.call_eq (Nat.le_refl _)
    rw [hout] at hrun
    refine ⟨story.depth, ?_⟩
    rw [execute, hfetch]
    dsimp only
    rw [hrun]
    dsimp only
    rw [hperforms.runFunctions]
    cases result <;> rfl

/-- This is how executions come to an end, however deep calls may go. -/
theorem exists_execute_iff :
    (∃ depth, execute depth k id argument functionArgument s database =
      some (outcome, s', database')) ↔
      ∃ trace, Executes k id argument functionArgument s database outcome s' database' trace := by
  constructor
  · rintro ⟨depth, h⟩
    exact exists_executes h
  · rintro ⟨trace, h⟩
    exact h.exists_execute

/-- The trace of an execution accounts for the engines and the log after it. -/
theorem Executes.plays (hw : s.world.WellFormed)
    (h : Executes k id argument functionArgument s database outcome s' database' trace) :
    s.Plays trace s' := by
  cases h with
  | refused hfetch => exact plays_fetch_error hfetch
  | failed hfetch hgoes _ =>
    exact (plays_fetch hfetch).append
      ((plays_call (kept_of_fetch hfetch) argument).append hgoes.plays)
  | @finished i _ _ _ _ _ _ _ _ hfetch hgoes _ hperforms =>
    have hstory := (plays_call (kept_of_fetch hfetch) argument).append hgoes.plays
    obtain ⟨e, -, -, hk, -, -⟩ := fetch_eq_ok hfetch
    have hid : i.id = id :=
      congrArg CallContext.contractId (context_of_fetch hw hk hfetch)
    obtain ⟨e₁, hk₁, hfind₁⟩ := kept_of_fetch hfetch
    rw [hid] at hfind₁
    -- The contract may have been fetched again meanwhile, but its properties are the same.
    obtain ⟨e₂, j, hk₂, hfind₂, hmake⟩ :=
      hstory.world.make_kept ((plays_fetch hfetch).world.wellFormed hw) hk₁ hfind₁
    exact ((plays_fetch hfetch).append hstory).append
      (hperforms.plays hk₂ hfind₂ (Instance.properties_eq_of_make hmake).symm)

end Scene

end ContractEmulator
