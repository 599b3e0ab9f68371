import ContractEmulator.Proofs.Call.Context
import ContractEmulator.Proofs.Contract.Handed
import ContractEmulator.Proofs.Lockstep
import ContractEmulator.Proofs.Uncached.Mirror

/-!
# Keeping what was loaded makes no difference

Contracts and functions that remember nothing cannot tell whether they were made a moment ago or
long before. As long as nothing is registered anew once it is loaded, an engine that keeps what it
loads does what a bare one does.

* `Scene.Spares`, `Scene.TaskSpares`, `Scene.RunSpares`: nothing is registered that is loaded, by a
  contract, in a task, in a run.
* `Scene.Mirrors k s t`: the engine `k` of `s` mirrors the bare engine of `t`, and the ledger is the
  same. `Mirrors.callNested`, `Mirrors.execute`, `Mirrors.inOrder`: calls, executions and runs keep
  it and end alike.
* `Scene.spares_of_holds`: contracts that register nothing spare what is loaded.
* `Host.forget_inOrder`: a run on a new emulator, with what was loaded forgotten in the end, is the
  run on a bare one.
-/

namespace ContractEmulator

namespace Scene

variable {σ δ : Type}

/-- The engine `k` has loaded no contract of that id. -/
def Unloaded (s : Scene σ) (k : Nat) (id : String) : Prop :=
  ∀ e, s.world.engines[k]? = some e → e.loaded.contains id = false

/-- The engine `k` has loaded no function of that id. -/
def FunctionUnloaded (s : Scene σ) (k : Nat) (id : String) : Prop :=
  ∀ e, s.world.engines[k]? = some e → e.functions.loaded.contains id = false

section Spares

variable [Ledger σ] [Database δ]

/-- A question of the running contract `a` of the engine `k` registers nothing that is loaded, and
no contract that is called for it does, however deep, up to `depth` calls. -/
def Spares (k : Nat) : Nat → Activation → ContractQuery → Scene σ → Prop
  | _, _, .register artifact, s => s.Unloaded k artifact.id
  | _, _, .registerFunction entry, s => s.FunctionUnloaded k entry.id
  | depth + 1, a, .call id argument handed, s => ∀ i b s', s.dispatch a id = .ok (i, b, s') →
      Program.Along (Spares k depth b) (answer (callNested depth b) b)
        (i.program argument i.properties handed) s'
  | _, _, _, _ => True

/-- A task registers nothing that is loaded, and no contract that is executed for it does. -/
def TaskSpares (depth k : Nat) : Task → Scene σ → Prop
  | .register (.ok artifact), s => s.Unloaded k artifact.id
  | .registerFunction (.ok entry), s => s.FunctionUnloaded k entry.id
  | .execute id argument _, s => ∀ i s', s.fetch k id = .ok (i, s') →
      Program.Along (Spares k depth (i.activation k []))
        (answer (callNested depth (i.activation k [])) (i.activation k []))
        (i.program argument i.properties .own) s'
  | _, _ => True

/-- In a run of tasks nothing is registered after it was loaded. -/
def RunSpares (depth k : Nat) : List Task → Scene σ × δ → Prop
  | [], _ => True
  | task :: tasks, s => TaskSpares depth k task s.1 ∧
      ∀ outcome s', perform depth k task s = some (outcome, s') → RunSpares depth k tasks s'

end Spares

/-! ## Scenes with the same registrations -/

/-- The engine `k` of a scene mirrors the bare engine of another one, which knows only contracts and
functions that remember nothing, and is in focus. Both scenes have the same ledger. -/
structure Mirrors (k : Nat) (s : Scene σ) (t : BareScene σ) : Prop where
  engine : ∃ e, s.world.engines[k]? = some e ∧ e.place = k ∧ e.Mirrors t.engine
  focus : s.world.handle? s.world.focus = some k
  ledger : s.ledger = t.ledger
  contracts : t.engine.loader.Asks ContractQuery.Stateless
  functions : t.engine.functionLoader.FunctionsAsk FunctionQuery.Stateless

variable {k depth : Nat} {s s' : Scene σ} {t t' : BareScene σ} {id : String} {e e' : Engine}
  {b : BareEngine} {events : List Event} {a : Activation}

/-- Another engine may take the place of one that mirrors the bare engine, if it does so too. -/
theorem Mirrors.setEngine (hm : s.Mirrors k t) (he : e.Mirrors b) (hplace : e.place = k)
    (hloader : b.loader = t.engine.loader)
    (hfunctions : b.functionLoader = t.engine.functionLoader) (log : List Event) :
    Mirrors k { s with world := s.world.setEngine k e, log := log } { t with engine := b } where
  engine := by
    obtain ⟨e₀, hk, -⟩ := hm.engine
    exact ⟨e, World.getElem?_setEngine_self hk e, hplace, he⟩
  focus := hm.focus
  ledger := hm.ledger
  contracts := hloader ▸ hm.contracts
  functions := hfunctions ▸ hm.functions

/-- A fetch finds what the bare engine makes, or fails as that does. -/
theorem Mirrors.fetch (hm : s.Mirrors k t) (id : String) :
    (∃ f, s.fetch k id = .error f ∧ t.engine.make id = .error f) ∨
      ∃ i s', s.fetch k id = .ok (i, s') ∧ t.engine.make id = .ok i.make ∧
        i.context = ⟨i.make.id, true, t.engine.certificate⟩ ∧ (i.activation k []).Wired k ∧
        s'.Mirrors k t := by
  obtain ⟨e, hk, hplace, he⟩ := hm.engine
  rw [Scene.fetch, hk]
  dsimp only
  rcases he.fetchAs true id with ⟨f, hfetch, hmake⟩ |
    ⟨i, e', events, hfetch, hmake, hcontext, hwired, hplace', he'⟩
  · have hfetch' : e.fetch id = .error f := hfetch
    rw [hfetch']
    exact .inl ⟨f, rfl, hmake⟩
  · have hfetch' : e.fetch id = .ok (i, e', events) := hfetch
    rw [hfetch']
    rw [hplace] at hwired
    exact .inr ⟨i, _, rfl, hmake, hcontext, ⟨rfl, hwired⟩,
      hm.setEngine he' (hplace'.trans hplace) rfl rfl _⟩

/-- So does a call of another contract. -/
theorem Mirrors.dispatch (hm : s.Mirrors k t) (ha : a.Wired k) (id : String) :
    (∃ f, s.dispatch a id = .error f ∧ t.engine.make id = .error f) ∨
      ∃ i b s', s.dispatch a id = .ok (i, b, s') ∧ t.engine.make id = .ok i.make ∧
        b.context = ⟨i.make.id, false, t.engine.certificate⟩ ∧ b.Wired k ∧ s'.Mirrors k t := by
  obtain ⟨e, hk, hplace, he⟩ := hm.engine
  have halive := World.isAlive_of_mem_handles (World.mem_handles_of_handle? hm.focus) a.inFlight
  rw [dispatch_of_wired ha, Scene.fetchNested, if_pos halive, hk]
  dsimp only
  rcases he.fetchAs false id with ⟨f, hfetch, hmake⟩ |
    ⟨i, e', events, hfetch, hmake, hcontext, hwired, hplace', he'⟩
  · have hfetch' : e.fetchNested id = .error f := hfetch
    rw [hfetch']
    exact .inl ⟨f, rfl, hmake⟩
  · have hfetch' : e.fetchNested id = .ok (i, e', events) := hfetch
    rw [hfetch']
    rw [hplace] at hwired
    exact .inr ⟨i, _, _, rfl, hmake, hcontext, ⟨rfl, hwired⟩,
      hm.setEngine he' (hplace'.trans hplace) rfl rfl _⟩

/-- The engine makes a step as the bare one does. -/
theorem Mirrors.update (hm : s.Mirrors k t) (step : Engine → Engine × List Event)
    (step' : BareEngine → BareEngine)
    (hstep : ∀ e, s.world.engines[k]? = some e → e.Mirrors t.engine →
      (step e).1.place = e.place ∧ (step e).1.Mirrors (step' t.engine))
    (hloader : (step' t.engine).loader = t.engine.loader)
    (hfunctions : (step' t.engine).functionLoader = t.engine.functionLoader) :
    (s.update k step).Mirrors k (t.update step') := by
  obtain ⟨e, hk, hplace, he⟩ := hm.engine
  obtain ⟨hplace', he'⟩ := hstep e hk he
  rw [Scene.update, hk]
  exact hm.setEngine he' (hplace'.trans hplace) hloader hfunctions _

theorem Mirrors.register (hm : s.Mirrors k t) {artifact : Artifact}
    (h : s.Unloaded k artifact.id) :
    (s.update k fun e => e.register artifact).Mirrors k
      (t.update fun e => { e with registry := e.registry.bind artifact }) :=
  hm.update _ _ (fun e hk he => ⟨rfl, he.register (h e hk)⟩) rfl rfl

theorem Mirrors.registerFunction (hm : s.Mirrors k t) {entry : FunctionEntry}
    (h : s.FunctionUnloaded k entry.id) :
    (s.update k fun e => e.registerFunction entry).Mirrors k
      (t.update fun e => { e with functions := e.functions.bind entry }) :=
  hm.update _ _ (fun e hk he => ⟨rfl, he.registerFunction (h e hk)⟩) rfl rfl

theorem Mirrors.setCertificate (hm : s.Mirrors k t) (identity : Identity) :
    (s.update k fun e => e.setCertificate identity).Mirrors k
      (t.update fun e => { e with certificate := identity }) :=
  hm.update _ _ (fun _ _ he => ⟨rfl, he.setCertificate identity⟩) rfl rfl

/-- What the emulator in focus does is done to the engine. -/
theorem Mirrors.onFocus (hm : s.Mirrors k t) {step : Engine → Engine × List Event}
    (h : (s.update k step).Mirrors k t') :
    EndAlike (Mirrors k) (Scene.onFocus step s) (some (.ok (), t')) := by
  rw [Scene.onFocus, hm.focus]
  exact .some ⟨rfl, h⟩

theorem Mirrors.fetchOnFocus (hm : s.Mirrors k t) (id : String) :
    EndAlike (Mirrors k) (Scene.fetchOnFocus id s)
      (some ((t.engine.make id).map fun _ => ⟨true, t.engine.certificate⟩, t)) := by
  rw [Scene.fetchOnFocus, hm.focus]
  dsimp only
  rcases hm.fetch id with ⟨f, hfetch, hmake⟩ | ⟨i, s', hfetch, hmake, hcontext, -, hm'⟩
  · rw [hfetch, hmake]
    exact .some ⟨rfl, hm⟩
  · rw [hfetch, hmake]
    have hstamp : i.stamp = ⟨true, t.engine.certificate⟩ :=
      congrArg (fun c : CallContext => Stamp.mk c.isRoot c.certificate) hcontext
    exact .some ⟨congrArg Except.ok hstamp, hm'⟩

/-- Both scenes go on with another ledger. -/
theorem Mirrors.setLedger (hm : s.Mirrors k t) (ledger : σ) (log : List Event) :
    Mirrors k { s with ledger := ledger, log := log } { t with ledger := ledger } :=
  ⟨hm.engine, hm.focus, rfl, hm.contracts, hm.functions⟩

/-! ## Questions, calls and executions -/

section Calls

variable [Ledger σ] {q : ContractQuery} {nested : Nested σ} {nested' : BareScene.Nested σ}
  {context : CallContext} {argument : Json} {handed : HandedLedger} {i : Instance} {isRoot : Bool}

/-- A question is answered alike if it is not about what the contract keeps, registers nothing that
is loaded, and, if it is a call, ends alike. -/
theorem Mirrors.answer (hm : s.Mirrors k t) (hq : q.Stateless)
    (hregister : ∀ artifact, q = .register artifact → s.Unloaded k artifact.id)
    (hfunction : ∀ entry, q = .registerFunction entry → s.FunctionUnloaded k entry.id)
    (hcall : ∀ id argument handed, q = .call id argument handed →
      EndAlike (Mirrors k) (nested id argument handed s) (nested' id argument handed t)) :
    EndAlike (Mirrors k) (Scene.answer nested a q s) (BareScene.answer nested' a.context q t) := by
  cases q with
  | memory | remember | keepHandle | dropHandle => exact hq.elim
  | context => exact .some ⟨rfl, hm⟩
  | call id argument handed => exact hcall id argument handed rfl
  | setCertificate identity => exact hm.onFocus (hm.setCertificate identity)
  | register artifact => exact hm.onFocus (hm.register (hregister artifact rfl))
  | registerFunction entry => exact hm.onFocus (hm.registerFunction (hfunction entry rfl))
  | fetch id => exact hm.fetchOnFocus id
  | ledger call =>
    obtain ⟨world, ledger, log⟩ := s
    obtain ⟨engine, ledger'⟩ := t
    obtain rfl : ledger = ledger' := hm.ledger
    exact .some ⟨rfl, hm.setLedger _ _⟩

/-- An instance runs as what the bare engine has made, if calls that it makes end alike. -/
theorem Mirrors.run (hm : s.Mirrors k t) (hmake : t.engine.make id = .ok i.make)
    (hcontext : a.context = ⟨i.make.id, isRoot, t.engine.certificate⟩)
    (hspares : (i.program argument i.properties handed).Along (Spares k depth a)
      (Scene.answer (Scene.callNested depth a) a) s)
    (hcall : ∀ id argument handed (s : Scene σ) t, Mirrors k s t →
      Spares k depth a (.call id argument handed) s →
      EndAlike (Mirrors k) (Scene.callNested depth a id argument handed s)
        (BareScene.callNested depth id argument handed t)) :
    EndAlike (Mirrors k) (Scene.run (Scene.callNested depth a) a i argument i.properties handed s)
      (BareScene.run (BareScene.callNested depth) isRoot i.make argument handed t) := by
  obtain ⟨symbol, hknown⟩ := BareEngine.known_of_make hmake
  have hasks := handed.asks_lend ContractQuery.ledgerBlind_stateless
    (hm.contracts symbol i.logic hknown argument i.properties)
  rw [Scene.run, BareScene.run, ← hcontext]
  refine Program.endAlike_interpret (fun q s t hq hs hm => ?_) hasks hspares hm
  refine hm.answer hq ?_ ?_ ?_
  · rintro artifact rfl
    cases depth <;> exact hs
  · rintro entry rfl
    cases depth <;> exact hs
  · rintro id argument handed rfl
    exact hcall id argument handed s t hm hs

/-- A nested call ends as it does with the bare engine. -/
theorem Mirrors.callNested (hm : s.Mirrors k t) (ha : a.Wired k)
    (hs : Spares k depth a (.call id argument handed) s) :
    EndAlike (Mirrors k) (Scene.callNested depth a id argument handed s)
      (BareScene.callNested depth id argument handed t) := by
  induction depth generalizing a id argument handed s t with
  | zero => exact .none
  | succ depth ih =>
    rw [callNested_succ, BareScene.callNested]
    dsimp only
    rcases hm.dispatch ha id with ⟨f, hdispatch, hmake⟩ |
      ⟨i, b, s', hdispatch, hmake, hcontext, hb, hm'⟩
    · rw [hdispatch, hmake]
      exact .some ⟨rfl, hm⟩
    · rw [hdispatch, hmake]
      exact hm'.run hmake hcontext (hs i b s' hdispatch) fun _ _ _ _ _ hm hs => ih hm hb hs

/-- An instance that is called by the host runs as what the bare engine has made. -/
theorem Mirrors.call (hm : s.Mirrors k t) (hmake : t.engine.make id = .ok i.make)
    (hcontext : i.context = ⟨i.make.id, true, t.engine.certificate⟩)
    (ha : (i.activation k []).Wired k)
    (hspares : (i.program argument i.properties .own).Along (Spares k depth (i.activation k []))
      (Scene.answer (Scene.callNested depth (i.activation k [])) (i.activation k [])) s) :
    EndAlike (Mirrors k) (Scene.call depth k i argument i.properties s)
      (BareScene.call depth i.make argument t) :=
  (hm.run hmake hcontext hspares fun _ _ _ _ _ hm hs => hm.callNested ha hs).map
    fun _ _ _ hm => ⟨rfl, hm⟩

end Calls

variable [Database δ] {database : δ} {functionArgument : Option Json} {argument : Json}

/-- The functions that an argument lists do the same on both sides. -/
theorem Mirrors.runFunctions (hm : s.Mirrors k t) (contractId : String) (input : FunctionInput)
    (database : δ) :
    (Scene.runFunctions k contractId input s database).1 =
        (t.engine.runFunctions input database).1 ∧
      (Scene.runFunctions k contractId input s database).2.2 =
        (t.engine.runFunctions input database).2 ∧
      (Scene.runFunctions k contractId input s database).2.1.Mirrors k t := by
  rw [Scene.runFunctions, BareEngine.runFunctions]
  cases input.argument.get? functionsKey with
  | none => exact ⟨rfl, rfl, hm⟩
  | some list =>
    dsimp only
    cases list.asArr? with
    | none => exact ⟨rfl, rfl, hm⟩
    | some entries =>
      obtain ⟨e, hk, hplace, he⟩ := hm.engine
      dsimp only
      rw [hk]
      obtain ⟨hresult, hdatabase, hmanager⟩ :=
        @FunctionManager.Mirrors.runEntries _ _ _ contractId input
          ⟨e.functions, database, s.log⟩ hm.functions he.functions entries
      have he' : Engine.Mirrors { e with functions :=
          (FunctionDesk.runEntries contractId input entries
            ⟨e.functions, database, s.log⟩).2.manager } t.engine :=
        ⟨he.registry, he.certificate, he.loader, hmanager, he.loaded, he.wired⟩
      exact ⟨hresult, hdatabase, hm.setEngine he' hplace rfl rfl _⟩

variable [Ledger σ]

/-- An execution ends as it does with the bare engine. -/
theorem Mirrors.execute (hm : s.Mirrors k t)
    (hs : TaskSpares depth k (.execute id argument functionArgument) s) (database : δ) :
    EndAlike (fun x y => x.1.Mirrors k y.1 ∧ x.2 = y.2)
      (s.execute depth k id argument functionArgument database)
      (t.execute depth id argument functionArgument database) := by
  rcases hm.fetch id with ⟨f, hfetch, hmake⟩ |
    ⟨i, s₁, hfetch, hmake, hcontext, hwired, hm₁⟩
  · rw [Scene.execute, BareScene.execute, hfetch, hmake]
    exact .some ⟨rfl, hm, rfl⟩
  · rw [execute_of_fetch hfetch, BareScene.execute_of_make hmake]
    have hrun := hm₁.call hmake hcontext hwired (hs i s₁ hfetch)
    exact hrun.finish fun _ _ hm => hm.runFunctions id _ database

/-- So does every task. -/
theorem Mirrors.perform (hm : s.Mirrors k t) {task : Task} (hs : TaskSpares depth k task s)
    (database : δ) :
    EndAlike (fun x y => x.1.Mirrors k y.1 ∧ x.2 = y.2) (Scene.perform depth k task (s, database))
      (BareScene.perform depth task (t, database)) := by
  cases task with
  | register artifact =>
    cases artifact with
    | error f => exact .some ⟨rfl, hm, rfl⟩
    | ok artifact => exact .some ⟨rfl, hm.register hs, rfl⟩
  | registerFunction entry =>
    cases entry with
    | error f => exact .some ⟨rfl, hm, rfl⟩
    | ok entry => exact .some ⟨rfl, hm.registerFunction hs, rfl⟩
  | setCertificate identity => exact .some ⟨rfl, hm.setCertificate identity, rfl⟩
  | execute id argument functionArgument => exact hm.execute hs database

/-- So does every run. -/
theorem Mirrors.inOrder (hm : s.Mirrors k t) {tasks : List Task}
    (hs : RunSpares depth k tasks (s, database)) :
    EndAlike (fun x y => x.1.Mirrors k y.1 ∧ x.2 = y.2)
      (Task.inOrder (Scene.perform depth k) tasks (s, database))
      (Task.inOrder (BareScene.perform depth) tasks (t, database)) := by
  induction tasks generalizing s t database with
  | nil => exact .some ⟨rfl, hm, rfl⟩
  | cons task tasks ih =>
    obtain ⟨htask, hrest⟩ := hs
    refine (hm.perform htask database).bind fun outcome sd td hperform hrel => ?_
    obtain ⟨s', database'⟩ := sd
    obtain ⟨t', database''⟩ := td
    obtain ⟨hm', rfl⟩ := hrel
    exact (ih hm' (hrest outcome _ hperform)).bind fun outcomes sd td _ hrel => .some ⟨rfl, hrel⟩

/-! ## Contracts that register nothing -/

end Scene

/-- The question registers neither a contract nor a function. -/
def ContractQuery.RegistersNothing : ContractQuery → Prop
  | .register _ | .registerFunction _ => False
  | _ => True

theorem ContractQuery.ledgerBlind_registersNothing :
    ContractQuery.LedgerBlind ContractQuery.RegistersNothing :=
  ⟨fun _ => trivial, fun _ _ => trivial⟩

/-- The task registers neither a contract nor a function. -/
def Task.RegistersNothing : Task → Prop
  | .register _ | .registerFunction _ => False
  | _ => True

namespace Scene

variable {σ δ : Type} [Ledger σ] {k depth : Nat} {s s' : Scene σ} {certificate : Identity}
  {loader : Loader ContractLogic} {q : ContractQuery} {p : ContractProgram} {a : Activation}

/-- What the single questions spare, a program spares. -/
theorem along_of_holds
    (hspares : ∀ (q : ContractQuery) (s : Scene σ) (certificate : Identity), q.RegistersNothing →
      s.world.Holds k certificate loader → Spares k depth a q s)
    (hp : p.Asks ContractQuery.RegistersNothing) (hw : s.world.Holds k certificate loader) :
    p.Along (Spares k depth a) (answer (callNested depth a) a) s := by
  refine hp.along (I := fun s => ∃ certificate, s.world.Holds k certificate loader)
    (fun q s hq ⟨certificate, hw⟩ => hspares q s certificate hq hw)
    (fun q s a s' ⟨_, hw⟩ hans => ?_) ⟨certificate, hw⟩
  obtain ⟨t, hplays⟩ := exists_plays_of_answer hans
  exact hplays.world.exists_holds hw

/-- Contracts that register nothing spare what is loaded, however deep they call. -/
theorem spares_of_holds (hl : loader.Asks ContractQuery.RegistersNothing)
    (hq : q.RegistersNothing) (ha : a.Wired k) (hw : s.world.Holds k certificate loader) :
    Spares k depth a q s := by
  induction depth generalizing a q s certificate with
  | zero =>
    cases q with
    | register | registerFunction => exact hq.elim
    | _ => trivial
  | succ depth ih =>
    cases q with
    | register | registerFunction => exact hq.elim
    | call id argument handed =>
      intro i b s' hdispatch
      have hw' := holds_dispatch hw hdispatch
      have hb := wired_of_dispatch hw.wellFormed ha hdispatch
      have hkept := kept_of_dispatch hdispatch
      rw [hb.engine] at hkept
      have hasks := asks_of_kept ContractQuery.ledgerBlind_registersNothing hl hw' hkept argument
        i.properties handed
      exact along_of_holds (fun _ _ _ hq hw => ih hq hb hw) hasks hw'
    | _ => trivial

variable [Database δ] {database database' : δ} {task : Task} {outcome : Outcome}

theorem taskSpares_of_holds (hl : loader.Asks ContractQuery.RegistersNothing)
    (htask : task.RegistersNothing) (hw : s.world.Holds k certificate loader) :
    TaskSpares depth k task s := by
  cases task with
  | register | registerFunction => exact htask.elim
  | setCertificate => trivial
  | execute id argument functionArgument =>
    intro i s' hfetch
    have hw' := holds_fetch hw hfetch
    have hwired := wired_of_fetch hw.wellFormed hfetch
    have hasks := asks_of_kept ContractQuery.ledgerBlind_registersNothing hl hw'
      (kept_of_fetch hfetch) argument i.properties .own
    exact along_of_holds (fun _ _ _ hq hw => spares_of_holds hl hq hwired hw) hasks hw'

/-- Nothing is registered after it was loaded where nothing is registered at all. -/
theorem runSpares_of_holds (hl : loader.Asks ContractQuery.RegistersNothing) {tasks : List Task}
    (htasks : ∀ task ∈ tasks, task.RegistersNothing) (hw : s.world.Holds k certificate loader) :
    RunSpares depth k tasks (s, database) := by
  induction tasks generalizing s certificate database with
  | nil => trivial
  | cons task tasks ih =>
    obtain ⟨hhead, htail⟩ := List.forall_mem_cons.1 htasks
    refine ⟨taskSpares_of_holds hl hhead hw, fun outcome sd hperform => ?_⟩
    obtain ⟨s', database'⟩ := sd
    obtain ⟨t, hplays⟩ := exists_plays_of_perform hw.wellFormed hperform
    obtain ⟨certificate', hw'⟩ := hplays.world.exists_holds hw
    exact ih htail hw'

end Scene

/-! ## Runs on a new emulator -/

/-- What an engine is when what it has loaded is forgotten. -/
def Engine.forget (e : Engine) : BareEngine :=
  ⟨e.registry, e.certificate, e.loader, e.functions.registry, e.functions.loader⟩

theorem Engine.Mirrors.forget_eq {e : Engine} {b : BareEngine} (h : e.Mirrors b) :
    e.forget = b := by
  rw [forget, h.registry, h.certificate, h.loader, h.functions.registry, h.functions.loader]

/-- What a scene is when what the engine `k` has loaded is forgotten. -/
def Scene.forget? {σ : Type} (s : Scene σ) (k : Nat) : Option (BareScene σ) :=
  s.world.engines[k]?.map fun e => ⟨e.forget, s.ledger⟩

theorem Scene.Mirrors.forget?_eq {σ : Type} {k : Nat} {s : Scene σ} {t : BareScene σ}
    (h : s.Mirrors k t) : s.forget? k = some t := by
  obtain ⟨e, hk, -, he⟩ := h.engine
  rw [forget?, hk, h.ledger, Option.map_some, he.forget_eq]

namespace Host

variable {σ δ : Type} [Ledger σ] [Database δ] {loader : Loader ContractLogic}
  {functions : Loader FunctionLogic} {ledger : σ} {database : δ} {depth : Nat} {tasks : List Task}

/-- On a new emulator that knows only contracts and functions that remember nothing, a run in which
nothing is registered after it was loaded ends as on a bare engine, which makes contracts and
functions anew for every use: with the same outcomes, and with the same ledger, database,
registrations and certificate. If a chain of calls gets too deep in one, so it does in the other. -/
theorem forget_inOrder (hcontracts : loader.Asks ContractQuery.Stateless)
    (hfunctions : functions.FunctionsAsk FunctionQuery.Stateless)
    (hspares : Scene.RunSpares depth 0 tasks ((single loader functions).scene ledger, database)) :
    (Task.inOrder (Scene.perform depth 0) tasks
        ((single loader functions).scene ledger, database)).map
        (fun (outcomes, s, database) => (outcomes, s.forget? 0, database)) =
      (Task.inOrder (BareScene.perform depth) tasks
        ((⟨.new loader functions, ledger⟩ : BareScene σ), database)).map
        fun (outcomes, t, database) => (outcomes, some t, database) := by
  have hm : Scene.Mirrors 0 ((single loader functions).scene ledger)
      ⟨.new loader functions, ledger⟩ :=
    ⟨⟨_, rfl, rfl, Engine.mirrors_new 0 loader functions⟩, rfl, rfl, hcontracts, hfunctions⟩
  have hend := hm.inOrder hspares
  generalize Task.inOrder (Scene.perform depth 0) tasks
    ((single loader functions).scene ledger, database) = ran at hend
  generalize Task.inOrder (BareScene.perform depth) tasks
    ((⟨.new loader functions, ledger⟩ : BareScene σ), database) = ran' at hend
  cases hend with
  | none => rfl
  | @some xs yt hrel =>
    obtain ⟨outcomes, s, database⟩ := xs
    obtain ⟨outcomes', t, database'⟩ := yt
    obtain ⟨rfl, hm', rfl⟩ := hrel
    exact congrArg (fun t => some (outcomes, t, database)) hm'.forget?_eq

end Host

namespace SampleFunction

theorem asks_symbols : Loader.FunctionsAsk FunctionQuery.Stateless (.ofList symbols) := by
  intro symbol logic hfind input
  have hmem := OrderedMap.mem_of_find?_ofList hfind
  rcases List.mem_cons.1 hmem with hrecorder | hrest
  · obtain rfl := (Prod.mk.inj hrecorder).2
    exact ⟨trivial, fun _ => ⟨trivial, fun _ => trivial⟩⟩
  · obtain rfl := (Prod.mk.inj (List.mem_singleton.1 hrest)).2
    trivial

end SampleFunction

namespace Host

/-- A host with a new emulator that knows a contract that calls itself, and functions. -/
def unregistered : Host :=
  single SampleContract.recursiveLoader (.ofList SampleFunction.symbols)

/-- A contract is registered twice before it is executed with a function, and executed again under
another certificate. -/
def loopingTasks : List Task :=
  [.register (.ok (SampleContract.loop none)), .register (.ok (SampleContract.loop (some .null))),
   .registerFunction (.ok SampleFunction.note),
   .execute "loop" (.obj [("_functions_", .arr [.str "note"]), ("depth", .int 1)]) none,
   .setCertificate ⟨"alice", 2⟩, .execute "loop" (.obj [("depth", .int 1)]) none]

theorem runSpares_loopingTasks : Scene.RunSpares 1 0 loopingTasks
    (unregistered.scene MemoryLedger.empty, MemoryDatabase.empty) := by
  have hhandle : unregistered.world.handle? 0 = some 0 := rfl
  have hr := (((reach_single SampleContract.recursiveLoader (.ofList SampleFunction.symbols)).step
    (.register (SampleContract.loop none) hhandle)).step
    (.register (SampleContract.loop (some .null)) hhandle)).step
    (.registerFunction SampleFunction.note hhandle)
  have hasks : SampleContract.recursiveLoader.Asks ContractQuery.RegistersNothing :=
    SampleContract.asks_recursiveLoader_of trivial fun _ _ => trivial
  -- Nothing is loaded before the first execution, and nothing is registered from there on.
  refine ⟨by rintro _ ⟨⟩; rfl, ?_⟩
  rintro _ _ ⟨⟩
  refine ⟨by rintro _ ⟨⟩; rfl, ?_⟩
  rintro _ _ ⟨⟩
  refine ⟨by rintro _ ⟨⟩; rfl, ?_⟩
  rintro _ _ ⟨⟩
  refine Scene.runSpares_of_holds hasks (fun task hmem => ?_)
    ⟨hr.accounts.wellFormed, _, rfl, rfl, rfl⟩
  simp only [List.mem_cons, List.not_mem_nil, or_false] at hmem
  rcases hmem with rfl | rfl | rfl <;> trivial

/-- All six tasks of this run come to an end, without a failure, and they leave an engine that has
loaded the contract and the function and has another certificate. What they leave apart from that is
what they leave on a bare engine. -/
theorem looping_forget_inOrder :
    ∃ (run : List Outcome × Scene MemoryLedger × MemoryDatabase) (e : Engine),
      Task.inOrder (Scene.perform 1 0) loopingTasks
        (unregistered.scene MemoryLedger.empty, MemoryDatabase.empty) = some run ∧
      run.1.length = 6 ∧ run.1.all (·.isOk) = true ∧ run.2.1.world.engines[0]? = some e ∧
      e.loaded.contains "loop" = true ∧ e.functions.loaded.contains "note" = true ∧
      e.certificate = ⟨"alice", 2⟩ ∧
      (Task.inOrder (BareScene.perform 1) loopingTasks
        ((⟨.new SampleContract.recursiveLoader (.ofList SampleFunction.symbols),
          MemoryLedger.empty⟩ : BareScene MemoryLedger), MemoryDatabase.empty)).map
        (fun (outcomes, t, database) => (outcomes, some t, database)) =
          some (run.1, run.2.1.forget? 0, run.2.2) := by
  have hdone : (Task.inOrder (Scene.perform 1 0) loopingTasks
      (unregistered.scene MemoryLedger.empty, MemoryDatabase.empty)).any
      (fun run => (run.1.length == 6 && run.1.all (·.isOk)) &&
        run.2.1.world.engines[0]?.any fun e => (e.loaded.contains "loop" &&
          e.functions.loaded.contains "note") && e.certificate == ⟨"alice", 2⟩) = true := by
    decide +kernel
  obtain ⟨run, hrun, hboth⟩ := (Option.any_eq_true _ _).1 hdone
  obtain ⟨houtcomes, hengine⟩ := Bool.and_eq_true_iff.1 hboth
  obtain ⟨hlength, hok⟩ := Bool.and_eq_true_iff.1 houtcomes
  obtain ⟨e, hk, hkeeps⟩ := (Option.any_eq_true _ _).1 hengine
  obtain ⟨hloaded, hcertificate⟩ := Bool.and_eq_true_iff.1 hkeeps
  obtain ⟨hcontract, hfunction⟩ := Bool.and_eq_true_iff.1 hloaded
  have hforget := forget_inOrder (SampleContract.asks_recursiveLoader_of trivial fun _ _ => trivial)
    SampleFunction.asks_symbols runSpares_loopingTasks
  rw [← unregistered, hrun] at hforget
  exact ⟨run, e, hrun, eq_of_beq hlength, hok, hk, hcontract, hfunction, eq_of_beq hcertificate,
    hforget.symm⟩

end Host

end ContractEmulator
