import ContractEmulator.Proofs.Call.Functions
import ContractEmulator.Proofs.Call.Held
import ContractEmulator.Proofs.Engine.Frame

/-!
# What executions leave alone

An execution fetches contracts and runs listed functions, and its emulator changes by that only.
What is registered and which certificate is in force is not its business, unless a logic that runs
in it has a handle of the emulator and asks for that itself.

* `Scene.Requests`: some logic that runs in an execution asks a question.
  `Executes.requests_of_mem`: only for that is something registered or a certificate replaced.
* `Executes.functions`: only functions that are listed are loaded.
* `Scene.ExecutionFrame`: what an execution leaves alone. `Executes.executionFrame`: so does every
  execution.
* `Scene.Framed`: what executions and fetches leave alone, and what is so of all that is loaded.
  `Host.Reach.framed`: so it is in every scene that comes about.
* `Host.probing_administered_within`: a logic with a handle can have contracts registered and
  another certificate put in force while it is executed.
-/

namespace ContractEmulator

/-- A list of functions runs only functions that it names. -/
theorem FunctionDesk.Serves.mem_entries {δ : Type} [Database δ] {contractId : String}
    {input : FunctionInput} {desk desk' : FunctionDesk δ} {entries : List Json}
    {invocations : List Invocation} {result : Except Failure Unit} {v : Invocation}
    (h : FunctionDesk.Serves contractId input desk entries invocations result desk')
    (hv : v ∈ invocations) : .str v.functionId ∈ entries := by
  induction h with
  | finished | malformed | refused => cases hv
  | failed =>
    obtain rfl := List.mem_singleton.1 hv
    exact List.mem_cons_self
  | served _ _ _ ih =>
    rcases List.mem_cons.1 hv with rfl | hrest
    · exact List.mem_cons_self
    · exact List.mem_cons_of_mem _ (ih hrest)

/-- The question does without a handle of an emulator. -/
def ContractQuery.IsPlain : ContractQuery → Prop
  | .context | .ledger _ | .call _ _ _ | .memory | .remember _ => True
  | _ => False

theorem ContractQuery.ledgerBlind_isPlain : LedgerBlind IsPlain :=
  ⟨fun _ => trivial, fun _ _ => trivial⟩

namespace Scene

variable {σ : Type} [Ledger σ] {k j : Nat} {a : Activation} {q : ContractQuery}
  {p : ContractProgram} {s s' s₁ : Scene σ} {story : Story} {turn : Turn} {id : String}
  {argument : Json} {certificate : Identity} {loader : Loader ContractLogic}

/-! ## What a logic asks for -/

/-- In a call, contracts of one family ask what this family may ask. -/
theorem Goes.ok_of_asks {ok : ContractQuery → Prop} (hok : ContractQuery.LedgerBlind ok)
    (hl : loader.Asks ok) (h : Goes a p s story s') (hp : p.Asks ok) (ha : a.Wired k)
    (hw : s.world.Holds k certificate loader) (hq : story.Asks q) : ok q := by
  induction h generalizing certificate with
  | done => exact hq.elim
  | ask hans _ ih =>
    obtain ⟨certificate₁, hw₁⟩ := (plays_answer hans).world.exists_holds hw
    rcases hq with rfl | hrest
    · exact hp.1
    · exact ih (hp.2 _) ha hw₁ hrest
  | refuse _ _ ih => exact ih (hp.2 _) ha hw hq
  | @call a b id argument handed next callee inner rest s s₁ s₂ s' hdispatch hinner _ ihinner
      ihrest =>
    have hb := wired_of_dispatch hw.wellFormed ha hdispatch
    have hw₁ := holds_dispatch hw hdispatch
    obtain ⟨certificate₂, hw₂⟩ := hinner.plays.world.exists_holds hw₁
    have hkept := kept_of_dispatch hdispatch
    rw [hb.engine] at hkept
    rcases hq with hcallee | hrest
    · exact ihinner (asks_of_kept hok hl hw₁ hkept argument callee.properties handed) hb hw₁ hcallee
    · exact ihrest (hp.2 _) ha hw₂ hrest

/-- Some logic that runs when the contract `id` is executed asks the question. -/
def Requests (s : Scene σ) (k : Nat) (id : String) (argument : Json) (q : ContractQuery) : Prop :=
  ∃ i s₁ story s₂, s.fetch k id = .ok (i, s₁) ∧
    CallGoes k i argument i.properties s₁ story s₂ ∧ story.Asks q

/-- A family of contracts requests what it may ask. -/
theorem ok_of_requests {ok : ContractQuery → Prop} (hok : ContractQuery.LedgerBlind ok)
    (hl : loader.Asks ok) (hw : s.world.Holds k certificate loader)
    (h : s.Requests k id argument q) : ok q := by
  obtain ⟨i, s₁, story, s₂, hfetch, hgoes, hasks⟩ := h
  have hw₁ := holds_fetch hw hfetch
  have hp := asks_of_kept hok hl hw₁ (kept_of_fetch hfetch) argument i.properties .own
  exact hgoes.ok_of_asks hok hl hp (wired_of_fetch hw.wellFormed hfetch) hw₁ hasks

variable {δ : Type} [Database δ] {functionArgument : Option Json} {database database' : δ}
  {outcome : Outcome} {t : Trace}

theorem requests_of_mem_contract {i : Instance} {s₂ : Scene σ} (hfetch : s.fetch k id = .ok (i, s₁))
    (hgoes : CallGoes k i argument i.properties s₁ story s₂)
    (hmem : .engine j turn ∈ s.fetchMarks k id ++ ([callMark k i argument] ++ story.trace))
    (hrequest : turn.deed.request? = some q) : s.Requests k id argument q := by
  rcases List.mem_append.1 hmem with hmarks | hrest
  · cases (Deed.request?_of_isFetch (isFetch_of_mem_fetchMarks hmarks)).symm.trans hrequest
  · rcases List.mem_append.1 hrest with hcall | hstory
    · cases List.mem_singleton.1 hcall
      cases hrequest
    · exact ⟨i, s₁, story, s₂, hfetch, hgoes, (hgoes.deed_of_mem_trace hstory).2 q hrequest⟩

/-- What is done in an execution that can be asked for was asked for by a logic in it. -/
theorem Executes.requests_of_mem
    (h : Executes k id argument functionArgument s database outcome s' database' t)
    (hmem : .engine j turn ∈ t) (hrequest : turn.deed.request? = some q) :
    s.Requests k id argument q := by
  cases h with
  | refused =>
    cases (Deed.request?_of_isFetch (isFetch_of_mem_fetchMarks hmem)).symm.trans hrequest
  | failed hfetch hgoes _ => exact requests_of_mem_contract hfetch hgoes hmem hrequest
  | finished hfetch hgoes _ _ =>
    rcases List.mem_append.1 hmem with hcontract | hfunctions
    · exact requests_of_mem_contract hfetch hgoes hcontract hrequest
    · obtain ⟨v, -, hmarks⟩ := List.mem_flatMap.1 hfunctions
      simp only [Invocation.marks, List.mem_cons, List.not_mem_nil, or_false, Mark.engine.injEq,
        reduceCtorEq] at hmarks
      obtain ⟨-, rfl⟩ := hmarks
      cases hrequest

/-! ## Which functions are loaded -/

/-- The ids in the list of functions of an argument. -/
def listed (argument : Json) : List String :=
  (((argument.get? functionsKey).bind Json.asArr?).getD []).filterMap Json.asStr?

omit [Ledger σ] in
/-- The functions of a list load no others. -/
theorem Performs.functions {e : Engine} {input : FunctionInput} {invocations : List Invocation}
    {result : Except Failure Unit} (hk : s.world.engines[k]? = some e)
    (h : Performs k id input s database invocations result s' database') :
    ∃ e', s'.world.engines[k]? = some e' ∧ ∀ functionId,
      functionId ∉ Scene.listed input.argument →
        e'.functions.loaded.find? functionId = e.functions.loaded.find? functionId := by
  cases h with
  | unlisted | noArray | gone => exact ⟨e, hk, fun _ _ => rfl⟩
  | @listed entries e' _ _ desk hget hk' hserves =>
    obtain rfl : e' = e := Option.some.inj (hk'.symm.trans hk)
    refine ⟨_, World.getElem?_setEngine_self hk _, fun functionId hn => ?_⟩
    refine hserves.find?_loaded fun v hv hid => hn ?_
    have hentry := hserves.mem_entries hv
    rw [← hid] at hentry
    rw [Scene.listed, hget]
    exact List.mem_filterMap.2 ⟨_, hentry, rfl⟩

theorem Executes.functions {e : Engine} (hk : s.world.engines[k]? = some e)
    (h : Executes k id argument functionArgument s database outcome s' database' t) :
    ∃ e', s'.world.engines[k]? = some e' ∧ ∀ functionId, functionId ∉ Scene.listed argument →
      e'.functions.loaded.find? functionId = e.functions.loaded.find? functionId := by
  -- Neither the fetch nor the contract loads a function.
  have hcontract : ∀ {i : Instance} {story : Story} {s₂ : Scene σ} {s₁ : Scene σ},
      s.fetch k id = .ok (i, s₁) → CallGoes k i argument i.properties s₁ story s₂ →
      ∃ e₂, s₂.world.engines[k]? = some e₂ ∧ e₂.functions.loaded = e.functions.loaded := by
    intro i story s₂ s₁ hfetch hgoes
    obtain ⟨e₁, hk₁, hsame⟩ := functions_of_fetch hfetch hk
    obtain ⟨e₂, hk₂, hkept⟩ := hgoes.functionsKept hk₁
    exact ⟨e₂, hk₂, by rw [hkept.functions, hsame]⟩
  cases h with
  | refused => exact ⟨e, hk, fun _ _ => rfl⟩
  | failed hfetch hgoes _ =>
    obtain ⟨e₂, hk₂, hloaded⟩ := hcontract hfetch hgoes
    exact ⟨e₂, hk₂, fun _ _ => by rw [hloaded]⟩
  | finished hfetch hgoes _ hperforms =>
    obtain ⟨e₂, hk₂, hloaded⟩ := hcontract hfetch hgoes
    rw [← hloaded]
    exact hperforms.functions hk₂

/-! ## What is left alone -/

/-- What an execution of the contract `id` leaves alone of the engine `k`, which takes some turns
meanwhile that lead from `e` to `e'`. -/
structure ExecutionFrame (s : Scene σ) (k : Nat) (id : String) (argument : Json) (e : Engine)
    (turns : List Turn) (e' : Engine) : Prop where
  /-- What is loaded stays, and only contracts that are fetched are loaded and stamped. -/
  frame : e.Frame turns e'
  /-- The registered functions are those from before, with what the turns have registered. -/
  functionRegistry : e'.functions.registry =
    (turns.map Turn.deed).foldl Deed.functionsAfter e.functions.registry
  /-- Only functions that are listed are loaded. -/
  unlisted : ∀ {functionId}, functionId ∉ listed argument →
    e'.functions.loaded.find? functionId = e.functions.loaded.find? functionId
  /-- Nothing is registered, and no certificate is replaced, unless a logic that runs asks for
  it. -/
  requested : ∀ {turn q}, turn ∈ turns → turn.deed.request? = some q → s.Requests k id argument q
  registry : (∀ artifact, ¬s.Requests k id argument (.register artifact)) →
    e'.registry = e.registry
  certificate : (∀ identity, ¬s.Requests k id argument (.setCertificate identity)) →
    e'.certificate = e.certificate
  functionsKept : (∀ entry, ¬s.Requests k id argument (.registerFunction entry)) →
    e'.functions.registry = e.functions.registry
  /-- No logic can ask for that without a handle. -/
  plain : e.loader.Asks ContractQuery.IsPlain → e'.registry = e.registry ∧
    e'.certificate = e.certificate ∧ e'.functions.registry = e.functions.registry

theorem Executes.executionFrame {e : Engine} (hw : s.world.WellFormed)
    (hk : s.world.engines[k]? = some e)
    (h : Executes k id argument functionArgument s database outcome s' database' t) :
    ∃ e', s'.world.engines[k]? = some e' ∧
      s.ExecutionFrame k id argument e (Trace.turns k t) e' := by
  obtain ⟨e', hk', hsteps⟩ := (h.plays hw).world.steps hk
  obtain ⟨e₁, hk₁, hloaded⟩ := h.functions hk
  obtain rfl : e₁ = e' := Option.some.inj (hk₁.symm.trans hk')
  have hrequested : ∀ {turn q}, turn ∈ Trace.turns k t → turn.deed.request? = some q →
      s.Requests k id argument q := fun hmem => h.requests_of_mem (Trace.mem_turns.1 hmem)
  have hregistry : (∀ artifact, ¬s.Requests k id argument (.register artifact)) →
      e₁.registry = e.registry := by
    intro hn
    refine hsteps.registry_eq ?_
    rintro turn hmem artifact warned hdeed
    exact hn artifact (hrequested hmem (by rw [hdeed]; rfl))
  have hcertificate : (∀ identity, ¬s.Requests k id argument (.setCertificate identity)) →
      e₁.certificate = e.certificate := by
    intro hn
    refine hsteps.certificate_eq ?_
    rintro turn hmem identity hdeed
    exact hn identity (hrequested hmem (by rw [hdeed]; rfl))
  have hfunctions : (∀ entry, ¬s.Requests k id argument (.registerFunction entry)) →
      e₁.functions.registry = e.functions.registry := by
    intro hn
    refine hsteps.functionRegistry_eq_of_not_registered ?_
    rintro turn hmem entry warned hdeed
    exact hn entry (hrequested hmem (by rw [hdeed]; rfl))
  exact ⟨e₁, hk', {
    frame := hsteps.frame (hw.engine hk)
    functionRegistry := hsteps.functionRegistry_eq
    unlisted := hloaded _
    requested := hrequested
    registry := hregistry
    certificate := hcertificate
    functionsKept := hfunctions
    plain := by
      intro hl
      have hplain : ∀ {q}, s.Requests k id argument q → q.IsPlain :=
        ok_of_requests ContractQuery.ledgerBlind_isPlain hl ⟨hw, e, hk, rfl, rfl⟩
      exact ⟨hregistry fun _ => hplain, hcertificate fun _ => hplain, hfunctions fun _ => hplain⟩ }⟩

/-- What executions and fetches leave alone of the engine `k`, which is `e` by now, and what is so
of all that it has loaded. -/
structure Framed (s : Scene σ) (k : Nat) (e : Engine) : Prop where
  /-- An execution, however it ends. -/
  executed : ∀ {δ : Type} [Database δ] {depth : Nat} {id : String} {argument : Json}
    {functionArgument : Option Json} {database database' : δ} {outcome : Outcome} {s' : Scene σ},
    s.execute depth k id argument functionArgument database = some (outcome, s', database') →
    ∃ t e', Executes k id argument functionArgument s database outcome s' database' t ∧
      s'.world.engines[k]? = some e' ∧ s.ExecutionFrame k id argument e (Trace.turns k t) e'
  /-- A fetch keeps the instance that it hands out, which is the one that was kept or a new one, and
  that is all. -/
  fetched : ∀ {id : String} {i : Instance} {s' : Scene σ}, s.fetch k id = .ok (i, s') →
    ∃ e', s'.world.engines[k]? = some e' ∧ e'.registry = e.registry ∧
      e'.certificate = e.certificate ∧ e'.functions = e.functions ∧
      (∀ id', e'.loaded.find? id' = if id' = id then some i else e.loaded.find? id') ∧
      ∀ {j}, e.loaded.find? id = some j → i.make = j.make
  /-- A fetch that fails changes nothing. -/
  refused : ∀ {id : String} {f : Failure}, s.fetch k id = .error f →
    s.Plays (s.fetchMarks k id) s
  /-- Whatever is registered, and whichever certificate is put in force, what is loaded stays as it
  is, with all stamps. -/
  administered : ∀ {turn : Turn} {e' : Engine}, e.Step turn e' →
    turn.deed.isAdministrative = true →
    e'.loaded = e.loaded ∧ e'.functions.loaded = e.functions.loaded
  /-- A contract that is loaded is registered, has its id, and reaches this engine, by a weak
  reference. -/
  wired : ∀ {id : String} {i : Instance}, e.loaded.find? id = some i →
    (∃ artifact, e.get id = .ok artifact) ∧ i.id = id ∧ i.invoker = some (.weak k)
  loaded_le : e.loaded.size ≤ e.registry.size

omit [Ledger σ] in
theorem fetch_keeps {e : Engine} {i : Instance} (hw : s.world.WellFormed)
    (hk : s.world.engines[k]? = some e) (h : s.fetch k id = .ok (i, s')) :
    ∃ e', s'.world.engines[k]? = some e' ∧ e'.registry = e.registry ∧
      e'.certificate = e.certificate ∧ e'.functions = e.functions ∧
      (∀ id', e'.loaded.find? id' = if id' = id then some i else e.loaded.find? id') ∧
      ∀ {j}, e.loaded.find? id = some j → i.make = j.make := by
  obtain ⟨e₀, e', events, hk₀, hfetch, rfl⟩ := fetch_eq_ok h
  obtain rfl : e₀ = e := Option.some.inj (hk₀.symm.trans hk)
  obtain ⟨j, event, hob, hi, rfl, -⟩ := Engine.fetch_eq_ok hfetch
  have hj : j.id = id := (hw.engine hk).id_of_obtain hob
  have hid : i.id = id := (congrArg Instance.id hi).trans hj
  refine ⟨_, World.getElem?_setEngine_self hk _, rfl, rfl, rfl, fun id' => ?_, ?_⟩
  · rw [Engine.find?_keep, hid]
  · intro j' hfind
    rcases Engine.obtain_eq_ok_iff.1 hob with ⟨hkept, -⟩ | ⟨hnone, -⟩
    · obtain rfl : j = j' := Option.some.inj (hkept.symm.trans hfind)
      exact Instance.make_of_stamped hi
    · cases hnone.symm.trans hfind

end Scene

namespace Host

variable {σ : Type} [Ledger σ] {trace t : Trace} {h : Host} {ledger : σ} {s : Scene σ} {k : Nat}
  {e : Engine}

/-- In every scene that comes about from where a host has arrived, executions and fetches leave
alone what they should. -/
theorem Reach.framed (hr : Reach trace h) (hp : (h.scene ledger).Plays t s)
    (hk : s.world.engines[k]? = some e) : s.Framed k e := by
  have ha := hr.accounts_of_plays hp
  have hw : s.world.WellFormed := ha.wellFormed
  obtain ⟨loader, functions, hsteps⟩ := ha.steps k e hk
  exact {
    executed := by
      intro δ _ depth id argument functionArgument database database' outcome s' hrun
      obtain ⟨t', hexec⟩ := Scene.exists_executes hrun
      obtain ⟨e', hk', hframe⟩ := hexec.executionFrame hw hk
      exact ⟨t', e', hexec, hk', hframe⟩
    fetched := Scene.fetch_keeps hw hk
    refused := Scene.plays_fetch_error
    administered := Engine.Step.administers
    wired := fun hfind =>
      ⟨hsteps.exists_get hfind, (hw.engine hk).loaded_id hfind, hw.invoker_eq hk hfind⟩
    loaded_le := hsteps.loaded_le }

/-- An argument that has `probe` put another certificate in force and register a contract, with the
handle that it has. -/
def administering : Json :=
  .obj [("do", .arr [.obj [("identity", .arr [.str alice.holderId, .int alice.version.toInt])],
    .obj [("register", .obj [("id", .str "late"), ("name", .str "test.Echo"), ("code", .str "")])]])]

theorem exists_execute_administering : ∃ outcome s' database' e',
    (probing.scene MemoryLedger.empty).execute 0 0 "probe" administering none MemoryDatabase.empty =
      some (outcome, s', database') ∧
    s'.world.engines[0]? = some e' ∧ e'.registry.size = 2 ∧ e'.certificate = alice := by
  have hdone : ((probing.scene MemoryLedger.empty).execute 0 0 "probe" administering none
      MemoryDatabase.empty).any (fun r => (r.2.1.world.engines[0]?).any fun e' =>
        e'.registry.size == 2 && e'.certificate == alice) = true := by
    decide +kernel
  obtain ⟨⟨outcome, s', database'⟩, hrun, hend⟩ := (Option.any_eq_true _ _).1 hdone
  obtain ⟨e', hk', hboth⟩ := (Option.any_eq_true _ _).1 hend
  obtain ⟨hsize, hcert⟩ := Bool.and_eq_true_iff.1 hboth
  exact ⟨outcome, s', database', e', hrun, hk', eq_of_beq hsize, eq_of_beq hcert⟩

theorem alice_ne_initial : alice ≠ .initial := by decide

/-- In such an execution, some logic has asked for it. -/
theorem probing_framed : ∃ trace e outcome s' database' t e', Reach trace probing ∧
    probing.world.engines[0]? = some e ∧
    Scene.Executes 0 "probe" administering none (probing.scene MemoryLedger.empty)
      MemoryDatabase.empty outcome s' database' t ∧
    s'.world.engines[0]? = some e' ∧
    (probing.scene MemoryLedger.empty).ExecutionFrame 0 "probe" administering e
      (Trace.turns 0 t) e' ∧
    ∃ identity, (probing.scene MemoryLedger.empty).Requests 0 "probe" administering
      (.setCertificate identity) := by
  obtain ⟨trace, hr⟩ := exists_reach_probing
  obtain ⟨outcome, s', database', e₁, hrun, hk₁, -, hcert⟩ := exists_execute_administering
  have hframed : (probing.scene MemoryLedger.empty).Framed 0 _ := hr.framed (.refl _) rfl
  obtain ⟨t, e', hexec, hk', hframe⟩ := hframed.executed hrun
  obtain rfl : e' = e₁ := Option.some.inj (hk'.symm.trans hk₁)
  refine ⟨trace, _, outcome, s', database', t, e', hr, rfl, hexec, hk', hframe, ?_⟩
  -- Otherwise the certificate would still be the first one.
  refine Classical.byContradiction fun hnone => ?_
  have hsame := hframe.certificate fun identity hrequest => hnone ⟨identity, hrequest⟩
  exact alice_ne_initial (hcert.symm.trans hsame)

/-- So an execution need not leave the registered contracts and the certificate as they were. -/
theorem probing_administered_within : ∃ trace e outcome s' database' e', Reach trace probing ∧
    probing.world.engines[0]? = some e ∧
    (probing.scene MemoryLedger.empty).execute 0 0 "probe" administering none MemoryDatabase.empty =
      some (outcome, s', database') ∧
    s'.world.engines[0]? = some e' ∧
    e'.registry ≠ e.registry ∧ e'.certificate ≠ e.certificate := by
  obtain ⟨trace, hr⟩ := exists_reach_probing
  obtain ⟨outcome, s', database', e', hrun, hk', hsize, hcert⟩ := exists_execute_administering
  refine ⟨trace, _, outcome, s', database', e', hr, rfl, hrun, hk', fun hsame => ?_,
    fun hsame => ?_⟩
  · have hsizes : (2 : Nat) = 1 := hsize.symm.trans (congrArg OrderedMap.size hsame)
    omega
  · exact alice_ne_initial (hcert.symm.trans hsame)

end Host

end ContractEmulator
