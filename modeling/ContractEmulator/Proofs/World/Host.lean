import ContractEmulator.Proofs.Call.Execution
import ContractEmulator.Proofs.World.References
import ContractEmulator.Samples.Functions

/-!
# Hosts

A host creates emulators and works with them, one operation after the other. What contracts do in
the meantime is a part of the operation that called them.

* `Host.Does`: one operation, with its trace.
* `Host.Reach trace h`: a host that started without emulators arrives at `h`.
* `Host.Accounts trace h`: the trace accounts for the engines and the log of `h`, from when they
  were new. `Reach.accounts`: so it does wherever a host arrives.
-/

namespace ContractEmulator

namespace World

/-- The host creates an emulator, clones or drops a handle, or turns to another handle. -/
inductive Manages : World → World → Prop where
  | create (w : World) (loader : Loader ContractLogic) (functions : Loader FunctionLogic) :
      Manages w (w.add (.new w.engines.length loader functions))
  | clone (w : World) (handle : Nat) : Manages w (w.clone handle)
  | drop (w : World) (handle : Nat) : Manages w (w.drop handle)
  | focus (w : World) (handle : Nat) : Manages w { w with focus := handle }

variable {w w' : World} {k handle : Nat}

/-- Whoever manages emulators changes none, and adds new ones only. -/
theorem Manages.engines (h : Manages w w') : w'.engines = w.engines ∨
    ∃ loader functions, w'.engines = w.engines ++ [.new w.engines.length loader functions] := by
  cases h with
  | create loader functions => exact .inr ⟨loader, functions, rfl⟩
  | clone | drop | focus => exact .inl rfl

/-- Handles lead to engines. -/
def HandlesValid (w : World) : Prop := ∀ k, some k ∈ w.handles → k < w.engines.length

theorem HandlesValid.exists_engine (hv : w.HandlesValid) (h : w.handle? handle = some k) :
    ∃ e, w.engines[k]? = some e :=
  ⟨_, List.getElem?_eq_getElem (hv k (mem_handles_of_handle? h))⟩

/-- One more handle, the last one, leads where it should, and the others lead where they led. -/
theorem handle?_of_append {target : Option Nat} (h : w'.handles = w.handles ++ [target])
    (handle : Nat) :
    w'.handle? handle = if handle = w.handles.length then target else w.handle? handle := by
  rw [handle?, handle?, h, List.getElem?_append]
  rcases Nat.lt_trichotomy handle w.handles.length with hlt | rfl | hgt
  · rw [if_pos hlt, if_neg (by omega)]
  · rw [if_neg (by omega), if_pos rfl, Nat.sub_self]
    rfl
  · have hold : w.handles[handle]? = none := List.getElem?_eq_none (by omega)
    have hnew : [target][handle - w.handles.length]? = none :=
      List.getElem?_eq_none (by rw [List.length_singleton]; omega)
    rw [if_neg (by omega), if_neg (by omega), hold, hnew]

/-- A handle that was dropped leads nowhere, and the others lead where they led. -/
theorem handle?_drop (w : World) (dropped handle : Nat) :
    (w.drop dropped).handle? handle = if handle = dropped then none else w.handle? handle := by
  rw [handle?, handle?, drop, List.getElem?_set]
  by_cases heq : dropped = handle
  · rw [if_pos heq, if_pos heq.symm]
    split <;> rfl
  · rw [if_neg heq, if_neg (Ne.symm heq)]

theorem Manages.handlesValid (h : Manages w w') (hv : w.HandlesValid) : w'.HandlesValid := by
  intro k hk
  cases h with
  | create loader functions =>
    show k < (w.engines ++ [_]).length
    rw [List.length_append, List.length_singleton]
    rcases List.mem_append.1 hk with hold | hnew
    · have hlt := hv k hold
      omega
    · obtain rfl := Option.some.inj (List.mem_singleton.1 hnew)
      omega
  | clone handle =>
    rcases List.mem_append.1 hk with hold | hnew
    · exact hv k hold
    · exact hv k (mem_handles_of_handle? (List.mem_singleton.1 hnew).symm)
  | drop handle =>
    rcases List.mem_or_eq_of_mem_set hk with hold | hnew
    · exact hv k hold
    · cases hnew
  | focus => exact hv k hk

end World

/-- The emulators of a process and the log, latest event first. -/
structure Host where
  world : World
  log : List Event

/-- What is left of a scene when a call is over. -/
def Scene.host {σ : Type} (s : Scene σ) : Host := ⟨s.world, s.log⟩

namespace Host

/-- No emulators, and nothing announced. -/
def empty : Host := ⟨.empty, []⟩

/-- The scene in which the host lets contracts work on a ledger. -/
def scene {σ : Type} (h : Host) (ledger : σ) : Scene σ := ⟨h.world, ledger, h.log⟩

/-- The host lets the engine `k` make a step that cannot fail. -/
def update (h : Host) (k : Nat) (step : Engine → Engine × List Event) : Host :=
  ((h.scene ()).update k step).host

/-- The host does one operation. Engines are reached through handles; an instance that was fetched
can be called without. -/
inductive Does : Host → Trace → Host → Prop where
  | manage {h : Host} {w : World} : h.world.Manages w → Does h [] { h with world := w }
  /-- The host uses a ledger or a database itself. -/
  | voice (h : Host) (events : List Event) :
      Does h [.voice events] { h with log := events.reverse ++ h.log }
  | register {h : Host} {handle k : Nat} (artifact : Artifact) : h.world.handle? handle = some k →
      Does h
        ((h.scene ()).turnMarks k fun e =>
          ⟨.registered artifact (e.loaded.contains artifact.id), (e.register artifact).2⟩)
        (h.update k fun e => e.register artifact)
  | registerFunction {h : Host} {handle k : Nat} (entry : FunctionEntry) :
      h.world.handle? handle = some k →
      Does h
        ((h.scene ()).turnMarks k fun e =>
          ⟨.registeredFunction entry (e.functions.loaded.contains entry.id),
            (e.registerFunction entry).2⟩)
        (h.update k fun e => e.registerFunction entry)
  | setCertificate {h : Host} {handle k : Nat} (identity : Identity) :
      h.world.handle? handle = some k →
      Does h
        ((h.scene ()).turnMarks k fun e => ⟨.certified identity, (e.setCertificate identity).2⟩)
        (h.update k fun e => e.setCertificate identity)
  | fetch {h : Host} {handle k : Nat} {id : String} {i : Instance} {s' : Scene Unit} :
      h.world.handle? handle = some k → (h.scene ()).fetch k id = .ok (i, s') →
      Does h ((h.scene ()).fetchMarks k id) s'.host
  | fetchFailed {h : Host} {handle k : Nat} {id : String} {f : Failure} :
      h.world.handle? handle = some k → (h.scene ()).fetch k id = .error f →
      Does h ((h.scene ()).fetchMarks k id) h
  | execute {σ δ : Type} [Ledger σ] [Database δ] {h : Host} {handle k : Nat} {id : String}
      {argument : Json} {functionArgument : Option Json} {ledger : σ} {database database' : δ}
      {outcome : Outcome} {s' : Scene σ} {trace : Trace} :
      h.world.handle? handle = some k →
      (h.scene ledger).Executes k id argument functionArgument database outcome s' database'
        trace →
      Does h trace s'.host
  | invoke {σ : Type} [Ledger σ] {h : Host} {k : Nat} {id : String} {i : Instance}
      {argument : Json} {properties : Option Json} {ledger : σ} {story : Story} {s' : Scene σ} :
      h.world.instance? k id = some i →
      Scene.CallGoes k i argument properties (h.scene ledger) story s' →
      Does h story.trace s'.host

/-- A host that starts without emulators arrives somewhere, one operation after the other. -/
inductive Reach : Trace → Host → Prop where
  | start : Reach [] .empty
  | step {trace t : Trace} {h h' : Host} : Reach trace h → Does h t h' → Reach (trace ++ t) h'

variable {h h' : Host} {t trace : Trace} {k : Nat} {e : Engine}

theorem getElem?_update (hk : h.world.engines[k]? = some e)
    (step : Engine → Engine × List Event) :
    (h.update k step).world.engines[k]? = some (step e).1 := by
  have hscene : (h.scene ()).world.engines[k]? = some e := hk
  rw [update, Scene.update, hscene]
  exact World.getElem?_setEngine_self hk _

/-- An execution that comes to an end is an operation, however deep calls may go. -/
theorem Does.of_execute {σ δ : Type} [Ledger σ] [Database δ] {handle depth : Nat} {id : String}
    {argument : Json} {functionArgument : Option Json} {ledger : σ} {database database' : δ}
    {outcome : Outcome} {s' : Scene σ} (hk : h.world.handle? handle = some k)
    (hrun : (h.scene ledger).execute depth k id argument functionArgument database =
      some (outcome, s', database')) : ∃ t, Does h t s'.host := by
  obtain ⟨t, hexec⟩ := Scene.exists_execute_iff.1 ⟨depth, hrun⟩
  exact ⟨t, .execute hk hexec⟩

/-- A call of an instance that comes to an end is an operation. -/
theorem Does.of_invoke {σ : Type} [Ledger σ] {depth : Nat} {id : String} {i : Instance}
    {argument : Json} {properties : Option Json} {ledger : σ} {outcome : Outcome} {s' : Scene σ}
    (hi : h.world.instance? k id = some i)
    (hrun : Scene.invoke depth k id argument properties (h.scene ledger) = some (outcome, s')) :
    ∃ t, Does h t s'.host := by
  unfold Scene.invoke at hrun
  have hscene : (h.scene ledger).world.instance? k id = some i := hi
  rw [hscene] at hrun
  obtain ⟨story, -, hgoes⟩ := Scene.call_eq_some hrun
  exact ⟨story.trace, .invoke hi hgoes⟩

/-- Where an execution leaves the world, a host can arrive. -/
theorem Reach.of_execute {σ δ : Type} [Ledger σ] [Database δ] {handle depth : Nat} {id : String}
    {argument : Json} {functionArgument : Option Json} {ledger : σ} {database database' : δ}
    {outcome : Outcome} {s' : Scene σ} (hr : Reach trace h) (hk : h.world.handle? handle = some k)
    (hrun : (h.scene ledger).execute depth k id argument functionArgument database =
      some (outcome, s', database')) : ∃ t, Reach (trace ++ t) s'.host := by
  obtain ⟨t, hdoes⟩ := Does.of_execute hk hrun
  exact ⟨t, hr.step hdoes⟩

/-- So it can where a call of an instance leaves it. -/
theorem Reach.of_invoke {σ : Type} [Ledger σ] {depth : Nat} {id : String} {i : Instance}
    {argument : Json} {properties : Option Json} {ledger : σ} {outcome : Outcome} {s' : Scene σ}
    (hr : Reach trace h) (hi : h.world.instance? k id = some i)
    (hrun : Scene.invoke depth k id argument properties (h.scene ledger) = some (outcome, s')) :
    ∃ t, Reach (trace ++ t) s'.host := by
  obtain ⟨t, hdoes⟩ := Does.of_invoke hi hrun
  exact ⟨t, hr.step hdoes⟩

/-! ## What an operation does to the engines -/

/-- Without the ledger, a scene is all that a host has. -/
theorem plays_host {σ : Type} {s s' : Scene σ} (hp : s.Plays t s') :
    (s.host.scene ()).Plays t (s'.host.scene ()) := ⟨hp.world, hp.log⟩

/-- An operation works on the engines, as its trace tells, or manages them. -/
theorem Does.plays_or_manages (hd : Does h t h') (hw : h.world.WellFormed) :
    (h.scene ()).Plays t (h'.scene ()) ∨
      (t = [] ∧ h'.log = h.log ∧ h.world.Manages h'.world) := by
  cases hd with
  | manage hm => exact .inr ⟨rfl, rfl, hm⟩
  | voice _ events => exact .inl (Scene.plays_voice (h.scene ()) () events)
  | @register _ _ k artifact =>
    exact .inl (Scene.plays_update (h.scene ()) k _ fun e => .register e artifact)
  | @registerFunction _ _ k entry =>
    exact .inl (Scene.plays_update (h.scene ()) k _ fun e => .registerFunction e entry)
  | @setCertificate _ _ k identity =>
    exact .inl (Scene.plays_update (h.scene ()) k (fun _ => .certified identity)
      fun e => .certify e identity)
  | fetch _ hfetch => exact .inl (plays_host (Scene.plays_fetch hfetch))
  | fetchFailed _ hfetch => exact .inl (Scene.plays_fetch_error hfetch)
  | execute _ hexec => exact .inl (plays_host (hexec.plays hw))
  | invoke _ hgoes => exact .inl (plays_host hgoes.plays)

/-! ## What a host arrives at -/

/-- A trace accounts for a host that started without emulators. -/
structure Accounts (trace : Trace) (h : Host) : Prop where
  /-- The turns of an engine lead to it from when it was new. -/
  steps : ∀ (k : Nat) (e : Engine), h.world.engines[k]? = some e →
    ∃ loader functions, (Engine.new k loader functions).Steps (Trace.turns k trace) e
  /-- An engine that is not there has taken no turns. -/
  unborn : ∀ k, h.world.engines.length ≤ k → Trace.turns k trace = []
  handles : h.world.HandlesValid
  log : h.log = (Trace.events trace).reverse

theorem Accounts.wellFormed (ha : Accounts trace h) : h.world.WellFormed where
  engine {k e} hk := by
    obtain ⟨loader, functions, hsteps⟩ := ha.steps k e hk
    exact hsteps.wellFormed (Engine.wellFormed_new k loader functions)
  place {k e} hk := by
    obtain ⟨loader, functions, hsteps⟩ := ha.steps k e hk
    exact hsteps.place_eq

theorem accounts_empty : Accounts [] .empty where
  steps _ _ hk := by cases hk
  unborn _ _ := rfl
  handles _ hk := by cases hk
  log := rfl

/-- Working on engines adds none and removes none. -/
theorem length_of_plays (hp : (h.scene ()).Plays t (h'.scene ())) :
    h'.world.engines.length = h.world.engines.length := hp.world.handles_eq.2.2

/-- Working on engines adds to their turns. -/
theorem Accounts.plays (ha : Accounts trace h) (hp : (h.scene ()).Plays t (h'.scene ())) :
    Accounts (trace ++ t) h' where
  steps k e' hk' := by
    have hlt : k < h.world.engines.length := by
      rw [← length_of_plays hp]
      exact (List.getElem?_eq_some_iff.1 hk').1
    obtain ⟨loader, functions, hsteps⟩ := ha.steps k _ (List.getElem?_eq_getElem hlt)
    obtain ⟨e₁, hk₁, hmore⟩ := hp.world.steps (List.getElem?_eq_getElem hlt)
    obtain rfl : e₁ = e' := Option.some.inj (hk₁.symm.trans hk')
    refine ⟨loader, functions, ?_⟩
    rw [Trace.turns_append]
    exact hsteps.append hmore
  unborn k hk := by
    rw [length_of_plays hp] at hk
    rw [Trace.turns_append, ha.unborn k hk, hp.world.turns_eq_nil hk]
    rfl
  handles k hk := by
    have hmem : some k ∈ h.world.handles := hp.world.handles_eq.1 ▸ hk
    rw [length_of_plays hp]
    exact ha.handles k hmem
  log := by
    rw [Trace.events_append, List.reverse_append, ← ha.log]
    exact hp.log

/-- Managing engines leaves their turns as they are. A new engine has taken none. -/
theorem Accounts.manages (ha : Accounts trace h) (hm : h.world.Manages h'.world)
    (hlog : h'.log = h.log) : Accounts trace h' where
  steps k e hk := by
    rcases hm.engines with hsame | ⟨loader, functions, hnew⟩
    · exact ha.steps k e (hsame ▸ hk)
    · rw [hnew, List.getElem?_append] at hk
      split at hk
      · exact ha.steps k e hk
      · next hlt =>
        rw [List.getElem?_singleton] at hk
        split at hk
        · cases hk
          obtain rfl : k = h.world.engines.length := by omega
          rw [ha.unborn _ (Nat.le_refl _)]
          exact ⟨loader, functions, .nil _⟩
        · cases hk
  unborn k hk := by
    rcases hm.engines with hsame | ⟨loader, functions, hnew⟩
    · exact ha.unborn k (hsame ▸ hk)
    · rw [hnew, List.length_append] at hk
      exact ha.unborn k (by omega)
  handles := hm.handlesValid ha.handles
  log := hlog.trans ha.log

/-- The trace of a host accounts for all of it. -/
theorem Reach.accounts (hr : Reach trace h) : Accounts trace h := by
  induction hr with
  | start => exact accounts_empty
  | step _ hd ih =>
    rcases hd.plays_or_manages ih.wellFormed with hp | ⟨rfl, hlog, hm⟩
    · exact ih.plays hp
    · rw [List.append_nil]
      exact ih.manages hm hlog

/-- Together with what is played from there, it accounts for every scene that comes about. -/
theorem Reach.accounts_of_plays {σ : Type} {ledger : σ} {s : Scene σ} (hr : Reach trace h)
    (hp : (h.scene ledger).Plays t s) : Accounts (trace ++ t) s.host :=
  hr.accounts.plays (plays_host hp)

end Host

/-! ## Hosts with one contract -/

namespace SampleContract

/-- The loader that knows a contract that calls itself. -/
def recursiveLoader : Loader ContractLogic := .ofList [("test.Recursive", recursive)]

/-- The contract `loop`, which calls itself. -/
def loop (properties : Option Json) : Artifact :=
  .emulated "loop" "test.Recursive" (Descriptor.encode "test.Recursive") properties 0

/-- The contract `probe`, which does what its argument says. -/
def prober : Artifact :=
  .emulated "probe" "test.Probe" (Descriptor.encode "test.Probe") none 0

/-- Lets a probe write to the ledger. -/
def probePut (id : String) : Json :=
  .obj [("put", .obj [("asset_id", .str id), ("data", .null)])]

/-- Lets a probe call the contract `probe` and go on if that fails. -/
def probeTry (steps : List Json) : Json :=
  .obj [("try", .obj [("id", .str "probe"), ("arg", .obj [("do", .arr steps)])])]

end SampleContract

/-- The function `note`, which notes its input in the database. -/
def SampleFunction.note : FunctionEntry :=
  ⟨"note", "test.Recorder", Descriptor.encode "test.Recorder", 0⟩

namespace Host

/-- A host that has just created its first emulator. -/
def single (loader : Loader ContractLogic) (functions : Loader FunctionLogic) : Host :=
  ⟨World.empty.add (.new 0 loader functions), []⟩

theorem reach_single (loader : Loader ContractLogic) (functions : Loader FunctionLogic) :
    Reach [] (single loader functions) :=
  .step .start (.manage (.create World.empty loader functions))

/-- A host with one contract, which calls itself. -/
def looping : Host :=
  (single SampleContract.recursiveLoader .empty).update 0 fun e =>
    e.register (SampleContract.loop none)

theorem exists_reach_looping : ∃ trace, Reach trace looping := by
  have hhandle : (single SampleContract.recursiveLoader .empty).world.handle? 0 = some 0 := rfl
  exact ⟨_, .step (reach_single _ _) (.register (SampleContract.loop none) hhandle)⟩

/-- A host with one contract, which does what its argument says, and one function. -/
def probing : Host :=
  ((single (.ofList SampleContract.symbols) (.ofList SampleFunction.symbols)).update 0 fun e =>
    e.register SampleContract.prober).update 0 fun e => e.registerFunction SampleFunction.note

theorem exists_reach_probing : ∃ trace, Reach trace probing := by
  have hhandle : (single (.ofList SampleContract.symbols)
      (.ofList SampleFunction.symbols)).world.handle? 0 = some 0 := rfl
  have hr := (reach_single _ _).step (.register SampleContract.prober hhandle)
  exact ⟨_, hr.step (.registerFunction SampleFunction.note hhandle)⟩

end Host

end ContractEmulator
