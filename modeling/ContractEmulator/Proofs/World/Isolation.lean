import ContractEmulator.Database.Memory
import ContractEmulator.Ledger.Memory
import ContractEmulator.Proofs.Call.Story
import ContractEmulator.Proofs.Contract.Handed
import ContractEmulator.Proofs.Lockstep
import ContractEmulator.Proofs.World.Host
import ContractEmulator.Proofs.World.Task
import Mathlib.Data.List.Forall2

/-!
# Emulators side by side

A host with several emulators gives orders to them, in any order. An order names the handle through
which the host works while it is carried out, and comes with a ledger and a database of its own.

* `World.carryOut`, `World.carryOutAll`: one order, and orders one after the other.
* `Order.engine?`: the engine that an order is for. `Order.Confined w`: contracts that administer
  the emulator in focus administer that engine, or none.
* `World.LooksLike k w v`: nothing that the engine `k` and its calls get to see tells `w` from `v`.
  `World.carryOut_alike`: so an order for `k` is carried out alike in both, and changes the engine
  `k` and nothing else.
* `World.orders_isolated`: what an engine does and becomes does not depend on the orders for others,
  nor on the handle by which it is reached.
-/

namespace ContractEmulator

/-- What a host asks of an emulator. -/
inductive Errand where
  | perform (task : Task)
  | fetch (id : String)
  /-- An instance that the engine `k` has handed out is called. This needs no handle. -/
  | invoke (k : Nat) (id : String) (argument : Json) (properties : Option Json)

/-- An errand, with the handle through which the host works meanwhile, and with the ledger and the
database to work on. -/
structure Order (σ δ : Type) where
  handle : Nat
  errand : Errand
  ledger : σ
  database : δ

/-- What a host is told. -/
inductive Response where
  /-- The handle leads to no emulator. -/
  | gone
  | ended (outcome : Outcome)
  | fetched (result : Except Failure Instance)

/-- What a host is told, what became of the ledger and of the database, and what was announced. -/
structure Reply (σ δ : Type) where
  response : Response
  ledger : σ
  database : δ
  events : List Event

namespace Order

variable {σ δ : Type}

/-- The engine that an order is for. -/
def engine? (w : World) (o : Order σ δ) : Option Nat :=
  match o.errand with
  | .invoke k _ _ _ => some k
  | _ => w.handle? o.handle

/-- The order is for the engine `k`. -/
def isFor (w : World) (k : Nat) (o : Order σ δ) : Bool := o.engine? w == some k

/-- The handle of the order leads to the engine that the order is for, if it leads anywhere. -/
def Confined (w : World) (o : Order σ δ) : Prop :=
  ∀ j, w.handle? o.handle = some j → o.engine? w = some j

/-- The orders differ in their handles alone, and these lead to the same engine. -/
structure SameBut (w : World) (o o' : Order σ δ) : Prop where
  errand : o.errand = o'.errand
  ledger : o.ledger = o'.ledger
  database : o.database = o'.database
  handle : w.handle? o.handle = w.handle? o'.handle

variable {w v : World} {o o' : Order σ δ}

/-- Where an order goes depends on the handles alone. -/
theorem engine?_congr (h : w.handles = v.handles) (o : Order σ δ) : o.engine? w = o.engine? v := by
  rw [engine?, engine?, World.handle?, World.handle?, h]

theorem isFor_congr (h : w.handles = v.handles) (k : Nat) :
    isFor w k = (isFor v k : Order σ δ → Bool) := by
  funext o
  rw [isFor, isFor, engine?_congr h]

theorem Confined.congr (h : w.handles = v.handles) (ho : o.Confined w) : o.Confined v := by
  intro j hj
  rw [← engine?_congr h]
  refine ho j ?_
  rwa [World.handle?, h]

/-- What needs a handle goes where the handle leads. -/
theorem confined_of_engine? (h : o.engine? w = w.handle? o.handle) : o.Confined w :=
  fun _ hj => h.trans hj

theorem SameBut.refl (w : World) (o : Order σ δ) : o.SameBut w o := ⟨rfl, rfl, rfl, rfl⟩

theorem SameBut.congr (h : w.handles = v.handles) (ho : o.SameBut w o') : o.SameBut v o' where
  errand := ho.errand
  ledger := ho.ledger
  database := ho.database
  handle := by
    have hhandle := ho.handle
    rwa [World.handle?, World.handle?, h] at hhandle

theorem SameBut.engine?_eq (h : o.SameBut w o') : o.engine? w = o'.engine? w := by
  rw [engine?, engine?, h.errand, h.handle]

end Order

section Orders

variable {σ δ : Type} [Ledger σ] [Database δ]

/-- Has the engine `k` do an errand. -/
def Scene.serve (depth k : Nat) (errand : Errand) (s : Scene σ) (database : δ) :
    Option (Response × Scene σ × δ) :=
  match errand with
  | .perform task =>
    (perform depth k task (s, database)).map fun (outcome, s) => (.ended outcome, s)
  | .fetch id =>
    match s.fetch k id with
    | .error f => some (.fetched (.error f), s, database)
    | .ok (i, s) => some (.fetched (.ok i), s, database)
  | .invoke _ id argument properties =>
    (invoke depth k id argument properties s).map fun (outcome, s) => (.ended outcome, s, database)

namespace World

/-- Has an order carried out. -/
def carryOut (depth : Nat) (w : World) (o : Order σ δ) : Option (Reply σ δ × World) :=
  match o.engine? w with
  | none => some (⟨.gone, o.ledger, o.database, []⟩, w)
  | some k =>
    (Scene.serve depth k o.errand ⟨{ w with focus := o.handle }, o.ledger, []⟩ o.database).map
      fun (response, s, database) =>
        (⟨response, s.ledger, database, s.log.reverse⟩, { w with engines := s.world.engines })

/-- Has orders carried out one after the other, and hands out each with the reply to it. -/
def carryOutAll (depth : Nat) :
    World → List (Order σ δ) → Option (List (Order σ δ × Reply σ δ) × World)
  | w, [] => some ([], w)
  | w, o :: orders =>
    (w.carryOut depth o).bind fun (reply, w) =>
      (w.carryOutAll depth orders).map fun (records, w) => ((o, reply) :: records, w)

/-- What the host is told by and by, and what is left in the end. -/
def replies (depth : Nat) (w : World) (orders : List (Order σ δ)) :
    Option (List (Reply σ δ) × World) :=
  (w.carryOutAll depth orders).map fun (records, w) => (records.map Prod.snd, w)

end World

end Orders

/-! ## Worlds that look alike from an engine -/

namespace World

/-- The engine `k` is the same in both worlds, the host has handles of it in both or in none, and it
is in focus in both, or no emulator is in focus in either. -/
structure LooksLike (k : Nat) (w v : World) : Prop where
  engine : w.engines[k]? = v.engines[k]?
  held : some k ∈ w.handles ↔ some k ∈ v.handles
  focus : w.handle? w.focus = v.handle? v.focus
  confined : ∀ j, w.handle? w.focus = some j → j = k

variable {k : Nat} {w v : World}

/-- A world with an engine has one after it was replaced, and so for a world without. -/
theorem getElem?_setEngine_congr (h : w.engines[k]? = v.engines[k]?) (e : Engine) :
    (w.setEngine k e).engines[k]? = (v.setEngine k e).engines[k]? := by
  have hbeyond : w.engines.length ≤ k ↔ v.engines.length ≤ k := by
    rw [← List.getElem?_eq_none_iff, ← List.getElem?_eq_none_iff, h]
  have hlength : k < w.engines.length ↔ k < v.engines.length := by omega
  rw [getElem?_setEngine, getElem?_setEngine, if_pos rfl, if_pos rfl]
  simp only [hlength]

/-- Worlds that look alike go on to do so when the engine is replaced in both. -/
theorem LooksLike.setEngine (h : w.LooksLike k v) (e : Engine) :
    (w.setEngine k e).LooksLike k (v.setEngine k e) :=
  ⟨getElem?_setEngine_congr h.engine e, h.held, h.focus, h.confined⟩

theorem LooksLike.hasHandle_eq (h : w.LooksLike k v) : w.hasHandle k = v.hasHandle k := by
  rw [Bool.eq_iff_iff, hasHandle_iff, hasHandle_iff, h.held, h.engine]

/-- The engine is alive in both worlds or in none, since other engines have no strong references to
it. -/
theorem LooksLike.isAlive_eq (h : w.LooksLike k v) (hw : w.WellFormed) (hv : v.WellFormed)
    (inFlight : List EngineRef) : w.isAlive inFlight k = v.isAlive inFlight k := by
  rw [Bool.eq_iff_iff, hw.isAlive_iff, hv.isAlive_iff, h.hasHandle_eq]

end World

namespace Scene

variable {σ : Type}

/-- The scenes have come from the worlds `w` and `v` by changes of the engine `k` alone, and by the
same ones. Their ledgers and logs are the same. -/
structure Twins (w v : World) (k : Nat) (s t : Scene σ) : Prop where
  world : ∃ e, s.world = w.setEngine k e ∧ t.world = v.setEngine k e
  ledger : s.ledger = t.ledger
  log : s.log = t.log

/-- What is more, the worlds are well formed, as they are while contracts run. -/
structure SoundTwins (w v : World) (k : Nat) (s t : Scene σ) : Prop where
  twins : s.Twins w v k t
  left : s.world.WellFormed
  right : t.world.WellFormed

variable {w v : World} {k depth : Nat} {s t s' t' : Scene σ} {id : String} {a : Activation}

theorem Twins.looksLike (h : s.Twins w v k t) (hl : w.LooksLike k v) :
    s.world.LooksLike k t.world := by
  obtain ⟨e, hs, ht⟩ := h.world
  rw [hs, ht]
  exact hl.setEngine e

/-- Both scenes go on with another engine, and with the same log. -/
theorem Twins.setEngine (h : s.Twins w v k t) (e : Engine) (log : List Event) :
    Twins w v k { s with world := s.world.setEngine k e, log := log }
      { t with world := t.world.setEngine k e, log := log } := by
  obtain ⟨e₀, hs, ht⟩ := h.world
  refine ⟨⟨e, ?_, ?_⟩, h.ledger, rfl⟩
  · rw [hs, World.setEngine_setEngine]
  · rw [ht, World.setEngine_setEngine]

/-- Both engines take the same step. -/
theorem Twins.advance (h : s.Twins w v k t) (result : Engine × List Event) :
    (s.advance k result).Twins w v k (t.advance k result) := by
  rw [Scene.advance, Scene.advance, h.log]
  exact h.setEngine result.1 _

theorem Twins.update (h : s.Twins w v k t) (hl : w.LooksLike k v)
    (step : Engine → Engine × List Event) :
    (s.update k step).Twins w v k (t.update k step) := by
  rw [Scene.update, Scene.update, (h.looksLike hl).engine]
  cases t.world.engines[k]? with
  | none => exact h
  | some e => exact h.advance (step e)

theorem Twins.setLedger (h : s.Twins w v k t) (ledger : σ) (events : List Event) :
    Twins w v k { s with ledger := ledger, log := events ++ s.log }
      { t with ledger := ledger, log := events ++ t.log } :=
  ⟨h.world, rfl, congrArg (events ++ ·) h.log⟩

/-- Both fetches fail alike, or hand out the same instance. -/
theorem Twins.fetch (h : s.Twins w v k t) (hl : w.LooksLike k v) (id : String) :
    (∃ f, s.fetch k id = .error f ∧ t.fetch k id = .error f) ∨
      ∃ i s' t', s.fetch k id = .ok (i, s') ∧ t.fetch k id = .ok (i, t') ∧ s'.Twins w v k t' := by
  rw [Scene.fetch, Scene.fetch, (h.looksLike hl).engine]
  cases t.world.engines[k]? with
  | none => exact .inl ⟨_, rfl, rfl⟩
  | some e =>
    dsimp only
    cases e.fetch id with
    | error f => exact .inl ⟨f, rfl, rfl⟩
    | ok fetched => exact .inr ⟨_, _, _, rfl, rfl, h.advance _⟩

/-- What is played in both scenes leaves the worlds well formed. -/
theorem SoundTwins.plays (h : s.SoundTwins w v k t) (ht : s'.Twins w v k t') {trace trace' : Trace}
    (hs : s.Plays trace s') (hs' : t.Plays trace' t') : s'.SoundTwins w v k t' :=
  ⟨ht, hs.world.wellFormed h.left, hs'.world.wellFormed h.right⟩

/-- Both calls fail for the same reason, or reach the same contract. -/
theorem SoundTwins.dispatch (h : s.SoundTwins w v k t) (hl : w.LooksLike k v) (ha : a.Wired k)
    (id : String) :
    (∃ f, s.dispatch a id = .error f ∧ t.dispatch a id = .error f) ∨
      ∃ i b s' t', s.dispatch a id = .ok (i, b, s') ∧ t.dispatch a id = .ok (i, b, t') ∧
        s'.SoundTwins w v k t' := by
  have hlooks := h.twins.looksLike hl
  have halike : (∃ f, s.fetchNested a.inFlight k id = .error f ∧
        t.fetchNested a.inFlight k id = .error f) ∨
      ∃ i s' t', s.fetchNested a.inFlight k id = .ok (i, s') ∧
        t.fetchNested a.inFlight k id = .ok (i, t') ∧ s'.Twins w v k t' := by
    rw [fetchNested, fetchNested, hlooks.engine, hlooks.isAlive_eq h.left h.right]
    split
    · cases t.world.engines[k]? with
      | none => exact .inl ⟨_, rfl, rfl⟩
      | some e =>
        dsimp only
        cases e.fetchNested id with
        | error f => exact .inl ⟨f, rfl, rfl⟩
        | ok fetched => exact .inr ⟨_, _, _, rfl, rfl, h.twins.advance _⟩
    · exact .inl ⟨_, rfl, rfl⟩
  rw [dispatch_of_wired ha, dispatch_of_wired ha]
  rcases halike with ⟨f, hs, ht⟩ | ⟨i, s', t', hs, ht, h'⟩
  · rw [hs, ht]
    exact .inl ⟨f, rfl, rfl⟩
  · have hsound := h.plays h' (plays_fetchNested hs) (plays_fetchNested ht)
    rw [hs, ht]
    exact .inr ⟨i, _, s', t', rfl, rfl, hsound⟩

theorem SoundTwins.update (h : s.SoundTwins w v k t) (hl : w.LooksLike k v) (deed : Engine → Deed)
    {step : Engine → Engine × List Event}
    (hstep : ∀ e : Engine, e.Step ⟨deed e, (step e).2⟩ (step e).1) :
    (s.update k step).SoundTwins w v k (t.update k step) :=
  h.plays (h.twins.update hl step) (plays_update s k deed hstep) (plays_update t k deed hstep)

/-- The emulator in focus is the engine `k` in both scenes, or there is none. -/
theorem SoundTwins.onFocus (h : s.SoundTwins w v k t) (hl : w.LooksLike k v) (deed : Engine → Deed)
    {step : Engine → Engine × List Event}
    (hstep : ∀ e : Engine, e.Step ⟨deed e, (step e).2⟩ (step e).1) :
    EndAlike (SoundTwins w v k) (Scene.onFocus step s) (Scene.onFocus step t) := by
  have hlooks := h.twins.looksLike hl
  rw [Scene.onFocus, Scene.onFocus, ← hlooks.focus]
  cases hfocus : s.world.handle? s.world.focus with
  | none => exact .some ⟨rfl, h⟩
  | some j =>
    obtain rfl := hlooks.confined j hfocus
    exact .some ⟨rfl, h.update hl deed hstep⟩

theorem SoundTwins.fetchOnFocus (h : s.SoundTwins w v k t) (hl : w.LooksLike k v) (id : String) :
    EndAlike (SoundTwins w v k) (Scene.fetchOnFocus id s) (Scene.fetchOnFocus id t) := by
  have hlooks := h.twins.looksLike hl
  rw [Scene.fetchOnFocus, Scene.fetchOnFocus, ← hlooks.focus]
  cases hfocus : s.world.handle? s.world.focus with
  | none => exact .some ⟨rfl, h⟩
  | some j =>
    obtain rfl := hlooks.confined j hfocus
    dsimp only
    rcases h.twins.fetch hl id with ⟨f, hs, ht⟩ | ⟨i, s', t', hs, ht, h'⟩
    · rw [hs, ht]
      exact .some ⟨rfl, h⟩
    · have hsound := h.plays h' (plays_fetch hs) (plays_fetch ht)
      rw [hs, ht]
      exact .some ⟨rfl, hsound⟩

/-- There is a handle to clone in both scenes or in none. -/
theorem SoundTwins.keepHandle (h : s.SoundTwins w v k t) (hl : w.LooksLike k v) :
    EndAlike (SoundTwins w v k) (Scene.keepHandle k s) (Scene.keepHandle k t) := by
  rw [Scene.keepHandle, Scene.keepHandle, (h.twins.looksLike hl).hasHandle_eq]
  split
  · exact .some ⟨rfl, h.update hl (fun _ => .keptHandle) fun e => .keepHandle e⟩
  · exact .some ⟨rfl, h⟩

theorem SoundTwins.dropHandle (h : s.SoundTwins w v k t) (hl : w.LooksLike k v) :
    EndAlike (SoundTwins w v k) (Scene.dropHandle k s) (Scene.dropHandle k t) := by
  have hengine := (h.twins.looksLike hl).engine
  rw [Scene.dropHandle, Scene.dropHandle, hengine]
  split
  · next hany =>
    have hs : Scene.dropHandle k s = some (true, s.update k fun e => e.dropHandle) := by
      rw [Scene.dropHandle, hengine, if_pos hany]
    have ht : Scene.dropHandle k t = some (true, t.update k fun e => e.dropHandle) := by
      rw [Scene.dropHandle, if_pos hany]
    exact .some ⟨rfl, h.plays (h.twins.update hl _) (plays_dropHandle hs) (plays_dropHandle ht)⟩
  · exact .some ⟨rfl, h⟩

/-! ## Calls and executions in such worlds -/

variable [Ledger σ] {nested nested' : Nested σ} {argument : Json} {properties : Option Json}

theorem SoundTwins.answer (h : s.SoundTwins w v k t) (hl : w.LooksLike k v) (ha : a.Wired k)
    (hcall : ∀ id argument handed,
      EndAlike (SoundTwins w v k) (nested id argument handed s) (nested' id argument handed t))
    (q : ContractQuery) :
    EndAlike (SoundTwins w v k) (Scene.answer nested a q s) (Scene.answer nested' a q t) := by
  obtain ⟨k', invoker, context, inFlight⟩ := a
  obtain rfl : k' = k := ha.engine
  cases q with
  | context => exact .some ⟨rfl, h⟩
  | call id argument handed => exact hcall id argument handed
  | remember memory =>
    exact .some ⟨rfl, h.plays (h.twins.update hl _) (plays_remember s _ _ memory)
      (plays_remember t _ _ memory)⟩
  | setCertificate identity =>
    exact h.onFocus hl (fun _ => .certified identity) fun e => .certify e identity
  | register artifact => exact h.onFocus hl _ fun e => .register e artifact
  | registerFunction entry => exact h.onFocus hl _ fun e => .registerFunction e entry
  | fetch id => exact h.fetchOnFocus hl id
  | keepHandle => exact h.keepHandle hl
  | dropHandle => exact h.dropHandle hl
  | memory =>
    have hinstance : s.world.instance? k' context.contractId =
        t.world.instance? k' context.contractId :=
      congrArg (Option.bind · _) (h.twins.looksLike hl).engine
    exact .some ⟨congrArg (fun i : Option Instance => (i.map Instance.memory).getD .null) hinstance,
      h⟩
  | ledger call =>
    obtain ⟨w₁, ledger, log⟩ := s
    obtain ⟨w₂, ledger', log'⟩ := t
    obtain rfl : ledger = ledger' := h.twins.ledger
    exact .some ⟨rfl, h.twins.setLedger _ _, h.left, h.right⟩

/-- A nested call ends alike. -/
theorem SoundTwins.callNested {handed : HandedLedger} (h : s.SoundTwins w v k t)
    (hl : w.LooksLike k v) (ha : a.Wired k) :
    EndAlike (SoundTwins w v k) (Scene.callNested depth a id argument handed s)
      (Scene.callNested depth a id argument handed t) := by
  induction depth generalizing a id argument handed s t with
  | zero => exact .none
  | succ depth ih =>
    rw [callNested_succ, callNested_succ]
    rcases h.dispatch hl ha id with ⟨f, hs, ht⟩ | ⟨i, b, s', t', hs, ht, h'⟩
    · rw [hs, ht]
      exact .some ⟨rfl, h⟩
    · have hb := wired_of_dispatch h.left ha hs
      rw [hs, ht]
      exact Program.endAlike_interpret_of_forall
        (fun q s t h => h.answer hl hb (fun _ _ _ => ih h hb) q) _ h'

/-- An instance that is called by the host runs alike. -/
theorem SoundTwins.call (h : s.SoundTwins w v k t) (hl : w.LooksLike k v) {i : Instance}
    (ha : (i.activation k []).Wired k) :
    EndAlike (Twins w v k) (Scene.call depth k i argument properties s)
      (Scene.call depth k i argument properties t) := by
  rw [call_eq_interpret, call_eq_interpret]
  exact EndAlike.mono (Program.endAlike_interpret_of_forall
    (fun q _ _ h => h.answer hl ha (fun _ _ _ => h.callNested hl ha) q) _ h) fun _ _ h => h.twins

theorem SoundTwins.invoke (h : s.SoundTwins w v k t) (hl : w.LooksLike k v) :
    EndAlike (Twins w v k) (Scene.invoke depth k id argument properties s)
      (Scene.invoke depth k id argument properties t) := by
  have hengine := (h.twins.looksLike hl).engine
  have hinstance : s.world.instance? k id = t.world.instance? k id :=
    congrArg (Option.bind · _) hengine
  rw [Scene.invoke, Scene.invoke, hinstance]
  cases hi : t.world.instance? k id with
  | none => exact .some ⟨rfl, h.twins⟩
  | some i =>
    obtain ⟨e, hk, hfind⟩ := Option.bind_eq_some_iff.1 hi
    exact h.call hl ⟨rfl, h.right.invoker_eq hk hfind⟩

variable [Database δ] {database : δ} {functionArgument : Option Json}

omit [Ledger σ] in
/-- The functions that an argument lists do the same. -/
theorem Twins.runFunctions (h : s.Twins w v k t) (hl : w.LooksLike k v) (contractId : String)
    (input : FunctionInput) (database : δ) :
    (Scene.runFunctions k contractId input s database).1 =
        (Scene.runFunctions k contractId input t database).1 ∧
      (Scene.runFunctions k contractId input s database).2.2 =
        (Scene.runFunctions k contractId input t database).2.2 ∧
      (Scene.runFunctions k contractId input s database).2.1.Twins w v k
        (Scene.runFunctions k contractId input t database).2.1 := by
  rw [Scene.runFunctions, Scene.runFunctions]
  cases input.argument.get? functionsKey with
  | none => exact ⟨rfl, rfl, h⟩
  | some list =>
    dsimp only
    cases list.asArr? with
    | none => exact ⟨rfl, rfl, h⟩
    | some entries =>
      dsimp only
      rw [(h.looksLike hl).engine, h.log]
      cases t.world.engines[k]? with
      | none => exact ⟨rfl, rfl, h⟩
      | some e => exact ⟨rfl, rfl, h.setEngine _ _⟩

/-- An execution ends alike. -/
theorem SoundTwins.execute (h : s.SoundTwins w v k t) (hl : w.LooksLike k v) (database : δ) :
    EndAlike (fun x y => x.1.Twins w v k y.1 ∧ x.2 = y.2)
      (s.execute depth k id argument functionArgument database)
      (t.execute depth k id argument functionArgument database) := by
  rcases h.twins.fetch hl id with ⟨f, hs, ht⟩ | ⟨i, s₁, t₁, hs, ht, h₁⟩
  · rw [Scene.execute, Scene.execute, hs, ht]
    exact .some ⟨rfl, h.twins, rfl⟩
  · have hsound := h.plays h₁ (plays_fetch hs) (plays_fetch ht)
    rw [execute_of_fetch hs, execute_of_fetch ht]
    exact (hsound.call hl (wired_of_fetch h.left hs)).finish
      fun _ _ h => h.runFunctions hl id _ database

theorem SoundTwins.perform (h : s.SoundTwins w v k t) (hl : w.LooksLike k v) (task : Task)
    (database : δ) :
    EndAlike (fun x y => x.1.Twins w v k y.1 ∧ x.2 = y.2)
      (Scene.perform depth k task (s, database)) (Scene.perform depth k task (t, database)) := by
  cases task with
  | register artifact =>
    cases artifact with
    | error f => exact .some ⟨rfl, h.twins, rfl⟩
    | ok artifact => exact .some ⟨rfl, h.twins.update hl _, rfl⟩
  | registerFunction entry =>
    cases entry with
    | error f => exact .some ⟨rfl, h.twins, rfl⟩
    | ok entry => exact .some ⟨rfl, h.twins.update hl _, rfl⟩
  | setCertificate identity => exact .some ⟨rfl, h.twins.update hl _, rfl⟩
  | execute id argument functionArgument => exact h.execute hl database

/-- Every errand is done alike. -/
theorem SoundTwins.serve (h : s.SoundTwins w v k t) (hl : w.LooksLike k v) (errand : Errand)
    (database : δ) :
    EndAlike (fun x y => x.1.Twins w v k y.1 ∧ x.2 = y.2) (Scene.serve depth k errand s database)
      (Scene.serve depth k errand t database) := by
  cases errand with
  | perform task =>
    exact (h.perform hl task database).map fun _ _ _ hrel => ⟨rfl, hrel⟩
  | fetch id =>
    rw [Scene.serve, Scene.serve]
    rcases h.twins.fetch hl id with ⟨f, hs, ht⟩ | ⟨i, s', t', hs, ht, h'⟩
    · rw [hs, ht]
      exact .some ⟨rfl, h.twins, rfl⟩
    · rw [hs, ht]
      exact .some ⟨rfl, h', rfl⟩
  | invoke _ id argument properties =>
    exact (h.invoke hl).map fun _ _ _ h' => ⟨rfl, h', rfl⟩

/-! ## Worlds stay well formed -/

variable {database' : δ} {response : Response}

/-- An errand that comes to an end has a trace. -/
theorem exists_plays_of_serve {errand : Errand} (hw : s.world.WellFormed)
    (h : Scene.serve depth k errand s database = some (response, s', database')) :
    ∃ trace, s.Plays trace s' := by
  cases errand with
  | perform task =>
    obtain ⟨⟨outcome, s₁, database₁⟩, hperform, hend⟩ := Option.map_eq_some_iff.1 h
    cases hend
    exact exists_plays_of_perform hw hperform
  | fetch id =>
    unfold Scene.serve at h
    dsimp only at h
    split at h
    · cases h
      exact ⟨[], .refl s⟩
    · next hfetch =>
      cases h
      exact ⟨_, plays_fetch hfetch⟩
  | invoke _ id argument properties =>
    obtain ⟨⟨outcome, s₁⟩, hinvoke, hend⟩ := Option.map_eq_some_iff.1 h
    cases hend
    unfold Scene.invoke at hinvoke
    split at hinvoke
    · cases hinvoke
      exact ⟨[], .refl s⟩
    · obtain ⟨story, -, hgoes⟩ := call_eq_some hinvoke
      exact ⟨story.trace, hgoes.plays⟩

end Scene

/-! ## Orders -/

namespace World

variable {σ δ : Type} [Ledger σ] [Database δ] {w v w' : World} {k depth : Nat} {o o' : Order σ δ}
  {reply : Reply σ δ}

theorem carryOut_wellFormed (hw : w.WellFormed) (h : w.carryOut depth o = some (reply, w')) :
    w'.WellFormed := by
  unfold carryOut at h
  split at h
  · cases h
    exact hw
  · obtain ⟨⟨response, s, database⟩, hserve, hend⟩ := Option.map_eq_some_iff.1 h
    cases hend
    obtain ⟨trace, hplays⟩ := Scene.exists_plays_of_serve ⟨hw.engine, hw.place⟩ hserve
    have hs := hplays.world.wellFormed ⟨hw.engine, hw.place⟩
    exact ⟨hs.engine, hs.place⟩

/-- An engine can be replaced by itself, even if it is not there. -/
theorem exists_setEngine_self (h : w.engines[k]? = v.engines[k]?) :
    ∃ e, w = w.setEngine k e ∧ v = v.setEngine k e := by
  cases hk : w.engines[k]? with
  | some e => exact ⟨e, (setEngine_self hk).symm, (setEngine_self (h.symm.trans hk)).symm⟩
  | none =>
    have hw : w.engines.length ≤ k := List.getElem?_eq_none_iff.1 hk
    have hv : v.engines.length ≤ k := List.getElem?_eq_none_iff.1 (h.symm.trans hk)
    refine ⟨.new k .empty .empty, ?_, ?_⟩
    · rw [setEngine, List.set_eq_of_length_le hw]
    · rw [setEngine, List.set_eq_of_length_le hv]

/-- An order for the engine `k` is carried out alike wherever that engine is the same, whatever
handle leads to it, and it changes that engine and nothing else. -/
theorem carryOut_alike (depth : Nat) (hw : w.WellFormed) (hv : v.WellFormed)
    (hhandles : w.handles = v.handles)
    (hengine : w.engines[k]? = v.engines[k]?) (hsame : o.SameBut w o') (hconfined : o.Confined w)
    (hfor : o.engine? w = some k) :
    EndAlike (fun w' v' => ∃ e, w' = w.setEngine k e ∧ v' = v.setEngine k e) (w.carryOut depth o)
      (v.carryOut depth o') := by
  have hfor' : o'.engine? v = some k := by
    rw [← Order.engine?_congr hhandles, ← hsame.engine?_eq, hfor]
  have hlooks : LooksLike k { w with focus := o.handle } { v with focus := o'.handle } := {
    engine := hengine
    held := by rw [hhandles]
    focus := hsame.handle.trans (by rw [handle?, handle?, hhandles])
    confined := fun j hj => Option.some.inj ((hconfined j hj).symm.trans hfor) }
  have htwins : Scene.Twins { w with focus := o.handle } { v with focus := o'.handle } k
      ⟨{ w with focus := o.handle }, o.ledger, []⟩
      ⟨{ v with focus := o'.handle }, o'.ledger, []⟩ :=
    ⟨exists_setEngine_self hengine, hsame.ledger, rfl⟩
  have hsound := Scene.SoundTwins.mk htwins ⟨hw.engine, hw.place⟩ ⟨hv.engine, hv.place⟩
  rw [carryOut, carryOut, hfor, hfor', ← hsame.errand, ← hsame.database]
  refine (hsound.serve hlooks o.errand o.database).map fun response sd td hrel => ?_
  obtain ⟨s, database⟩ := sd
  obtain ⟨t, database'⟩ := td
  obtain ⟨⟨⟨e, hs, ht⟩, hledger, hlog⟩, rfl⟩ := hrel
  refine ⟨?_, e, ?_, ?_⟩
  · show Reply.mk response s.ledger database s.log.reverse =
      Reply.mk response t.ledger database t.log.reverse
    rw [hledger, hlog]
  · show World.mk s.world.engines w.handles w.focus = _
    rw [hs]
    rfl
  · show World.mk t.world.engines v.handles v.focus = _
    rw [ht]
    rfl

/-- An order changes no handle, and no engine but the one that it is for. -/
theorem carryOut_frame (hw : w.WellFormed) (hconfined : o.Confined w)
    (h : w.carryOut depth o = some (reply, w')) :
    w'.handles = w.handles ∧ ∀ k, o.engine? w ≠ some k → w'.engines[k]? = w.engines[k]? := by
  cases hfor : o.engine? w with
  | none =>
    rw [carryOut, hfor] at h
    cases h
    exact ⟨rfl, fun _ _ => rfl⟩
  | some j =>
    have halike := carryOut_alike depth hw hw rfl rfl (.refl w o) hconfined hfor
    rw [h] at halike
    cases halike with
    | some hrel =>
      obtain ⟨-, e, rfl, -⟩ := hrel
      exact ⟨rfl, fun k hk => getElem?_setEngine_ne (fun hjk => hk (congrArg some hjk)) w e⟩

/-- It does not matter by which handle an engine is reached. -/
theorem carryOut_eq_of_sameBut (hw : w.WellFormed) (hsame : o.SameBut w o')
    (hconfined : o.Confined w) :
    w.carryOut depth o' = w.carryOut depth o := by
  cases hfor : o.engine? w with
  | none =>
    rw [carryOut, carryOut, ← hsame.engine?_eq, hfor, hsame.ledger, hsame.database]
  | some k =>
    have halike := carryOut_alike depth hw hw rfl rfl hsame hconfined hfor
    generalize w.carryOut depth o = x at halike
    generalize w.carryOut depth o' = y at halike
    cases halike with
    | none => rfl
    | some hrel =>
      obtain ⟨hreply, e, hw, hv⟩ := hrel
      exact congrArg some (Prod.ext hreply.symm (hv.trans hw.symm))

/-- What comes of an order depends on the engine that it is for alone. -/
theorem carryOut_local (hw : w.WellFormed) (hv : v.WellFormed) (hhandles : w.handles = v.handles)
    (hengine : w.engines[k]? = v.engines[k]?) (hconfined : o.Confined w)
    (hfor : o.engine? w = some k) (h : w.carryOut depth o = some (reply, w')) :
    ∃ v', v.carryOut depth o = some (reply, v') ∧ w'.handles = v'.handles ∧
      w'.engines[k]? = v'.engines[k]? := by
  have halike := carryOut_alike depth hw hv hhandles hengine (.refl w o) hconfined hfor
  rw [h] at halike
  generalize v.carryOut depth o = y at halike
  cases halike with
  | @some _ yv hrel =>
    obtain ⟨reply', v'⟩ := yv
    obtain ⟨rfl, e, rfl, rfl⟩ := hrel
    exact ⟨_, rfl, hhandles, getElem?_setEngine_congr hengine e⟩

variable {orders orders' : List (Order σ δ)} {records : List (Order σ δ × Reply σ δ)}

theorem carryOutAll_cons_eq_some (h : w.carryOutAll depth (o :: orders) = some (records, w')) :
    ∃ reply w₁ records₁, w.carryOut depth o = some (reply, w₁) ∧
      w₁.carryOutAll depth orders = some (records₁, w') ∧ records = (o, reply) :: records₁ := by
  rw [carryOutAll, Option.bind_eq_some_iff] at h
  obtain ⟨⟨reply, w₁⟩, hfirst, hmore⟩ := h
  obtain ⟨⟨records₁, w₂⟩, hlater, hrecords⟩ := Option.map_eq_some_iff.1 hmore
  cases hrecords
  exact ⟨reply, w₁, records₁, hfirst, hlater, rfl⟩

/-- The orders for an engine are carried out alike without the others. -/
theorem carryOutAll_filter (hw : w.WellFormed) (hv : v.WellFormed)
    (hhandles : w.handles = v.handles) (hengine : w.engines[k]? = v.engines[k]?)
    (hconfined : ∀ o ∈ orders, o.Confined w)
    (h : w.carryOutAll depth orders = some (records, w')) :
    ∃ v', v.carryOutAll depth (orders.filter (Order.isFor w k)) =
        some (records.filter (fun r => r.1.isFor w k), v') ∧
      v'.engines[k]? = w'.engines[k]? := by
  induction orders generalizing w v records with
  | nil =>
    cases h
    exact ⟨v, rfl, hengine.symm⟩
  | cons o orders ih =>
    obtain ⟨ho, hrest⟩ := List.forall_mem_cons.1 hconfined
    obtain ⟨reply, w₁, records₁, hfirst, hlater, rfl⟩ := carryOutAll_cons_eq_some h
    have hw₁ := carryOut_wellFormed hw hfirst
    obtain ⟨hsame, hothers⟩ := carryOut_frame hw ho hfirst
    have hconfined₁ : ∀ o ∈ orders, o.Confined w₁ := fun o hmem => (hrest o hmem).congr hsame.symm
    have hisFor : Order.isFor w₁ k = (Order.isFor w k : Order σ δ → Bool) :=
      Order.isFor_congr hsame k
    cases hfor : o.isFor w k with
    | true =>
      obtain ⟨v₁, hsecond, hhandles₁, hengine₁⟩ :=
        carryOut_local hw hv hhandles hengine ho (eq_of_beq hfor) hfirst
      obtain ⟨v', hrun, hlast⟩ :=
        ih hw₁ (carryOut_wellFormed hv hsecond) hhandles₁ hengine₁ hconfined₁ hlater
      rw [hisFor] at hrun
      refine ⟨v', ?_, hlast⟩
      simp only [List.filter_cons, hfor, ↓reduceIte]
      rw [carryOutAll, hsecond, Option.bind_some]
      dsimp only
      rw [hrun]
      rfl
    | false =>
      have hk : o.engine? w ≠ some k := ne_of_beq_false hfor
      obtain ⟨v', hrun, hlast⟩ := ih hw₁ hv (hsame.trans hhandles) ((hothers k hk).trans hengine)
        hconfined₁ hlater
      rw [hisFor] at hrun
      refine ⟨v', ?_, hlast⟩
      simp only [List.filter_cons, hfor, Bool.false_eq_true, ↓reduceIte]
      exact hrun

theorem replies_cons (depth : Nat) (w : World) (o : Order σ δ) (orders : List (Order σ δ)) :
    w.replies depth (o :: orders) = (w.carryOut depth o).bind fun r =>
      (r.2.replies depth orders).map fun rest => (r.1 :: rest.1, rest.2) := by
  rw [replies, carryOutAll, Option.map_bind]
  refine Option.bind_congr fun r _ => ?_
  rw [replies, Option.map_map]
  exact Option.map_map _ _ _

/-- Replies and worlds stay the same when orders are given through other handles of the same
emulators. -/
theorem replies_eq_of_sameBut (hw : w.WellFormed)
    (hsame : List.Forall₂ (Order.SameBut w) orders orders')
    (hconfined : ∀ o ∈ orders, o.Confined w) :
    w.replies depth orders' = w.replies depth orders := by
  induction orders generalizing w orders' with
  | nil =>
    cases hsame
    rfl
  | cons o orders ih =>
    obtain ⟨ho, hrest⟩ := List.forall_mem_cons.1 hconfined
    cases hsame with
    | cons hfirst hlater =>
      rw [replies_cons, replies_cons, carryOut_eq_of_sameBut hw hfirst ho]
      refine Option.bind_congr fun ⟨reply, w₁⟩ hrun => ?_
      obtain ⟨hw₁, -⟩ := carryOut_frame hw ho hrun
      rw [ih (carryOut_wellFormed hw hrun) (hlater.imp fun o o' h => h.congr hw₁.symm)
        fun o hmem => (hrest o hmem).congr hw₁.symm]

/-- A clone of a handle leads where the handle leads. -/
theorem handle?_clone (w : World) (handle : Nat) :
    (w.clone handle).handle? w.handles.length = (w.clone handle).handle? handle := by
  have hclone : ∀ j, (w.clone handle).handle? j =
      if j = w.handles.length then w.handle? handle else w.handle? j := handle?_of_append rfl
  rw [hclone, hclone, if_pos rfl, ite_self]

/-- Emulators that a host works with in turn have nothing to do with each other. If all orders for
others are left out, the orders for the engine `k` get the same replies and leave the same engine:
the same registrations, instances with their stamps, certificate and functions. And clones share
everything: if orders are given through other handles of the same emulators, such as clones, replies
and engines are the same.

The world of a host is well formed, wherever that has arrived (`Host.Reach.accounts`). -/
theorem orders_isolated (hw : w.WellFormed) (depth : Nat) (orders : List (Order σ δ))
    (hconfined : ∀ o ∈ orders, o.Confined w) :
    (∀ k records w', w.carryOutAll depth orders = some (records, w') →
      ∃ v', w.carryOutAll depth (orders.filter (Order.isFor w k)) =
          some (records.filter (fun r => r.1.isFor w k), v') ∧
        v'.engines[k]? = w'.engines[k]?) ∧
      (∀ orders', List.Forall₂ (Order.SameBut w) orders orders' →
        w.replies depth orders' = w.replies depth orders) ∧
      ∀ handle, (w.clone handle).handle? w.handles.length = (w.clone handle).handle? handle :=
  ⟨fun _ _ _ h => carryOutAll_filter hw hw rfl rfl hconfined h,
    fun _ hsame => replies_eq_of_sameBut hw hsame hconfined, w.handle?_clone⟩

/-- Two emulators that know the same contracts, and a clone of the first one. -/
def sideBySide : World :=
  ((empty.add (.new 0 (.ofList SampleContract.symbols) .empty)).add
    (.new 1 (.ofList SampleContract.symbols) .empty)).clone 0

theorem sideBySide_wellFormed : sideBySide.WellFormed := by
  have hreach : Host.Reach [] ⟨sideBySide, []⟩ :=
    .step (.step (Host.reach_single _ _) (.manage (.create _ _ _))) (.manage (.clone _ 0))
  exact hreach.accounts.wellFormed

/-- An order that comes with an empty ledger and an empty database. -/
def plainOrder (handle : Nat) (errand : Errand) : Order MemoryLedger MemoryDatabase :=
  ⟨handle, errand, MemoryLedger.empty, MemoryDatabase.empty⟩

/-- Both emulators get the contract `probe`. The first one executes it and has its instance called
after the second one has got another certificate. -/
def mixedOrders (handle : Nat) : List (Order MemoryLedger MemoryDatabase) :=
  [plainOrder 0 (.perform (.register (.ok SampleContract.prober))),
   plainOrder 1 (.perform (.register (.ok SampleContract.prober))),
   plainOrder handle (.perform (.execute "probe" (.obj [("do", .arr [])]) none)),
   plainOrder 1 (.perform (.setCertificate ⟨"alice", 2⟩)),
   plainOrder 1 (.fetch "probe"),
   plainOrder handle (.invoke 0 "probe" (.obj [("do", .arr [])]) none)]

/-- The first emulator does without the second one what it does beside it, by its own handle or by
the clone. -/
theorem mixedOrders_isolated : ∃ records w' v',
    sideBySide.carryOutAll 0 (mixedOrders 0) = some (records, w') ∧
      sideBySide.carryOutAll 0 ((mixedOrders 0).filter (Order.isFor sideBySide 0)) =
        some (records.filter (fun r => r.1.isFor sideBySide 0), v') ∧
      v'.engines[0]? = w'.engines[0]? ∧
      sideBySide.replies 0 (mixedOrders 2) = sideBySide.replies 0 (mixedOrders 0) := by
  have hdone : (sideBySide.carryOutAll 0 (mixedOrders 0)).isSome = true := by decide +kernel
  obtain ⟨⟨records, w'⟩, hrun⟩ := Option.isSome_iff_exists.1 hdone
  have hconfined : ∀ o ∈ mixedOrders 0, o.Confined sideBySide := by
    intro o hmem
    refine Order.confined_of_engine? ?_
    simp only [mixedOrders, List.mem_cons, List.not_mem_nil, or_false] at hmem
    rcases hmem with rfl | rfl | rfl | rfl | rfl | rfl <;> rfl
  have hsame : List.Forall₂ (Order.SameBut sideBySide) (mixedOrders 0) (mixedOrders 2) := by
    refine .cons (.refl _ _) (.cons (.refl _ _) (.cons ⟨rfl, rfl, rfl, rfl⟩ (.cons (.refl _ _)
      (.cons (.refl _ _) (.cons ⟨rfl, rfl, rfl, rfl⟩ .nil)))))
  obtain ⟨hfilter, hclones, -⟩ := orders_isolated sideBySide_wellFormed 0 (mixedOrders 0) hconfined
  obtain ⟨v', hfiltered, hengine⟩ := hfilter 0 records w' hrun
  exact ⟨records, w', v', hrun, hfiltered, hengine, hclones _ hsame⟩

end World

end ContractEmulator
