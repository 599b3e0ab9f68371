import ContractEmulator.Engine.World
import ContractEmulator.Proofs.Engine.History

/-!
# Traces

A trace lists, in order, what the engines of a world did and what ledgers and databases announced
meanwhile. Whatever runs in a world, the trace of it accounts for the world and the log after it.

* `World.Plays w trace w'`: the engines of `w` take the turns of the trace, each in its place.
* `Scene.Plays s trace s'`: so do the engines of the scene `s`, and the log grows by the
  announcements of the trace.
* `World.Plays.steps`: each engine takes its own turns and no others.
* `World.WellFormed`: every engine is well formed and stands at its place.
* `Activation.Wired k`: a running contract of the engine `k` that reaches this engine and no other.
  `Scene.wired_of_fetch`, `Scene.wired_of_dispatch`: so it is with every contract that is called.
* `Scene.plays_update`, `Scene.plays_fetch`, `Scene.plays_fetchNested`, `Scene.plays_dispatch`,
  `Scene.plays_call`: the traces of the single operations (`turnMarks`, `fetchMarks`, `nestedMarks`,
  `dispatchMarks`, `callMark`).
-/

namespace ContractEmulator

/-- An entry of a trace. -/
inductive Mark where
  /-- The engine `k` took a turn. -/
  | engine (k : Nat) (turn : Turn)
  /-- A ledger or a database announced something. -/
  | voice (events : List Event)

/-- What happened in a world, in order. -/
abbrev Trace := List Mark

/-- The announcements of an entry. -/
def Mark.events : Mark → List Event
  | .engine _ turn => turn.events
  | .voice events => events

/-- The turn of the engine `k` that an entry tells of, if it does. -/
def Mark.turnOf? (k : Nat) : Mark → Option Turn
  | .engine j turn => if j = k then some turn else none
  | .voice _ => none

namespace Trace

/-- All announcements, in order. -/
def events (trace : Trace) : List Event := trace.flatMap Mark.events

/-- The turns of the engine `k`, in order. -/
def turns (k : Nat) (trace : Trace) : List Turn := trace.filterMap (Mark.turnOf? k)

/-- The deeds of the engine `k`, in order. -/
def deeds (k : Nat) (trace : Trace) : List Deed := (turns k trace).map Turn.deed

theorem events_append (t t' : Trace) : events (t ++ t') = events t ++ events t' :=
  List.flatMap_append

theorem turns_append (k : Nat) (t t' : Trace) : turns k (t ++ t') = turns k t ++ turns k t' :=
  List.filterMap_append

theorem deeds_append (k : Nat) (t t' : Trace) : deeds k (t ++ t') = deeds k t ++ deeds k t' := by
  rw [deeds, turns_append, List.map_append]
  rfl

theorem turns_engine_self (k : Nat) (turn : Turn) (trace : Trace) :
    turns k (.engine k turn :: trace) = turn :: turns k trace := by
  simp [turns, Mark.turnOf?]

theorem turns_engine_ne {j k : Nat} (h : j ≠ k) (turn : Turn) (trace : Trace) :
    turns k (.engine j turn :: trace) = turns k trace := by
  simp [turns, Mark.turnOf?, h]

theorem turns_voice (k : Nat) (events : List Event) (trace : Trace) :
    turns k (.voice events :: trace) = turns k trace :=
  List.filterMap_cons_none rfl

theorem mem_turns {k : Nat} {turn : Turn} {trace : Trace} :
    turn ∈ turns k trace ↔ .engine k turn ∈ trace := by
  rw [turns, List.mem_filterMap]
  constructor
  · rintro ⟨mark, hmem, hturn⟩
    cases mark with
    | engine j turn' =>
      by_cases hj : j = k
      · subst hj
        obtain rfl := Option.some.inj ((if_pos rfl).symm.trans hturn)
        exact hmem
      · cases (if_neg hj).symm.trans hturn
    | voice => cases hturn
  · intro hmem
    exact ⟨_, hmem, if_pos rfl⟩

end Trace

namespace World

/-- The engines of a world take the turns of a trace, each in its place. -/
inductive Plays : World → Trace → World → Prop where
  | nil (w : World) : Plays w [] w
  | engine {w w' : World} {k : Nat} {e e' : Engine} {turn : Turn} {trace : Trace} :
      w.engines[k]? = some e → Engine.Step e turn e' → Plays (w.setEngine k e') trace w' →
      Plays w (.engine k turn :: trace) w'
  | voice {w w' : World} {events : List Event} {trace : Trace} :
      Plays w trace w' → Plays w (.voice events :: trace) w'

variable {w w' w₁ : World} {t t' : Trace} {k : Nat} {e e' : Engine}

theorem getElem?_setEngine (w : World) (j k : Nat) (e : Engine) :
    (w.setEngine j e).engines[k]? =
      if j = k then (if j < w.engines.length then some e else none) else w.engines[k]? :=
  List.getElem?_set

theorem getElem?_setEngine_self (h : w.engines[k]? = some e) (e' : Engine) :
    (w.setEngine k e').engines[k]? = some e' := by
  have hlt : k < w.engines.length := (List.getElem?_eq_some_iff.1 h).1
  rw [getElem?_setEngine, if_pos rfl, if_pos hlt]

theorem getElem?_setEngine_ne {j : Nat} (h : j ≠ k) (w : World) (e : Engine) :
    (w.setEngine j e).engines[k]? = w.engines[k]? := by
  rw [getElem?_setEngine, if_neg h]

theorem setEngine_self (h : w.engines[k]? = some e) : w.setEngine k e = w := by
  obtain ⟨hlt, hget⟩ := List.getElem?_eq_some_iff.1 h
  rw [setEngine, ← hget, List.set_getElem_self]

theorem setEngine_setEngine (w : World) (k : Nat) (e e' : Engine) :
    (w.setEngine k e).setEngine k e' = w.setEngine k e' := by
  rw [setEngine, setEngine, setEngine, List.set_set]

theorem Plays.append (h : w.Plays t w₁) (h' : w₁.Plays t' w') : w.Plays (t ++ t') w' := by
  induction h with
  | nil => exact h'
  | engine hk hstep _ ih => exact .engine hk hstep (ih h')
  | voice _ ih => exact .voice (ih h')

/-- Handles and focus are the business of the host. -/
theorem Plays.handles_eq (h : w.Plays t w') :
    w'.handles = w.handles ∧ w'.focus = w.focus ∧ w'.engines.length = w.engines.length := by
  induction h with
  | nil => exact ⟨rfl, rfl, rfl⟩
  | engine _ _ _ ih =>
    obtain ⟨hh, hf, hl⟩ := ih
    exact ⟨hh, hf, hl.trans List.length_set⟩
  | voice _ ih => exact ih

/-- Each engine takes its own turns and no others. -/
theorem Plays.steps (h : w.Plays t w') (hk : w.engines[k]? = some e) :
    ∃ e', w'.engines[k]? = some e' ∧ e.Steps (Trace.turns k t) e' := by
  induction h generalizing e with
  | nil => exact ⟨e, hk, .nil e⟩
  | @engine w w' j e₀ e₁ turn trace hj hstep _ ih =>
    by_cases hjk : j = k
    · subst hjk
      obtain rfl : e₀ = e := Option.some.inj (hj.symm.trans hk)
      obtain ⟨e', he', hsteps⟩ := ih (getElem?_setEngine_self hj e₁)
      exact ⟨e', he', by rw [Trace.turns_engine_self]; exact .cons hstep hsteps⟩
    · obtain ⟨e', he', hsteps⟩ := ih ((getElem?_setEngine_ne hjk w e₁).trans hk)
      exact ⟨e', he', by rw [Trace.turns_engine_ne hjk]; exact hsteps⟩
  | voice _ ih =>
    obtain ⟨e', he', hsteps⟩ := ih hk
    exact ⟨e', he', by rw [Trace.turns_voice]; exact hsteps⟩

/-- An engine that is not there takes no turns. -/
theorem Plays.turns_eq_nil (h : w.Plays t w') (hk : w.engines.length ≤ k) :
    Trace.turns k t = [] := by
  induction h with
  | nil => rfl
  | @engine w w' j e₀ e₁ turn trace hj _ _ ih =>
    have hlt : j < w.engines.length := (List.getElem?_eq_some_iff.1 hj).1
    have hlen : (w.setEngine j e₁).engines.length = w.engines.length := List.length_set
    rw [Trace.turns_engine_ne (by omega)]
    exact ih (by omega)
  | voice _ ih =>
    rw [Trace.turns_voice]
    exact ih hk

/-- Every engine is well formed and stands at its place. -/
structure WellFormed (w : World) : Prop where
  engine : ∀ {k : Nat} {e : Engine}, w.engines[k]? = some e → e.WellFormed
  place : ∀ {k : Nat} {e : Engine}, w.engines[k]? = some e → e.place = k

/-- What was an engine before is one now, and was led to where it is by its turns. -/
theorem Plays.exists_steps (h : w.Plays t w') (hk' : w'.engines[k]? = some e') :
    ∃ e, w.engines[k]? = some e ∧ e.Steps (Trace.turns k t) e' := by
  have hlt : k < w.engines.length := by
    rw [← h.handles_eq.2.2]
    exact (List.getElem?_eq_some_iff.1 hk').1
  obtain ⟨e₁, hk₁, hsteps⟩ := h.steps (List.getElem?_eq_getElem hlt)
  obtain rfl : e₁ = e' := Option.some.inj (hk₁.symm.trans hk')
  exact ⟨_, List.getElem?_eq_getElem hlt, hsteps⟩

theorem Plays.wellFormed (h : w.Plays t w') (hw : w.WellFormed) : w'.WellFormed where
  engine hk' := by
    obtain ⟨e, hk, hsteps⟩ := h.exists_steps hk'
    exact hsteps.wellFormed (hw.engine hk)
  place hk' := by
    obtain ⟨e, hk, hsteps⟩ := h.exists_steps hk'
    exact hsteps.place_eq.trans (hw.place hk)

/-- A contract that an engine has loaded stays what it was made of. -/
theorem Plays.make_kept {id : String} {i : Instance} (h : w.Plays t w') (hw : w.WellFormed)
    (hk : w.engines[k]? = some e) (hfind : e.loaded.find? id = some i) :
    ∃ e' j, w'.engines[k]? = some e' ∧ e'.loaded.find? id = some j ∧ j.make = i.make := by
  obtain ⟨e', hk', hsteps⟩ := h.steps hk
  obtain ⟨j, hj, hmake⟩ := hsteps.make_kept (hw.engine hk) hfind
  exact ⟨e', j, hk', hj, hmake⟩

/-- A contract that the engine `k` has loaded reaches this engine, by a weak reference. -/
theorem WellFormed.invoker_eq {id : String} {i : Instance} (hw : w.WellFormed)
    (hk : w.engines[k]? = some e) (hfind : e.loaded.find? id = some i) :
    i.invoker = some (.weak k) := by
  rw [(hw.engine hk).loaded_wired hfind, hw.place hk]

end World

/-- A running contract of the engine `k`, which reaches this engine and no other. -/
structure Activation.Wired (a : Activation) (k : Nat) : Prop where
  engine : a.engine = k
  invoker : a.invoker = some (.weak k)

namespace Scene

variable {σ : Type} {s s' s₁ : Scene σ} {t t' : Trace} {k : Nat} {e e' : Engine} {id : String}
  {i : Instance} {f : Failure} {events : List Event} {inFlight : List EngineRef} {a b : Activation}

/-- The trace accounts for what became of the engines and of the log. -/
structure Plays (s : Scene σ) (trace : Trace) (s' : Scene σ) : Prop where
  world : s.world.Plays trace s'.world
  log : s'.log = (Trace.events trace).reverse ++ s.log

theorem Plays.refl (s : Scene σ) : s.Plays [] s := ⟨.nil s.world, rfl⟩

theorem Plays.append (h : s.Plays t s₁) (h' : s₁.Plays t' s') : s.Plays (t ++ t') s' where
  world := h.world.append h'.world
  log := by rw [h'.log, h.log, Trace.events_append, List.reverse_append, List.append_assoc]

theorem plays_voice (s : Scene σ) (ledger : σ) (events : List Event) :
    s.Plays [.voice events] { s with ledger := ledger, log := events.reverse ++ s.log } where
  world := .voice (.nil s.world)
  log := by simp [Trace.events, Mark.events]

/-- One turn of one engine. -/
theorem plays_advance (hk : s.world.engines[k]? = some e) {deed : Deed}
    (hstep : e.Step ⟨deed, events⟩ e') :
    s.Plays [.engine k ⟨deed, events⟩] (s.advance k (e', events)) where
  world := .engine hk hstep (.nil _)
  log := by simp [Trace.events, Mark.events, advance]

/-- A turn that leaves the engine as it is and announces nothing. -/
theorem plays_still (hk : s.world.engines[k]? = some e) {deed : Deed}
    (hstep : e.Step ⟨deed, []⟩ e) : s.Plays [.engine k ⟨deed, []⟩] s := by
  refine ⟨.engine hk hstep ?_, rfl⟩
  rw [World.setEngine_self hk]
  exact .nil _

/-! ## The traces of single operations -/

/-- The trace of a turn of the engine `k`. -/
def turnMarks (s : Scene σ) (k : Nat) (turn : Engine → Turn) : Trace :=
  match s.world.engines[k]? with
  | some e => [.engine k (turn e)]
  | none => []

theorem turnMarks_of_some (hk : s.world.engines[k]? = some e) (turn : Engine → Turn) :
    s.turnMarks k turn = [.engine k (turn e)] := by
  rw [turnMarks, hk]

theorem turnMarks_of_none (hk : s.world.engines[k]? = none) (turn : Engine → Turn) :
    s.turnMarks k turn = [] := by
  rw [turnMarks, hk]

theorem turn_of_mem_turnMarks {turn : Engine → Turn} {j : Nat} {t : Turn}
    (h : .engine j t ∈ s.turnMarks k turn) : ∃ e, t = turn e := by
  unfold turnMarks at h
  split at h
  · next e _ =>
    cases List.mem_singleton.1 h
    exact ⟨e, rfl⟩
  · cases h

theorem plays_update (s : Scene σ) (k : Nat) (deed : Engine → Deed)
    {step : Engine → Engine × List Event}
    (hstep : ∀ e : Engine, e.Step ⟨deed e, (step e).2⟩ (step e).1) :
    s.Plays (s.turnMarks k fun e => ⟨deed e, (step e).2⟩) (s.update k step) := by
  unfold update
  cases hk : s.world.engines[k]? with
  | none =>
    rw [turnMarks_of_none hk]
    exact .refl s
  | some e =>
    rw [turnMarks_of_some hk]
    exact plays_advance hk (hstep e)

/-- The trace of a fetch for a root call. -/
def fetchMarks (s : Scene σ) (k : Nat) (id : String) : Trace :=
  s.turnMarks k fun e =>
    match e.fetch id with
    | .ok (i, _, events) => ⟨.fetched (!e.loaded.contains id) i, events⟩
    | .error f => ⟨.refused id f, []⟩

/-- The trace of a fetch for a nested call. A dead engine is not even asked. -/
def nestedMarks (s : Scene σ) (inFlight : List EngineRef) (k : Nat) (id : String) : Trace :=
  if s.world.isAlive inFlight k then
    s.turnMarks k fun e =>
      match e.fetchNested id with
      | .ok (i, _, events) => ⟨.fetched (!e.loaded.contains id) i, events⟩
      | .error f => ⟨.refused id f, []⟩
  else []

/-- The trace of following a call of another contract. -/
def dispatchMarks (s : Scene σ) (a : Activation) (id : String) : Trace :=
  match a.invoker with
  | some ref => s.nestedMarks a.inFlight ref.engine id
  | none => []

theorem isFetch_of_mem_fetchMarks {j : Nat} {t : Turn} (h : .engine j t ∈ s.fetchMarks k id) :
    t.deed.isFetch = true := by
  obtain ⟨e, rfl⟩ := turn_of_mem_turnMarks h
  split
  · rfl
  · rfl

theorem isFetch_of_mem_nestedMarks {j : Nat} {t : Turn}
    (h : .engine j t ∈ s.nestedMarks inFlight k id) : t.deed.isFetch = true := by
  unfold nestedMarks at h
  split at h
  · obtain ⟨e, rfl⟩ := turn_of_mem_turnMarks h
    split
    · rfl
    · rfl
  · cases h

theorem isFetch_of_mem_dispatchMarks {j : Nat} {t : Turn}
    (h : .engine j t ∈ s.dispatchMarks a id) : t.deed.isFetch = true := by
  unfold dispatchMarks at h
  split at h
  · exact isFetch_of_mem_nestedMarks h
  · cases h

theorem fetch_eq_ok (h : s.fetch k id = .ok (i, s')) :
    ∃ e e' events, s.world.engines[k]? = some e ∧ e.fetch id = .ok (i, e', events) ∧
      s' = s.advance k (e', events) := by
  unfold fetch at h
  split at h
  · cases h
  · next e hk =>
    split at h
    · cases h
    · next hfetch =>
      cases h
      exact ⟨e, _, _, hk, hfetch, rfl⟩

theorem fetch_eq_error (h : s.fetch k id = .error f) :
    (s.world.engines[k]? = none ∧ f = .emulatorGone) ∨
      ∃ e, s.world.engines[k]? = some e ∧ e.fetch id = .error f := by
  unfold fetch at h
  split at h
  · next hk =>
    cases h
    exact .inl ⟨hk, rfl⟩
  · next e hk =>
    split at h
    · next hfetch =>
      cases h
      exact .inr ⟨e, hk, hfetch⟩
    · cases h

theorem fetchNested_eq_ok (h : s.fetchNested inFlight k id = .ok (i, s')) :
    s.world.isAlive inFlight k = true ∧ ∃ e e' events, s.world.engines[k]? = some e ∧
      e.fetchNested id = .ok (i, e', events) ∧ s' = s.advance k (e', events) := by
  unfold fetchNested at h
  split at h
  · next halive =>
    split at h
    · cases h
    · next e hk =>
      split at h
      · cases h
      · next hfetch =>
        cases h
        exact ⟨halive, e, _, _, hk, hfetch, rfl⟩
  · cases h

theorem fetchNested_eq_error (h : s.fetchNested inFlight k id = .error f) :
    ((s.world.isAlive inFlight k = false ∨ s.world.engines[k]? = none) ∧ f = .emulatorGone) ∨
      ∃ e, s.world.isAlive inFlight k = true ∧ s.world.engines[k]? = some e ∧
        e.fetch id = .error f := by
  unfold fetchNested at h
  split at h
  · next halive =>
    split at h
    · next hk =>
      cases h
      exact .inl ⟨.inr hk, rfl⟩
    · next e hk =>
      split at h
      · next hfetch =>
        cases h
        exact .inr ⟨e, halive, hk, Engine.fetchNested_eq_error_iff.1 hfetch⟩
      · cases h
  · next halive =>
    cases h
    exact .inl ⟨.inl (Bool.not_eq_true _ ▸ halive), rfl⟩

/-- A call of another contract that finds one has fetched it by way of the invoker. -/
theorem dispatch_eq_ok (h : s.dispatch a id = .ok (i, b, s')) :
    ∃ ref, a.invoker = some ref ∧ s.fetchNested a.inFlight ref.engine id = .ok (i, s') ∧
      b = i.activation ref.engine (.strong ref.engine :: a.inFlight) := by
  unfold dispatch at h
  split at h
  · cases h
  · next ref href =>
    split at h
    · cases h
    · next hfetch =>
      cases h
      exact ⟨ref, href, hfetch, rfl⟩

theorem dispatch_eq_error (h : s.dispatch a id = .error f) :
    (a.invoker = none ∧ f = .emulatorGone) ∨
      ∃ ref, a.invoker = some ref ∧ s.fetchNested a.inFlight ref.engine id = .error f := by
  unfold dispatch at h
  split at h
  · next hnone =>
    cases h
    exact .inl ⟨hnone, rfl⟩
  · next ref href =>
    split at h
    · next hfetch =>
      cases h
      exact .inr ⟨ref, href, hfetch⟩
    · cases h

/-- The calls of a contract of the engine `k` go to the engine `k`. -/
theorem dispatch_of_wired (ha : a.Wired k) (s : Scene σ) (id : String) :
    s.dispatch a id = (s.fetchNested a.inFlight k id).map fun (i, s) =>
      (i, i.activation k (.strong k :: a.inFlight), s) := by
  unfold dispatch
  rw [ha.invoker]
  dsimp only [EngineRef.engine]
  cases s.fetchNested a.inFlight k id <;> rfl

theorem fetchNested_of_dispatch (ha : a.Wired k) (h : s.dispatch a id = .ok (i, b, s')) :
    s.fetchNested a.inFlight k id = .ok (i, s') ∧
      b = i.activation k (.strong k :: a.inFlight) := by
  obtain ⟨ref, href, hfetch, rfl⟩ := dispatch_eq_ok h
  obtain rfl : ref = .weak k := Option.some.inj (href.symm.trans ha.invoker)
  exact ⟨hfetch, rfl⟩

theorem plays_fetch (h : s.fetch k id = .ok (i, s')) : s.Plays (s.fetchMarks k id) s' := by
  obtain ⟨e, e', events, hk, hfetch, rfl⟩ := fetch_eq_ok h
  rw [fetchMarks, turnMarks_of_some hk, hfetch]
  exact plays_advance hk (.fetch hfetch)

theorem plays_fetchNested (h : s.fetchNested inFlight k id = .ok (i, s')) :
    s.Plays (s.nestedMarks inFlight k id) s' := by
  obtain ⟨halive, e, e', events, hk, hfetch, rfl⟩ := fetchNested_eq_ok h
  rw [nestedMarks, if_pos halive, turnMarks_of_some hk, hfetch]
  exact plays_advance hk (.fetchNested hfetch)

/-- A fetch that fails leaves the scene as it was. -/
theorem plays_fetch_error (h : s.fetch k id = .error f) : s.Plays (s.fetchMarks k id) s := by
  rcases fetch_eq_error h with ⟨hk, -⟩ | ⟨e, hk, hfetch⟩
  · rw [fetchMarks, turnMarks_of_none hk]
    exact .refl s
  · rw [fetchMarks, turnMarks_of_some hk, hfetch]
    exact plays_still hk (.refuse hfetch)

theorem plays_fetchNested_error (h : s.fetchNested inFlight k id = .error f) :
    s.Plays (s.nestedMarks inFlight k id) s := by
  rcases fetchNested_eq_error h with ⟨hdead | hk, -⟩ | ⟨e, halive, hk, hfetch⟩
  · have hmarks : s.nestedMarks inFlight k id = [] := by simp [nestedMarks, hdead]
    rw [hmarks]
    exact .refl s
  · have hmarks : s.nestedMarks inFlight k id = [] := by simp [nestedMarks, turnMarks_of_none hk]
    rw [hmarks]
    exact .refl s
  · rw [nestedMarks, if_pos halive, turnMarks_of_some hk,
      Engine.fetchNested_eq_error_iff.2 hfetch]
    exact plays_still hk (.refuse hfetch)

theorem plays_dispatch (h : s.dispatch a id = .ok (i, b, s')) :
    s.Plays (s.dispatchMarks a id) s' := by
  obtain ⟨ref, href, hfetch, rfl⟩ := dispatch_eq_ok h
  rw [dispatchMarks, href]
  exact plays_fetchNested hfetch

theorem plays_dispatch_error (h : s.dispatch a id = .error f) :
    s.Plays (s.dispatchMarks a id) s := by
  rcases dispatch_eq_error h with ⟨hnone, -⟩ | ⟨ref, href, hfetch⟩
  · rw [dispatchMarks, hnone]
    exact .refl s
  · rw [dispatchMarks, href]
    exact plays_fetchNested_error hfetch

/-- An engine keeps what it hands out. -/
theorem kept_of_fetch (h : s.fetch k id = .ok (i, s')) :
    ∃ e, s'.world.engines[k]? = some e ∧ e.loaded.find? i.id = some i := by
  obtain ⟨e, e', events, hk, hfetch, rfl⟩ := fetch_eq_ok h
  obtain rfl := Engine.eq_keep_of_fetch hfetch
  exact ⟨_, World.getElem?_setEngine_self hk _, by rw [Engine.find?_keep, if_pos rfl]⟩

theorem kept_of_fetchNested (h : s.fetchNested inFlight k id = .ok (i, s')) :
    ∃ e, s'.world.engines[k]? = some e ∧ e.loaded.find? i.id = some i := by
  obtain ⟨-, e, e', events, hk, hfetch, rfl⟩ := fetchNested_eq_ok h
  obtain rfl := Engine.eq_keep_of_fetchNested hfetch
  exact ⟨_, World.getElem?_setEngine_self hk _, by rw [Engine.find?_keep, if_pos rfl]⟩

/-- A root call sees the id that was fetched, its role, and the certificate in force. -/
theorem context_of_fetch (hw : s.world.WellFormed) (hk : s.world.engines[k]? = some e)
    (h : s.fetch k id = .ok (i, s')) : i.context = ⟨id, true, e.certificate⟩ := by
  obtain ⟨e₀, e', events, hk₀, hfetch, rfl⟩ := fetch_eq_ok h
  obtain rfl : e₀ = e := Option.some.inj (hk₀.symm.trans hk)
  obtain ⟨j, event, hob, rfl, -⟩ := Engine.fetch_eq_ok hfetch
  have hid : j.id = id := (hw.engine hk).id_of_obtain hob
  rw [← hid]
  rfl

/-- So does a nested call. -/
theorem context_of_fetchNested (hw : s.world.WellFormed) (hk : s.world.engines[k]? = some e)
    (h : s.fetchNested inFlight k id = .ok (i, s')) : i.context = ⟨id, false, e.certificate⟩ := by
  obtain ⟨-, e₀, e', events, hk₀, hfetch, rfl⟩ := fetchNested_eq_ok h
  obtain rfl : e₀ = e := Option.some.inj (hk₀.symm.trans hk)
  obtain ⟨j, event, hob, rfl, -⟩ := Engine.fetchNested_eq_ok hfetch
  have hid : j.id = id := (hw.engine hk).id_of_obtain hob
  rw [← hid]
  rfl

theorem kept_of_dispatch (h : s.dispatch a id = .ok (i, b, s')) :
    ∃ e, s'.world.engines[b.engine]? = some e ∧ e.loaded.find? i.id = some i := by
  obtain ⟨ref, -, hfetch, rfl⟩ := dispatch_eq_ok h
  exact kept_of_fetchNested hfetch

theorem wired_of_kept (hw : s.world.WellFormed)
    (hkept : ∃ e, s.world.engines[k]? = some e ∧ e.loaded.find? i.id = some i)
    (inFlight : List EngineRef) : (i.activation k inFlight).Wired k := by
  obtain ⟨e, hk, hfind⟩ := hkept
  exact ⟨rfl, hw.invoker_eq hk hfind⟩

/-- A contract that is called reaches the engine that has loaded it. -/
theorem wired_of_fetch (hw : s.world.WellFormed) (h : s.fetch k id = .ok (i, s')) :
    (i.activation k []).Wired k :=
  wired_of_kept ((plays_fetch h).world.wellFormed hw) (kept_of_fetch h) []

theorem wired_of_dispatch (hw : s.world.WellFormed) (ha : a.Wired k)
    (h : s.dispatch a id = .ok (i, b, s')) : b.Wired k := by
  obtain ⟨hfetch, rfl⟩ := fetchNested_of_dispatch ha h
  exact wired_of_kept ((plays_fetchNested hfetch).world.wellFormed hw)
    (kept_of_fetchNested hfetch) _

/-- The start of the logic of an instance, with the properties of the instance. -/
def callMark (k : Nat) (i : Instance) (argument : Json) : Mark :=
  .engine k ⟨.called i argument i.properties, []⟩

theorem plays_call (hkept : ∃ e, s.world.engines[k]? = some e ∧ e.loaded.find? i.id = some i)
    (argument : Json) : s.Plays [callMark k i argument] s := by
  obtain ⟨e, hk, hfind⟩ := hkept
  exact plays_still hk (.call hfind)

/-! ## The traces of what contracts ask of their emulators -/

/-- The trace of a turn of the emulator in focus. -/
def focusMarks (s : Scene σ) (turn : Engine → Turn) : Trace :=
  match s.world.handle? s.world.focus with
  | some k => s.turnMarks k turn
  | none => []

theorem turn_of_mem_focusMarks {turn : Engine → Turn} {j : Nat} {t : Turn}
    (h : .engine j t ∈ s.focusMarks turn) : ∃ e, t = turn e := by
  unfold focusMarks at h
  split at h
  · exact turn_of_mem_turnMarks h
  · cases h

theorem plays_onFocus (deed : Engine → Deed) {step : Engine → Engine × List Event}
    {a : Except Failure Unit} (hstep : ∀ e : Engine, e.Step ⟨deed e, (step e).2⟩ (step e).1)
    (h : onFocus step s = some (a, s')) :
    s.Plays (s.focusMarks fun e => ⟨deed e, (step e).2⟩) s' := by
  unfold onFocus at h
  unfold focusMarks
  cases hfocus : s.world.handle? s.world.focus with
  | some k =>
    rw [hfocus] at h
    cases h
    exact plays_update s k deed hstep
  | none =>
    rw [hfocus] at h
    cases h
    exact .refl s

/-- The trace of a fetch from the emulator in focus. -/
def focusFetchMarks (s : Scene σ) (id : String) : Trace :=
  match s.world.handle? s.world.focus with
  | some k => s.fetchMarks k id
  | none => []

theorem isFetch_of_mem_focusFetchMarks {j : Nat} {t : Turn}
    (h : .engine j t ∈ s.focusFetchMarks id) : t.deed.isFetch = true := by
  unfold focusFetchMarks at h
  split at h
  · exact isFetch_of_mem_fetchMarks h
  · cases h

theorem plays_fetchOnFocus {a : Except Failure Stamp} (h : fetchOnFocus id s = some (a, s')) :
    s.Plays (s.focusFetchMarks id) s' := by
  unfold fetchOnFocus at h
  unfold focusFetchMarks
  cases hfocus : s.world.handle? s.world.focus with
  | some k =>
    rw [hfocus] at h
    dsimp only at h
    split at h
    · next hfetch =>
      cases h
      exact plays_fetch hfetch
    · next hfetch =>
      cases h
      exact plays_fetch_error hfetch
  | none =>
    rw [hfocus] at h
    cases h
    exact .refl s

/-- The trace of a new memory. An instance that is not loaded has none to replace. -/
def rememberMarks (s : Scene σ) (k : Nat) (id : String) (memory : Json) : Trace :=
  match s.world.instance? k id with
  | some _ => [.engine k ⟨.remembered id memory, []⟩]
  | none => []

theorem turn_of_mem_rememberMarks {memory : Json} {j : Nat} {t : Turn}
    (h : .engine j t ∈ s.rememberMarks k id memory) : t = ⟨.remembered id memory, []⟩ := by
  unfold rememberMarks at h
  split at h
  · cases List.mem_singleton.1 h
    rfl
  · cases h

theorem plays_remember (s : Scene σ) (k : Nat) (id : String) (memory : Json) :
    s.Plays (s.rememberMarks k id memory)
      (s.update k fun e => (e.setMemory id memory, [])) := by
  unfold rememberMarks World.instance? update
  cases hk : s.world.engines[k]? with
  | none => exact .refl s
  | some e =>
    rw [Option.bind_some]
    cases hfind : e.loaded.find? id with
    | some i => exact plays_advance hk (.remember hfind)
    | none =>
      have hsame : e.setMemory id memory = e := by rw [Engine.setMemory, hfind]
      dsimp only
      rw [hsame, advance, World.setEngine_self hk]
      exact .refl s

/-- The trace of keeping a handle. Without a handle there is none to clone. -/
def keepMarks (s : Scene σ) (k : Nat) : Trace :=
  if s.world.hasHandle k then s.turnMarks k fun _ => ⟨.keptHandle, []⟩ else []

theorem plays_keepHandle {kept : Bool} (h : keepHandle k s = some (kept, s')) :
    s.Plays (s.keepMarks k) s' := by
  unfold keepHandle at h
  unfold keepMarks
  split at h
  · next hhas =>
    rw [if_pos hhas]
    cases h
    exact plays_update s k (fun _ => .keptHandle) fun e => .keepHandle e
  · next hhas =>
    rw [if_neg hhas]
    cases h
    exact .refl s

/-- The trace of dropping a handle that is kept. -/
def dropMarks (s : Scene σ) (k : Nat) : Trace :=
  if s.world.engines[k]?.any (fun e => decide (0 < e.kept)) then [.engine k ⟨.droppedHandle, []⟩]
  else []

theorem plays_dropHandle {dropped : Bool} (h : dropHandle k s = some (dropped, s')) :
    s.Plays (s.dropMarks k) s' := by
  unfold dropHandle at h
  unfold dropMarks
  split at h
  · next hany =>
    rw [if_pos hany]
    cases h
    obtain ⟨e, hk, hkept⟩ := (Option.any_eq_true _ _).1 hany
    rw [update, hk]
    exact plays_advance hk (.dropHandle (of_decide_eq_true hkept))
  · next hany =>
    rw [if_neg hany]
    cases h
    exact .refl s

theorem turn_of_mem_keepMarks {j : Nat} {t : Turn} (h : .engine j t ∈ s.keepMarks k) :
    t = ⟨.keptHandle, []⟩ := by
  unfold keepMarks at h
  split at h
  · obtain ⟨-, rfl⟩ := turn_of_mem_turnMarks h
    rfl
  · cases h

theorem turn_of_mem_dropMarks {j : Nat} {t : Turn} (h : .engine j t ∈ s.dropMarks k) :
    t = ⟨.droppedHandle, []⟩ := by
  unfold dropMarks at h
  split at h
  · cases List.mem_singleton.1 h
    rfl
  · cases h

end Scene

end ContractEmulator
