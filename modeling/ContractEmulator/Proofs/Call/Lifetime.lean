import ContractEmulator.Proofs.Call.Held
import ContractEmulator.Proofs.Lockstep
import ContractEmulator.Proofs.World.Handles

/-!
# Instances that outlive their emulator

An instance that a host holds can be called as long as the host likes. It reaches its emulator by a
weak reference, so it can call other contracts only as long as something else keeps the emulator
alive: a handle, or a call on its way.

* `Scene.Fares gone depth a id argument handed s`: what becomes of a call that the running contract
  `a` makes in the scene `s`, depending on whether its emulator is gone.
* `Story.SparesCallees`: no contract that was called has found the emulator gone.
* `Host.HeldCalls`, `Host.Lives.held_calls`: calls of a held instance run its logic under its stamp,
  and the calls that it makes in turn fare as they should, whenever they are made.
-/

namespace ContractEmulator

/-- The contract, and whatever it calls, always finds the emulator. -/
def Story.NeverGone : Story → Prop
  | .finished _ => True
  | .asked _ _ _ rest => rest.NeverGone
  | .refused _ _ _ f _ rest => f ≠ .emulatorGone ∧ rest.NeverGone
  | .called _ _ _ _ _ inner rest => inner.NeverGone ∧ rest.NeverGone

/-- Whatever the contract calls always finds the emulator. -/
def Story.SparesCallees : Story → Prop
  | .finished _ => True
  | .asked _ _ _ rest => rest.SparesCallees
  | .refused _ _ _ _ _ rest => rest.SparesCallees
  | .called _ _ _ _ _ inner rest => inner.NeverGone ∧ rest.SparesCallees

/-- No handle is kept where there was none and none was asked for. -/
theorem Engine.Steps.kept_eq_zero {e e' : Engine} {turns : List Turn} (h : e.Steps turns e')
    (h0 : e.kept = 0) (hn : ∀ turn ∈ turns, turn.deed ≠ .keptHandle) : e'.kept = 0 := by
  induction h with
  | nil => exact h0
  | cons hstep _ ih =>
    refine ih ?_ fun turn hmem => hn turn (List.mem_cons_of_mem _ hmem)
    have hturn := hn _ List.mem_cons_self
    rw [hstep.kept_eq, h0]
    generalize Turn.deed _ = deed at hturn ⊢
    cases deed with
    | keptHandle => exact absurd rfl hturn
    | _ => rfl

namespace Scene

variable {σ : Type} {k depth : Nat} {a b : Activation} {s s' s₁ : Scene σ} {id : String}
  {argument : Json} {handed : HandedLedger} {e : Engine} {gone : Prop}

/-! ## Calls of other contracts -/

/-- What becomes of a call that the running contract `a` makes, at most `depth + 1` calls deep, if
its emulator is `gone` or not. -/
structure Fares [Ledger σ] (gone : Prop) (depth : Nat) (a : Activation) (id : String)
    (argument : Json) (handed : HandedLedger) (s : Scene σ) : Prop where
  /-- There is no callee for want of an emulator exactly if the emulator is gone. -/
  refused_iff : s.dispatch a id = .error .emulatorGone ↔ gone
  /-- Then the caller is told so, no callee runs, and everything stays as it was: the ledger, and
  all emulators with their instances and the stamps of these. -/
  unavailable : gone →
    callNested (depth + 1) a id argument handed s = some ((.error .emulatorGone, handed.state), s)
  /-- Otherwise the callee runs and the caller is told how that ended, unless there is no callee for
  another reason. -/
  available : ¬gone →
    (∃ f, f.OfFetch id ∧ s.dispatch a id = .error f ∧
        callNested (depth + 1) a id argument handed s = some ((.error f, handed.state), s)) ∨
      ∃ callee b s₁, s.dispatch a id = .ok (callee, b, s₁) ∧
        callNested (depth + 1) a id argument handed s =
          run (callNested depth b) b callee argument callee.properties handed s₁
  /-- If the caller is told that the emulator is gone, then it is, or the callee has run and has
  returned this failure itself. -/
  told_iff : ∀ state s',
    callNested (depth + 1) a id argument handed s = some ((.error .emulatorGone, state), s') ↔
      (gone ∧ state = handed.state ∧ s' = s) ∨
        ∃ callee b s₁, s.dispatch a id = .ok (callee, b, s₁) ∧
          run (callNested depth b) b callee argument callee.properties handed s₁ =
            some ((.error .emulatorGone, state), s')

/-- A call fares as it should, depending on whether its emulator is alive. -/
theorem fares [Ledger σ] (hgone : s.world.isAlive a.inFlight k = false ↔ gone) (ha : a.Wired k)
    (hk : s.world.engines[k]? = some e) : Fares gone depth a id argument handed s := by
  have hrefused : s.dispatch a id = .error .emulatorGone ↔ gone :=
    (dispatch_eq_gone_iff ha hk id).trans hgone
  refine ⟨hrefused, fun h => ?_, fun h => ?_, fun state s' => ?_⟩
  · rw [callNested_succ, hrefused.2 h]
  · rw [callNested_succ]
    cases hdispatch : s.dispatch a id with
    | error f =>
      have halive : s.world.isAlive a.inFlight k = true := Bool.not_eq_false _ ▸ mt hgone.1 h
      exact .inl ⟨f, dispatch_failure ha hk halive hdispatch, rfl, rfl⟩
    | ok called =>
      obtain ⟨callee, b, s₁⟩ := called
      exact .inr ⟨callee, b, s₁, rfl, rfl⟩
  · rw [callNested_succ]
    cases hdispatch : s.dispatch a id with
    | error f =>
      rw [hdispatch] at hrefused
      constructor
      · intro hrun
        cases hrun
        exact .inl ⟨hrefused.1 rfl, rfl, rfl⟩
      · rintro (⟨h, rfl, rfl⟩ | ⟨_, _, _, hok, -⟩)
        · obtain rfl := Except.error.inj (hrefused.2 h)
          rfl
        · cases hok
    | ok called =>
      obtain ⟨callee, b, s₁⟩ := called
      rw [hdispatch] at hrefused
      constructor
      · exact fun hrun => .inr ⟨callee, b, s₁, rfl, hrun⟩
      · rintro (⟨h, -, -⟩ | ⟨_, _, _, hok, hrun⟩)
        · cases hrefused.2 h
        · cases hok
          exact hrun

/-! ## Calls on their way -/

/-- A contract that was called holds the emulator by the call that led to it. -/
theorem mem_inFlight_of_dispatch {callee : Instance} (ha : a.Wired k)
    (h : s.dispatch a id = .ok (callee, b, s₁)) : .strong k ∈ b.inFlight := by
  obtain ⟨-, rfl⟩ := fetchNested_of_dispatch ha h
  exact List.mem_cons_self

variable [Ledger σ] {p : ContractProgram} {story : Story}

/-- As long as the call is on its way that led to a contract, this finds the emulator, and so does
whatever it calls. -/
theorem Goes.neverGone (h : Goes a p s story s') (ha : a.Wired k)
    (hflight : .strong k ∈ a.inFlight) (hw : s.world.WellFormed)
    (hk : s.world.engines[k]? = some e) : story.NeverGone := by
  induction h generalizing e with
  | done => trivial
  | ask hans _ ih =>
    have hplays := plays_answer hans
    obtain ⟨e₁, hk₁, -⟩ := hplays.world.steps hk
    exact ih ha hflight (hplays.world.wellFormed hw) hk₁
  | @refuse _ _ _ _ _ _ _ s _ hdispatch _ ih =>
    have halive := s.world.isAlive_of_mem_inFlight hflight
    exact ⟨(dispatch_failure ha hk halive hdispatch).ne_gone, ih ha hflight hw hk⟩
  | call hdispatch hinner _ ihinner ihrest =>
    have hdispatched := plays_dispatch hdispatch
    have hw₁ := hdispatched.world.wellFormed hw
    obtain ⟨e₁, hk₁, -⟩ := hdispatched.world.steps hk
    obtain ⟨e₂, hk₂, -⟩ := hinner.plays.world.steps hk₁
    exact ⟨ihinner (wired_of_dispatch hw ha hdispatch) (mem_inFlight_of_dispatch ha hdispatch) hw₁
        hk₁,
      ihrest ha hflight (hinner.plays.world.wellFormed hw₁) hk₂⟩

/-- Whatever a contract calls finds the emulator. -/
theorem Goes.sparesCallees (h : Goes a p s story s') (ha : a.Wired k) (hw : s.world.WellFormed)
    (hk : s.world.engines[k]? = some e) : story.SparesCallees := by
  induction h generalizing e with
  | done => trivial
  | ask hans _ ih =>
    have hplays := plays_answer hans
    obtain ⟨e₁, hk₁, -⟩ := hplays.world.steps hk
    exact ih ha (hplays.world.wellFormed hw) hk₁
  | refuse _ _ ih => exact ih ha hw hk
  | call hdispatch hinner _ _ ihrest =>
    have hdispatched := plays_dispatch hdispatch
    have hw₁ := hdispatched.world.wellFormed hw
    obtain ⟨e₁, hk₁, -⟩ := hdispatched.world.steps hk
    obtain ⟨e₂, hk₂, -⟩ := hinner.plays.world.steps hk₁
    exact ⟨hinner.neverGone (wired_of_dispatch hw ha hdispatch)
        (mem_inFlight_of_dispatch ha hdispatch) hw₁ hk₁,
      ihrest ha (hinner.plays.world.wellFormed hw₁) hk₂⟩

/-! ## Without an emulator -/

/-- A contract gets an answer to every question, except to a call that goes too deep. -/
theorem isSome_answer {nested : Nested σ} {q : ContractQuery}
    (hcall : ∀ id argument handed, q = .call id argument handed →
      (nested id argument handed s).isSome = true) : (answer nested a q s).isSome = true := by
  have hanswer := exists_answer (q := q) nested a s
  cases q with
  | call id argument handed => exact hcall id argument handed rfl
  | ledger call => rfl
  | _ =>
    obtain ⟨reply, s₁, hans, -⟩ := hanswer (by rintro _ ⟨⟩) (by rintro _ _ _ ⟨⟩)
    rw [hans]
    rfl

/-- A contract without an emulator makes no handle of it, whatever it asks. -/
theorem hasHandle_answer {q : ContractQuery} {reply : q.Answer} (ha : a.Wired k)
    (hk : s.world.engines[k]? = some e) (hnone : s.world.hasHandle k = false)
    (h : answer silent a q s = some (reply, s₁)) : s₁.world.hasHandle k = false := by
  have hplays := (plays_answer h).world
  obtain ⟨e₁, hk₁, hsteps⟩ := hplays.steps hk
  rw [← Bool.not_eq_true, World.hasHandle_iff, not_or] at hnone ⊢
  obtain ⟨hhost, hkept⟩ := hnone
  refine ⟨hplays.handles_eq.1 ▸ hhost, ?_⟩
  have hzero : e.kept = 0 := Nat.eq_zero_of_not_pos fun hpos => hkept ⟨e, hk, hpos⟩
  have hnokeep : ∀ turn ∈ Trace.turns k (s.marks a q), turn.deed ≠ .keptHandle := by
    intro turn hmem hdeed
    have hmark := Trace.mem_turns.1 hmem
    obtain rfl : ContractQuery.keepHandle = q := (deed_of_mem_marks hmark).2 _ (by rw [hdeed]; rfl)
    have hnomarks : s.keepMarks a.engine = [] := by
      rw [keepMarks, ha.engine, if_neg]
      rw [World.hasHandle_iff, not_or]
      exact ⟨hhost, hkept⟩
    have hin : .engine k turn ∈ s.keepMarks a.engine := hmark
    rw [hnomarks] at hin
    cases hin
  rintro ⟨e', hk', hpos⟩
  obtain rfl : e' = e₁ := Option.some.inj (hk'.symm.trans hk₁)
  rw [hsteps.kept_eq_zero hzero hnokeep] at hpos
  exact Nat.lt_irrefl 0 hpos

/-- So the program of a contract without an emulator comes to an end. -/
theorem isSome_interpret (ha : a.Wired k) (hflight : .strong k ∉ a.inFlight)
    (hw : s.world.WellFormed) (hk : s.world.engines[k]? = some e)
    (hnone : s.world.hasHandle k = false) {ρ : Type} (p : Program ContractQuery.Answer ρ) :
    (Program.interpret (answer (callNested (depth + 1) a) a) p s).isSome = true := by
  induction p generalizing s e with
  | done => rfl
  | ask q next ih =>
    have hgone : ∀ id, s.dispatch a id = .error .emulatorGone := by
      intro id
      rw [dispatch_eq_gone_iff ha hk, ← Bool.not_eq_true, hw.isAlive_iff, not_or]
      exact ⟨Bool.eq_false_iff.1 hnone, hflight⟩
    have hrefused : ∀ id argument handed, callNested (depth + 1) a id argument handed s =
        some ((.error .emulatorGone, handed.state), s) := by
      intro id argument handed
      rw [callNested_succ, hgone]
    have hsome : (answer (callNested (depth + 1) a) a q s).isSome = true := by
      refine isSome_answer fun id argument handed _ => ?_
      rw [hrefused]
      rfl
    obtain ⟨⟨reply, s₁⟩, hans⟩ := Option.isSome_iff_exists.1 hsome
    obtain ⟨t, hplays⟩ := exists_plays_of_answer hans
    obtain ⟨e₁, hk₁, -⟩ := hplays.world.steps hk
    have hnone₁ : s₁.world.hasHandle k = false := by
      cases q with
      | call id argument handed =>
        cases (hrefused id argument handed).symm.trans hans
        exact hnone
      | _ =>
        rw [answer_eq_silent _ (by rintro _ _ _ ⟨⟩)] at hans
        exact hasHandle_answer ha hk hnone hans
    rw [Program.interpret_ask_eq_bind, hans]
    exact ih reply (hplays.world.wellFormed hw) hk₁ hnone₁

end Scene

namespace Host

/-- What becomes of calls of the instance `i`, which the host holds of the engine `k`. -/
structure HeldCalls (past : List HandleDeed) (trace : Trace) (h : Host) (k : Nat) (e : Engine)
    (i : Instance) : Prop where
  /-- The stamp of the instance is the one that the last fetch of it has left. -/
  stamped : ∃ loader functions, (Engine.new k loader functions).Steps (Trace.turns k trace) e ∧
    Engine.LastFetched i.id (Engine.new k loader functions) (Trace.turns k trace) i.stamp
  /-- Alive or not, the emulator has no part in a call: the logic of the instance is run, under
  this stamp. -/
  runs : ∀ {σ : Type} [Ledger σ] (depth : Nat) (argument : Json) (properties : Option Json)
    (ledger : σ), Scene.invoke depth k i.id argument properties (h.scene ledger) =
      Program.interpret (Scene.answer (Scene.callNested depth (i.stamp.activation k i.id))
        (i.stamp.activation k i.id)) (i.logic argument properties).run (h.scene ledger)
  /-- Whenever the logic calls another contract, the emulator counts as gone if every handle that
  was ever made for it has been dropped by then. -/
  calls : ∀ {σ : Type} [Ledger σ] (depth : Nat) (argument : Json) (properties : Option Json)
    (ledger : σ), Program.Along
      (fun q s => ∀ id argument handed, q = .call id argument handed →
        ∃ t, (h.scene ledger).Plays t s ∧
          s.Fares (HandleDeed.Abandoned k past (trace ++ t)) depth (i.stamp.activation k i.id) id
            argument handed)
      (Scene.answer (Scene.callNested (depth + 1) (i.stamp.activation k i.id))
        (i.stamp.activation k i.id))
      (i.logic argument properties).run (h.scene ledger)
  /-- The contracts that are called find the emulator, which is held by the calls on their way. -/
  callees : ∀ {σ : Type} [Ledger σ] {argument : Json} {properties : Option Json} {ledger : σ}
    {story : Story} {s' : Scene σ}, Scene.Goes (i.stamp.activation k i.id)
      (i.program argument properties .own) (h.scene ledger) story s' → story.SparesCallees
  /-- Without the emulator, the call of the instance comes to an end all the same. -/
  ends : HandleDeed.Abandoned k past trace → ∀ {σ : Type} [Ledger σ] (depth : Nat)
    (argument : Json) (properties : Option Json) (ledger : σ),
    (Scene.invoke (depth + 1) k i.id argument properties (h.scene ledger)).isSome = true

variable {past : List HandleDeed} {trace : Trace} {h : Host} {k : Nat} {e : Engine} {id : String}
  {i : Instance}

/-- Wherever a host arrives, however it has made and dropped handles, fetched, executed and called
on the way, an instance that it holds can be called, and the calls that this makes fail for want of
the emulator exactly if every handle of the emulator was dropped. -/
theorem Lives.held_calls (hl : Lives past trace h) (hk : h.world.engines[k]? = some e)
    (hfind : e.loaded.find? id = some i) : HeldCalls past trace h k e i := by
  have hw := hl.reach.accounts.wellFormed
  obtain rfl : i.id = id := (hw.engine hk).loaded_id hfind
  have hwired : (i.stamp.activation k i.id).Wired k := ⟨rfl, rfl⟩
  have hruns : ∀ {σ : Type} [Ledger σ] (depth : Nat) (argument : Json) (properties : Option Json)
      (ledger : σ), Scene.invoke depth k i.id argument properties (h.scene ledger) =
        Program.interpret (Scene.answer (Scene.callNested depth (i.stamp.activation k i.id))
          (i.stamp.activation k i.id)) (i.logic argument properties).run (h.scene ledger) := by
    intro σ _ depth argument properties ledger
    exact Scene.invoke_eq_interpret hw hk hfind
  refine ⟨?_, hruns, ?_, ?_, ?_⟩
  · obtain ⟨loader, functions, hsteps⟩ := hl.reach.accounts.steps k e hk
    have hstamp : e.stampOf? i.id = some i.stamp := by
      rw [Engine.stampOf?, hfind]
      rfl
    exact ⟨loader, functions, hsteps, hsteps.stampOf?_eq_some_iff.1 hstamp⟩
  · intro σ _ depth argument properties ledger
    -- The scenes along the call have been reached from its start, with a trace of their own.
    refine (Program.asks_true _).along (I := fun s => ∃ t, (h.scene ledger).Plays t s) ?_ ?_
      ⟨[], .refl _⟩
    · rintro q s - ⟨t, hplays⟩ id argument handed rfl
      obtain ⟨e', hk', -⟩ := hplays.world.steps hk
      refine ⟨t, hplays, Scene.fares ?_ hwired hk'⟩
      rw [← hl.hasHandle_eq_false_iff hplays hk', ← Bool.not_eq_true, ← Bool.not_eq_true,
        (hplays.world.wellFormed hw).isAlive_iff]
      exact not_congr (or_iff_left List.not_mem_nil)
    · rintro q s a s' ⟨t, hplays⟩ hans
      obtain ⟨t', hmore⟩ := Scene.exists_plays_of_answer hans
      exact ⟨t ++ t', hplays.append hmore⟩
  · intro σ _ argument properties ledger story s' hgoes
    exact hgoes.sparesCallees hwired hw hk
  · intro hall σ _ depth argument properties ledger
    rw [hruns]
    rw [← List.append_nil trace] at hall
    have hnone := (hl.hasHandle_eq_false_iff (.refl (h.scene ledger)) hk).2 hall
    exact Scene.isSome_interpret hwired List.not_mem_nil hw hk hnone _

/-- A host that has fetched the instance `probe` of its emulator, and has cloned the handle. -/
def doubled : Host :=
  { probing.fetched 0 "probe" with world := (probing.fetched 0 "probe").world.clone 0 }

/-- The host has dropped the handle that it had first. -/
def sheltered : Host := { doubled with world := doubled.world.drop 0 }

/-- The host has dropped the clone as well. -/
def orphaned : Host := { sheltered with world := sheltered.world.drop 1 }

theorem exists_lives_sheltered : ∃ past trace, Lives past trace sheltered := by
  have hhandle : probing.world.handle? 0 = some 0 := rfl
  obtain ⟨trace, hr⟩ := exists_reach_probing
  obtain ⟨trace', hr'⟩ := hr.exists_fetched hhandle "probe"
  obtain ⟨past, hl⟩ := hr'.exists_lives
  exact ⟨_, _, (hl.clone 0).drop 0⟩

/-- The host calls the instance `probe` that it holds, which calls itself and fails where that
fails. -/
def selfCall (h : Host) : Option (Outcome × Scene MemoryLedger) :=
  Scene.invoke 1 0 "probe"
    (.obj [("do", .arr [.obj [("call", .obj [("id", .str "probe"), ("arg", .obj [])])]])]) none
    (h.scene MemoryLedger.empty)

/-- The failure of a call, if it failed. -/
def failure? : Outcome → Option Failure
  | .error f => some f
  | .ok _ => none

theorem eq_of_failure? {outcome : Outcome} {f : Failure} (h : failure? outcome = some f) :
    outcome = .error f := by
  cases outcome with
  | error f' => exact congrArg Except.error (Option.some.inj h)
  | ok r => cases h

/-- With the clone left, the instance can still call itself. Without it, this fails for want of the
emulator. -/
theorem orphaned_held_calls :
    (∃ past trace e i, ¬HandleDeed.Abandoned 0 past trace ∧
        sheltered.world.engines[0]? = some e ∧ e.loaded.find? "probe" = some i ∧
        HeldCalls past trace sheltered 0 e i ∧
        sheltered.selfCall.any (fun r => r.1.isOk) = true) ∧
      ∃ past trace e i, HandleDeed.Abandoned 0 past trace ∧ orphaned.world.engines[0]? = some e ∧
        e.loaded.find? "probe" = some i ∧ HeldCalls past trace orphaned 0 e i ∧
        ∃ s', orphaned.selfCall = some (.error .emulatorGone, s') := by
  obtain ⟨past, trace, hl⟩ := exists_lives_sheltered
  have hdropped := hl.drop 1
  have hloaded :
      orphaned.world.engines[0]?.any (fun e => (e.loaded.find? "probe").isSome) = true := by
    decide +kernel
  obtain ⟨e, hk, hsome⟩ := (Option.any_eq_true _ _).1 hloaded
  obtain ⟨i, hfind⟩ := Option.isSome_iff_exists.1 hsome
  have hsheltered : sheltered.world.hasHandle 0 = true := by decide +kernel
  have horphaned : orphaned.world.hasHandle 0 = false := by decide +kernel
  have hkept : ¬HandleDeed.Abandoned 0 past trace := by
    rw [← List.append_nil trace,
      ← hl.hasHandle_eq_false_iff (.refl (sheltered.scene ())) hk, Bool.not_eq_false]
    exact hsheltered
  have hall : HandleDeed.Abandoned 0 _ (trace ++ []) :=
    (hdropped.hasHandle_eq_false_iff (.refl (orphaned.scene ())) hk).1 horphaned
  rw [List.append_nil] at hall
  have hfails : orphaned.selfCall.any
      (fun r => decide (failure? r.1 = some .emulatorGone)) = true := by decide +kernel
  obtain ⟨⟨outcome, s'⟩, hrun, hgone⟩ := (Option.any_eq_true _ _).1 hfails
  obtain rfl := eq_of_failure? (of_decide_eq_true hgone)
  exact ⟨⟨past, trace, e, i, hkept, hk, hfind, hl.held_calls hk hfind, by decide +kernel⟩,
    _, trace, e, i, hall, hk, hfind, hdropped.held_calls hk hfind, s', hrun⟩

end Host

end ContractEmulator
