import ContractEmulator.Proofs.Call.Context
import ContractEmulator.Proofs.Contract.Handed
import ContractEmulator.Proofs.Engine.Stamps

/-!
# Calls of instances that are held

A host may hold an instance that it fetched and call it later. Such a call fetches nothing, so it is
made under the stamp that the last fetch has left, whoever made that fetch.

* `Story.SeesItself context`: whenever a call looks at its context, it sees `context`.
* `Scene.invoke_eq_interpret`, `Scene.invoke_eq_some`: a call of an instance runs its logic under its
  stamp, and this is what it sees.
* `Host.StampHistory`, `Host.Reach.stamp_history`: in every run of a host, the stamps of an engine
  are decided by the last fetches, and calls of instances are made under these stamps.
* `Host.Reach.held_call_is_current_iff`: when such a call sees itself as the root of its chain,
  under the certificate in force. It need not: `Host.held_call_not_current`.
-/

namespace ContractEmulator

/-- Whenever the call looks at its context, before and after the calls that it makes, it sees
`context`. -/
def Story.SeesItself (context : CallContext) : Story → Prop
  | .finished _ => True
  | .asked q a _ rest => q.TellsOf context a ∧ rest.SeesItself context
  | .refused _ _ _ _ _ rest => rest.SeesItself context
  | .called _ _ _ _ _ _ rest => rest.SeesItself context

/-- What a call of the contract `id` sees under a stamp. -/
def Stamp.context (stamp : Stamp) (id : String) : CallContext :=
  ⟨id, stamp.isRoot, stamp.certificate⟩

/-- A call of the contract `id` under a stamp, by the host. The contract reaches the engine `k`. -/
def Stamp.activation (stamp : Stamp) (k : Nat) (id : String) : Activation :=
  ⟨k, some (.weak k), stamp.context id, []⟩

namespace Scene

variable {σ : Type} [Ledger σ] {k depth : Nat} {a : Activation} {p : ContractProgram}
  {s s' : Scene σ} {story : Story} {id : String} {i : Instance} {e : Engine} {argument : Json}
  {properties : Option Json} {outcome : Outcome}

theorem Goes.seesItself (h : Goes a p s story s') : story.SeesItself a.context := by
  induction h with
  | done => trivial
  | ask hans _ ih => exact ⟨tellsOf_answer hans, ih⟩
  | refuse _ _ ih => exact ih
  | call _ _ _ _ ihrest => exact ihrest

omit [Ledger σ] in
theorem instance?_eq_some (hk : s.world.engines[k]? = some e) (hfind : e.loaded.find? id = some i) :
    s.world.instance? k id = some i := by
  rw [World.instance?, hk]
  exact hfind

omit [Ledger σ] in
/-- A contract that is loaded is called under its stamp. -/
theorem activation_eq (hw : s.world.WellFormed) (hk : s.world.engines[k]? = some e)
    (hfind : e.loaded.find? id = some i) : i.activation k [] = i.stamp.activation k id := by
  rw [← (hw.engine hk).loaded_id hfind, Instance.activation, hw.invoker_eq hk hfind]
  rfl

/-- An instance that is called runs its logic under the stamp that it has, with its engine there for
the calls that this makes. -/
theorem invoke_eq_interpret (hw : s.world.WellFormed) (hk : s.world.engines[k]? = some e)
    (hfind : e.loaded.find? id = some i) :
    invoke depth k id argument properties s =
      Program.interpret
        (answer (callNested depth (i.stamp.activation k id)) (i.stamp.activation k id))
        (i.logic argument properties).run s := by
  rw [invoke, instance?_eq_some hk hfind, ← activation_eq hw hk hfind]
  exact call_eq_interpret depth k i argument properties s

/-- What such a call comes to has a story, which sees that stamp. -/
theorem invoke_eq_some (hw : s.world.WellFormed) (hk : s.world.engines[k]? = some e)
    (hfind : e.loaded.find? id = some i)
    (hrun : invoke depth k id argument properties s = some (outcome, s')) :
    ∃ story, story.outcome = outcome ∧
      Goes (i.stamp.activation k id) (i.program argument properties .own) s story s' ∧
      story.SeesItself (i.stamp.context id) := by
  rw [invoke, instance?_eq_some hk hfind] at hrun
  obtain ⟨story, hout, hgoes⟩ := call_eq_some hrun
  rw [CallGoes, activation_eq hw hk hfind] at hgoes
  exact ⟨story, hout, hgoes, hgoes.seesItself⟩

end Scene

namespace Host

/-- What the history of the engine `k` of a host, from its start, says about stamps. -/
structure StampHistory (h : Host) (k : Nat) (start : Engine) (turns : List Turn) (e : Engine) :
    Prop where
  leads : start.Steps turns e
  /-- The stamp of an instance is decided by the last fetch of it that succeeded, wherever this was
  made: by its role and by the certificate in force at the time. -/
  decided : ∀ id stamp, e.stampOf? id = some stamp ↔ Engine.LastFetched id start turns stamp
  /-- Whatever is no such fetch leaves the stamp as it is. -/
  kept : ∀ {id pre post e₁}, turns = pre ++ post → start.Steps pre e₁ → e₁.Steps post e →
    (∀ turn ∈ post, turn.deed.instance? id = none) → e.stampOf? id = e₁.stampOf? id
  /-- An instance that is called, without a new fetch, runs its logic under this stamp. -/
  called : ∀ {σ : Type} [Ledger σ] {id : String} {i : Instance}, e.loaded.find? id = some i →
    ∀ (depth : Nat) (argument : Json) (properties : Option Json) (ledger : σ),
      Scene.invoke depth k id argument properties (h.scene ledger) =
        Program.interpret (Scene.answer (Scene.callNested depth (i.stamp.activation k id))
          (i.stamp.activation k id)) (i.logic argument properties).run (h.scene ledger)
  /-- If this comes to an end, the logic has seen this stamp whenever it looked. -/
  seen : ∀ {σ : Type} [Ledger σ] {id : String} {i : Instance} {depth : Nat} {argument : Json}
    {properties : Option Json} {ledger : σ} {outcome : Outcome} {s' : Scene σ},
    e.loaded.find? id = some i →
    Scene.invoke depth k id argument properties (h.scene ledger) = some (outcome, s') →
    ∃ story, story.outcome = outcome ∧
      Scene.Goes (i.stamp.activation k id) (i.program argument properties .own) (h.scene ledger)
        story s' ∧
      story.SeesItself (i.stamp.context id)

variable {trace : Trace} {h : Host} {k handle : Nat} {e : Engine} {id : String} {i : Instance}

/-- In every run of a host, and for every emulator in it, the stamps are decided by the last
fetches. -/
theorem Reach.stamp_history (hr : Reach trace h) (hk : h.world.engines[k]? = some e) :
    ∃ loader functions,
      StampHistory h k (Engine.new k loader functions) (Trace.turns k trace) e := by
  obtain ⟨loader, functions, hsteps⟩ := hr.accounts.steps k e hk
  exact ⟨loader, functions, {
    leads := hsteps
    decided := fun id stamp => hsteps.stampOf?_eq_some_iff
    kept := fun _ hpre hpost hn =>
      hpost.stampOf?_eq (hpre.wellFormed (Engine.wellFormed_new k loader functions)) hn
    called := fun hfind _ _ _ _ => Scene.invoke_eq_interpret hr.accounts.wellFormed hk hfind
    seen := fun hfind hrun => Scene.invoke_eq_some hr.accounts.wellFormed hk hfind hrun }⟩

/-! ## A held instance after other calls -/

/-- The host after it has fetched an instance, if that succeeds. -/
def fetched (h : Host) (k : Nat) (id : String) : Host :=
  match (h.scene ()).fetch k id with
  | .ok (_, s) => s.host
  | .error _ => h

/-- The host after it has executed a contract, if that comes to an end. -/
def executed (h : Host) (depth k : Nat) (id : String) (argument : Json) : Host :=
  match (h.scene MemoryLedger.empty).execute depth k id argument none MemoryDatabase.empty with
  | some (_, s, _) => s.host
  | none => h

theorem Reach.exists_fetched (hr : Reach trace h) (hk : h.world.handle? handle = some k)
    (id : String) : ∃ trace', Reach trace' (h.fetched k id) := by
  unfold fetched
  split
  · next hfetch => exact ⟨_, hr.step (.fetch hk hfetch)⟩
  · exact ⟨trace, hr⟩

theorem Reach.exists_executed (hr : Reach trace h) (hk : h.world.handle? handle = some k)
    (depth : Nat) (id : String) (argument : Json) :
    ∃ trace', Reach trace' (h.executed depth k id argument) := by
  unfold executed
  split
  · next hrun =>
    obtain ⟨t, hr'⟩ := hr.of_execute hk hrun
    exact ⟨_, hr'⟩
  · exact ⟨trace, hr⟩

/-- Another certificate than the first one. -/
def alice : Identity := ⟨"alice", 2⟩

/-- A host that holds the instance `probe`. It has executed that contract, which called itself, and
then put another certificate in force. -/
def holding : Host :=
  ((probing.fetched 0 "probe").executed 1 0 "probe"
    (.obj [("do", .arr [SampleContract.probeTry []])])).update 0 fun e => e.setCertificate alice

theorem exists_reach_holding : ∃ trace, Reach trace holding := by
  have hhandle : probing.world.handle? 0 = some 0 := rfl
  have hfetched : (probing.fetched 0 "probe").world.handle? 0 = some 0 := by decide +kernel
  have hexecuted : ((probing.fetched 0 "probe").executed 1 0 "probe"
      (.obj [("do", .arr [SampleContract.probeTry []])])).world.handle? 0 = some 0 := by
    decide +kernel
  obtain ⟨trace, hr⟩ := exists_reach_probing
  obtain ⟨trace₁, hr₁⟩ := hr.exists_fetched hhandle "probe"
  obtain ⟨trace₂, hr₂⟩ := hr₁.exists_executed hfetched 1 "probe"
    (.obj [("do", .arr [SampleContract.probeTry []])])
  exact ⟨_, hr₂.step (.setCertificate alice hexecuted)⟩

/-- The stamp of the instance is that of the nested call, although the certificate was replaced
since, and a call of the instance returns and has seen that stamp. -/
theorem holding_stamp_history : ∃ (trace : Trace) (e : Engine) (i : Instance) (story : Story)
    (s' : Scene MemoryLedger), Reach trace holding ∧
    holding.world.engines[0]? = some e ∧ e.loaded.find? "probe" = some i ∧
    i.stamp = ⟨false, .initial⟩ ∧ e.certificate = alice ∧
    (∃ loader functions,
      StampHistory holding 0 (Engine.new 0 loader functions) (Trace.turns 0 trace) e) ∧
    Scene.invoke 0 0 "probe" (.obj []) none (holding.scene MemoryLedger.empty) =
      some (story.outcome, s') ∧ story.outcome.isOk = true ∧
    story.SeesItself ⟨"probe", false, .initial⟩ := by
  obtain ⟨trace, hr⟩ := exists_reach_holding
  have hdone : (Scene.invoke 0 0 "probe" (.obj []) none (holding.scene MemoryLedger.empty)).any
      (fun r => r.1.isOk) = true := by decide +kernel
  have hstamp : holding.world.engines[0]?.any (fun e => e.certificate == alice &&
      (e.loaded.find? "probe").any fun i => i.stamp == ⟨false, .initial⟩) = true := by
    decide +kernel
  obtain ⟨e, hk, hboth⟩ := (Option.any_eq_true _ _).1 hstamp
  obtain ⟨hcert, hany⟩ := Bool.and_eq_true_iff.1 hboth
  obtain ⟨i, hfind, hbeq⟩ := (Option.any_eq_true _ _).1 hany
  have hsame : i.stamp = ⟨false, .initial⟩ := eq_of_beq hbeq
  obtain ⟨⟨outcome, s'⟩, hrun, hok⟩ := (Option.any_eq_true _ _).1 hdone
  obtain ⟨loader, functions, hhistory⟩ := hr.stamp_history hk
  obtain ⟨story, rfl, -, hsees⟩ := hhistory.seen hfind hrun
  rw [hsame] at hsees
  exact ⟨trace, e, i, story, s', hr, hk, hfind, hsame, eq_of_beq hcert,
    ⟨loader, functions, hhistory⟩, hrun, hok, hsees⟩

/-! ## When a held instance is called under the current stamp -/

/-- A call of an instance, without a new fetch, sees its stamp. So it sees itself as the root of its
chain, under the certificate in force, exactly if the last fetch of its contract was made for a root
call and with that certificate in force. -/
theorem Reach.held_call_is_current_iff {σ : Type} [Ledger σ] {depth : Nat} {argument : Json}
    {properties : Option Json} {ledger : σ} {outcome : Outcome} {s' : Scene σ}
    (hr : Reach trace h) (hk : h.world.engines[k]? = some e) (hfind : e.loaded.find? id = some i)
    (hrun : Scene.invoke depth k id argument properties (h.scene ledger) = some (outcome, s')) :
    ∃ loader functions story, (Engine.new k loader functions).Steps (Trace.turns k trace) e ∧
      story.outcome = outcome ∧
      Scene.Goes (i.stamp.activation k id) (i.program argument properties .own) (h.scene ledger)
        story s' ∧
      story.SeesItself (i.stamp.context id) ∧
      (i.stamp.context id = ⟨id, true, e.certificate⟩ ↔
        Engine.LastFetched id (Engine.new k loader functions) (Trace.turns k trace)
          ⟨true, e.certificate⟩) := by
  obtain ⟨loader, functions, hsteps⟩ := hr.accounts.steps k e hk
  obtain ⟨story, hout, hgoes, hsees⟩ :=
    Scene.invoke_eq_some hr.accounts.wellFormed hk hfind hrun
  refine ⟨loader, functions, story, hsteps, hout, hgoes, hsees, ?_⟩
  have hstamp : e.stampOf? id = some i.stamp := by
    rw [Engine.stampOf?, hfind]
    rfl
  rw [← hsteps.stampOf?_eq_some_iff, hstamp, Option.some.injEq]
  constructor
  · intro hcontext
    exact congrArg (fun c : CallContext => Stamp.mk c.isRoot c.certificate) hcontext
  · intro hsame
    rw [hsame]
    rfl

/-- Once the instance is fetched again, a call of it sees what is current. -/
theorem refetched_held_call_is_current :
    ∃ (trace : Trace) (e : Engine) (i : Instance) (loader : Loader ContractLogic)
      (functions : Loader FunctionLogic) (story : Story),
      Reach trace (holding.fetched 0 "probe") ∧
        (holding.fetched 0 "probe").world.engines[0]? = some e ∧
        e.loaded.find? "probe" = some i ∧ i.stamp.context "probe" = ⟨"probe", true, alice⟩ ∧
        story.SeesItself (i.stamp.context "probe") ∧
        Engine.LastFetched "probe" (Engine.new 0 loader functions) (Trace.turns 0 trace)
          ⟨true, e.certificate⟩ := by
  have hhandle : holding.world.handle? 0 = some 0 := by decide +kernel
  obtain ⟨trace, hr⟩ := exists_reach_holding
  obtain ⟨trace', hr'⟩ := hr.exists_fetched hhandle "probe"
  have hstamp : (holding.fetched 0 "probe").world.engines[0]?.any (fun e =>
      e.certificate == alice &&
        (e.loaded.find? "probe").any fun i => i.stamp == ⟨true, alice⟩) = true := by
    decide +kernel
  have hdone : (Scene.invoke 0 0 "probe" (.obj []) none
      ((holding.fetched 0 "probe").scene MemoryLedger.empty)).isSome = true := by decide +kernel
  obtain ⟨e, hk, hboth⟩ := (Option.any_eq_true _ _).1 hstamp
  obtain ⟨hcert, hany⟩ := Bool.and_eq_true_iff.1 hboth
  obtain ⟨i, hfind, hbeq⟩ := (Option.any_eq_true _ _).1 hany
  obtain ⟨⟨outcome, s'⟩, hrun⟩ := Option.isSome_iff_exists.1 hdone
  have hcontext : i.stamp.context "probe" = ⟨"probe", true, alice⟩ := by
    rw [eq_of_beq hbeq]
    rfl
  obtain ⟨loader, functions, story, -, -, -, hsees, hiff⟩ :=
    hr'.held_call_is_current_iff hk hfind hrun
  refine ⟨trace', e, i, loader, functions, story, hr', hk, hfind, hcontext, hsees, hiff.1 ?_⟩
  rw [hcontext, eq_of_beq hcert]

/-- The value that a call returned, if it did return one. -/
def returned? (outcome : Outcome) : Option Json := outcome.toOption.join

theorem eq_of_returned? {outcome : Outcome} {result : Json} (h : returned? outcome = some result) :
    outcome = .ok (some result) := by
  cases outcome with
  | error f => cases h
  | ok r => exact congrArg Except.ok h

/-- Without that, a call of the held instance sees itself as nested, although it is the outermost
call of its chain, and it sees a certificate that is no longer in force. -/
theorem held_call_not_current : ∃ trace e i result s', Reach trace holding ∧
    holding.world.engines[0]? = some e ∧ e.loaded.find? "probe" = some i ∧
    Scene.invoke 0 0 "probe" (.obj []) none (holding.scene MemoryLedger.empty) =
      some (.ok (some result), s') ∧
    (result.get? "is_root").bind Json.asBool? = some false ∧
    ((result.get? "certificate").bind (Json.get? "holder_id")).bind Json.asStr? =
      some Identity.initial.holderId ∧
    e.certificate = alice := by
  obtain ⟨trace, hr⟩ := exists_reach_holding
  have hheld : holding.world.engines[0]?.any (fun e =>
      e.certificate == alice && (e.loaded.find? "probe").isSome) = true := by decide +kernel
  have hdone : (Scene.invoke 0 0 "probe" (.obj []) none
      (holding.scene MemoryLedger.empty)).any (fun r => (returned? r.1).any fun result =>
        (result.get? "is_root").bind Json.asBool? == some false &&
          ((result.get? "certificate").bind (Json.get? "holder_id")).bind Json.asStr? ==
            some Identity.initial.holderId) = true := by decide +kernel
  obtain ⟨e, hk, hboth⟩ := (Option.any_eq_true _ _).1 hheld
  obtain ⟨hcert, hsome⟩ := Bool.and_eq_true_iff.1 hboth
  obtain ⟨i, hfind⟩ := Option.isSome_iff_exists.1 hsome
  obtain ⟨⟨outcome, s'⟩, hrun, hany⟩ := (Option.any_eq_true _ _).1 hdone
  obtain ⟨result, hreturned, hseen⟩ := (Option.any_eq_true _ _).1 hany
  obtain ⟨hroot, hholder⟩ := Bool.and_eq_true_iff.1 hseen
  obtain rfl := eq_of_returned? hreturned
  exact ⟨trace, e, i, result, s', hr, hk, hfind, hrun, eq_of_beq hroot, eq_of_beq hholder,
    eq_of_beq hcert⟩

end Host

end ContractEmulator
