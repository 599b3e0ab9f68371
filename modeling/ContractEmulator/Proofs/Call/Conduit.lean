import ContractEmulator.Database.Memory
import ContractEmulator.Ledger.Memory
import ContractEmulator.Proofs.Call.Direct
import ContractEmulator.Proofs.Contract.Handed
import ContractEmulator.Proofs.World.Host

/-!
# The engine is a conduit

An engine keeps instances, stamps them and is asked for every call, but all of this is between the
contracts and the engine. What a contract asks of a ledger reaches the ledger that it was handed,
and what a contract returns reaches its caller.

* `Scene.Conducted`: a contract goes, with its engine, as a story tells, and without an engine as a
  tale does.
* `Scene.conducts`: every run of an engine needs none.
* `Host.Reach.transparent_conduit`: what this says of executions.
-/

namespace ContractEmulator

/-- The contracts that were called in a story, each at its place, and the failures where there was
none. -/
def Story.callees : Story → List (Except Failure Instance)
  | .finished _ => []
  | .asked _ _ _ rest => rest.callees
  | .refused _ _ _ f _ rest => .error f :: rest.callees
  | .called _ _ _ callee _ inner rest => .ok callee :: (inner.callees ++ rest.callees)

/-! ## Runs of an engine -/

/-- The engine `k` is in use: the host has a handle that leads to it. -/
structure World.Serves (w : World) (k : Nat) : Prop where
  wellFormed : w.WellFormed
  handle : some k ∈ w.handles
  engine : ∃ e, w.engines[k]? = some e

theorem World.Plays.serves {w w' : World} {t : Trace} {k : Nat} (h : w.Plays t w')
    (hs : w.Serves k) : w'.Serves k where
  wellFormed := h.wellFormed hs.wellFormed
  handle := by
    rw [h.handles_eq.1]
    exact hs.handle
  engine := by
    obtain ⟨e, hk⟩ := hs.engine
    obtain ⟨e', hk', -⟩ := h.steps hk
    exact ⟨e', hk'⟩

namespace Scene

variable {σ δ : Type} {k : Nat} {a b : Activation} {q : ContractQuery}
  {p : Program ContractQuery.Answer Outcome} {s s' s₁ : Scene σ} {story : Story} {id : String}
  {f : Failure} {callee : Instance} {handed : HandedLedger}

/-! ## Fetches -/

theorem fetch_failure_of_serves (hs : s.world.Serves k) (h : s.fetch k id = .error f) :
    f.OfFetch id := by
  obtain ⟨e, hk⟩ := hs.engine
  rcases fetch_eq_error h with ⟨hnone, -⟩ | ⟨e', -, hfetch⟩
  · cases hnone.symm.trans hk
  · exact Engine.fetch_failure hfetch

/-- The caller of a contract that cannot be fetched is told what a root call would be told. -/
theorem dispatch_failure_of_serves (hs : s.world.Serves k) (ha : a.Wired k)
    (h : s.dispatch a id = .error f) : f.OfFetch id := by
  obtain ⟨e, hk⟩ := hs.engine
  exact dispatch_failure ha hk (World.isAlive_of_mem_handles hs.handle a.inFlight) h

theorem ledger_dispatch (h : s.dispatch a id = .ok (callee, b, s₁)) : s₁.ledger = s.ledger := by
  obtain ⟨ref, -, hfetch, -⟩ := dispatch_eq_ok h
  obtain ⟨-, e, e', events, -, -, rfl⟩ := fetchNested_eq_ok hfetch
  rfl

/-- A contract that is called has the id under which it is called. -/
theorem id_of_dispatch (hs : s.world.Serves k) (ha : a.Wired k)
    (h : s.dispatch a id = .ok (callee, b, s₁)) : callee.id = id := by
  obtain ⟨e, hk⟩ := hs.engine
  obtain ⟨hfetch, -⟩ := fetchNested_of_dispatch ha h
  exact congrArg CallContext.contractId (context_of_fetchNested hs.wellFormed hk hfetch)

/-! ## What is asked of the ledger -/

variable [Ledger σ]

/-- Of all that is answered, the ledger answers what is for it, and receives nothing else. -/
theorem ledger_answer {nested : Nested σ} {reply : q.Answer}
    (h : answer nested a q s = some (reply, s₁))
    (hq : ∀ id argument handed, q ≠ .call id argument handed) :
    q.AnsweredBy s.ledger reply ∧
      s₁.ledger = Ledger.replay s.ledger q.ledgerCall?.toList := by
  have hanswer := exists_answer (q := q) nested a s
  cases q with
  | ledger call =>
    cases h
    exact ⟨rfl, Ledger.respond_snd call s.ledger⟩
  | call => exact (hq _ _ _ rfl).elim
  | _ =>
    obtain ⟨_, _, hans, hledger⟩ := hanswer (by rintro _ ⟨⟩) (by rintro _ _ _ ⟨⟩)
    cases hans.symm.trans h
    exact ⟨trivial, hledger⟩

/-! ## Runs of an engine need no engine -/

/-- A contract that works on the ledger that it is handed goes, with its engine, as a story tells,
and without an engine as a tale does. -/
structure Conducted (a : Activation) (handed : HandedLedger)
    (p : Program ContractQuery.Answer Outcome) (s : Scene σ) (story : Story) (tale : Tale)
    (s' : Scene σ) : Prop where
  goes : Goes a (handed.lend p) s story s'
  direct : handed.Direct p s.ledger tale story.ending.2 s'.ledger
  /-- It ends the same way. -/
  outcome : tale.outcome = story.outcome
  /-- The same contracts are called, at the same places. -/
  callees : tale.callees = story.callees

/-- Wherever a program starts, its runs need no engine that are at most `depth` calls deep. -/
def Conducts (σ : Type) [Ledger σ] (k depth : Nat) (a : Activation) (handed : HandedLedger)
    (p : Program ContractQuery.Answer Outcome) : Prop :=
  ∀ {s s' : Scene σ} {ending : Outcome × Json}, s.world.Serves k →
    Program.interpret (answer (callNested depth a) a) (handed.lend p) s = some (ending, s') →
    ∃ story tale, story.ending = ending ∧ Conducted a handed p s story tale s'

variable {depth : Nat} {argument : Json} {ending : Outcome × Json} {ρ : Type}

/-- A program that asks a ledger, run by a contract. -/
def relayed (p : Program LedgerCall.Answer ρ) : Program ContractQuery.Answer ρ :=
  p.interpret fun call => ContractQuery.query (.ledger call)

/-- What a made ledger asks of the one below is asked by the contract that works on it. -/
theorem goes_relayed {nested : Nested σ} (p : Program LedgerCall.Answer ρ) {r : ρ}
    (h : Program.interpret (answer nested a) (relayed p) s = some (r, s₁)) :
    Program.interpret (m := StateM σ) Ledger.respond p s.ledger = (r, s₁.ledger) ∧
      ∀ (next : ρ → ContractProgram) {rest : Story}, Goes a (next r) s₁ rest s' →
        ∃ story, Goes a (relayed p >>= next) s story s' ∧
          story.ending = rest.ending ∧ story.callees = rest.callees := by
  induction p generalizing s with
  | done r' =>
    cases h
    exact ⟨rfl, fun _ _ hrest => ⟨_, hrest, rfl, rfl⟩⟩
  | ask call next ih =>
    obtain ⟨hbelow, hgoes⟩ := ih (Ledger.respond call s.ledger).1 h
    refine ⟨hbelow, fun after rest hrest => ?_⟩
    obtain ⟨story, hstory, hending, hcallees⟩ := hgoes after hrest
    exact ⟨.asked (.ledger call) _ _ story, .ask rfl hstory, hending, hcallees⟩

omit [Ledger σ] in
theorem direct_of_handed {τ : Type} [Ledger τ] {next : Outcome × Json →
    Program ContractQuery.Answer Outcome} {inner rest : Tale} {ledger ledger₁ ledger' : τ}
    {state : Json} (hid : callee.id = id)
    (hinner : handed.Direct (callee.logic argument callee.properties).run ledger inner state
      ledger₁)
    (hrest : Direct (next (inner.outcome, state)) ledger₁ rest ledger') :
    Direct (.ask (.call id argument handed) next) ledger (.called id argument handed callee inner
      rest) ledger' := by
  cases handed with
  | own =>
    obtain ⟨hinner, rfl⟩ := hinner
    exact .call hid hinner hrest
  | made upper => exact .callOn hid hinner hrest

/-- A call of another contract fails to be dispatched, or it is a shorter run. -/
theorem callNested_conducted
    (ih : ∀ d < depth, ∀ {b}, b.Wired k → ∀ handed p, Conducts σ k d b handed p)
    (ha : a.Wired k)
    (hs : s.world.Serves k)
    (h : callNested depth a id argument handed s = some (ending, s₁)) :
    (∃ f, s.dispatch a id = .error f ∧ f.OfFetch id ∧ ending = (.error f, handed.state) ∧
        s₁ = s) ∨
      ∃ callee b s₀ inner tale, s.dispatch a id = .ok (callee, b, s₀) ∧ callee.id = id ∧
        s₀.ledger = s.ledger ∧ inner.ending = ending ∧
        Conducted b handed (callee.logic argument callee.properties).run s₀ inner tale s₁ := by
  rcases callNested_eq_some h with ⟨f, hdispatch, hending, hscene⟩ |
    ⟨d, callee, b, s₀, hd, hdispatch, hrun⟩
  · exact .inl ⟨f, hdispatch, dispatch_failure_of_serves hs ha hdispatch, hending, hscene⟩
  · obtain ⟨inner, tale, hending, hinner⟩ :=
      ih d hd (wired_of_dispatch hs.wellFormed ha hdispatch) handed _
        ((plays_dispatch hdispatch).world.serves hs) hrun
    exact .inr ⟨callee, b, s₀, inner, tale, hdispatch, id_of_dispatch hs ha hdispatch,
      ledger_dispatch hdispatch, hending, hinner⟩

/-- On the ledger of its caller, a contract needs no engine. -/
theorem conducts_own
    (ih : ∀ d < depth, ∀ {b}, b.Wired k → ∀ handed p, Conducts σ k d b handed p)
    (ha : a.Wired k) : Conducts σ k depth a .own p := by
  intro s s' ending hs h
  rw [HandedLedger.interpret_lend_own] at h
  obtain ⟨⟨outcome, s''⟩, hrun, hend⟩ := Option.bind_eq_some_iff.1 h
  cases hend
  clear h
  induction p generalizing s with
  | done result =>
    cases hrun
    exact ⟨.finished _, .finished _, rfl, .done, ⟨.done, rfl⟩, rfl, rfl⟩
  | ask q next ihp =>
    obtain ⟨reply, s₁, hans, hnext⟩ := interpret_ask_eq_some.1 hrun
    obtain ⟨t, hplays⟩ := exists_plays_of_answer hans
    obtain ⟨rest, tale, hending, hrest⟩ := ihp reply (hplays.world.serves hs) hnext
    obtain ⟨hdirect, hstate⟩ := hrest.direct
    cases q with
    | call id argument handed =>
      rcases callNested_conducted ih ha hs hans with ⟨f, hdispatch, hfailure, rfl, rfl⟩ |
        ⟨callee, b, s₀, inner, innerTale, hdispatch, hid, hledger, rfl, hinner⟩
      · exact ⟨.refused id argument handed f _ rest, .refused id argument handed f tale, hending,
          .refuse hdispatch hrest.goes, ⟨.refuse hfailure hdirect, hstate⟩, hrest.outcome,
          congrArg (_ :: ·) hrest.callees⟩
      · have hinnerDirect := hinner.direct
        rw [hledger] at hinnerDirect
        have hnextDirect : Direct (next (innerTale.outcome, inner.ending.2)) s₁.ledger tale
            s'.ledger := by
          rw [hinner.outcome]
          exact hdirect
        refine ⟨.called id argument handed callee _ inner rest,
          .called id argument handed callee innerTale tale, hending,
          .call hdispatch hinner.goes hrest.goes,
          ⟨direct_of_handed hid hinnerDirect hnextDirect, hstate⟩, hrest.outcome, ?_⟩
        rw [Tale.callees, Story.callees, hinner.callees, hrest.callees]
    | _ =>
      obtain ⟨hreply, hledger⟩ := ledger_answer hans (by rintro _ _ _ ⟨⟩)
      rw [hledger] at hdirect
      exact ⟨.asked _ reply _ rest, .asked _ reply tale, hending, .ask hans hrest.goes,
        ⟨.ask hreply hdirect, hstate⟩, hrest.outcome, hrest.callees⟩

/-- The engine stays in use, whatever is asked. -/
theorem serves_of_interpret {ρ : Type} {p : Program ContractQuery.Answer ρ} {r : ρ}
    (hs : s.world.Serves k)
    (h : Program.interpret (answer (callNested depth a) a) p s = some (r, s₁)) :
    s₁.world.Serves k := by
  induction p generalizing s with
  | done =>
    cases h
    exact hs
  | ask q next ih =>
    obtain ⟨reply, s₂, hans, hnext⟩ := interpret_ask_eq_some.1 h
    obtain ⟨t, hplays⟩ := exists_plays_of_answer hans
    exact ih reply (hplays.world.serves hs) hnext

/-- What a contract on a made ledger asks of it, this one answers. -/
theorem conducts_made_ledger {upper : MadeLedger} {call : LedgerCall}
    {next : call.Answer → Program ContractQuery.Answer Outcome}
    (hnext : ∀ reply state,
      Conducts σ k depth a (.made { upper with state := state }) (next reply)) :
    Conducts σ k depth a (.made upper) (.ask (.ledger call) next) := by
  intro s s' ending hs h
  -- What comes after the answer, as the program that it is.
  let after : call.Answer × Json → ContractProgram := fun (reply, state) =>
    (HandedLedger.made { upper with state := state }).lend (next reply)
  have hsplit : (HandedLedger.made upper).lend (.ask (.ledger call) next) =
      relayed (upper.answer upper.state call) >>= after := rfl
  rw [hsplit, Program.interpret_bind] at h
  obtain ⟨⟨⟨reply, state⟩, s₁⟩, hrelay, hrun⟩ := Option.bind_eq_some_iff.1 h
  obtain ⟨rest, tale, hending, hrest⟩ := hnext reply state (serves_of_interpret hs hrelay) hrun
  obtain ⟨hbelow, hgoes⟩ := goes_relayed (upper.answer upper.state call) hrelay
  obtain ⟨story, hstory, hstoryEnding, hcallees⟩ := hgoes after hrest.goes
  have hresponse : Ledger.respond call (⟨upper, s.ledger⟩ : Layered σ) =
      (reply, ⟨{ upper with state := state }, s₁.ledger⟩) := by
    rw [Layered.respond_eq, Layered.respond]
    dsimp only
    rw [hbelow]
  have hreceive : Ledger.receive (⟨upper, s.ledger⟩ : Layered σ) call =
      ⟨{ upper with state := state }, s₁.ledger⟩ := by
    rw [← Ledger.respond_snd, hresponse]
  have hdirect := hrest.direct
  refine ⟨story, .asked (.ledger call) reply tale, hstoryEnding.trans hending, hstory, ?_, ?_, ?_⟩
  · refine .ask (congrArg Prod.fst hresponse).symm ?_
    show Direct _ (Ledger.receive _ call) _ _
    rw [hreceive, hstoryEnding]
    exact hdirect
  · exact hrest.outcome.trans (congrArg Prod.fst hstoryEnding).symm
  · exact hrest.callees.trans hcallees.symm

/-- What a contract on a made ledger hands on is made out of it. -/
theorem conducts_made_call
    (ih : ∀ d < depth, ∀ {b}, b.Wired k → ∀ handed p, Conducts σ k d b handed p)
    (ha : a.Wired k) {lower : MadeLedger}
    {next : Outcome × Json → Program ContractQuery.Answer Outcome}
    (hnext : ∀ reply state,
      Conducts σ k depth a (.made { lower with state := state }) (next reply)) :
    Conducts σ k depth a (.made lower) (.ask (.call id argument handed) next) := by
  intro s s' ending hs h
  rw [HandedLedger.lend_made_call] at h
  obtain ⟨⟨outcome, states⟩, s₁, hcall, hrun⟩ := interpret_ask_eq_some.1 h
  obtain ⟨t, hplays⟩ := exists_plays_of_answer hcall
  obtain ⟨rest, tale, hending, hrest⟩ := hnext _ _ (hplays.world.serves hs) hrun
  have hgoes := hrest.goes
  have hdirect := hrest.direct
  rcases callNested_conducted ih ha hs hcall with ⟨f, hdispatch, hfailure, hfailed, rfl⟩ |
    ⟨callee, b, s₀, inner, innerTale, hdispatch, hid, hledger, hinnerEnding, hinner⟩
  · obtain ⟨rfl, rfl⟩ := Prod.mk.inj hfailed
    refine ⟨.refused id argument (.made (handed.onto lower)) f (s₁.dispatchMarks a id) rest,
      .refused id argument handed f tale, hending, ?_, ?_, hrest.outcome,
      congrArg (_ :: ·) hrest.callees⟩
    · rw [HandedLedger.lend_made_call]
      exact .refuse hdispatch hgoes
    · have hsplit : handed.split (HandedLedger.made (handed.onto lower)).state =
          (handed.state, lower.state) := handed.split_state lower
      rw [hsplit] at hdirect
      exact .refuse hfailure hdirect
  · have hinnerDirect := hinner.direct
    rw [hledger, hinnerEnding] at hinnerDirect
    have hout : innerTale.outcome = outcome :=
      hinner.outcome.trans (congrArg Prod.fst hinnerEnding)
    refine ⟨.called id argument (.made (handed.onto lower)) callee
        (s.dispatchMarks a id ++ [callMark b.engine callee argument]) inner rest,
      .called id argument handed callee innerTale tale, hending, ?_, ?_, hrest.outcome, ?_⟩
    · rw [HandedLedger.lend_made_call]
      refine .call hdispatch hinner.goes ?_
      rw [hinnerEnding]
      exact hgoes
    · rw [← hout] at hdirect
      exact direct_of_handed hid (HandedLedger.direct_onto hinnerDirect) hdirect
    · rw [Tale.callees, Story.callees, hinner.callees, hrest.callees]

/-- On a ledger that its caller has made, a contract needs no engine either. -/
theorem conducts_made
    (ih : ∀ d < depth, ∀ {b}, b.Wired k → ∀ handed p, Conducts σ k d b handed p)
    (ha : a.Wired k) (upper : MadeLedger) : Conducts σ k depth a (.made upper) p := by
  induction p generalizing upper with
  | done result =>
    intro s s' ending hs h
    cases h
    exact ⟨.finished _, .finished _, rfl, .done, .done, rfl, rfl⟩
  | ask q next ihp =>
    cases q with
    | ledger call => exact conducts_made_ledger fun reply state => ihp reply _
    | call id argument handed => exact conducts_made_call ih ha fun reply state => ihp reply _
    | _ =>
      intro s s' ending hs h
      obtain ⟨reply, s₁, hans, hnext⟩ := interpret_ask_eq_some.1 h
      obtain ⟨t, hplays⟩ := exists_plays_of_answer hans
      obtain ⟨rest, tale, hending, hrest⟩ := ihp reply upper (hplays.world.serves hs) hnext
      have hdirect := hrest.direct
      obtain ⟨hreply, hledger⟩ := ledger_answer hans (by rintro _ _ _ ⟨⟩)
      have hsame : s₁.ledger = s.ledger := hledger
      rw [hsame] at hdirect
      exact ⟨.asked _ reply _ rest, .asked _ reply tale, hending, .ask hans hrest.goes,
        .ask hreply hdirect, hrest.outcome, hrest.callees⟩

/-- However deep its calls go, a contract needs no engine. -/
theorem conducts (depth : Nat) (ha : a.Wired k) (handed : HandedLedger)
    (p : Program ContractQuery.Answer Outcome) : Conducts σ k depth a handed p := by
  induction depth using Nat.strongRecOn generalizing a handed p with
  | ind depth ih =>
    cases handed with
    | own => exact conducts_own (fun d hd _ hb => ih d hd hb) ha
    | made upper => exact conducts_made (fun d hd _ hb => ih d hd hb) ha upper

/-- Every story is one of a contract that needs no engine. -/
theorem Goes.conducted (h : Goes a (handed.lend p) s story s') (ha : a.Wired k)
    (hs : s.world.Serves k) : ∃ tale, Conducted a handed p s story tale s' := by
  obtain ⟨story', tale, -, hconducted⟩ :=
    conducts story.depth ha handed p hs (h.interpret (Nat.le_refl _))
  obtain ⟨rfl, -⟩ := h.unique hconducted.goes
  exact ⟨tale, hconducted⟩

variable {input : FunctionInput} {database database' : δ} {invocations : List Invocation}
  {result : Except Failure Unit}

omit [Ledger σ] in
/-- Functions have no part in the ledger, and the database receives what they ask of it. -/
theorem Performs.services [Database δ]
    (h : Performs k id input s database invocations result s' database') :
    s'.ledger = s.ledger ∧
      database' = Database.replay database (Invocation.allCalls invocations) := by
  cases h with
  | unlisted | noArray | gone => exact ⟨rfl, rfl⟩
  | listed _ _ hserves => exact ⟨rfl, hserves.database_eq⟩

end Scene

namespace Host

variable {σ δ : Type} [Ledger σ] [Database δ] {trace : Trace} {h : Host} {handle k depth : Nat}
  {id : String} {argument : Json} {functionArgument : Option Json} {ledger : σ}
  {database database' : δ} {outcome : Outcome} {s' : Scene σ}

theorem Reach.serves (hr : Reach trace h) (hk : h.world.handle? handle = some k) :
    h.world.Serves k where
  wellFormed := hr.accounts.wellFormed
  handle := World.mem_handles_of_handle? hk
  engine := hr.accounts.handles.exists_engine hk

/-- An execution that comes to an end fails as the fetch of its contract fails, and then neither
ledger nor database is touched. Or its contract runs, with all that it calls, as if there were no
engine: the ledger receives the calls that the contracts issue on it, depth first and in the order
of their programs, and nothing else. If the contract fails, so does the execution, and the database
is not touched; if it returns, the functions run, and only then the database receives what they ask
of it. -/
theorem Reach.transparent_conduit (hr : Reach trace h) (hk : h.world.handle? handle = some k)
    (hrun : (h.scene ledger).execute depth k id argument functionArgument database =
      some (outcome, s', database')) :
    (∃ f, f.OfFetch id ∧ (h.scene ledger).fetch k id = .error f ∧ outcome = .error f ∧
        s'.ledger = ledger ∧ database' = database) ∨
      ∃ i s₁ story tale s₂, (h.scene ledger).fetch k id = .ok (i, s₁) ∧
        Scene.call depth k i argument i.properties s₁ = some (story.outcome, s₂) ∧
        Scene.Conducted (i.activation k []) .own (i.logic argument i.properties).run s₁ story tale
          s₂ ∧
        s₁.ledger = ledger ∧ s₂.ledger = Ledger.replay ledger (tale.issued ledger) ∧
        (tale.HandsOn → tale.issued ledger = tale.ledgerCalls) ∧ s'.ledger = s₂.ledger ∧
        ((∃ f, story.outcome = .error f ∧ outcome = .error f ∧ database' = database) ∨
          ∃ r invocations result, story.outcome = .ok r ∧ outcome = result.map (fun _ => r) ∧
            Scene.Performs k id ⟨argument, functionArgument, i.properties⟩ s₂ database invocations
              result s' database' ∧
            database' = Database.replay database (Invocation.allCalls invocations)) := by
  have hs : (h.scene ledger).world.Serves k := hr.serves hk
  rcases Scene.execute_eq_some hrun with ⟨f, hfetch, hout, hscene, hdatabase⟩ |
    ⟨i, s₁, story, s₂, hfetch, hstory, hgoes, hend⟩
  · exact .inl ⟨f, Scene.fetch_failure_of_serves hs hfetch, hfetch, hout,
      congrArg Scene.ledger hscene, hdatabase⟩
  · obtain ⟨tale, hconducted⟩ :=
      hgoes.conducted (Scene.wired_of_fetch hs.wellFormed hfetch)
        ((Scene.plays_fetch hfetch).world.serves hs)
    have hledger : s₁.ledger = ledger := Scene.ledger_fetch hfetch
    have hreceived := hconducted.direct.1.ledger_eq
    rw [hledger] at hreceived
    refine .inr ⟨i, s₁, story, tale, s₂, hfetch, hstory, hconducted, hledger, hreceived,
      fun hkept => Tale.issued_eq hkept ledger, ?_⟩
    rcases hend with ⟨f, hfailed, hout, rfl, hdatabase⟩ |
      ⟨r, invocations, result, hreturned, hout, hperforms⟩
    · exact ⟨rfl, .inl ⟨f, hfailed, hout, hdatabase⟩⟩
    · obtain ⟨hsame, hdatabase⟩ := hperforms.services
      exact ⟨hsame, .inr ⟨r, invocations, result, hreturned, hout, hperforms, hdatabase⟩⟩

/-- A host with the contract `probe` and one that calls it on a ledger of its own making. -/
def sandboxing : Host :=
  ((single (.ofList [("test.Probe", SampleContract.probe),
    ("test.Sandbox", SampleContract.sandbox)]) .empty).update 0 fun e =>
      e.register SampleContract.prober).update 0 fun e =>
        e.register (.emulated "sandbox" "test.Sandbox" (Descriptor.encode "test.Sandbox") none 0)

theorem exists_reach_sandboxing : ∃ trace, Reach trace sandboxing := by
  have hhandle : (single (.ofList [("test.Probe", SampleContract.probe),
      ("test.Sandbox", SampleContract.sandbox)]) .empty).world.handle? 0 = some 0 := rfl
  have hr := (reach_single _ _).step (.register SampleContract.prober hhandle)
  exact ⟨_, hr.step (.register _ hhandle)⟩

/-- A contract writes, calls one on a ledger that keeps writes back, and reads. The one that is
called reads, writes and fails. Of the four calls that the two make, the ledger receives three. -/
theorem sandboxing_transparent_conduit : ∃ outcome s' database' p tale,
    (sandboxing.scene (⟨.empty, []⟩ : RecordedLedger MemoryLedger)).execute 1 0 "sandbox"
        (.obj [("do", .arr [.obj [("get", .str "a")], SampleContract.probePut "b",
          .obj [("fail", .str "no")]])])
        none MemoryDatabase.empty = some (outcome, s', database') ∧
      Direct p (⟨.empty, []⟩ : RecordedLedger MemoryLedger) tale s'.ledger ∧
      s'.ledger.calls = tale.issued (⟨.empty, []⟩ : RecordedLedger MemoryLedger) ∧
      s'.ledger.calls.length = 3 := by
  obtain ⟨trace, hr⟩ := exists_reach_sandboxing
  have hdone : ((sandboxing.scene (⟨.empty, []⟩ : RecordedLedger MemoryLedger)).execute 1 0
      "sandbox" (.obj [("do", .arr [.obj [("get", .str "a")], SampleContract.probePut "b",
        .obj [("fail", .str "no")]])])
      none MemoryDatabase.empty).any
        (fun r => r.1.isOk && r.2.1.ledger.calls.length == 3) = true := by decide +kernel
  obtain ⟨⟨outcome, s', database'⟩, hrun, hboth⟩ := (Option.any_eq_true _ _).1 hdone
  obtain ⟨hok, hlength⟩ := Bool.and_eq_true_iff.1 hboth
  have hhandle : sandboxing.world.handle? 0 = some 0 := rfl
  rcases hr.transparent_conduit hhandle hrun with ⟨f, -, -, rfl, -⟩ |
    ⟨i, s₁, story, tale, s₂, -, -, hconducted, hstart, hreceived, -, hledger, -⟩
  · cases hok
  · have hdirect := hconducted.direct.1
    rw [hstart, ← hledger] at hdirect
    rw [← hledger] at hreceived
    refine ⟨outcome, s', database', _, tale, hrun, hdirect, ?_, eq_of_beq hlength⟩
    rw [hreceived, RecordedLedger.calls_replay]
    rfl

end Host

end ContractEmulator
