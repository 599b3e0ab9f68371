import ContractEmulator.Ledger.Memory
import ContractEmulator.Database.Memory
import ContractEmulator.Proofs.Contract.Questions
import ContractEmulator.Proofs.World.Host
import ContractEmulator.Samples.Contracts

/-!
# What a call sees of itself

Every fetch stamps an instance anew, also one whose logic is running. A call has taken its context
before that, so it sees the same from its start to its end.

* `Story.Sees context`: a call, and all calls under it, see what they should.
* `Scene.Goes.sees`: so they do, as long as no contract replaces the certificate.
* `Host.Reach.contexts_seen`: this is so in every execution.
-/

namespace ContractEmulator

/-- The question asks for no other certificate. A contract that uses its ledger and its own context
only has no other questions than that. -/
def ContractQuery.LeavesCertificate : ContractQuery → Prop
  | .setCertificate _ => False
  | _ => True

theorem ContractQuery.ledgerBlind_leavesCertificate :
    ContractQuery.LedgerBlind ContractQuery.LeavesCertificate :=
  ⟨fun _ => trivial, fun _ _ => trivial⟩

/-- The answer to the question about the context is `context`. -/
def ContractQuery.TellsOf (context : CallContext) : (q : ContractQuery) → q.Answer → Prop
  | .context, a => a = context
  | _, _ => True

/-- Whenever a call looks at its context, it sees `context`, before and after every call that it
makes. Every call that it makes has its own context: the id it was called by, the role of a nested
call, and the same certificate. -/
def Story.Sees (context : CallContext) : Story → Prop
  | .finished _ => True
  | .asked q a _ rest => q.TellsOf context a ∧ rest.Sees context
  | .refused _ _ _ _ _ rest => rest.Sees context
  | .called id _ _ callee _ inner rest =>
    callee.context = ⟨id, false, context.certificate⟩ ∧ inner.Sees callee.context ∧
      rest.Sees context

/-- The engine `k` has a certificate in force and knows a family of contracts. -/
structure World.Holds (w : World) (k : Nat) (certificate : Identity)
    (loader : Loader ContractLogic) : Prop where
  wellFormed : w.WellFormed
  engine : ∃ e, w.engines[k]? = some e ∧ e.certificate = certificate ∧ e.loader = loader

theorem World.Plays.holds {w w' : World} {t : Trace} {k : Nat} {certificate : Identity}
    {loader : Loader ContractLogic} (h : w.Plays t w')
    (hn : ∀ turn, .engine k turn ∈ t → ∀ identity, turn.deed ≠ .certified identity)
    (hw : w.Holds k certificate loader) : w'.Holds k certificate loader := by
  obtain ⟨e, hk, rfl, rfl⟩ := hw.engine
  obtain ⟨e', hk', hsteps⟩ := h.steps hk
  have hcert : e'.certificate = e.certificate :=
    hsteps.certificate_eq fun turn hmem => hn turn (Trace.mem_turns.1 hmem)
  exact ⟨h.wellFormed hw.wellFormed, e', hk', hcert, hsteps.loader_eq⟩

/-- Whatever happens in a world, an engine knows the family of contracts that it knew. -/
theorem World.Plays.exists_holds {w w' : World} {t : Trace} {k : Nat} {certificate : Identity}
    {loader : Loader ContractLogic} (h : w.Plays t w') (hw : w.Holds k certificate loader) :
    ∃ certificate', w'.Holds k certificate' loader := by
  obtain ⟨e, hk, -, rfl⟩ := hw.engine
  obtain ⟨e', hk', hsteps⟩ := h.steps hk
  exact ⟨e'.certificate, h.wellFormed hw.wellFormed, e', hk', rfl, hsteps.loader_eq⟩

namespace Scene

variable {σ : Type} {k : Nat} {a b : Activation} {q : ContractQuery} {p : ContractProgram}
  {s s' s₁ : Scene σ} {story : Story} {id : String} {f : Failure} {callee : Instance}
  {certificate : Identity} {loader : Loader ContractLogic}

theorem holds_dispatch (hw : s.world.Holds k certificate loader)
    (h : s.dispatch a id = .ok (callee, b, s₁)) : s₁.world.Holds k certificate loader := by
  refine (plays_dispatch h).world.holds (fun turn hmem => ?_) hw
  exact Deed.ne_certified_of_isFetch (isFetch_of_mem_dispatchMarks hmem)

theorem holds_fetch (hw : s.world.Holds k certificate loader)
    (h : s.fetch k id = .ok (callee, s₁)) : s₁.world.Holds k certificate loader := by
  refine (plays_fetch h).world.holds (fun turn hmem => ?_) hw
  exact Deed.ne_certified_of_isFetch (isFetch_of_mem_fetchMarks hmem)

/-- The logic of an instance that was handed out is known to the family. -/
theorem known_of_kept (hw : s.world.Holds k certificate loader)
    (hkept : ∃ e, s.world.engines[k]? = some e ∧ e.loaded.find? callee.id = some callee) :
    ∃ symbol, loader.factories.find? symbol = some callee.logic := by
  obtain ⟨e, hk, hfind⟩ := hkept
  obtain ⟨e', hk', -, rfl⟩ := hw.engine
  obtain rfl : e = e' := Option.some.inj (hk.symm.trans hk')
  exact (hw.wellFormed.engine hk).loaded_known hfind

/-- An instance that was handed out is one of the family, on whatever ledger it works. -/
theorem asks_of_kept {ok : ContractQuery → Prop} (hok : ContractQuery.LedgerBlind ok)
    (hl : loader.Asks ok) (hw : s.world.Holds k certificate loader)
    (hkept : ∃ e, s.world.engines[k]? = some e ∧ e.loaded.find? callee.id = some callee)
    (argument : Json) (properties : Option Json) (handed : HandedLedger) :
    (callee.program argument properties handed).Asks ok := by
  obtain ⟨symbol, hknown⟩ := known_of_kept hw hkept
  exact handed.asks_lend hok (hl symbol callee.logic hknown argument properties)

variable [Ledger σ]

theorem tellsOf_answer {reply : q.Answer} (h : answer silent a q s = some (reply, s₁)) :
    q.TellsOf a.context reply := by
  cases q with
  | context =>
    cases h
    rfl
  | _ => trivial

/-- A story sees what it should, and leaves the certificate in force. -/
theorem Goes.sees (hl : loader.Asks ContractQuery.LeavesCertificate) (h : Goes a p s story s')
    (hp : p.Asks ContractQuery.LeavesCertificate) (ha : a.Wired k)
    (hw : s.world.Holds k a.context.certificate loader) :
    story.Sees a.context ∧ s'.world.Holds k a.context.certificate loader := by
  induction h with
  | done => exact ⟨trivial, hw⟩
  | @ask a q next reply rest s s₁ s' hans _ ih =>
    obtain ⟨hq, hnext⟩ := hp
    have hw₁ : s₁.world.Holds k a.context.certificate loader := by
      refine (plays_answer hans).world.holds (fun turn hmem identity hdeed => ?_) hw
      obtain rfl := (deed_of_mem_marks hmem).2 (.setCertificate identity) (hdeed ▸ rfl)
      exact hq
    obtain ⟨hrest, hw'⟩ := ih (hnext reply) ha hw₁
    exact ⟨⟨tellsOf_answer hans, hrest⟩, hw'⟩
  | refuse _ _ ih => exact ih (hp.2 _) ha hw
  | @call a b id argument handed next callee inner rest s s₁ s₂ s' hdispatch _ _ ihinner ihrest =>
    obtain ⟨e, hk, hcert, -⟩ := hw.engine
    have hb := wired_of_dispatch hw.wellFormed ha hdispatch
    obtain ⟨hfetch, hactivation⟩ := fetchNested_of_dispatch ha hdispatch
    have hcallee : b.context = callee.context := by rw [hactivation]; rfl
    have hcontext : callee.context = ⟨id, false, a.context.certificate⟩ := by
      rw [context_of_fetchNested hw.wellFormed hk hfetch, hcert]
    have hsame : b.context.certificate = a.context.certificate := by rw [hcallee, hcontext]
    have hw₁ : s₁.world.Holds k b.context.certificate loader := by
      rw [hsame]
      exact holds_dispatch hw hdispatch
    have hkept := kept_of_dispatch hdispatch
    rw [hb.engine] at hkept
    have hasks := asks_of_kept ContractQuery.ledgerBlind_leavesCertificate hl hw₁ hkept argument
      callee.properties handed
    obtain ⟨hinner, hw₂⟩ := ihinner hasks hb hw₁
    rw [hsame] at hw₂
    rw [hcallee] at hinner
    obtain ⟨hrest, hw'⟩ := ihrest (hp.2 _) ha hw₂
    exact ⟨⟨hcontext, hinner, hrest⟩, hw'⟩

end Scene

namespace Host

variable {σ δ : Type} [Ledger σ] [Database δ] {trace : Trace} {h : Host} {k depth : Nat}
  {e : Engine} {id : String} {argument : Json} {functionArgument : Option Json} {ledger : σ}
  {database database' : δ} {outcome : Outcome} {s' : Scene σ}

/-- In every execution that comes to an end, the contract that was executed sees itself as the
root, and the contracts that are called see themselves as nested, at any depth. All of them see the
id they were called by and the certificate that was in force at the start, whenever they look. -/
theorem Reach.contexts_seen (hr : Reach trace h) (hk : h.world.engines[k]? = some e)
    (hl : e.loader.Asks ContractQuery.LeavesCertificate)
    (hrun : (h.scene ledger).execute depth k id argument functionArgument database =
      some (outcome, s', database')) :
    (∃ f, (h.scene ledger).fetch k id = .error f ∧ outcome = .error f) ∨
      ∃ i s₁ story s₂, (h.scene ledger).fetch k id = .ok (i, s₁) ∧
        Scene.call depth k i argument i.properties s₁ = some (story.outcome, s₂) ∧
        Scene.CallGoes k i argument i.properties s₁ story s₂ ∧
        i.context = ⟨id, true, e.certificate⟩ ∧ story.Sees i.context := by
  have hw : (h.scene ledger).world.Holds k e.certificate e.loader :=
    ⟨hr.accounts.wellFormed, e, hk, rfl, rfl⟩
  rcases Scene.execute_eq_some hrun with ⟨f, hfetch, hout, -⟩ |
    ⟨i, s₁, story, s₂, hfetch, hstory, hgoes, -⟩
  · exact .inl ⟨f, hfetch, hout⟩
  · have hcontext : i.context = ⟨id, true, e.certificate⟩ :=
      Scene.context_of_fetch hw.wellFormed hk hfetch
    have hw₁ : s₁.world.Holds k i.context.certificate e.loader := by
      rw [hcontext]
      exact Scene.holds_fetch hw hfetch
    have hasks := Scene.asks_of_kept ContractQuery.ledgerBlind_leavesCertificate hl hw₁
      (Scene.kept_of_fetch hfetch) argument i.properties .own
    have hwired := Scene.wired_of_fetch hw.wellFormed hfetch
    exact .inr ⟨i, s₁, story, s₂, hfetch, hstory, hgoes, hcontext,
      (hgoes.sees hl hasks hwired hw₁).1⟩

end Host

namespace SampleContract

theorem asks_recursive {ok : ContractQuery → Prop} (hcontext : ok .context)
    (hcall : ∀ id argument, ok (.call id argument .own)) (argument : Json)
    (properties : Option Json) : (recursive argument properties).Asks ok := by
  refine ContractM.asks_bind (ContractM.asks_ask hcontext) fun context => ?_
  dsimp only
  split
  · exact ContractM.asks_pure _
  · exact ContractM.asks_bind (ContractM.asks_call (hcall _ _)) fun inner => ContractM.asks_pure _

/-- The loader's only contract asks for its context and for calls. -/
theorem asks_recursiveLoader_of {ok : ContractQuery → Prop} (hcontext : ok .context)
    (hcall : ∀ id argument, ok (.call id argument .own)) : recursiveLoader.Asks ok := by
  intro symbol logic hfind argument properties
  have hmem := OrderedMap.mem_of_find?_ofList hfind
  obtain rfl := (Prod.mk.inj (List.mem_singleton.1 hmem)).2
  exact asks_recursive hcontext hcall argument properties

theorem asks_recursiveLoader : recursiveLoader.Asks ContractQuery.LeavesCertificate :=
  asks_recursiveLoader_of trivial fun _ _ => trivial

end SampleContract

namespace Host

/-- A contract that is executed and calls itself sees itself as the root before and after, and as
nested in between. -/
theorem looping_contexts_seen : ∃ i s₁ story s₂,
    (looping.scene MemoryLedger.empty).fetch 0 "loop" = .ok (i, s₁) ∧
      Scene.CallGoes 0 i (.obj [("depth", .int 1)]) i.properties s₁ story s₂ ∧
      i.context = ⟨"loop", true, .initial⟩ ∧ story.Sees i.context := by
  have hdone : ((looping.scene MemoryLedger.empty).execute 1 0 "loop" (.obj [("depth", .int 1)])
      none MemoryDatabase.empty).any (fun r => r.1.isOk) = true := by decide +kernel
  obtain ⟨⟨outcome, s', database'⟩, hrun, hok⟩ := (Option.any_eq_true _ _).1 hdone
  obtain ⟨trace, hr⟩ := exists_reach_looping
  rcases hr.contexts_seen rfl SampleContract.asks_recursiveLoader hrun with
    ⟨f, -, rfl⟩ | ⟨i, s₁, story, s₂, hfetch, -, hgoes, hcontext, hsees⟩
  · cases hok
  · exact ⟨i, s₁, story, s₂, hfetch, hgoes, hcontext, hsees⟩

end Host

end ContractEmulator
