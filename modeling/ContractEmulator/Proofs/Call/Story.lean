import ContractEmulator.Proofs.World.Trace

/-!
# The story of a call

A contract asks questions, and some of them are calls of other contracts, which may call back. The
story of a call tells what the logic asked and was told, with every call that it made told in full
at its place.

* `Scene.Goes a p s story s'`: the program `p` of the running contract `a` goes as the story tells
  and leads from `s` to `s'`.
* `Scene.exists_interpret_iff`: a program comes to an end exactly if it has a story, and the story
  ends the same way. How deep calls may go does not matter beyond that.
* `Scene.Goes.unique`: there is at most one story.
* `Scene.Goes.plays`: the trace of the story accounts for the engines and the log after it.
* `Scene.Goes.deed_of_mem_trace`: what is done in a story only if a contract asks for it.
* `Scene.CallGoes`: the story of a call that the host makes.
-/

namespace ContractEmulator

/-- How the logic of a contract went, step by step. -/
inductive Story where
  | finished (ending : Outcome × Json)
  /-- A question that no other contract had a part in. -/
  | asked (q : ContractQuery) (reply : q.Answer) (marks : Trace) (rest : Story)
  /-- A call of a contract that could not be fetched. -/
  | refused (id : String) (argument : Json) (handed : HandedLedger) (failure : Failure)
    (marks : Trace) (rest : Story)
  /-- A call of another contract: `callee` as it was fetched, the story of it, and what came
  after. -/
  | called (id : String) (argument : Json) (handed : HandedLedger) (callee : Instance)
    (marks : Trace) (inner rest : Story)

namespace Story

/-- How the logic ended, and the state in which it left the ledger that it was handed. -/
def ending : Story → Outcome × Json
  | .finished ending => ending
  | .asked _ _ _ rest => rest.ending
  | .refused _ _ _ _ _ rest => rest.ending
  | .called _ _ _ _ _ _ rest => rest.ending

/-- How the logic ended. -/
def outcome (story : Story) : Outcome := story.ending.1

/-- What happened in the world, the calls included, each at its place. -/
def trace : Story → Trace
  | .finished _ => []
  | .asked _ _ marks rest => marks ++ rest.trace
  | .refused _ _ _ _ marks rest => marks ++ rest.trace
  | .called _ _ _ _ marks inner rest => marks ++ (inner.trace ++ rest.trace)

/-- How many calls were open at once, at most. -/
def depth : Story → Nat
  | .finished _ => 0
  | .asked _ _ _ rest => rest.depth
  | .refused _ _ _ _ _ rest => max 1 rest.depth
  | .called _ _ _ _ _ inner rest => max (inner.depth + 1) rest.depth

/-- One of the contracts of the story asks a question. -/
def Asks (q : ContractQuery) : Story → Prop
  | .finished _ => False
  | .asked q' _ _ rest => q' = q ∨ rest.Asks q
  | .refused _ _ _ _ _ rest => rest.Asks q
  | .called _ _ _ _ _ inner rest => inner.Asks q ∨ rest.Asks q

end Story

theorem Scene.interpret_ask_eq_some {σ ρ : Type} {s s' : Scene σ} {q : ContractQuery}
    {handle : (q : ContractQuery) → Scene.Act σ q.Answer}
    {next : q.Answer → Program ContractQuery.Answer ρ} {r : ρ} :
    Program.interpret handle (.ask q next) s = some (r, s') ↔
      ∃ a s₁, handle q s = some (a, s₁) ∧
        Program.interpret handle (next a) s₁ = some (r, s') := by
  simp only [Program.interpret, bind, StateT.bind, Option.bind_eq_some_iff, Prod.exists]

/-- The program of a contract, with the state of the ledger that it was handed in its result. -/
abbrev ContractProgram := Program ContractQuery.Answer (Outcome × Json)

namespace Scene

variable {σ : Type} [Ledger σ]

/-- Answers no call. -/
def silent : Nested σ := fun _ _ _ _ => none

/-- The trace of the answer to a question that is no call. -/
def marks (a : Activation) (s : Scene σ) : ContractQuery → Trace
  | .ledger call => [.voice (Ledger.answer s.ledger call).2.2]
  | .remember memory => s.rememberMarks a.engine a.context.contractId memory
  | .setCertificate identity =>
    s.focusMarks fun e => ⟨.certified identity, (e.setCertificate identity).2⟩
  | .fetch id => s.focusFetchMarks id
  | .register artifact =>
    s.focusMarks fun e =>
      ⟨.registered artifact (e.loaded.contains artifact.id), (e.register artifact).2⟩
  | .registerFunction entry =>
    s.focusMarks fun e =>
      ⟨.registeredFunction entry (e.functions.loaded.contains entry.id),
        (e.registerFunction entry).2⟩
  | .keepHandle => s.keepMarks a.engine
  | .dropHandle => s.dropMarks a.engine
  | .context | .call _ _ _ | .memory => []

/-- A program of a running contract goes as a story tells. -/
inductive Goes : Activation → ContractProgram → Scene σ → Story → Scene σ → Prop where
  | done {a : Activation} {ending : Outcome × Json} {s : Scene σ} :
      Goes a (.done ending) s (.finished ending) s
  | ask {a : Activation} {q : ContractQuery} {next : q.Answer → ContractProgram}
      {reply : q.Answer} {rest : Story} {s s₁ s' : Scene σ} :
      answer silent a q s = some (reply, s₁) → Goes a (next reply) s₁ rest s' →
      Goes a (.ask q next) s (.asked q reply (s.marks a q) rest) s'
  | refuse {a : Activation} {id : String} {argument : Json} {handed : HandedLedger}
      {next : Outcome × Json → ContractProgram} {f : Failure} {rest : Story} {s s' : Scene σ} :
      s.dispatch a id = .error f → Goes a (next (.error f, handed.state)) s rest s' →
      Goes a (.ask (.call id argument handed) next) s
        (.refused id argument handed f (s.dispatchMarks a id) rest) s'
  /-- The caller is told what the logic of the callee returned, and what became of the ledger that
  it has handed to it. -/
  | call {a b : Activation} {id : String} {argument : Json} {handed : HandedLedger}
      {next : Outcome × Json → ContractProgram} {callee : Instance} {inner rest : Story}
      {s s₁ s₂ s' : Scene σ} :
      s.dispatch a id = .ok (callee, b, s₁) →
      Goes b (callee.program argument callee.properties handed) s₁ inner s₂ →
      Goes a (next inner.ending) s₂ rest s' →
      Goes a (.ask (.call id argument handed) next) s
        (.called id argument handed callee
          (s.dispatchMarks a id ++ [callMark b.engine callee argument]) inner rest)
        s'

variable {k depth : Nat} {a : Activation} {q : ContractQuery} {p : ContractProgram}
  {ending : Outcome × Json} {outcome : Outcome} {s s' s₁ : Scene σ} {story : Story}

/-! ## Questions that are no calls -/

theorem answer_of_silent (nested : Nested σ) {reply : q.Answer}
    (h : answer silent a q s = some (reply, s₁)) : answer nested a q s = some (reply, s₁) := by
  cases q with
  | call => cases h
  | _ => exact h

/-- Only calls are a matter of what calls are answered by. -/
theorem answer_eq_silent (nested : Nested σ)
    (hq : ∀ id argument handed, q ≠ .call id argument handed) (s : Scene σ) :
    answer nested a q s = answer silent a q s := by
  cases q with
  | call => exact (hq _ _ _ rfl).elim
  | _ => rfl

omit [Ledger σ] in
theorem ledger_update (s : Scene σ) (k : Nat) (step : Engine → Engine × List Event) :
    (s.update k step).ledger = s.ledger := by
  unfold update
  split <;> rfl

omit [Ledger σ] in
theorem ledger_fetch {id : String} {i : Instance} (h : s.fetch k id = .ok (i, s₁)) :
    s₁.ledger = s.ledger := by
  obtain ⟨e, e', events, -, -, rfl⟩ := fetch_eq_ok h
  rfl

omit [Ledger σ] in
theorem exists_onFocus (step : Engine → Engine × List Event) (s : Scene σ) :
    ∃ reply s₁, onFocus step s = some (reply, s₁) ∧ s₁.ledger = s.ledger := by
  unfold onFocus
  split
  · exact ⟨_, _, rfl, ledger_update s _ step⟩
  · exact ⟨_, s, rfl, rfl⟩

omit [Ledger σ] in
theorem exists_fetchOnFocus (id : String) (s : Scene σ) :
    ∃ reply s₁, fetchOnFocus id s = some (reply, s₁) ∧ s₁.ledger = s.ledger := by
  unfold fetchOnFocus
  split
  · split
    · next hfetch => exact ⟨_, _, rfl, ledger_fetch hfetch⟩
    · exact ⟨_, s, rfl, rfl⟩
  · exact ⟨_, s, rfl, rfl⟩

/-- What is neither for the ledger nor for another contract is answered at once, and the ledger has
no part in that. -/
theorem exists_answer (nested : Nested σ) (a : Activation) (s : Scene σ)
    (hledger : ∀ call, q ≠ .ledger call)
    (hcall : ∀ id argument handed, q ≠ .call id argument handed) :
    ∃ reply s₁, answer nested a q s = some (reply, s₁) ∧ s₁.ledger = s.ledger := by
  cases q with
  | ledger call => exact (hledger call rfl).elim
  | call id argument handed => exact (hcall id argument handed rfl).elim
  | context | memory => exact ⟨_, s, rfl, rfl⟩
  | remember memory => exact ⟨(), _, rfl, ledger_update s a.engine _⟩
  | setCertificate | register | registerFunction => exact exists_onFocus _ s
  | fetch id => exact exists_fetchOnFocus id s
  | keepHandle =>
    show ∃ reply s₁, keepHandle a.engine s = some (reply, s₁) ∧ s₁.ledger = s.ledger
    unfold keepHandle
    split
    · exact ⟨true, _, rfl, ledger_update s a.engine _⟩
    · exact ⟨false, s, rfl, rfl⟩
  | dropHandle =>
    show ∃ reply s₁, dropHandle a.engine s = some (reply, s₁) ∧ s₁.ledger = s.ledger
    unfold dropHandle
    split
    · exact ⟨true, _, rfl, ledger_update s a.engine _⟩
    · exact ⟨false, s, rfl, rfl⟩

/-! ## Stories and runs -/

theorem callNested_succ (depth : Nat) (a : Activation) (id : String) (argument : Json)
    (handed : HandedLedger) (s : Scene σ) :
    callNested (depth + 1) a id argument handed s =
      match s.dispatch a id with
      | .error f => some ((.error f, handed.state), s)
      | .ok (callee, b, s) =>
        run (callNested depth b) b callee argument callee.properties handed s := rfl

theorem callNested_eq_some {id : String} {argument : Json} {handed : HandedLedger}
    (h : callNested depth a id argument handed s = some (ending, s')) :
    (∃ f, s.dispatch a id = .error f ∧ ending = (.error f, handed.state) ∧ s' = s) ∨
      ∃ d callee b s₁, d < depth ∧ s.dispatch a id = .ok (callee, b, s₁) ∧
        run (callNested d b) b callee argument callee.properties handed s₁ =
          some (ending, s') := by
  cases depth with
  | zero => cases h
  | succ d =>
    rw [callNested_succ] at h
    split at h
    · next f hdispatch =>
      cases h
      exact .inl ⟨f, hdispatch, rfl, rfl⟩
    · next callee b s₁ hdispatch =>
      exact .inr ⟨d, callee, b, s₁, by omega, hdispatch, h⟩

/-- A program that comes to an end has a story. -/
theorem exists_goes_of_interpret
    (h : Program.interpret (answer (callNested depth a) a) p s = some (ending, s')) :
    ∃ story, story.ending = ending ∧ Goes a p s story s' := by
  -- A callee has less depth left than its caller, and what comes after a question is a part of the
  -- program that asked it.
  induction depth using Nat.strongRecOn generalizing a p s ending s' with
  | ind depth ih =>
    induction p generalizing s with
    | done result =>
      obtain ⟨rfl, rfl⟩ := Prod.mk.inj (Option.some.inj h)
      exact ⟨.finished _, rfl, .done⟩
    | ask q next ihp =>
      obtain ⟨reply, s₁, hans, hnext⟩ := interpret_ask_eq_some.1 h
      obtain ⟨rest, hend, hrest⟩ := ihp reply hnext
      cases q with
      | call id argument handed =>
        rcases callNested_eq_some hans with ⟨f, hdispatch, rfl, rfl⟩ |
          ⟨d, callee, b, s₂, hd, hdispatch, hrun⟩
        · exact ⟨.refused id argument handed f _ rest, hend, .refuse hdispatch hrest⟩
        · obtain ⟨inner, rfl, hinner⟩ := ih d hd hrun
          exact ⟨.called id argument handed callee _ inner rest, hend,
            .call hdispatch hinner hrest⟩
      | _ => exact ⟨.asked _ reply _ rest, hend, .ask hans hrest⟩

/-- A program with a story comes to an end, if calls may go as deep as in the story. -/
theorem Goes.interpret (h : Goes a p s story s') (hd : story.depth ≤ depth) :
    Program.interpret (answer (callNested depth a) a) p s = some (story.ending, s') := by
  induction h generalizing depth with
  | done => rfl
  | ask hans _ ih => exact interpret_ask_eq_some.2 ⟨_, _, answer_of_silent _ hans, ih hd⟩
  | @refuse a id argument handed _ f rest s _ hdispatch _ ih =>
    simp only [Story.depth] at hd
    obtain ⟨d, rfl⟩ : ∃ d, depth = d + 1 := ⟨depth - 1, by omega⟩
    have hrest : rest.depth ≤ d + 1 := by omega
    refine interpret_ask_eq_some.2 ⟨(.error f, handed.state), s, ?_, ih hrest⟩
    show callNested (d + 1) a id argument handed s = _
    rw [callNested_succ, hdispatch]
    rfl
  | @call a _ id argument handed _ callee inner rest s s₁ s₂ _ hdispatch _ _ ihinner ihrest =>
    simp only [Story.depth] at hd
    obtain ⟨d, rfl⟩ : ∃ d, depth = d + 1 := ⟨depth - 1, by omega⟩
    have hinner : inner.depth ≤ d := by omega
    have hrest : rest.depth ≤ d + 1 := by omega
    refine interpret_ask_eq_some.2 ⟨inner.ending, s₂, ?_, ihrest hrest⟩
    show callNested (d + 1) a id argument handed s = _
    rw [callNested_succ, hdispatch]
    exact ihinner hinner

/-- A program comes to an end exactly if it has a story, and it ends as the story does. -/
theorem exists_interpret_iff :
    (∃ depth, Program.interpret (answer (callNested depth a) a) p s = some (ending, s')) ↔
      ∃ story, story.ending = ending ∧ Goes a p s story s' := by
  constructor
  · rintro ⟨depth, h⟩
    exact exists_goes_of_interpret h
  · rintro ⟨story, rfl, h⟩
    exact ⟨story.depth, h.interpret (Nat.le_refl _)⟩

/-- There is at most one story of a program. -/
theorem Goes.unique {story₁ story₂ : Story} {s₁ s₂ : Scene σ} (h₁ : Goes a p s story₁ s₁)
    (h₂ : Goes a p s story₂ s₂) : story₁ = story₂ ∧ s₁ = s₂ := by
  induction h₁ generalizing story₂ s₂ with
  | done =>
    cases h₂ with
    | done => exact ⟨rfl, rfl⟩
  | ask hans _ ih =>
    cases h₂ with
    | ask hans' hrest' =>
      obtain ⟨rfl, rfl⟩ := Prod.mk.inj (Option.some.inj (hans.symm.trans hans'))
      obtain ⟨rfl, rfl⟩ := ih hrest'
      exact ⟨rfl, rfl⟩
    | refuse | call => cases hans
  | refuse hdispatch _ ih =>
    cases h₂ with
    | ask hans => cases hans
    | refuse hdispatch' hrest' =>
      obtain rfl := Except.error.inj (hdispatch.symm.trans hdispatch')
      obtain ⟨rfl, rfl⟩ := ih hrest'
      exact ⟨rfl, rfl⟩
    | call hdispatch' => cases hdispatch.symm.trans hdispatch'
  | call hdispatch _ _ ihinner ihrest =>
    cases h₂ with
    | ask hans => cases hans
    | refuse hdispatch' => cases hdispatch.symm.trans hdispatch'
    | call hdispatch' hinner' hrest' =>
      cases hdispatch.symm.trans hdispatch'
      obtain ⟨rfl, rfl⟩ := ihinner hinner'
      obtain ⟨rfl, rfl⟩ := ihrest hrest'
      exact ⟨rfl, rfl⟩

/-! ## The trace of a story -/

/-- The answer to a question that is no call does what its trace tells. -/
theorem plays_answer {reply : q.Answer} (h : answer silent a q s = some (reply, s₁)) :
    s.Plays (s.marks a q) s₁ := by
  cases q with
  | call => cases h
  | context | memory =>
    cases h
    exact .refl s
  | ledger call =>
    cases h
    exact plays_voice s _ _
  | remember memory =>
    cases h
    exact plays_remember s a.engine a.context.contractId memory
  | setCertificate identity =>
    exact plays_onFocus (fun _ => .certified identity) (fun e => .certify e identity) h
  | fetch id => exact plays_fetchOnFocus h
  | register artifact => exact plays_onFocus _ (fun e => .register e artifact) h
  | registerFunction entry => exact plays_onFocus _ (fun e => .registerFunction e entry) h
  | keepHandle => exact plays_keepHandle h
  | dropHandle => exact plays_dropHandle h

/-- The trace of a story accounts for the engines and the log after it. -/
theorem Goes.plays (h : Goes a p s story s') : s.Plays story.trace s' := by
  induction h with
  | done => exact .refl _
  | ask hans _ ih => exact (plays_answer hans).append ih
  | refuse hdispatch _ ih => exact (plays_dispatch_error hdispatch).append ih
  | @call _ _ _ argument _ _ _ _ _ _ _ _ _ hdispatch _ _ ihinner ihrest =>
    have hcall :=
      (plays_dispatch hdispatch).append (plays_call (kept_of_dispatch hdispatch) argument)
    exact hcall.append (ihinner.append ihrest)

/-- What is done for a question runs no function, and what can be asked for is done only if the
question asks for it. -/
theorem deed_of_mem_marks {j : Nat} {turn : Turn} (h : .engine j turn ∈ s.marks a q) :
    turn.deed.isRun = false ∧ ∀ q', turn.deed.request? = some q' → q' = q := by
  cases q with
  | register | registerFunction | setCertificate =>
    obtain ⟨e, rfl⟩ := turn_of_mem_focusMarks h
    exact ⟨rfl, fun q' hrequest => (Option.some.inj hrequest).symm⟩
  | fetch id =>
    have hfetch := isFetch_of_mem_focusFetchMarks h
    refine ⟨Deed.isRun_of_isFetch hfetch, fun q' hrequest => ?_⟩
    cases (Deed.request?_of_isFetch hfetch).symm.trans hrequest
  | remember memory =>
    obtain rfl := turn_of_mem_rememberMarks h
    exact ⟨rfl, by rintro _ ⟨⟩⟩
  | keepHandle =>
    obtain rfl := turn_of_mem_keepMarks h
    exact ⟨rfl, fun q' hrequest => (Option.some.inj hrequest).symm⟩
  | dropHandle =>
    obtain rfl := turn_of_mem_dropMarks h
    exact ⟨rfl, fun q' hrequest => (Option.some.inj hrequest).symm⟩
  | ledger call => cases List.mem_singleton.1 h
  | context | call | memory => cases h

/-- A story runs no function, and what is done in it that can be asked for was asked for by a
contract of it. -/
theorem Goes.deed_of_mem_trace (h : Goes a p s story s') {j : Nat} {turn : Turn}
    (hmem : .engine j turn ∈ story.trace) :
    turn.deed.isRun = false ∧ ∀ q, turn.deed.request? = some q → story.Asks q := by
  have hfetch : ∀ {story : Story}, turn.deed.isFetch = true →
      turn.deed.isRun = false ∧ ∀ q, turn.deed.request? = some q → story.Asks q := by
    intro story hfetch
    refine ⟨Deed.isRun_of_isFetch hfetch, fun q hrequest => ?_⟩
    cases (Deed.request?_of_isFetch hfetch).symm.trans hrequest
  induction h with
  | done => cases hmem
  | ask _ _ ih =>
    rcases List.mem_append.1 hmem with hmarks | hrest
    · obtain ⟨hrun, hrequest⟩ := deed_of_mem_marks hmarks
      exact ⟨hrun, fun q hq => .inl (hrequest q hq).symm⟩
    · exact (ih hrest).imp_right fun hrequest q hq => .inr (hrequest q hq)
  | refuse _ _ ih =>
    rcases List.mem_append.1 hmem with hmarks | hrest
    · exact hfetch (isFetch_of_mem_dispatchMarks hmarks)
    · exact ih hrest
  | call _ _ _ ihinner ihrest =>
    rcases List.mem_append.1 hmem with hmarks | hcalls
    · rcases List.mem_append.1 hmarks with hdispatch | hcall
      · exact hfetch (isFetch_of_mem_dispatchMarks hdispatch)
      · cases List.mem_singleton.1 hcall
        exact ⟨rfl, by rintro _ ⟨⟩⟩
    · rcases List.mem_append.1 hcalls with hinner | hrest
      · exact (ihinner hinner).imp_right fun hrequest q hq => .inl (hrequest q hq)
      · exact (ihrest hrest).imp_right fun hrequest q hq => .inr (hrequest q hq)

/-- Whatever a question is, a trace accounts for what became of the scene. -/
theorem exists_plays_of_answer {reply : q.Answer}
    (h : answer (callNested depth a) a q s = some (reply, s')) : ∃ t, s.Plays t s' := by
  let p : ContractProgram := .ask q fun _ => .done (.ok none, .null)
  have hrun : Program.interpret (answer (callNested depth a) a) p s =
      some ((.ok none, .null), s') := interpret_ask_eq_some.2 ⟨reply, s', h, rfl⟩
  obtain ⟨story, -, hgoes⟩ := exists_goes_of_interpret hrun
  exact ⟨story.trace, hgoes.plays⟩

/-! ## Calls by the host -/

/-- The host calls the instance `i` of the engine `k`, and the call goes as a story tells. -/
abbrev CallGoes (k : Nat) (i : Instance) (argument : Json) (properties : Option Json) (s : Scene σ)
    (story : Story) (s' : Scene σ) : Prop :=
  Goes (i.activation k []) (i.program argument properties .own) s story s'

variable {i : Instance} {argument : Json} {properties : Option Json}

theorem call_eq_some (h : call depth k i argument properties s = some (outcome, s')) :
    ∃ story, story.outcome = outcome ∧ CallGoes k i argument properties s story s' := by
  obtain ⟨⟨ending, s₁⟩, hrun, hend⟩ := Option.map_eq_some_iff.1 h
  obtain ⟨story, rfl, hgoes⟩ := exists_goes_of_interpret hrun
  cases hend
  exact ⟨story, rfl, hgoes⟩

theorem CallGoes.call_eq (h : CallGoes k i argument properties s story s')
    (hd : story.depth ≤ depth) : call depth k i argument properties s = some (story.outcome, s') :=
  Option.map_eq_some_iff.2 ⟨_, h.interpret hd, rfl⟩

end Scene

end ContractEmulator
