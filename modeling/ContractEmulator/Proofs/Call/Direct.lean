import ContractEmulator.Engine.World
import ContractEmulator.Proofs.Engine.Fetch
import ContractEmulator.Proofs.Ledger.Layered

/-!
# Contracts without an engine

Contracts can be run on a ledger as if there were no engine. Each call is run on the spot, on the
ledger of its caller or on one that its caller has made.

* `Tale`: how the logic of a contract went, told without an engine.
* `Direct`: the logic of a contract runs on a ledger as a tale tells.
* `Tale.issued`: the calls that contracts issue on the ledger on which a tale starts.
  `Direct.ledger_eq`: the ledger receives these and nothing else. `Tale.issued_eq`: if every
  contract hands on the ledger that it was given, these are all the calls of a ledger that the
  contracts make.
* `HandedLedger.direct_onto`: ledgers that were made on top of each other can be taken as one.
-/

namespace ContractEmulator

/-- The call of a ledger that a question is, if it is one. -/
def ContractQuery.ledgerCall? : ContractQuery → Option LedgerCall
  | .ledger c => some c
  | _ => none

/-- Whether a reply is right: a ledger has its own say, and so has a contract that is called. -/
def ContractQuery.AnsweredBy {τ : Type} [Ledger τ] (ledger : τ) :
    (q : ContractQuery) → q.Answer → Prop
  | .ledger c, reply => reply = (Ledger.respond c ledger).1
  | .call _ _ _, _ => False
  | _, _ => True

/-- How the logic of a contract went, without an engine. -/
inductive Tale where
  | finished (outcome : Outcome)
  | asked (q : ContractQuery) (reply : q.Answer) (rest : Tale)
  /-- A call of a contract that could not be fetched. -/
  | refused (id : String) (argument : Json) (handed : HandedLedger) (failure : Failure)
    (rest : Tale)
  /-- A call of another contract, the tale of it, and what came after. -/
  | called (id : String) (argument : Json) (handed : HandedLedger) (callee : Instance)
    (inner rest : Tale)

namespace Tale

/-- How the logic ended. -/
def outcome : Tale → Outcome
  | .finished outcome => outcome
  | .asked _ _ rest => rest.outcome
  | .refused _ _ _ _ rest => rest.outcome
  | .called _ _ _ _ _ rest => rest.outcome

/-- Every contract hands on the ledger that it was given. -/
def HandsOn : Tale → Prop
  | .finished _ => True
  | .asked _ _ rest => rest.HandsOn
  | .refused _ _ _ _ rest => rest.HandsOn
  | .called _ _ handed _ inner rest => handed = .own ∧ inner.HandsOn ∧ rest.HandsOn

/-- The calls of a ledger that contracts make, whichever ledger each of them works on: those that a
contract makes itself, in order, and in between those of the contracts that it calls. -/
def ledgerCalls : Tale → List LedgerCall
  | .finished _ => []
  | .asked q _ rest => q.ledgerCall?.toList ++ rest.ledgerCalls
  | .refused _ _ _ _ rest => rest.ledgerCalls
  | .called _ _ _ _ inner rest => inner.ledgerCalls ++ rest.ledgerCalls

/-- The calls that contracts issue on the ledger on which the tale starts: those that a contract
makes itself, in order, and in between those of the contracts that it calls. A contract that is
called on a ledger of its caller's making issues its calls on that one, and what that one asks in
turn is issued for it. -/
def issued : Tale → {τ : Type} → [Ledger τ] → τ → List LedgerCall
  | .finished _, _, _, _ => []
  | .asked q _ rest, _, _, ledger =>
    q.ledgerCall?.toList ++ rest.issued (Ledger.replay ledger q.ledgerCall?.toList)
  | .refused _ _ _ _ rest, _, _, ledger => rest.issued ledger
  | .called _ _ .own _ inner rest, _, _, ledger =>
    inner.issued ledger ++ rest.issued (Ledger.replay ledger (inner.issued ledger))
  | .called _ _ (.made upper) _ inner rest, τ, _, ledger =>
    let layered : Layered τ := ⟨upper, ledger⟩
    let calls := layered.passesOn (inner.issued layered)
    calls ++ rest.issued (Ledger.replay ledger calls)

/-- The contracts that were called, each at its place, and the failures where there was none. -/
def callees : Tale → List (Except Failure Instance)
  | .finished _ => []
  | .asked _ _ rest => rest.callees
  | .refused _ _ _ f rest => .error f :: rest.callees
  | .called _ _ _ callee inner rest => .ok callee :: (inner.callees ++ rest.callees)

/-- As long as every contract hands on the ledger that it was given, all calls of a ledger that the
contracts make are issued on this one. -/
theorem issued_eq {tale : Tale} (h : tale.HandsOn) {τ : Type} [Ledger τ] (ledger : τ) :
    tale.issued ledger = tale.ledgerCalls := by
  induction tale generalizing ledger with
  | finished => rfl
  | asked q reply rest ih => rw [issued, ledgerCalls, ih h]
  | refused id argument handed f rest ih => exact ih h ledger
  | called id argument handed callee inner rest ihinner ihrest =>
    obtain ⟨rfl, hinner, hrest⟩ := h
    rw [issued, ledgerCalls, ihinner hinner, ihrest hrest]

end Tale

/-- The logic of a contract runs on a ledger as its tale tells, without an engine. The ledger
answers each call as the calls before have left it. A contract that is called is run on the spot, on
the ledger that it is handed, and what it returns is what its caller is told; if there is none to
run, the caller is told why. -/
inductive Direct : {τ : Type} → [Ledger τ] → Program ContractQuery.Answer Outcome → τ → Tale → τ →
    Prop where
  | done {τ : Type} [Ledger τ] {outcome : Outcome} {ledger : τ} :
      Direct (.done outcome) ledger (.finished outcome) ledger
  | ask {τ : Type} [Ledger τ] {q : ContractQuery}
      {next : q.Answer → Program ContractQuery.Answer Outcome} {reply : q.Answer} {rest : Tale}
      {ledger ledger' : τ} :
      q.AnsweredBy ledger reply →
      Direct (next reply) (Ledger.replay ledger q.ledgerCall?.toList) rest ledger' →
      Direct (.ask q next) ledger (.asked q reply rest) ledger'
  | refuse {τ : Type} [Ledger τ] {id : String} {argument : Json} {handed : HandedLedger}
      {next : Outcome × Json → Program ContractQuery.Answer Outcome} {f : Failure} {rest : Tale}
      {ledger ledger' : τ} :
      f.OfFetch id → Direct (next (.error f, handed.state)) ledger rest ledger' →
      Direct (.ask (.call id argument handed) next) ledger (.refused id argument handed f rest)
        ledger'
  | call {τ : Type} [Ledger τ] {id : String} {argument : Json}
      {next : Outcome × Json → Program ContractQuery.Answer Outcome} {callee : Instance}
      {inner rest : Tale} {ledger ledger₁ ledger' : τ} :
      callee.id = id →
      Direct (callee.logic argument callee.properties).run ledger inner ledger₁ →
      Direct (next (inner.outcome, .null)) ledger₁ rest ledger' →
      Direct (.ask (.call id argument .own) next) ledger
        (.called id argument .own callee inner rest) ledger'
  /-- The ledger that was made stands on the one of the caller, which gets to see its state. -/
  | callOn {τ : Type} [Ledger τ] {id : String} {argument : Json} {upper upper' : MadeLedger}
      {next : Outcome × Json → Program ContractQuery.Answer Outcome} {callee : Instance}
      {inner rest : Tale} {ledger ledger₁ ledger' : τ} :
      callee.id = id →
      Direct (callee.logic argument callee.properties).run (⟨upper, ledger⟩ : Layered τ) inner
        ⟨upper', ledger₁⟩ →
      Direct (next (inner.outcome, upper'.state)) ledger₁ rest ledger' →
      Direct (.ask (.call id argument (.made upper)) next) ledger
        (.called id argument (.made upper) callee inner rest) ledger'

namespace Direct

variable {τ τ' : Type} [Ledger τ] [Ledger τ'] {p : Program ContractQuery.Answer Outcome}
  {ledger ledger' : τ} {tale : Tale} {q : ContractQuery} {reply : q.Answer}

/-- The ledger is left as the calls leave it that it receives. -/
theorem ledger_eq (h : Direct p ledger tale ledger') :
    ledger' = Ledger.replay ledger (tale.issued ledger) := by
  induction h with
  | done => rfl
  | ask _ _ ih =>
    rw [Tale.issued, Ledger.replay_append]
    exact ih
  | refuse _ _ ih => exact ih
  | call _ _ _ ihinner ihrest =>
    rw [Tale.issued, Ledger.replay_append, ← ihinner]
    exact ihrest
  | callOn _ _ _ ihinner ihrest =>
    have hbelow := (congrArg Layered.below ihinner).trans (Layered.below_replay _ _)
    rw [Tale.issued, Ledger.replay_append, ← hbelow]
    exact ihrest

/-- Ledgers that answer alike are right about the same replies. -/
theorem answeredBy_of_alike {R : τ → τ' → Prop} (hR : Ledger.Alike R) {t : τ} {u : τ'} (h : R t u)
    (hreply : q.AnsweredBy t reply) : q.AnsweredBy u reply ∧
      R (Ledger.replay t q.ledgerCall?.toList) (Ledger.replay u q.ledgerCall?.toList) := by
  cases q with
  | ledger call =>
    obtain ⟨hanswer, hnext⟩ := hR h call
    rw [Ledger.respond_snd, Ledger.respond_snd] at hnext
    exact ⟨hreply.trans hanswer, hnext⟩
  | call => exact hreply.elim
  | _ => exact ⟨trivial, h⟩

/-- On ledgers that answer alike, contracts run alike. -/
theorem of_alike {R : τ → τ' → Prop} (hR : Ledger.Alike R) {u : τ'}
    (h : Direct p ledger tale ledger') (hu : R ledger u) :
    ∃ u', Direct p u tale u' ∧ R ledger' u' := by
  induction h generalizing τ' with
  | done => exact ⟨u, .done, hu⟩
  | ask hreply _ ih =>
    obtain ⟨hreply', hnext⟩ := answeredBy_of_alike hR hu hreply
    obtain ⟨u', hrest, hu'⟩ := ih hR hnext
    exact ⟨u', .ask hreply' hrest, hu'⟩
  | refuse hfailure _ ih =>
    obtain ⟨u', hrest, hu'⟩ := ih hR hu
    exact ⟨u', .refuse hfailure hrest, hu'⟩
  | call hid _ _ ihinner ihrest =>
    obtain ⟨u₁, hinner, hu₁⟩ := ihinner hR hu
    obtain ⟨u', hrest, hu'⟩ := ihrest hR hu₁
    exact ⟨u', .call hid hinner hrest, hu'⟩
  | @callOn _ _ _ _ upper _ _ _ _ _ _ _ _ hid _ _ ihinner ihrest =>
    obtain ⟨⟨upper₁, u₁⟩, hinner, rfl, hu₁⟩ :=
      ihinner (u := (⟨upper, u⟩ : Layered τ')) hR.layered ⟨rfl, hu⟩
    obtain ⟨u', hrest, hu'⟩ := ihrest hR hu₁
    exact ⟨u', .callOn hid hinner hrest, hu'⟩

end Direct

/-! ## Ledgers that are handed on -/

/-- The logic of a contract runs directly on the ledger that it is handed by a contract on `ledger`,
and leaves the handed one in a state. -/
def HandedLedger.Direct {τ : Type} [Ledger τ] (p : Program ContractQuery.Answer Outcome)
    (ledger : τ) (tale : Tale) (state : Json) (ledger' : τ) : HandedLedger → Prop
  | .own => ContractEmulator.Direct p ledger tale ledger' ∧ state = .null
  | .made upper =>
    ContractEmulator.Direct p (⟨upper, ledger⟩ : Layered τ) tale
      ⟨{ upper with state := state }, ledger'⟩

namespace HandedLedger

/-- What a contract hands on that works on the made ledger `lower`, as seen from where that one was
made. -/
def onto (lower : MadeLedger) : HandedLedger → MadeLedger
  | .own => lower
  | .made upper => upper.above lower

/-- What becomes of that, as the contract gets to see it, and what becomes of `lower`. -/
def split (states : Json) : HandedLedger → Json × Json
  | .own => (.null, states)
  | .made _ => (MadeLedger.upperState states, MadeLedger.lowerState states)

theorem split_state (handed : HandedLedger) (lower : MadeLedger) :
    handed.split (handed.onto lower).state = (handed.state, lower.state) := by
  cases handed <;> rfl

/-- A call by a contract on a made ledger is a call by the one that has made it. -/
theorem lend_made_call (handed : HandedLedger) (lower : MadeLedger) (id : String) (argument : Json)
    (next : Outcome × Json → Program ContractQuery.Answer Outcome) :
    (made lower).lend (.ask (.call id argument handed) next) =
      .ask (.call id argument (.made (handed.onto lower))) fun (outcome, states) =>
        (made { lower with state := (handed.split states).2 }).lend
          (next (outcome, (handed.split states).1)) := by
  cases handed <;> rfl

/-- It does not matter whether the ledgers on top of each other are taken as one. -/
theorem direct_onto {τ : Type} [Ledger τ] {handed : HandedLedger} {lower : MadeLedger}
    {p : Program ContractQuery.Answer Outcome} {ledger ledger' : τ} {tale : Tale} {states : Json}
    (h : (made (handed.onto lower)).Direct p ledger tale states ledger') :
    handed.Direct p (⟨lower, ledger⟩ : Layered τ) tale (handed.split states).1
      ⟨{ lower with state := (handed.split states).2 }, ledger'⟩ := by
  cases handed with
  | own => exact ⟨h, rfl⟩
  | made upper =>
    let both : Layered (Layered τ) := ⟨upper, ⟨lower, ledger⟩⟩
    obtain ⟨after, hdirect, hafter⟩ :=
      ContractEmulator.Direct.of_alike (R := fun (l : Layered τ) m => l = m.flatten)
        Layered.alike_flatten h (u := both) rfl
    -- The two ledgers are left as calls leave them, so all that changed is their states.
    have hupper := both.upper_replay (tale.issued both)
    have hlower := both.below.upper_replay (both.passesOn (tale.issued both))
    rw [← Layered.below_replay, ← hdirect.ledger_eq] at hlower
    rw [← hdirect.ledger_eq] at hupper
    obtain ⟨upper', lower', ledger''⟩ := after
    obtain ⟨hstates, rfl⟩ := Layered.mk.inj hafter
    dsimp only at hupper hlower
    rw [hupper, hlower] at hdirect
    rw [(MadeLedger.mk.inj hstates).1]
    exact hdirect

end HandedLedger

end ContractEmulator
