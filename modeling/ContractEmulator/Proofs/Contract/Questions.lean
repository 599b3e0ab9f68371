import ContractEmulator.Contract.Logic
import ContractEmulator.Loader

/-!
# What contracts may ask

A family of contracts is often given by the questions that its contracts ask, whatever they are
answered.

* `Program.Asks ok p`: the program `p` asks only questions that are `ok`.
* `asks_bind`, `ContractM.asks_bind`, `ContractM.asks_ask`: the rules for composed programs.
* `ContractQuery.LedgerBlind`, `HandedLedger.asks_lend`: what a contract asks that works on a ledger
  it was handed.
-/

namespace ContractEmulator

namespace Program

variable {Q : Type} {answer : Q → Type} {ρ τ : Type} {ok : Q → Prop}

/-- Whatever it is answered, the program asks only questions that are `ok`. -/
def Asks (ok : Q → Prop) : Program answer ρ → Prop
  | .done _ => True
  | .ask q next => ok q ∧ ∀ a, (next a).Asks ok

theorem asks_bind {p : Program answer ρ} {f : ρ → Program answer τ} (hp : p.Asks ok)
    (hf : ∀ r, (f r).Asks ok) : (p >>= f).Asks ok := by
  induction p with
  | done result => exact hf result
  | ask q next ih => exact ⟨hp.1, fun a => ih a (hp.2 a)⟩

theorem asks_query {q : Q} (h : ok q) : (query q : Program answer (answer q)).Asks ok :=
  ⟨h, fun _ => trivial⟩

/-- A program that is interpreted by programs asks what those ask. -/
theorem asks_interpret {Q' : Type} {answer' : Q' → Type} {ok' : Q' → Prop}
    {handle : (q : Q) → Program answer' (answer q)} (h : ∀ q, (handle q).Asks ok')
    (p : Program answer ρ) : (interpret handle p).Asks ok' := by
  induction p with
  | done => trivial
  | ask q next ih => exact asks_bind (h q) ih

/-- So does one that is interpreted with a state to carry along. -/
theorem asks_interpret_run {Q' : Type} {answer' : Q' → Type} {ok' : Q' → Prop} {S : Type}
    {relay : (q : Q) → StateT S (Program answer') (answer q)}
    (h : ∀ q state, ok q → (relay q state).Asks ok') {p : Program answer ρ} (hp : p.Asks ok)
    (state : S) : ((interpret relay p).run state).Asks ok' := by
  induction p generalizing state with
  | done => trivial
  | ask q next ih => exact asks_bind (h q state hp.1) fun r => ih r.1 (hp.2 r.1) r.2

end Program

namespace ContractM

variable {α β : Type} {ok : ContractQuery → Prop}

/-- Whatever it is answered, the program asks only questions that are `ok`. -/
def Asks (ok : ContractQuery → Prop) (p : ContractM α) : Prop := Program.Asks ok p.run

theorem asks_pure (a : α) : (pure a : ContractM α).Asks ok := trivial

theorem asks_throw (f : Failure) : (throw f : ContractM α).Asks ok := trivial

theorem asks_ask {q : ContractQuery} (h : ok q) : (ask q).Asks ok := ⟨h, fun _ => trivial⟩

theorem asks_bind {p : ContractM α} {f : α → ContractM β} (hp : p.Asks ok)
    (hf : ∀ a, (f a).Asks ok) : (p >>= f).Asks ok := by
  refine Program.asks_bind (f := ExceptT.bindCont f) hp fun r => ?_
  cases r with
  | ok a => exact hf a
  | error e => trivial

/-- A call that fails where its callee fails asks for that call alone. -/
theorem asks_call {id : String} {argument : Json} (h : ok (.call id argument .own)) :
    (call id argument).Asks ok := by
  refine asks_bind (asks_bind (asks_ask h) fun _ => asks_pure _) fun r => ?_
  cases r with
  | ok result => exact asks_pure result
  | error f => exact asks_throw f

end ContractM

/-! ## Contracts on a ledger that they are handed -/

/-- Whether a question is ok has nothing to do with ledgers. -/
structure ContractQuery.LedgerBlind (ok : ContractQuery → Prop) : Prop where
  ledger : ∀ call, ok (.ledger call)
  call : ∀ {id argument handed} handed', ok (.call id argument handed) →
    ok (.call id argument handed')

/-- What is asked on behalf of a contract is ok if that is so of what the contract asks. -/
theorem MadeLedger.asks_relay {ok : ContractQuery → Prop} (hok : ContractQuery.LedgerBlind ok)
    (ledger : MadeLedger) (q : ContractQuery) (state : Json) (hq : ok q) :
    (ledger.relay ContractQuery.query q state).Asks ok := by
  cases q with
  | ledger call => exact Program.asks_interpret (fun call => Program.asks_query (hok.ledger call)) _
  | call id argument handed =>
    cases handed with
    | own => exact ⟨hok.call _ hq, fun _ => trivial⟩
    | made upper => exact ⟨hok.call _ hq, fun _ => trivial⟩
  | _ => exact ⟨hq, fun _ => trivial⟩

theorem HandedLedger.asks_lend {ρ : Type} {ok : ContractQuery → Prop}
    (hok : ContractQuery.LedgerBlind ok) (handed : HandedLedger)
    {p : Program ContractQuery.Answer ρ} (hp : p.Asks ok) : (handed.lend p).Asks ok := by
  cases handed with
  | own => exact Program.asks_bind hp fun _ => trivial
  | made ledger => exact Program.asks_interpret_run (ledger.asks_relay hok) hp _

/-- Every contract that a loader knows asks only questions that are `ok`. -/
def Loader.Asks (ok : ContractQuery → Prop) (loader : Loader ContractLogic) : Prop :=
  ∀ symbol logic, loader.factories.find? symbol = some logic →
    ∀ argument properties, (logic argument properties).Asks ok

end ContractEmulator
