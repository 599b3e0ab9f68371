import ContractEmulator.Ledger.Made
import ContractEmulator.Proofs.Replay

/-!
# Ledgers on ledgers

A ledger that a contract has made stands on the one that the contract was given. The two together
are a ledger for the contract that is called: it receives calls and answers them, and what it asks
meanwhile, the one below receives.

* `Ledger.respond`: what a ledger answers and what becomes of it. `Program.interpret_respond`,
  `Program.ledgerCalls`: a program that asks a ledger, and what it asks.
* `Layered`: a made ledger on the one below it. `Layered.below_replay`, `Layered.passesOn`: of the
  calls that it receives, what it makes of them reaches the one below.
* `Ledger.Alike`: ledgers that no call can tell apart. `Layered.alike_flatten`: so are a made ledger
  on a made ledger, and the two taken as one.
-/

namespace ContractEmulator

variable {τ τ' ρ : Type} [Ledger τ] [Ledger τ']

namespace Ledger

/-- What a ledger answers, and what becomes of it. -/
def respond (call : LedgerCall) : StateM τ call.Answer := fun ledger =>
  ((answer ledger call).1, (answer ledger call).2.1)

theorem respond_snd (call : LedgerCall) (ledger : τ) :
    (respond call ledger).2 = receive ledger call := by
  cases call <;> rfl

end Ledger

namespace Program

/-- What a program asks of a ledger, in order. -/
def ledgerCalls : Program LedgerCall.Answer ρ → τ → List LedgerCall
  | .done _, _ => []
  | .ask call next, ledger =>
    call :: (next (Ledger.respond call ledger).1).ledgerCalls (Ledger.receive ledger call)

theorem interpret_respond_ask (call : LedgerCall)
    (next : call.Answer → Program LedgerCall.Answer ρ) (ledger : τ) :
    interpret (m := StateM τ) Ledger.respond (.ask call next) ledger =
      interpret (m := StateM τ) Ledger.respond (next (Ledger.respond call ledger).1)
        (Ledger.receive ledger call) := by
  rw [← Ledger.respond_snd]
  rfl

/-- The ledger is left as the calls leave it that it receives. -/
theorem interpret_respond_snd (p : Program LedgerCall.Answer ρ) (ledger : τ) :
    (interpret (m := StateM τ) Ledger.respond p ledger).2 =
      Ledger.replay ledger (p.ledgerCalls ledger) := by
  induction p generalizing ledger with
  | done => rfl
  | ask call next ih =>
    rw [interpret_respond_ask, ih]
    rfl

end Program

/-! ## Made ledgers on the ledger below -/

/-- A made ledger on the one out of which it was made. -/
structure Layered (τ : Type) where
  upper : MadeLedger
  below : τ

namespace Layered

/-- The made ledger answers, and may ask the one below for that. -/
def respond (call : LedgerCall) : StateM (Layered τ) call.Answer := fun ledger =>
  let ((a, state), below) :=
    Program.interpret (m := StateM τ) Ledger.respond
      (ledger.upper.answer ledger.upper.state call) ledger.below
  (a, ⟨{ ledger.upper with state := state }, below⟩)

instance : Ledger (Layered τ) where
  get ledger id := respond (.get id) ledger
  put ledger id data := ((respond (.put id data) ledger).2, [])
  scan ledger filter := respond (.scan filter) ledger

theorem respond_eq (call : LedgerCall) (ledger : Layered τ) :
    Ledger.respond call ledger = respond call ledger := by
  cases call <;> rfl

/-- What the made ledger asks of the one below when it receives some calls. -/
def passesOn : Layered τ → List LedgerCall → List LedgerCall
  | _, [] => []
  | ledger, call :: calls =>
    (ledger.upper.answer ledger.upper.state call).ledgerCalls ledger.below ++
      (Ledger.receive ledger call).passesOn calls

theorem below_receive (ledger : Layered τ) (call : LedgerCall) :
    (Ledger.receive ledger call).below =
      Ledger.replay ledger.below
        ((ledger.upper.answer ledger.upper.state call).ledgerCalls ledger.below) := by
  rw [← Ledger.respond_snd, respond_eq]
  exact Program.interpret_respond_snd _ ledger.below

/-- The ledger below receives this and nothing else. -/
theorem below_replay (ledger : Layered τ) (calls : List LedgerCall) :
    (Ledger.replay ledger calls).below =
      Ledger.replay ledger.below (ledger.passesOn calls) := by
  induction calls generalizing ledger with
  | nil => rfl
  | cons call calls ih =>
    rw [passesOn, Ledger.replay_append, ← below_receive, ← ih]
    rfl

/-- A made ledger changes by its state only. -/
theorem upper_receive (ledger : Layered τ) (call : LedgerCall) :
    (Ledger.receive ledger call).upper =
      { ledger.upper with state := (Ledger.receive ledger call).upper.state } := by
  rw [← Ledger.respond_snd, respond_eq]
  rfl

theorem upper_replay (ledger : Layered τ) (calls : List LedgerCall) :
    (Ledger.replay ledger calls).upper =
      { ledger.upper with state := (Ledger.replay ledger calls).upper.state } := by
  induction calls generalizing ledger with
  | nil => rfl
  | cons call calls ih =>
    have hcons : Ledger.replay ledger (call :: calls) =
        Ledger.replay (Ledger.receive ledger call) calls := rfl
    rw [hcons, ih, upper_receive]

end Layered

/-! ## Ledgers that answer alike -/

/-- Related ledgers answer every call alike, and stay related. -/
def Ledger.Alike (R : τ → τ' → Prop) : Prop :=
  ∀ {t u}, R t u → ∀ call, (Ledger.respond call t).1 = (Ledger.respond call u).1 ∧
    R (Ledger.respond call t).2 (Ledger.respond call u).2

/-- Programs cannot tell them apart. -/
theorem Ledger.Alike.interpret {R : τ → τ' → Prop} (hR : Alike R)
    (p : Program LedgerCall.Answer ρ) {t : τ} {u : τ'} (h : R t u) :
    (Program.interpret (m := StateM τ) respond p t).1 =
        (Program.interpret (m := StateM τ') respond p u).1 ∧
      R (Program.interpret (m := StateM τ) respond p t).2
        (Program.interpret (m := StateM τ') respond p u).2 := by
  induction p generalizing t u with
  | done => exact ⟨rfl, h⟩
  | ask call next ih =>
    obtain ⟨hanswer, hnext⟩ := hR h call
    rw [respond_snd, respond_snd] at hnext
    rw [Program.interpret_respond_ask, Program.interpret_respond_ask, hanswer]
    exact ih _ hnext

/-- Nor can made ledgers that stand on them. -/
theorem Ledger.Alike.layered {R : τ → τ' → Prop} (hR : Alike R) :
    Alike fun (l : Layered τ) (m : Layered τ') => l.upper = m.upper ∧ R l.below m.below := by
  rintro ⟨upper, t⟩ ⟨-, u⟩ ⟨rfl, h⟩ call
  obtain ⟨hresult, hbelow⟩ := hR.interpret (upper.answer upper.state call) h
  rw [Layered.respond_eq, Layered.respond_eq]
  refine ⟨congrArg Prod.fst hresult, ?_, hbelow⟩
  exact congrArg (fun result : _ × Json => { upper with state := result.2 }) hresult

namespace Layered

/-- A made ledger on a made ledger, the two taken as one. -/
def flatten (ledger : Layered (Layered τ)) : Layered τ :=
  ⟨ledger.upper.above ledger.below.upper, ledger.below.below⟩

/-- A program that asks a made ledger, with the state of that one carried along. -/
theorem interpret_below (p : Program LedgerCall.Answer ρ) (lower : MadeLedger) (t : τ) :
    (Program.interpret (m := StateT Json (StateM τ))
        (fun call state => Program.interpret (m := StateM τ) Ledger.respond
          (lower.answer state call)) p).run lower.state t =
      let (r, ledger) := Program.interpret (m := StateM (Layered τ)) Ledger.respond p ⟨lower, t⟩
      ((r, ledger.upper.state), ledger.below) := by
  induction p generalizing lower t with
  | done => rfl
  | ask call next ih =>
    have hstep : (Program.interpret (m := StateT Json (StateM τ))
        (fun call state => Program.interpret (m := StateM τ) Ledger.respond
          (lower.answer state call)) (.ask call next)).run lower.state t =
      (fun response : (call.Answer × Json) × τ =>
        (Program.interpret (m := StateT Json (StateM τ))
          (fun call state => Program.interpret (m := StateM τ) Ledger.respond
            (lower.answer state call)) (next response.1.1)).run response.1.2 response.2)
        (Program.interpret (m := StateM τ) Ledger.respond (lower.answer lower.state call) t) := rfl
    rw [hstep, Program.interpret_respond_ask, ← Ledger.respond_snd, respond_eq, respond]
    generalize Program.interpret (m := StateM τ) Ledger.respond
      (lower.answer lower.state call) t = response
    obtain ⟨⟨a, state⟩, u⟩ := response
    exact ih a { lower with state := state } u

/-- What the two answer, taken as one. -/
theorem interpret_above (upper lower : MadeLedger) (t : τ) (call : LedgerCall) :
    Program.interpret (m := StateM τ) Ledger.respond
        ((upper.above lower).answer (upper.above lower).state call) t =
      let ((a, state), ledger) := Program.interpret (m := StateM (Layered τ)) Ledger.respond
        (upper.answer upper.state call) ⟨lower, t⟩
      ((a, MadeLedger.bothStates state ledger.upper.state), ledger.below) := by
  have hbelow := interpret_below (upper.answer upper.state call) lower t
  have hrun := Program.interpret_run (n := StateM τ) Ledger.respond
    (fun call state => lower.answer state call) (upper.answer upper.state call) lower.state
  rw [MadeLedger.above]
  dsimp only [MadeLedger.upperState, MadeLedger.lowerState, MadeLedger.bothStates]
  rw [Program.interpret_bind, hrun]
  exact congrArg (fun response : ((call.Answer × Json) × Json) × τ =>
    ((response.1.1.1, MadeLedger.bothStates response.1.1.2 response.1.2), response.2)) hbelow

theorem respond_flatten (call : LedgerCall) (ledger : Layered (Layered τ)) :
    Ledger.respond call ledger.flatten =
      ((Ledger.respond call ledger).1, (Ledger.respond call ledger).2.flatten) := by
  obtain ⟨upper, lower, t⟩ := ledger
  have hupper := upper_replay (⟨lower, t⟩ : Layered τ)
    ((upper.answer upper.state call).ledgerCalls (⟨lower, t⟩ : Layered τ))
  rw [← Program.interpret_respond_snd] at hupper
  rw [respond_eq, respond_eq, respond, respond, flatten, interpret_above]
  dsimp only
  generalize Program.interpret (m := StateM (Layered τ)) Ledger.respond
    (upper.answer upper.state call) ⟨lower, t⟩ = response at hupper ⊢
  obtain ⟨⟨a, state⟩, lower', u⟩ := response
  dsimp only at hupper ⊢
  rw [flatten]
  dsimp only
  rw [hupper]
  rfl

/-- No call can tell whether two made ledgers are taken as one. -/
theorem alike_flatten : Ledger.Alike fun (l : Layered τ) (m : Layered (Layered τ)) =>
    l = m.flatten := by
  rintro _ m rfl call
  rw [respond_flatten]
  exact ⟨rfl, rfl⟩

end Layered

end ContractEmulator
