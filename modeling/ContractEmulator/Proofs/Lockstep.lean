import ContractEmulator.Proofs.Contract.Questions
import ContractEmulator.Proofs.World.Task

/-!
# Interpreters in lockstep

A program can be interpreted in two ways at once. If every question of it is answered alike, from
related states to related states, then the program as a whole ends alike.

* `EndAlike R x y`: neither `x` nor `y` comes to an end, or both do, with the same result and with
  states that `R` relates.
* `EndAlike.finish`: contracts that end alike, with functions that are served alike, make executions
  that end alike.
* `Program.Along P handle p s`: whenever the program comes to ask a question, `P` holds of it and of
  the state that the program has come to.
* `Program.endAlike_interpret`, `Program.endAlike_interpret_of_forall`: a program whose questions
  are answered alike ends alike.
-/

namespace ContractEmulator

variable {α ρ σ τ : Type}

/-- Neither comes to an end, or both do, with the same result and in related states. -/
abbrev EndAlike (R : σ → τ → Prop) : Option (ρ × σ) → Option (ρ × τ) → Prop :=
  Option.Rel fun x y => x.1 = y.1 ∧ R x.2 y.2

theorem EndAlike.mono {R S : σ → τ → Prop} {x : Option (ρ × σ)} {y : Option (ρ × τ)}
    (h : EndAlike R x y) (hRS : ∀ s t, R s t → S s t) : EndAlike S x y := by
  cases h with
  | none => exact .none
  | some hrel => exact .some ⟨hrel.1, hRS _ _ hrel.2⟩

/-- What ends alike and goes on alike ends alike. -/
theorem EndAlike.bind {R S : σ → τ → Prop} {x : Option (α × σ)} {y : Option (α × τ)}
    {f : α × σ → Option (ρ × σ)} {g : α × τ → Option (ρ × τ)} (h : EndAlike R x y)
    (hnext : ∀ a s t, x = some (a, s) → R s t → EndAlike S (f (a, s)) (g (a, t))) :
    EndAlike S (x.bind f) (y.bind g) := by
  cases h with
  | none => exact .none
  | @some xs yt hrel =>
    obtain ⟨a, s⟩ := xs
    obtain ⟨b, t⟩ := yt
    obtain ⟨hab, hR⟩ := hrel
    dsimp only at hab hR
    subst hab
    exact hnext a s t rfl hR

/-- What ends alike ends alike after the same change of the result and of the state. -/
theorem EndAlike.map {σ' τ' : Type} {R : σ → τ → Prop} {S : σ' → τ' → Prop}
    {x : Option (α × σ)} {y : Option (α × τ)} {f : α × σ → ρ × σ'} {g : α × τ → ρ × τ'}
    (h : EndAlike R x y)
    (hnext : ∀ a s t, R s t → (f (a, s)).1 = (g (a, t)).1 ∧ S (f (a, s)).2 (g (a, t)).2) :
    EndAlike S (x.map f) (y.map g) := by
  cases h with
  | none => exact .none
  | @some xs yt hrel =>
    obtain ⟨a, s⟩ := xs
    obtain ⟨b, t⟩ := yt
    obtain ⟨hab, hR⟩ := hrel
    dsimp only at hab hR
    subst hab
    exact .some (hnext a s t hR)

/-- Contracts that end alike, and functions that are served alike, make executions that end
alike. -/
theorem EndAlike.finish {δ : Type} {R : σ → τ → Prop} {x : Option (Outcome × σ)}
    {y : Option (Outcome × τ)} {serve : σ → Except Failure Unit × σ × δ}
    {serve' : τ → Except Failure Unit × τ × δ} {database : δ} (h : EndAlike R x y)
    (hserve : ∀ s t, R s t → (serve s).1 = (serve' t).1 ∧ (serve s).2.2 = (serve' t).2.2 ∧
      R (serve s).2.1 (serve' t).2.1) :
    EndAlike (fun x y => R x.1 y.1 ∧ x.2 = y.2) (x.map (Task.finish serve database))
      (y.map (Task.finish serve' database)) := by
  refine h.map fun outcome s t hR => ?_
  cases outcome with
  | error f => exact ⟨rfl, hR, rfl⟩
  | ok result =>
    obtain ⟨hresult, hdatabase, hR'⟩ := hserve s t hR
    exact ⟨congrArg (Except.map fun _ => result) hresult, hR', hdatabase⟩

namespace Program

variable {Q : Type} {answer : Q → Type}

theorem interpret_ask_eq_bind (handle : (q : Q) → StateT σ Option (answer q)) (q : Q)
    (next : answer q → Program answer ρ) (s : σ) :
    interpret handle (.ask q next) s =
      (handle q s).bind fun r => interpret handle (next r.1) r.2 := rfl

/-- Whenever the program comes to ask a question, `P` holds of the question and of the state that
the program has come to. -/
def Along (P : Q → σ → Prop) (handle : (q : Q) → StateT σ Option (answer q)) :
    Program answer ρ → σ → Prop
  | .done _, _ => True
  | .ask q next, s => P q s ∧ ∀ a s', handle q s = some (a, s') → (next a).Along P handle s'

theorem asks_true (p : Program answer ρ) : p.Asks fun _ => True := by
  induction p with
  | done => trivial
  | ask q next ih => exact ⟨trivial, ih⟩

/-- What holds of every question that a program may ask, as long as the states have a property that
answers keep, holds along the program. -/
theorem Asks.along {ok : Q → Prop} {P : Q → σ → Prop} {I : σ → Prop}
    {handle : (q : Q) → StateT σ Option (answer q)} (hP : ∀ q s, ok q → I s → P q s)
    (hI : ∀ q s a s', I s → handle q s = some (a, s') → I s') {p : Program answer ρ}
    (hp : p.Asks ok) {s : σ} (hs : I s) : p.Along P handle s := by
  induction p generalizing s with
  | done => trivial
  | ask q next ih =>
    exact ⟨hP q s hp.1 hs, fun a s' hans => ih a (hp.2 a) (hI q s a s' hs hans)⟩

/-- If two interpreters answer alike whatever a program comes to ask, the program ends alike under
both of them. -/
theorem endAlike_interpret {R : σ → τ → Prop} {ok : Q → Prop} {P : Q → σ → Prop}
    {handle : (q : Q) → StateT σ Option (answer q)}
    {handle' : (q : Q) → StateT τ Option (answer q)}
    (hstep : ∀ q s t, ok q → P q s → R s t → EndAlike R (handle q s) (handle' q t))
    {p : Program answer ρ} (hp : p.Asks ok) {s : σ} {t : τ} (ha : p.Along P handle s)
    (hR : R s t) : EndAlike R (interpret handle p s) (interpret handle' p t) := by
  induction p generalizing s t with
  | done result => exact .some ⟨rfl, hR⟩
  | ask q next ih =>
    rw [interpret_ask_eq_bind, interpret_ask_eq_bind]
    refine (hstep q s t hp.1 ha.1 hR).bind fun a s' t' hans hR' => ?_
    exact ih a (hp.2 a) (ha.2 a s' hans) hR'

/-- If two interpreters answer every question alike, every program ends alike under both of them. -/
theorem endAlike_interpret_of_forall {R : σ → τ → Prop}
    {handle : (q : Q) → StateT σ Option (answer q)}
    {handle' : (q : Q) → StateT τ Option (answer q)}
    (hstep : ∀ q s t, R s t → EndAlike R (handle q s) (handle' q t)) (p : Program answer ρ)
    {s : σ} {t : τ} (hR : R s t) : EndAlike R (interpret handle p s) (interpret handle' p t) := by
  have halong : p.Along (fun _ _ => True) handle s :=
    (asks_true p).along (I := fun _ => True) (fun _ _ _ _ => trivial)
      (fun _ _ _ _ _ _ => trivial) trivial
  exact endAlike_interpret (fun q s t _ _ hR => hstep q s t hR) (asks_true p) halong hR

end Program

end ContractEmulator
