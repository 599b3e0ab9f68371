/-!
# Programs as data

A program either has finished or asks a question and goes on with the answer. What an answer is
depends on the question, and where answers come from is up to whoever interprets the program: the
same program can be run, recorded, or compared under two interpretations.

* `interpret_bind`: an interpretation respects sequencing.
* `interpret_run`: a program that was interpreted by programs, with a state to carry along, can be
  interpreted at once.
-/

namespace ContractEmulator

/-- A program over the questions `Q`; `answer q` is the type of answers to `q`. -/
inductive Program {Q : Type} (answer : Q → Type) (ρ : Type) where
  | done (result : ρ)
  | ask (q : Q) (next : answer q → Program answer ρ)

namespace Program

variable {Q : Type} {answer : Q → Type} {ρ τ : Type}

/-- Goes on with `f` where `p` finishes. -/
def bind : Program answer ρ → (ρ → Program answer τ) → Program answer τ
  | .done result, f => f result
  | .ask q next, f => .ask q fun a => (next a).bind f

instance : Monad (Program answer) where
  pure := .done
  bind := bind

/-- Asks one question. -/
def query (q : Q) : Program answer (answer q) := .ask q .done

/-- Runs a program in a monad that can answer its questions. -/
def interpret {m : Type → Type} [Monad m] (handle : (q : Q) → m (answer q)) :
    Program answer ρ → m ρ
  | .done result => pure result
  | .ask q next => handle q >>= fun a => (next a).interpret handle

theorem interpret_bind {m : Type → Type} [Monad m] [LawfulMonad m]
    (handle : (q : Q) → m (answer q)) (p : Program answer ρ) (f : ρ → Program answer τ) :
    interpret handle (p >>= f) = interpret handle p >>= fun r => interpret handle (f r) := by
  induction p with
  | done result =>
    simp only [interpret, pure_bind]
    rfl
  | ask q next ih =>
    simp only [interpret, bind_assoc, ← ih]
    rfl

/-- Interpreting a program by programs that share a state, and then interpreting what comes of it,
is one interpretation. -/
theorem interpret_run {Q' : Type} {answer' : Q' → Type} {S : Type} {n : Type → Type} [Monad n]
    [LawfulMonad n] (handle : (q : Q') → n (answer' q))
    (relay : (q : Q) → StateT S (Program answer') (answer q)) (p : Program answer ρ) (state : S) :
    interpret handle ((interpret relay p).run state) =
      (interpret (m := StateT S n) (fun q state => interpret handle (relay q state)) p).run
        state := by
  induction p generalizing state with
  | done result => rfl
  | ask q next ih =>
    have hsplit : (interpret relay (.ask q next)).run state =
        relay q state >>= fun r => (interpret relay (next r.1)).run r.2 := rfl
    rw [hsplit, interpret_bind]
    simp only [ih]
    rfl

end Program

end ContractEmulator
