import ContractEmulator.Engine.World

/-!
# Contracts on the ledger of the scene

A contract that is handed the ledger of its caller asks it what it asks.

* `HandedLedger.interpret_lend_own`: so its program is interpreted as it is.
* `Scene.runOwn_eq_interpret`, `Scene.call_eq_interpret`: so is the logic of an instance that the
  host calls.
-/

namespace ContractEmulator

namespace HandedLedger

variable {m : Type → Type} [Monad m] [LawfulMonad m] {ρ : Type}

theorem interpret_lend_own (ask : (q : ContractQuery) → m q.Answer)
    (p : Program ContractQuery.Answer ρ) :
    Program.interpret ask (own.lend p) =
      (fun result => (result, .null)) <$> Program.interpret ask p := by
  rw [lend, Program.interpret_bind, map_eq_pure_bind]
  rfl

end HandedLedger

namespace Scene

variable {σ : Type} [Ledger σ]

/-- On the ledger of the scene, the logic of an instance runs as it is. -/
theorem runOwn_eq_interpret (nested : Nested σ) (a : Activation) (i : Instance) (argument : Json)
    (properties : Option Json) (s : Scene σ) :
    runOwn nested a i argument properties s =
      Program.interpret (answer nested a) (i.logic argument properties).run s := by
  have hrun : run nested a i argument properties .own s =
      (Program.interpret (answer nested a) (i.logic argument properties).run s).map
        fun (outcome, s) => ((outcome, .null), s) := by
    rw [run, Instance.program, HandedLedger.interpret_lend_own]
    show Option.bind _ _ = _
    exact Option.map_eq_bind.symm
  rw [runOwn, hrun, Option.map_map]
  exact congrFun Option.map_id _

/-- So it does when the host calls the instance. -/
theorem call_eq_interpret (depth k : Nat) (i : Instance) (argument : Json)
    (properties : Option Json) (s : Scene σ) :
    call depth k i argument properties s =
      Program.interpret (answer (callNested depth (i.activation k [])) (i.activation k []))
        (i.logic argument properties).run s := runOwn_eq_interpret _ _ i argument properties s

end Scene

end ContractEmulator
