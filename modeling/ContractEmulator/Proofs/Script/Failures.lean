import ContractEmulator.Proofs.Script.History

/-!
# What a failed step leaves

Nothing is rolled back when a step fails. Yet a failed step leaves the session as it was, unless it
is an execution that fails in its functions.

* `Call.FunctionsFail`: the functions of a call fail, and the database holds the records of those
  before.
* `Session.FailsLate`: an execution fails in its functions.
* `Session.Reach.failed_step`: what a failed step leaves.
-/

namespace ContractEmulator

open BuiltinContract BuiltinFunction

/-- The functions of a call fail. What should be a list is none, or an entry of the list is bad:
then the entries before it have each written the record of the state updater. -/
inductive Call.FunctionsFail (c : Call) (manager : FunctionManager) (database : MemoryDatabase) :
    Failure → MemoryDatabase → Prop where
  | noArray {list : Json} :
      c.argument.get? Scene.functionsKey = some list → (∀ entries, list ≠ .arr entries) →
      FunctionsFail c manager database (.badArgument "_functions_ must be an array") database
  | entry {done rest : List Json} {bad : Json} {f : Failure} :
      c.argument.get? Scene.functionsKey = some (.arr (done ++ bad :: rest)) →
      (∀ entry ∈ done, manager.entryResult c.functionArgument entry = .ok ()) →
      manager.entryResult c.functionArgument bad = .error f →
      FunctionsFail c manager database f
        (done.foldl (fun database _ => noted c.functionArgument database) database)

theorem Call.Serves.functionsFail {c : Call} {properties : Option Json}
    {manager manager' : FunctionManager} {database database' : MemoryDatabase} {f : Failure}
    (hb : manager.Builtin)
    (h : c.Serves properties manager database (.error f) manager' database') :
    c.FunctionsFail manager database f database' := by
  cases h with
  | noArray hget harr => exact .noArray hget ((Json.asArr?_eq_none_iff _).1 harr)
  | listed hget hserves =>
    obtain ⟨done, bad, rest, rfl, hdone, hbad, hdatabase⟩ := hserves.builtin_error hb
    rw [hdatabase]
    exact .entry hget hdone hbad

/-- Functions only fail where some are listed. -/
theorem Call.FunctionsFail.listed {c : Call} {manager : FunctionManager}
    {database database' : MemoryDatabase} {f : Failure}
    (h : c.FunctionsFail manager database f database') :
    c.argument.get? Scene.functionsKey ≠ none := by
  cases h with
  | noArray hget | entry hget => exact Option.ne_none_iff_exists'.2 ⟨_, hget⟩

namespace Session

/-- A call fails in its functions, although the contract has returned. -/
structure FailsLate (past : List Moment) (m : Moment) (e : Engine) (c : Call) (f : Failure)
    (ledger' : MemoryLedger) (database' : MemoryDatabase) : Prop where
  /-- The built-in contract for which the id stands has returned. -/
  returned : ∃ (kind : Kind) (r : Option Json), resolve? c.id (m :: past) = some kind.symbol ∧
    (kind.perform m.session.scene.ledger c.argument).1 = .ok r
  /-- If this is the contract that writes, the ledger has one version more. -/
  ledger : ledger' = m.session.scene.ledger ∨
    resolve? c.id (m :: past) = some Kind.put.symbol ∧
      ∃ assetId data, c.argument.get? "asset_id" = some (.str assetId) ∧
        c.argument.get? "data" = some data ∧
        ledger' = m.session.scene.ledger.put assetId data
  /-- The database has the records of the functions before the one that failed. -/
  functions : c.FunctionsFail e.functions m.session.database f database'

variable {past : List Moment} {s : Session} {step : Step} {err : StepError}

/-- A step that fails leaves the registrations and the certificate, and it leaves the ledger and the
database, unless it is an execution that fails in its functions. -/
theorem Reach.failed_step (hr : Reach past s) (herr : (s.run step).1 = .error err) :
    ∃ e e', s.engine? = some e ∧ (s.run step).2.engine? = some e' ∧ e.Agrees e' ∧
      (((s.run step).2.scene.ledger = s.scene.ledger ∧ (s.run step).2.database = s.database) ∨
        ∃ c f, step = .execute c.id c.argument c.functionArgument ∧ err = .call c.id f ∧
          FailsLate past ⟨s, step⟩ e c f (s.run step).2.scene.ledger (s.run step).2.database) := by
  obtain ⟨e, ha⟩ := hr.accounts
  cases hcall : step.call? with
  | none =>
    rw [run_of_no_call_error hcall herr]
    exact ⟨e, e, ha.engine, ha.engine, ⟨rfl, rfl, rfl⟩, .inl ⟨rfl, rfl⟩⟩
  | some c =>
    obtain ⟨outcome, e', hout, hends, ha'⟩ := ha.of_call hcall
    refine ⟨e, e', ha.engine, ha'.engine, hends.agrees, ?_⟩
    rw [herr] at hout
    cases outcome with
    | ok r => cases hout
    | error f =>
      rcases hends.error ha.builtin with hsame |
        ⟨kind, r, properties, manager, hname, hperform, hledger, hserves⟩
      · exact .inl hsame
      · have hfunctions := hserves.functionsFail ha.builtin.functions
        rcases Step.functions_of_call hcall with hstep | hunlisted
        · rw [ha'.loaded] at hname
          refine .inr ⟨c, f, hstep, Except.error.inj hout, ⟨kind, r, hname, hperform⟩, ?_,
            hfunctions⟩
          rw [hledger]
          refine (kind.perform_ledger_cases s.scene.ledger c.argument).imp_right ?_
          rintro ⟨rfl, hput⟩
          exact ⟨hname, hput⟩
        · exact absurd hunlisted hfunctions.listed

/-- A third number is put to the asset, and a function notes it before the next one fails. -/
def lateStep : Step :=
  .execute "put" (coinArgument 3 ["note", "gone", "note"])
    (some (.ofEntries [("asset_id", .str "coin"), ("state", .int 3)]))

/-- The number stays in the ledger, and the note in the database. -/
theorem coins_failed_step : ∃ e e' c,
    coins.engine? = some e ∧ (coins.run lateStep).2.engine? = some e' ∧ e.Agrees e' ∧
      (coins.run lateStep).1 = .error (.call c.id (.missingFunction "gone")) ∧
      FailsLate coinMoments ⟨coins, lateStep⟩ e c (.missingFunction "gone")
        (coins.run lateStep).2.scene.ledger (coins.run lateStep).2.database ∧
      ((coins.run lateStep).2.scene.ledger.history "coin").length = 3 ∧
      (coins.run lateStep).2.database.size = 1 := by
  have hlength : ((coins.run lateStep).2.scene.ledger.history "coin").length = 3 := by
    decide +kernel
  have hsize : coins.database.size = 0 ∧ (coins.run lateStep).2.database.size = 1 := by
    decide +kernel
  have hfails : (match (coins.run lateStep).1 with
      | .error err => err == .call "put" (.missingFunction "gone")
      | .ok _ => false) = true := by decide +kernel
  cases herr : (coins.run lateStep).1 with
  | ok output =>
    rw [herr] at hfails
    cases hfails
  | error err =>
    rw [herr] at hfails
    obtain rfl : err = .call "put" (.missingFunction "gone") := eq_of_beq hfails
    obtain ⟨e, e', hk, hk', hagrees, ⟨-, hsame⟩ | ⟨c, f, -, hcall, hlate⟩⟩ :=
      reach_coins.failed_step herr
    · -- The database has changed.
      rw [hsame] at hsize
      omega
    · obtain ⟨-, rfl⟩ := StepError.call.inj hcall
      exact ⟨e, e', c, hk, hk', hagrees, congrArg Except.error hcall, hlate, hlength, hsize.2⟩

end Session

end ContractEmulator
