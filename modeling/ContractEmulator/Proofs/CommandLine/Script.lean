import ContractEmulator.Proofs.Script.Report
import ContractEmulator.Proofs.Script.Text

/-!
# Running a script

The program loads a whole script before it runs the first step, and stops at the first step that
fails. What it writes tells how far it came, as JSON or line by line.

* `Session.RunsUpTo`, `Session.runsUpTo_runToFailure`: which steps of a script are run.
* `Report.Outcome`, `Report.TellsJson`, `Report.TellsLines`: the exit code, and what is written in
  either form. `Report.ofScript_tells`: all reports about scripts are of this kind.
-/

namespace ContractEmulator

namespace Session

/-! ## Running -/

/-- The steps of a script that are run: one after the other, up to the first that fails. -/
structure RunsUpTo (start : Session) (steps : List Step) (results : List (Step × StepResult))
    (final : Session) : Prop where
  length_le : results.length ≤ steps.length
  /-- As many steps as there are results are run in order, and none after them. -/
  ran : start.runAll (steps.take results.length) = (results, final)
  /-- Only the last of them can have failed. -/
  passed {i : Nat} {entry : Step × StepResult} :
    results[i]? = some entry → i + 1 < results.length → entry.2.isOk = true
  /-- If steps are left, the last one that was run has failed. -/
  ended : results.length < steps.length → ∃ step e, results.getLast? = some (step, .error e)

theorem runsUpTo_runToFailure (s : Session) (steps : List Step) :
    RunsUpTo s steps (s.runToFailure steps).1 (s.runToFailure steps).2 := by
  induction steps generalizing s with
  | nil => exact ⟨Nat.le_refl _, rfl, nofun, nofun⟩
  | cons step steps ih =>
    rw [runToFailure]
    cases hrun : s.run step with
    | mk result s' =>
      cases result with
      | error e =>
        refine ⟨by simp, by simp [runAll, hrun], fun _ h => ?_, fun _ => ⟨step, e, rfl⟩⟩
        simp at h
      | ok output =>
        obtain ⟨hlength, hran, hpassed, hended⟩ := ih s'
        refine ⟨by simpa using hlength, by simp [runAll, hrun, hran], fun {i entry} hi h => ?_,
          fun h => ?_⟩
        · cases i with
          | zero => cases hi; rfl
          | succ i => exact hpassed hi (by simpa using h)
        · obtain ⟨last, e, hlast⟩ := hended (by simpa using h)
          exact ⟨last, e, by simp [List.getLast?_cons, hlast]⟩

end Session

namespace Report

/-! ## Reporting -/

/-- A program that runs a script exits with zero if all steps were run and none has failed, and
otherwise with one. Then the last step that was run has failed. -/
structure Outcome (steps : List Step) (results : List (Step × Session.StepResult))
    (exitCode : UInt8) : Prop where
  range : exitCode = 0 ∨ exitCode = 1
  zero : exitCode = 0 ↔ results.length = steps.length ∧ ∀ entry ∈ results, entry.2.isOk = true
  one : exitCode = 1 ↔ ∃ step e, results.getLast? = some (step, .error e)

/-- What the JSON entry of a step says. -/
def EntrySays (i : Nat) (step : Step) (entry : Json) : Session.StepResult → Prop
  | .ok output => entry = .obj [("command", .str step.command.name), ("ok", .bool true),
      ("output", .ofOption output), ("step", .int i)]
  | .error e => entry = .obj [("command", .str step.command.name), ("error", .str e.message),
      ("ok", .bool false), ("step", .int i)]

/-- A report is a JSON array with an entry for each step that was run. Only the last one can say
that its step has failed, and it does so if the exit code is one. -/
def TellsJson (results : List (Step × Session.StepResult)) (report : Report) : Prop :=
  ∃ entries : List Json, report.output = ofLines [(Json.arr entries).pretty] ∧
    entries.length = results.length ∧
    (∀ (i : Nat) step result, results[i]? = some (step, result) →
      ∃ entry, entries[i]? = some entry ∧ EntrySays i step entry result) ∧
    (∀ (i : Nat) entry, entries[i]? = some entry →
      (entry.get? "ok" = some (.bool false) ↔ i + 1 = entries.length ∧ report.exitCode = 1))

/-- The lines about a step: its label after a mark, and under it what it has put out. -/
def LinesSay (colour : Bool) (step : Step) (lines : List String) : Session.StepResult → Prop
  | .ok none => lines = [Style.green.paint colour "✓" ++ " " ++ step.label]
  | .ok (some output) =>
    lines = [Style.green.paint colour "✓" ++ " " ++ step.label, output.pretty]
  | .error _ => lines = [Style.red.paint colour "✗" ++ " " ++ step.label]

/-- A report has lines about each step that was run, and ends with a line about all of them if the
exit code is zero. -/
def TellsLines (colour : Bool) (steps : List Step) (results : List (Step × Session.StepResult))
    (report : Report) : Prop :=
  ∃ (blocks : List (List String)) (closing : List String),
    report.output = ofLines (blocks.flatten ++ closing) ∧
    blocks.length = results.length ∧
    (∀ (i : Nat) step result, results[i]? = some (step, result) →
      ∃ lines, blocks[i]? = some lines ∧ LinesSay colour step lines result) ∧
    (report.exitCode = 0 → closing =
      [Style.boldGreen.paint colour "ok:" ++ " " ++ toString steps.length ++ " step(s) passed"]) ∧
    (report.exitCode ≠ 0 → closing = [])

variable {start final : Session} {steps : List Step} {results : List (Step × Session.StepResult)}
  {colour : Bool} {events : List Event}

theorem failure?_eq_none_iff :
    failure? results = none ↔ ∀ entry ∈ results, entry.2.isOk = true := by
  rw [failure?, List.findSome?_eq_none_iff]
  refine forall₂_congr fun entry _ => ?_
  obtain ⟨step, _ | _⟩ := entry <;> simp [Except.isOk, Except.toBool]

/-- A run that fails has failed at its last step. -/
theorem isSome_failure?_iff (hrun : start.RunsUpTo steps results final) :
    (failure? results).isSome = true ↔ ∃ step e, results.getLast? = some (step, .error e) := by
  rw [failure?, List.findSome?_isSome_iff]
  constructor
  · rintro ⟨⟨step, result⟩, hmem, hfailed⟩
    cases result with
    | ok output => cases hfailed
    | error e =>
      obtain ⟨i, hi⟩ := List.mem_iff_getElem?.1 hmem
      have hlt := (List.getElem?_eq_some_iff.1 hi).1
      have hlast : i = results.length - 1 := by
        by_contra hne
        have hok := hrun.passed hi (by omega)
        simp [Except.isOk, Except.toBool] at hok
      exact ⟨step, e, by rw [List.getLast?_eq_getElem?, ← hlast, hi]⟩
  · rintro ⟨step, e, hlast⟩
    exact ⟨_, List.mem_of_getLast? hlast, rfl⟩

theorem exitCode_ofResults (colour asJson : Bool) (results : List (Step × Session.StepResult))
    (events : List Event) : (ofResults colour asJson results events).exitCode =
      if (failure? results).isSome then 1 else 0 := by
  cases asJson <;> rfl

theorem outcome_ofResults (hrun : start.RunsUpTo steps results final) (colour asJson : Bool)
    (events : List Event) :
    Outcome steps results (ofResults colour asJson results events).exitCode := by
  rw [exitCode_ofResults]
  by_cases hfailed : (failure? results).isSome = true
  · obtain ⟨step, e, hlast⟩ := (isSome_failure?_iff hrun).1 hfailed
    rw [if_pos hfailed]
    refine ⟨.inr rfl, ⟨nofun, fun h => ?_⟩, ⟨fun _ => ⟨step, e, hlast⟩, fun _ => rfl⟩⟩
    exact absurd (h.2 _ (List.mem_of_getLast? hlast)) nofun
  · have hnone : failure? results = none := by simpa using hfailed
    rw [if_neg hfailed]
    refine ⟨.inl rfl, ⟨fun _ => ⟨?_, failure?_eq_none_iff.1 hnone⟩, fun _ => rfl⟩,
      ⟨nofun, fun h => absurd ((isSome_failure?_iff hrun).2 h) hfailed⟩⟩
    by_contra hne
    have hlt : results.length < steps.length := by have := hrun.length_le; omega
    exact hfailed ((isSome_failure?_iff hrun).2 (hrun.ended hlt))

theorem length_stepEntries (index : Nat) (results : List (Step × Session.StepResult)) :
    (stepEntries index results).length = results.length := by
  induction results generalizing index with
  | nil => rfl
  | cons entry results ih => rw [stepEntries, List.length_cons, List.length_cons, ih]

theorem entrySays_stepEntry (i : Nat) (step : Step) (result : Session.StepResult) :
    EntrySays i step (stepEntry i step result) result := by
  cases result <;>
    simp +decide only [EntrySays, stepEntry, Json.ofEntries, Json.sortEntries, List.foldl,
      Json.insertEntry, if_true, if_false]

theorem ok_stepEntry (i : Nat) (step : Step) (result : Session.StepResult) :
    (stepEntry i step result).get? "ok" = some (.bool result.isOk) := by
  have hentry := entrySays_stepEntry i step result
  cases result <;> rw [hentry] <;> rfl

theorem tellsJson_ofResults (hrun : start.RunsUpTo steps results final) (colour : Bool)
    (events : List Event) : TellsJson results (ofResults colour true results events) := by
  refine ⟨stepEntries 0 results, rfl, length_stepEntries 0 results, fun i step result hi => ?_,
    fun i entry hi => ?_⟩
  · refine ⟨stepEntry i step result, ?_, entrySays_stepEntry i step result⟩
    rw [getElem?_stepEntries, hi, Nat.zero_add]
    rfl
  · rw [getElem?_stepEntries, Option.map_eq_some_iff] at hi
    obtain ⟨⟨step, result⟩, hresult, rfl⟩ := hi
    have hlt := (List.getElem?_eq_some_iff.1 hresult).1
    rw [ok_stepEntry, length_stepEntries, (outcome_ofResults hrun _ _ _).one,
      List.getLast?_eq_getElem?]
    constructor
    · intro hfailed
      cases result with
      | ok output => cases hfailed
      | error e =>
        have hlast : i + 1 = results.length := by
          by_contra hne
          have hok := hrun.passed hresult (by omega)
          simp [Except.isOk, Except.toBool] at hok
        exact ⟨hlast, step, e, by rw [← hlast, Nat.add_sub_cancel, hresult]⟩
    · rintro ⟨hlast, step', e, hfailed⟩
      rw [← hlast, Nat.add_sub_cancel, hresult] at hfailed
      cases hfailed
      rfl

theorem linesSay_stepLines (colour : Bool) (step : Step) (result : Session.StepResult) :
    LinesSay colour step (stepLines colour (step, result)) result := by
  rcases result with e | _ | output <;> rfl

theorem tellsLines_ofResults (hrun : start.RunsUpTo steps results final) (colour : Bool)
    (events : List Event) :
    TellsLines colour steps results (ofResults colour false results events) := by
  have hcode := exitCode_ofResults colour false results events
  refine ⟨results.map (stepLines colour), _, by rw [ofResults, List.flatMap_def]; rfl,
    List.length_map _, fun i step result hi => ?_, fun hzero => ?_, fun hnonzero => ?_⟩
  · exact ⟨_, by rw [List.getElem?_map, hi]; rfl, linesSay_stepLines colour step result⟩
  · obtain ⟨hlength, -⟩ := (outcome_ofResults hrun _ _ _).zero.1 hzero
    have hpassed : ¬(failure? results).isSome = true := fun h => by simp [hcode, h] at hzero
    rw [if_neg hpassed, hlength]
  · have hfailed : (failure? results).isSome = true := by
      by_contra h
      exact hnonzero (by rw [hcode, if_neg h])
    rw [if_pos hfailed]

/-- A script that cannot be loaded is told by the exit code alone. What the program writes about
another one tells which steps were run and how they ended, and the steps do not depend on the form
of the report. -/
theorem ofScript_tells (setting : Setting) (files : FileReader) (script : String) :
    ((∃ e, Script.load files script = .error e) ↔ Script.Unloadable files script) ∧
    (∀ asJson, (ofScript setting files script asJson).exitCode = 2 ↔
      Script.Unloadable files script) ∧
    (∀ e, Script.load files script = .error e → ∀ asJson,
      ofScript setting files script asJson = ⟨2, "", [], some (.notLoaded script e)⟩) ∧
    (∀ steps, Script.load files script = .ok steps → ∃ results final,
      (Session.new (Path.parent script) files).RunsUpTo steps results final ∧
      (∀ asJson, Outcome steps results (ofScript setting files script asJson).exitCode ∧
        (ofScript setting files script asJson).events =
          final.events.filter setting.filter.admits) ∧
      TellsJson results (ofScript setting files script true) ∧
      TellsLines setting.colour steps results (ofScript setting files script false)) := by
  have hrefused : ∀ e, Script.load files script = .error e → ∀ asJson,
      ofScript setting files script asJson = ⟨2, "", [], some (.notLoaded script e)⟩ := by
    intro e he asJson
    rw [ofScript, he]
  have hreport : ∀ steps, Script.load files script = .ok steps → ∀ asJson,
      ofScript setting files script asJson =
        let run := (Session.new (Path.parent script) files).runToFailure steps
        ofResults setting.colour asJson run.1 (run.2.events.filter setting.filter.admits) := by
    intro steps hsteps asJson
    rw [ofScript, hsteps]
  refine ⟨Script.exists_load_eq_error_iff, fun asJson => ?_, hrefused, fun steps hsteps => ?_⟩
  · rw [← Script.exists_load_eq_error_iff]
    cases hload : Script.load files script with
    | error e => exact ⟨fun _ => ⟨e, rfl⟩, fun _ => by rw [hrefused e hload]⟩
    | ok steps =>
      have hrun := (Session.new (Path.parent script) files).runsUpTo_runToFailure steps
      rw [hreport steps hload]
      constructor
      · intro htwo
        rcases (outcome_ofResults hrun _ _ _).range with hzero | hone
        · exact absurd (hzero.symm.trans htwo) (by decide)
        · exact absurd (hone.symm.trans htwo) (by decide)
      · rintro ⟨e, he⟩
        cases he
  · have hrun := (Session.new (Path.parent script) files).runsUpTo_runToFailure steps
    simp only [hreport steps hsteps]
    exact ⟨_, _, hrun, fun asJson => ⟨outcome_ofResults hrun _ _ _, by cases asJson <;> rfl⟩,
      tellsJson_ofResults hrun _ _, tellsLines_ofResults hrun _ _⟩

/-- Two scripts: one whose second step registers a file that is not there, and one whose last step
is none. -/
def stumblingFiles : FileReader := fun path =>
  if path = "stumbling.json" then
    .ok (Utf8.encode ("[[\"database\",\"get\",\"a\",\"b\",\"c\"],".toList ++
      "[\"register\",\"x\",\"y\",\"gone\"],[\"list-contracts\"]]".toList))
  else if path = "broken.json" then .ok (Utf8.encode "[[\"list-contracts\"],[\"list\"]]".toList)
  else .error .notFound

/-- Reports without colours, and with warnings only. -/
def plainSetting : Setting := ⟨false, .ofSetting none⟩

/-- The first script runs up to a step that fails, and the report says so in either form. The second
one is not run. -/
theorem stumbling_ofScript_tells :
    (∃ steps results final, Script.load stumblingFiles "stumbling.json" = .ok steps ∧
      (Session.new "" stumblingFiles).RunsUpTo steps results final ∧
      (∃ step e, results.getLast? = some (step, .error e)) ∧
      TellsJson results (ofScript plainSetting stumblingFiles "stumbling.json" true) ∧
      TellsLines false steps results
        (ofScript plainSetting stumblingFiles "stumbling.json" false)) ∧
    ∃ e, Script.load stumblingFiles "broken.json" = .error e ∧
      ∀ asJson, ofScript plainSetting stumblingFiles "broken.json" asJson =
        ⟨2, "", [], some (.notLoaded "broken.json" e)⟩ := by
  constructor
  · have hloads : (Script.load stumblingFiles "stumbling.json").isOk = true := by decide +kernel
    cases hload : Script.load stumblingFiles "stumbling.json" with
    | error e =>
      rw [hload] at hloads
      cases hloads
    | ok steps =>
      obtain ⟨results, final, hrun, hevery, hjson, hlines⟩ :=
        (ofScript_tells plainSetting stumblingFiles "stumbling.json").2.2.2 steps hload
      have hone : (ofScript plainSetting stumblingFiles "stumbling.json" true).exitCode = 1 := by
        decide +kernel
      exact ⟨steps, results, final, rfl, hrun, (hevery true).1.one.1 hone, hjson, hlines⟩
  · have hrefused : (Script.load stumblingFiles "broken.json").isOk = false := by decide +kernel
    cases hload : Script.load stumblingFiles "broken.json" with
    | ok steps =>
      rw [hload] at hrefused
      cases hrefused
    | error e =>
      exact ⟨e, rfl, (ofScript_tells plainSetting stumblingFiles "broken.json").2.2.1 e hload⟩

end Report

end ContractEmulator
