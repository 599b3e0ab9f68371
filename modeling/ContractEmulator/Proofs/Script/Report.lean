import ContractEmulator.CommandLine.Report

/-!
# What a report says about a step

A report lists the steps up to the first that fails, each with how it ended.

* `Session.getElem?_runAll`: how the step with some index ends depends on the steps before it.
* `Session.isPrefix_runToFailure`: a run that stops at a failure is cut off there, and no more.
* `Report.output_ofScript`: the JSON report is the list of these steps.
  `Report.stepEntry_of_getElem?`: what it says about a step.
-/

namespace ContractEmulator

namespace Session

/-- The session before the step with some index. -/
def before (s : Session) (steps : List Step) (i : Nat) : Session := (s.runAll (steps.take i)).2

theorem getElem?_runAll (s : Session) (steps : List Step) (i : Nat) :
    (s.runAll steps).1[i]? =
      steps[i]?.map fun step => (step, ((s.before steps i).run step).1) := by
  induction steps generalizing s i with
  | nil => rfl
  | cons step steps ih =>
    cases i with
    | zero => rfl
    | succ i => exact ih (s.run step).2 i

/-- A run that stops at a failure does up to there what a run does that goes on. -/
theorem isPrefix_runToFailure (s : Session) (steps : List Step) :
    (s.runToFailure steps).1 <+: (s.runAll steps).1 := by
  induction steps generalizing s with
  | nil => exact List.prefix_rfl
  | cons step steps ih =>
    rw [runToFailure, runAll]
    cases hrun : s.run step with
    | mk result s' =>
      cases result with
      | error e => exact List.cons_prefix_cons.2 ⟨rfl, List.nil_prefix⟩
      | ok output => exact List.cons_prefix_cons.2 ⟨rfl, ih s'⟩

end Session

namespace Report

theorem getElem?_stepEntries (index : Nat) (results : List (Step × Session.StepResult)) (i : Nat) :
    (stepEntries index results)[i]? =
      results[i]?.map fun entry => stepEntry (index + i) entry.1 entry.2 := by
  induction results generalizing index i with
  | nil => rfl
  | cons entry results ih =>
    cases i with
    | zero => rfl
    | succ i =>
      rw [stepEntries, List.getElem?_cons_succ, List.getElem?_cons_succ, ih,
        Nat.succ_add_eq_add_succ]

/-- An entry of a report is about the step with this index, as it ends after the steps before. -/
theorem stepEntry_of_getElem? {start : Session} {steps : List Step} {i : Nat} {entry : Json}
    {step : Step} (hentry : (stepEntries 0 (start.runToFailure steps).1)[i]? = some entry)
    (hstep : steps[i]? = some step) :
    entry = stepEntry i step ((start.before steps i).run step).1 := by
  rw [getElem?_stepEntries, Option.map_eq_some_iff] at hentry
  obtain ⟨result, hresult, rfl⟩ := hentry
  obtain ⟨rest, hrest⟩ := start.isPrefix_runToFailure steps
  have hlt := (List.getElem?_eq_some_iff.1 hresult).1
  rw [← List.getElem?_append_left hlt, hrest, Session.getElem?_runAll, hstep] at hresult
  cases hresult
  rw [Nat.zero_add]

/-- The JSON report about a script lists its steps up to the first that fails. -/
theorem output_ofScript {setting : Setting} {files : FileReader} {script : String}
    {steps : List Step} (h : Script.load files script = .ok steps) :
    (ofScript setting files script true).output = ofLines [(Json.arr (stepEntries 0
      ((Session.new (Path.parent script) files).runToFailure steps).1)).pretty] := by
  rw [ofScript, h]
  rfl

/-- The entry of a step in a report says what the step has put out. -/
theorem output_stepEntry (index : Nat) (step : Step) (output : Option Json) :
    (stepEntry index step (.ok output)).get? "output" = some (.ofOption output) := by
  simp [stepEntry, Json.ofEntries, Json.sortEntries, Json.get?, Json.lookup_insertEntry]

end Report

end ContractEmulator
