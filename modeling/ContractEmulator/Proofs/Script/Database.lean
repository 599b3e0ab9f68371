import ContractEmulator.Proofs.Database.History
import ContractEmulator.Proofs.Script.History
import ContractEmulator.Proofs.Script.Loading
import ContractEmulator.Proofs.Script.Report

/-!
# The database of a script

Steps write to the database in two ways: on their own, and by the functions of a contract that they
execute. What they have written is there for the steps that follow, whether they failed or not.

* `Call.notes`: what the functions of a call write. `Call.Ends.database_eq`: this is what a call
  does to the database.
* `Session.Moment.databaseCalls`: what a step asks of the database. `Session.Accounts.database_run`:
  this is what a step does to it.
* `Session.Reach.recorded`: the database of a session holds what the steps so far have recorded.
* `Session.put_null_not_mem`: none of them has written null, unless its object was null.
* `Session.script_database`: what the steps of a script read from the database and delete from it.
-/

namespace ContractEmulator

open BuiltinContract BuiltinFunction

/-- The built-in contract that is known under a symbol. -/
def BuiltinContract.Kind.ofSymbol? (symbol : String) : Option Kind :=
  [Kind.get, .put, .scan].find? fun kind => kind.symbol == symbol

theorem BuiltinContract.Kind.ofSymbol?_symbol (kind : Kind) :
    Kind.ofSymbol? kind.symbol = some kind := by
  cases kind <;> decide

/-! ## What a call does to the database -/

namespace Call

variable {c : Call} {e e' : Engine} {ledger ledger' : MemoryLedger}
  {database database' : MemoryDatabase} {outcome : Outcome}

/-- Whether the contract that is called returns. -/
def returns (c : Call) (binaryName : Option String) (ledger : MemoryLedger) : Bool :=
  match binaryName.bind Kind.ofSymbol? with
  | some kind => (kind.perform ledger c.argument).1.isOk
  | none => false

theorem returns_symbol (c : Call) (kind : Kind) (ledger : MemoryLedger) :
    c.returns (some kind.symbol) ledger = (kind.perform ledger c.argument).1.isOk := by
  rw [returns, Option.bind_some, kind.ofSymbol?_symbol]

/-- What the functions write that a call lists. -/
def notes (c : Call) (manager : FunctionManager) : List DatabaseCall :=
  match c.argument.get? Scene.functionsKey with
  | some (.arr entries) => manager.notes c.functionArgument entries
  | _ => []

theorem Serves.database_eq {properties : Option Json} {manager manager' : FunctionManager}
    {result : Except Failure Unit} (hb : manager.Builtin)
    (h : c.Serves properties manager database result manager' database') :
    database' = Database.replay database (c.notes manager) := by
  unfold notes
  cases h with
  | unlisted hget =>
    rw [hget]
    rfl
  | @noArray list hget harr =>
    rw [hget]
    split
    · next heq =>
      cases heq
      cases harr
    · rfl
  | listed hget hserves =>
    rw [hget]
    exact hserves.builtin_notes hb

/-- A call writes what its functions write, if the contract has returned. It does not matter how the
call ends. -/
theorem Ends.database_eq (hb : e.Builtin)
    (h : c.Ends e ledger database outcome e' ledger' database') :
    database' = Database.replay database
      (if c.returns (e'.binaryName? c.id) ledger then c.notes e.functions else []) := by
  cases h with
  | refused hfetch =>
    rw [(Engine.unloaded_of_fetch_error hfetch).1]
    rfl
  | @failed _ _ _ kind _ hfetch hkind hperform =>
    rw [hb.binaryName?_of_kind hfetch hkind, returns_symbol, hperform]
    rfl
  | @performed _ e₁ _ kind _ _ manager _ hfetch hkind hperform hserves =>
    have hname : Engine.binaryName? { e₁ with functions := manager } c.id = some kind.symbol :=
      hb.binaryName?_of_kind hfetch hkind
    have hdatabase := hserves.database_eq (hb.fetch hfetch).functions
    obtain rfl := Engine.eq_keep_of_fetch hfetch
    rw [hname, returns_symbol, hperform]
    exact hdatabase

end Call

namespace Session

variable {past : List Moment} {s : Session} {e : Engine} {step : Step}

/-! ## What a step asks of the database -/

/-- What the functions of an execution write. They are run once the contract has returned. -/
def Moment.notes (m : Moment) (past : List Moment) (c : Call) : List DatabaseCall :=
  match m.session.engine? with
  | some e =>
    if c.returns (resolve? c.id (m :: past)) m.session.scene.ledger then c.notes e.functions else []
  | none => []

theorem Moment.notes_of_engine {m : Moment} (hk : m.session.engine? = some e) (c : Call) :
    m.notes past c = if c.returns (resolve? c.id (m :: past)) m.session.scene.ledger then
      c.notes e.functions else [] := by
  rw [notes, hk]

/-- What a step asks of the database, in order. -/
def Moment.databaseCalls (m : Moment) (past : List Moment) : List DatabaseCall :=
  match m.step with
  | .database .get space table assetId _ => [.get ⟨space, table, assetId⟩]
  | .database .delete space table assetId _ => [.delete ⟨space, table, assetId⟩]
  | .database .put space table assetId (some object) => [.put ⟨space, table, assetId⟩ object]
  | .execute id argument functionArgument => m.notes past ⟨id, argument, functionArgument⟩
  | _ => []

/-- What the database was asked so far, latest first. -/
def received : List Moment → List DatabaseCall
  | [] => []
  | m :: past => (m.databaseCalls past).reverse ++ received past

/-- A step that calls a contract asks what the functions of the call ask. Only an execution lists
some. -/
theorem Moment.databaseCalls_of_call {c : Call} (hk : s.engine? = some e)
    (h : step.call? = some c) : Moment.databaseCalls ⟨s, step⟩ past =
      if c.returns (resolve? c.id (⟨s, step⟩ :: past)) s.scene.ledger then c.notes e.functions
      else [] := by
  rcases Step.functions_of_call h with rfl | hunlisted
  · exact notes_of_engine hk c
  · have hnone : c.notes e.functions = [] := by rw [Call.notes, hunlisted]
    rw [hnone, ite_self]
    cases step with
    | execute =>
      cases h
      refine (notes_of_engine hk _).trans ?_
      rw [hnone, ite_self]
    | get | put | scan => rfl
    | _ => cases h

/-- A step does to the database what it asks of it, and nothing else. -/
theorem Accounts.database_run (ha : Accounts past s e) (step : Step) :
    (s.run step).2.database =
      Database.replay s.database (Moment.databaseCalls ⟨s, step⟩ past) := by
  cases hcall : step.call? with
  | none =>
    cases step with
    | execute | get | put | scan => cases hcall
    | register id name file | registerFunction id name file =>
      dsimp only [run]
      cases s.readCode id file <;> rfl
    | setCertificate | listContracts => rfl
    | database method space table assetId object =>
      cases method with
      | get | delete => rfl
      | put => cases object <;> rfl
  | some c =>
    obtain ⟨_, _, _, hends, ha'⟩ := ha.of_call hcall
    rw [hends.database_eq ha.builtin, ha'.loaded, Moment.databaseCalls_of_call ha.engine hcall]

/-- The database of a session holds what the steps so far have recorded. -/
theorem Reach.recorded (hr : Reach past s) (key : DatabaseKey) :
    s.database.get key = recorded key (received past) := by
  induction hr generalizing key with
  | start => rfl
  | files _ _ ih => exact ih key
  | step step hr ih =>
    obtain ⟨e, ha⟩ := hr.accounts
    rw [ha.database_run step]
    exact MemoryDatabase.get_replay ih _ key

/-! ## Nulls -/

/-- What the functions of an execution write are an asset and a state that it names. -/
theorem Moment.exists_of_mem_notes {m : Moment} {c : Call} {call : DatabaseCall}
    (h : call ∈ m.notes past c) :
    ∃ argument id state, c.functionArgument = some argument ∧
      argument.get? "asset_id" = some (.str id) ∧
      (argument.get? "state").bind Json.asInt64? = some state ∧
      call = .put ⟨"emulator", "state", id⟩ (.ofEntries [("state", .int state)]) := by
  unfold notes at h
  split at h
  · split at h
    · unfold Call.notes at h
      split at h
      · exact noteCall?_eq_some (FunctionManager.mem_notes h)
      · cases h
    · cases h
  · cases h

theorem Moment.put_null_not_mem {m : Moment} (h : m.step.object? ≠ some .null)
    (key : DatabaseKey) : .put key .null ∉ m.databaseCalls past := by
  intro hmem
  unfold databaseCalls at hmem
  split at hmem
  · cases List.mem_singleton.1 hmem
  · cases List.mem_singleton.1 hmem
  · next hstep =>
    cases List.mem_singleton.1 hmem
    exact h (congrArg Step.object? hstep)
  · obtain ⟨_, _, _, -, -, -, heq⟩ := exists_of_mem_notes hmem
    cases heq
  · cases hmem

/-- No step writes null, unless its object is null. -/
theorem put_null_not_mem {past : List Moment} (h : ∀ m ∈ past, m.step.object? ≠ some .null)
    (key : DatabaseKey) : .put key .null ∉ received past := by
  induction past with
  | nil => exact List.not_mem_nil
  | cons m past ih =>
    obtain ⟨hm, hpast⟩ := List.forall_mem_cons.1 h
    intro hmem
    rcases List.mem_append.1 hmem with hnew | hold
    · exact Moment.put_null_not_mem hm key (List.mem_reverse.1 hnew)
    · exact ih hpast hold

theorem mem_of_mem_moments {s : Session} {past : List Moment} {steps : List Step} {m : Moment}
    (h : m ∈ moments s past steps) : m.step ∈ steps ∨ m ∈ past := by
  induction steps generalizing s past with
  | nil => exact .inr h
  | cons step steps ih =>
    rcases ih h with hlater | hmem
    · exact .inl (List.mem_cons_of_mem _ hlater)
    · rcases List.mem_cons.1 hmem with rfl | hpast
      · exact .inl List.mem_cons_self
      · exact .inr hpast

/-! ## Scripts -/

/-- What a script finds in the database, at the step with some index. -/
structure RecallsAt (start : Session) (steps : List Step) (i : Nat) (step : Step) : Prop where
  /-- What is read or deleted is what was written last to this key and was not deleted since. The
  writes are those of the steps before and of the functions that they ran, if they failed or not. -/
  found {method : DatabaseMethod} {space table assetId : String} {object : Option Json} :
    step = .database method space table assetId object → method ≠ .put →
      ((start.before steps i).run step).1 =
        .ok (recorded ⟨space, table, assetId⟩ (received (moments start [] (steps.take i))))
  /-- What an execution writes are an asset and a state that it names. -/
  noted {id : String} {argument : Json} {functionArgument : Option Json} {call : DatabaseCall} :
    step = .execute id argument functionArgument →
    call ∈ Moment.databaseCalls ⟨start.before steps i, step⟩ (moments start [] (steps.take i)) →
      ∃ named assetId state, functionArgument = some named ∧
        named.get? "asset_id" = some (.str assetId) ∧
        (named.get? "state").bind Json.asInt64? = some state ∧
        call = .put ⟨"emulator", "state", assetId⟩ (.ofEntries [("state", .int state)])
  /-- A step leaves what is under a key that differs in some component from those of its calls. -/
  apart {key : DatabaseKey} :
    (∀ call ∈ Moment.databaseCalls ⟨start.before steps i, step⟩ (moments start [] (steps.take i)),
      call.key.space ≠ key.space ∨ call.key.table ≠ key.table ∨ call.key.key ≠ key.key) →
      ((start.before steps i).run step).2.database.get key =
        (start.before steps i).database.get key
  /-- An object is not null, and without one nothing is written. -/
  refused {space table assetId : String} {object : Option Json} :
    step = .database .put space table assetId object → object ≠ some .null ∧
      (object = none →
        (start.before steps i).run step = (.error .objectRequired, start.before steps i))

/-- The entries of a JSON report tell what a script has read or deleted, and they tell null just if
there was nothing under the key. -/
def ReportsFound (start : Session) (steps : List Step) (entries : List Json) : Prop :=
  ∀ {i : Nat} {entry : Json} {method : DatabaseMethod} {space table assetId : String}
    {object : Option Json}, entries[i]? = some entry →
    steps[i]? = some (.database method space table assetId object) → method ≠ .put →
      entry.get? "output" =
          some (.ofOption ((start.before steps i).database.get ⟨space, table, assetId⟩)) ∧
        (entry.get? "output" = some .null ↔
          (start.before steps i).database.get ⟨space, table, assetId⟩ = none)

variable {start : Session} {steps : List Step} {i : Nat}

/-- A step that reads or deletes puts out what is under its key. -/
theorem run_database {method : DatabaseMethod} (hmethod : method ≠ .put)
    (space table assetId : String) (object : Option Json) :
    (s.run (.database method space table assetId object)).1 =
      .ok (s.database.get ⟨space, table, assetId⟩) := by
  cases method with
  | get | delete => rfl
  | put => exact absurd rfl hmethod

theorem recallsAt (hobjects : ∀ step ∈ steps, step.object? ≠ some .null) (base : String)
    (reader : FileReader) (hi : steps[i]? = some step) :
    RecallsAt (.new base reader) steps i step := by
  have hr := (Reach.start base reader).runAll (steps.take i)
  refine ⟨?_, ?_, ?_, ?_⟩
  · rintro method space table assetId object rfl hmethod
    rw [run_database hmethod, before, hr.recorded]
  · rintro id argument functionArgument call rfl hmem
    exact Moment.exists_of_mem_notes hmem
  · intro key hapart
    rw [before, (hr.step step).recorded, hr.recorded]
    refine recorded_append_of_apart (fun call hmem heq => ?_) _
    subst heq
    simpa using hapart call (List.mem_reverse.1 hmem)
  · rintro space table assetId object rfl
    refine ⟨hobjects _ (List.mem_of_getElem? hi), ?_⟩
    rintro rfl
    rfl

theorem get_before_ne_null (hobjects : ∀ step ∈ steps, step.object? ≠ some .null) (base : String)
    (reader : FileReader) (i : Nat) (key : DatabaseKey) :
    ((new base reader).before steps i).database.get key ≠ some .null := by
  rw [before, ((Reach.start base reader).runAll (steps.take i)).recorded]
  refine recorded_ne_null fun written => put_null_not_mem (fun m hmem => ?_) written
  rcases mem_of_mem_moments hmem with hstep | hnone
  · exact hobjects _ (List.mem_of_mem_take hstep)
  · cases hnone

theorem reportsFound (hobjects : ∀ step ∈ steps, step.object? ≠ some .null) (base : String)
    (reader : FileReader) : ReportsFound (.new base reader) steps
      (Report.stepEntries 0 ((new base reader).runToFailure steps).1) := by
  intro i entry method space table assetId object hentry hstep hmethod
  rw [Report.stepEntry_of_getElem? hentry hstep, run_database hmethod, Report.output_stepEntry]
  have hnonNull := get_before_ne_null hobjects base reader i ⟨space, table, assetId⟩
  generalize MemoryDatabase.get _ _ = value at hnonNull ⊢
  refine ⟨rfl, ?_⟩
  cases value with
  | none => exact ⟨fun _ => rfl, fun _ => rfl⟩
  | some j => exact ⟨fun h => absurd h hnonNull, nofun⟩

/-- At each step, a script that loads finds in the database what the steps so far have recorded
there. None of this is null, since a null object in a script is none: so null in the JSON report is
what it tells about a key with nothing under it. -/
theorem script_database {files : FileReader} {path : String}
    (h : Script.load files path = .ok steps) :
    (∀ base reader i step, steps[i]? = some step → RecallsAt (.new base reader) steps i step) ∧
      (∀ base reader i key,
        ((new base reader).before steps i).database.get key ≠ some .null) ∧
      Step.NullObjectIsMissing ∧
      (∀ setting, ∃ entries,
        entries = Report.stepEntries 0 ((new (Path.parent path) files).runToFailure steps).1 ∧
        (Report.ofScript setting files path true).output =
          Report.ofLines [(Json.arr entries).pretty] ∧
        ReportsFound (.new (Path.parent path) files) steps entries) := by
  have hobjects := Script.object_ne_null h
  refine ⟨fun base reader i step hi => recallsAt hobjects base reader hi,
    get_before_ne_null hobjects, Step.nullObjectIsMissing, fun setting => ?_⟩
  exact ⟨_, rfl, Report.output_ofScript h, reportsFound hobjects _ _⟩

/-- The text, in pieces, of a script that looks for the note of an asset, has it written by an
execution that fails, and deletes it. In between it tries to replace the note by null. -/
def noteText : List String :=
  ["[[\"database\",\"get\",", "\"emulator\",\"state\",\"coin\"],",
    "[\"register-function\",", "\"note\",", "\"emulator.function.StateUpdater\",", "\"note\"],",
    "[\"execute\",\"put\",", "\x7b\"asset_id\":\"coin\",", "\"data\":1,",
    "\"_functions_\":", "[\"note\",\"gone\"]\x7d,",
    "\x7b\"asset_id\":\"coin\",", "\"state\":7\x7d],",
    "[\"database\",\"put\",", "\"emulator\",\"state\",", "\"coin\",null],",
    "[\"database\",\"delete\",", "\"emulator\",\"state\",", "\"coin\"]]"]

/-- Files of which one holds this script, and all others the code of the state updater. -/
def noteFiles : FileReader := fun path =>
  if path = "notes.json" then .ok (Utf8.encode (noteText.flatMap String.toList))
  else updaterFiles path

/-- The steps of this script. -/
def noteSteps : List Step := (Script.load noteFiles "notes.json").toOption.getD []

theorem load_notes : Script.load noteFiles "notes.json" = .ok noteSteps := by
  have hloads : (Script.load noteFiles "notes.json").isOk = true := by decide +kernel
  unfold noteSteps
  cases hload : Script.load noteFiles "notes.json" with
  | error e =>
    rw [hload] at hloads
    cases hloads
  | ok steps => rfl

/-- The session in which this script runs. -/
def notesStart : Session := new (Path.parent "notes.json") noteFiles

/-- The method and the key of a step on the database that has no object. -/
def access? : Step → Option (DatabaseMethod × DatabaseKey)
  | .database method space table assetId none => some (method, ⟨space, table, assetId⟩)
  | _ => none

theorem getElem?_of_access? {method : DatabaseMethod} {key : DatabaseKey}
    (h : (steps.map access?)[i]? = some (some (method, key))) :
    steps[i]? = some (.database method key.space key.table key.key none) := by
  rw [List.getElem?_map, Option.map_eq_some_iff] at h
  obtain ⟨step, hstep, haccess⟩ := h
  rw [hstep]
  unfold access? at haccess
  split at haccess
  · cases haccess
    rfl
  · cases haccess

/-- What the failed execution has written is there when it is deleted. It was not replaced by null,
and null in the report says that it was not there at first. -/
theorem notes_script_database :
    (∃ value, ((notesStart.before noteSteps 4).run
        (.database .delete "emulator" "state" "coin" none)).1 = .ok (some value) ∧
      (value.get? "state").bind Json.asInt64? = some 7) ∧
    (notesStart.before noteSteps 3).run (.database .put "emulator" "state" "coin" none) =
      (.error .objectRequired, notesStart.before noteSteps 3) ∧
    ∃ entry, (Report.stepEntries 0 (notesStart.runToFailure noteSteps).1)[0]? = some entry ∧
      entry.get? "output" = some .null := by
  obtain ⟨hrecalls, -, -, hreport⟩ := script_database load_notes
  obtain ⟨_, rfl, -, hfound⟩ := hreport ⟨false, .ofSetting none⟩
  have hsteps : noteSteps.map access? = [some (.get, stateKey "coin"), none, none,
      some (.put, stateKey "coin"), some (.delete, stateKey "coin")] := by decide +kernel
  have hget : noteSteps[0]? = some (.database .get "emulator" "state" "coin" none) :=
    getElem?_of_access? (congrArg (·[0]?) hsteps)
  have hput : noteSteps[3]? = some (.database .put "emulator" "state" "coin" none) :=
    getElem?_of_access? (congrArg (·[3]?) hsteps)
  have hdelete : noteSteps[4]? = some (.database .delete "emulator" "state" "coin" none) :=
    getElem?_of_access? (congrArg (·[4]?) hsteps)
  refine ⟨?_, ?_, ?_⟩
  · have hstate : ((recorded (stateKey "coin")
        (received (moments notesStart [] (noteSteps.take 4)))).bind (·.get? "state")).bind
          Json.asInt64? = some 7 := by decide +kernel
    obtain ⟨state, hvalue, hstate⟩ := Option.bind_eq_some_iff.1 hstate
    obtain ⟨value, hrecorded, hvalue⟩ := Option.bind_eq_some_iff.1 hvalue
    refine ⟨value, ?_, by rw [hvalue]; exact hstate⟩
    rw [← hrecorded]
    exact (hrecalls _ noteFiles 4 _ hdelete).found rfl (by decide)
  · exact ((hrecalls _ noteFiles 3 _ hput).refused rfl).2 rfl
  · have hlisted : ((Report.stepEntries 0
        (notesStart.runToFailure noteSteps).1)[0]?).isSome = true := by decide +kernel
    obtain ⟨entry, hentry⟩ := Option.isSome_iff_exists.1 hlisted
    exact ⟨entry, hentry, (hfound hentry hget (by decide)).2.2 rfl⟩

end Session

end ContractEmulator
