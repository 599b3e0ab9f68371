import ContractEmulator.Proofs.Script.Call

/-!
# The history of a session

A session has taken some steps, failed ones too. They tell what its ids stand for and what its
ledger holds. Histories of steps are given latest first.

* `Session.Moment`: a step, with the session in which it was taken. `Session.Reach past s`: a new
  session arrives at `s` by the moments `past`.
* `Session.resolve?`: the binary name for which an id stands. It is that of the artifact that was
  bound to the id when it was loaded first.
* `Session.written`: what was put to an asset.
* `Session.Reach.accounts`: this is what a session has loaded and what is in its ledger.
-/

namespace ContractEmulator.Session

open BuiltinContract

/-- A step that was taken, and the session before it. -/
structure Moment where
  session : Session
  step : Step

/-- The artifact that is bound to a contract when a step fetches the contract. -/
def Moment.fetched? (m : Moment) (id : String) : Option Artifact :=
  m.step.call?.bind fun c =>
    if c.id = id then m.session.engine?.bind fun e => e.fetchable? id else none

/-- The binary name for which an id stands: that of the artifact that was bound to the id when it
was fetched for the first time. -/
def resolve? (id : String) : List Moment → Option String
  | [] => none
  | m :: past => (resolve? id past).or ((m.fetched? id).map Artifact.binaryName)

/-- What a step puts to an asset: the data of its argument, if the contract is the one that writes
and the argument names the asset. -/
def Moment.put? (m : Moment) (past : List Moment) (assetId : String) : Option Json :=
  m.step.call?.bind fun c =>
    if resolve? c.id (m :: past) = some Kind.put.symbol then dataFor? c.argument assetId else none

/-- What was put to an asset, oldest first. -/
def written (assetId : String) : List Moment → List Json
  | [] => []
  | m :: past => written assetId past ++ (m.put? past assetId).toList

/-- A new session takes one step after the other. Meanwhile its files may change. -/
inductive Reach : List Moment → Session → Prop where
  | start (base : String) (files : FileReader) : Reach [] (.new base files)
  | files {past : List Moment} {s : Session} (files : FileReader) :
      Reach past s → Reach past { s with files := files }
  | step {past : List Moment} {s : Session} (step : Step) :
      Reach past s → Reach (⟨s, step⟩ :: past) (s.run step).2

/-- The moments of a session that runs some steps, after those in its past. -/
def moments (s : Session) (past : List Moment) : List Step → List Moment
  | [] => past
  | step :: steps => moments (s.run step).2 (⟨s, step⟩ :: past) steps

variable {past : List Moment} {s : Session} {e e' : Engine} {step : Step} {c : Call}

/-- A script leads where its steps lead. -/
theorem Reach.runAll (hr : Reach past s) (steps : List Step) :
    Reach (moments s past steps) (s.runAll steps).2 := by
  induction steps generalizing past s with
  | nil => exact hr
  | cons step steps ih => exact ih (.step step hr)

/-- The past of a session accounts for what its engine has loaded and for its ledger. -/
structure Accounts (past : List Moment) (s : Session) (e : Engine) : Prop where
  engine : s.engine? = some e
  builtin : e.Builtin
  loaded : ∀ id, e.binaryName? id = resolve? id past
  history : ∀ assetId, s.scene.ledger.history assetId = written assetId past

theorem accounts_new (base : String) (files : FileReader) :
    Accounts [] (new base files) (Engine.withBuiltins engineIndex).1 where
  engine := engine?_new base files
  builtin := Engine.builtin_withBuiltins engineIndex
  loaded := Engine.binaryName?_withBuiltins engineIndex
  history _ := rfl

/-- A step that calls a contract adds to the account what the call loads and what it writes. -/
theorem Accounts.of_call (ha : Accounts past s e) (h : step.call? = some c) :
    ∃ outcome e', (s.run step).1 = outcome.mapError (.call c.id) ∧
      c.Ends e s.scene.ledger s.database outcome e' (s.run step).2.scene.ledger
        (s.run step).2.database ∧
      Accounts (⟨s, step⟩ :: past) (s.run step).2 e' := by
  obtain ⟨outcome, e', hout, hk', hends⟩ := run_ends ha.engine ha.builtin h
  have hloaded : ∀ id, e'.binaryName? id = resolve? id (⟨s, step⟩ :: past) := by
    intro id
    rw [hends.binaryName? ha.builtin, ha.loaded, resolve?, Moment.fetched?, h, Option.bind_some,
      ha.engine, Option.bind_some, apply_ite (Option.map Artifact.binaryName), Option.map_none]
  refine ⟨outcome, e', hout, hends, hk', hends.builtin ha.builtin, hloaded, fun assetId => ?_⟩
  rw [hends.history ha.builtin, ha.history, hloaded, written, Moment.put?, h, Option.bind_some]

/-- The other steps add nothing. -/
theorem Accounts.of_no_call (ha : Accounts past s e) (h : step.call? = none) :
    ∃ e', Accounts (⟨s, step⟩ :: past) (s.run step).2 e' := by
  obtain ⟨e', hk', hb', hsame, hledger⟩ := run_of_no_call ha.engine ha.builtin h
  refine ⟨e', hk', hb', fun id => ?_, fun assetId => ?_⟩
  · rw [Engine.binaryName?, hsame, ← Engine.binaryName?, ha.loaded, resolve?, Moment.fetched?, h]
    exact (Option.or_none).symm
  · rw [hledger, ha.history, written, Moment.put?, h]
    exact (List.append_nil _).symm

/-- The past of a session accounts for it. -/
theorem Reach.accounts (hr : Reach past s) : ∃ e, Accounts past s e := by
  -- How a step ends does not matter: what a failed one has loaded and written stays.
  induction hr with
  | start base files => exact ⟨_, accounts_new base files⟩
  | files _ _ ih =>
    obtain ⟨e, ha⟩ := ih
    exact ⟨e, ha.engine, ha.builtin, ha.loaded, ha.history⟩
  | step step _ ih =>
    obtain ⟨e, ha⟩ := ih
    cases h : step.call? with
    | none => exact ha.of_no_call h
    | some c =>
      obtain ⟨_, e', _, _, ha'⟩ := ha.of_call h
      exact ⟨e', ha'⟩

/-! ## A script -/

/-- Files that all hold the code of the state updater. -/
def updaterFiles : FileReader := fun _ => .ok (Descriptor.encode BuiltinFunction.stateUpdaterSymbol)

/-- An argument that puts a number to the asset `coin` and lists functions. -/
def coinArgument (n : Int) (functions : List String) : Json :=
  .ofEntries [("asset_id", .str "coin"), ("data", .int n),
    ("_functions_", .arr (functions.map Json.str))]

/-- A function is registered, and two numbers are put to an asset. The last step fails, since it
lists a function that is not registered. -/
def coinScript : List Step :=
  [.registerFunction "note" BuiltinFunction.stateUpdaterSymbol "note", .put "coin" (.int 1),
    .execute "put" (coinArgument 2 ["gone"]) none]

/-- The session after this script. -/
def coins : Session := ((new "" updaterFiles).runAll coinScript).2

/-- The moments of this script. -/
def coinMoments : List Moment := moments (new "" updaterFiles) [] coinScript

theorem reach_coins : Reach coinMoments coins := (Reach.start "" updaterFiles).runAll coinScript

end ContractEmulator.Session
