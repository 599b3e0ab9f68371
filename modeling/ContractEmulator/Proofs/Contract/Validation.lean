import ContractEmulator.Database.Recorded
import ContractEmulator.Ledger.Recorded
import ContractEmulator.Proofs.Function.Builtin
import ContractEmulator.Proofs.Replay

/-!
# Arguments are looked at first

A built-in contract, and the built-in function too, looks at its whole argument before it calls the
ledger or the database. So it refuses an argument without a trace, and what it calls for an argument
that it accepts can be told from the argument alone.

* `Failure.OfArgument`: what is said of an argument that is refused.
* `BuiltinContract.Grants`, `BuiltinFunction.Grants`: the calls that an argument asks for.
* `Scene.run_builtin`, `FunctionDesk.run_stateUpdater_cases`: these calls are made.
* `ChecksFirst`, `builtins_check_first`: what this says of any ledger and of any database.
-/

namespace ContractEmulator

/-- An argument is missing or malformed. -/
def Failure.OfArgument (f : Failure) : Prop := ∃ text, f = .badArgument text

/-- A sequence whose parts fail only for the argument fails only for the argument. -/
theorem Failure.ofArgument_bind {α β : Type} {x : Except Failure α}
    {next : α → Except Failure β} {f : Failure} (h : (x >>= next) = .error f)
    (hx : ∀ f, x = .error f → f.OfArgument) (hnext : ∀ a f, next a = .error f → f.OfArgument) :
    f.OfArgument := by
  cases x with
  | error g =>
    obtain rfl : g = f := Except.error.inj h
    exact hx g rfl
  | ok a => exact hnext a f h

/-! ## Fields of an argument -/

namespace Argument

/-- There is a number of 64 bits, with a sign, under a key of an argument. -/
structure HasNumber (argument : Json) (name : String) (n : Int) : Prop where
  get?_eq : argument.get? name = some (.int n)
  low : -0x8000000000000000 ≤ n
  high : n < 0x8000000000000000

variable {argument : Json} {name : String} {f : Failure}

theorem requiredText_error (h : requiredText argument name = .error f) : f.OfArgument := by
  unfold requiredText at h
  split at h
  · cases h
    exact ⟨_, rfl⟩
  · split at h
    · cases h
    · cases h
      exact ⟨_, rfl⟩

theorem optionalCount_error (h : optionalCount argument name = .error f) : f.OfArgument := by
  unfold optionalCount at h
  split at h
  · cases h
  · split at h
    · cases h
      exact ⟨_, rfl⟩
    · split at h
      · cases h
        exact ⟨_, rfl⟩
      · split at h
        · cases h
        · cases h
          exact ⟨_, rfl⟩

theorem optionalFlag_error (h : optionalFlag argument name = .error f) : f.OfArgument := by
  unfold optionalFlag at h
  split at h
  · cases h
  · split at h
    · cases h
    · cases h
      exact ⟨_, rfl⟩

end Argument

/-! ## Contracts -/

namespace BuiltinContract

/-- The calls of the ledger that an argument asks for. -/
inductive Grants (argument : Json) : Kind → List LedgerCall → Prop where
  | get {id : String} :
      argument.get? "asset_id" = some (.str id) → Grants argument .get [.get id]
  /-- The data may be null. -/
  | put {id : String} {data : Json} :
      argument.get? "asset_id" = some (.str id) → argument.get? "data" = some data →
      Grants argument .put [.get id, .put id data]
  /-- The bounds are the numbers of the argument. Without a limit there is none, and without an
  order the latest version comes first. -/
  | scan {id : String} {start stop limit : Option UInt32} {ascending : Option Bool} :
      argument.get? "asset_id" = some (.str id) → Argument.HasCount argument "start" start →
      Argument.HasCount argument "end" stop → Argument.HasCount argument "limit" limit →
      Argument.HasFlag argument "asc_order" ascending →
      Grants argument .scan [.scan ⟨id, start, stop, limit.getD 0,
        if ascending.getD false then .ascending else .descending⟩]

/-- What a built-in contract makes of an argument: the calls of the ledger, or a refusal. -/
def Kind.calls (argument : Json) : Kind → Except Failure (List LedgerCall)
  | .get => (Argument.requiredText argument "asset_id").map fun id => [.get id]
  | .put => (writeOf argument).map fun write => [.get write.1, .put write.1 write.2]
  | .scan => (filterOf argument).map fun filter => [.scan filter]

variable {argument : Json} {kind : Kind} {calls : List LedgerCall} {f : Failure}

theorem writeOf_error (h : writeOf argument = .error f) : f.OfArgument := by
  unfold writeOf at h
  split at h
  · split at h
    · cases h
    · cases h
      exact ⟨_, rfl⟩
  · cases h
    exact ⟨_, rfl⟩

theorem filterOf_error (h : filterOf argument = .error f) : f.OfArgument := by
  refine Failure.ofArgument_bind h (fun _ => Argument.requiredText_error) fun id f h => ?_
  refine Failure.ofArgument_bind h (fun _ => Argument.optionalCount_error) fun start f h => ?_
  refine Failure.ofArgument_bind h (fun _ => Argument.optionalCount_error) fun stop f h => ?_
  refine Failure.ofArgument_bind h (fun _ => Argument.optionalCount_error) fun limit f h => ?_
  refine Failure.ofArgument_bind h (fun _ => Argument.optionalFlag_error) fun ascending f h => ?_
  cases h

/-- What a built-in contract makes of an argument is what the argument asks for. -/
theorem grants_iff : Grants argument kind calls ↔ kind.calls argument = .ok calls := by
  constructor
  · rintro (hid | ⟨hid, hdata⟩ | ⟨hid, hstart, hstop, hlimit, hascending⟩)
    · rw [Kind.calls, Argument.requiredText_eq_ok_iff.2 hid]
      rfl
    · rw [Kind.calls, writeOf_eq_ok_iff.2 ⟨hid, hdata⟩]
      rfl
    · rw [Kind.calls,
        filterOf_eq_ok_iff.2 ⟨_, _, _, _, _, hid, hstart, hstop, hlimit, hascending, rfl⟩]
      rfl
  · intro h
    cases kind with
    | get =>
      rw [Kind.calls] at h
      cases hid : Argument.requiredText argument "asset_id" with
      | error f => exact nomatch hid ▸ h
      | ok id =>
        rw [hid] at h
        cases h
        exact .get (Argument.requiredText_eq_ok_iff.1 hid)
    | put =>
      rw [Kind.calls] at h
      cases hwrite : writeOf argument with
      | error f => exact nomatch hwrite ▸ h
      | ok write =>
        rw [hwrite] at h
        cases h
        obtain ⟨hid, hdata⟩ := writeOf_eq_ok_iff.1 hwrite
        exact .put hid hdata
    | scan =>
      rw [Kind.calls] at h
      cases hfilter : filterOf argument with
      | error f => exact nomatch hfilter ▸ h
      | ok filter =>
        rw [hfilter] at h
        cases h
        obtain ⟨id, start, stop, limit, ascending, hid, hstart, hstop, hlimit, hascending, rfl⟩ :=
          filterOf_eq_ok_iff.1 hfilter
        exact .scan hid hstart hstop hlimit hascending

end BuiltinContract

namespace Scene

open BuiltinContract

variable {σ : Type} [Ledger σ] {i : Instance} {kind : Kind}

/-- A built-in contract makes the calls for which its argument asks, and nothing else of the scene
is changed but the log. If it refuses its argument, nothing is changed. -/
theorem runOwn_builtin (nested : Nested σ) (a : Activation)
    (hlogic : i.logic = kind.logic) (argument : Json) (properties : Option Json) (s : Scene σ) :
    (∃ f, f.OfArgument ∧ kind.calls argument = .error f ∧
        runOwn nested a i argument properties s = some (.error f, s)) ∨
      ∃ calls r log, kind.calls argument = .ok calls ∧
        runOwn nested a i argument properties s =
          some (.ok r, { s with ledger := Ledger.replay s.ledger calls, log := log }) := by
  rw [runOwn_eq_interpret, hlogic]
  cases kind with
  | get =>
    dsimp only [Kind.logic, Kind.calls, BuiltinContract.get]
    cases hid : Argument.requiredText argument "asset_id" with
    | error f => exact .inl ⟨f, Argument.requiredText_error hid, rfl, rfl⟩
    | ok id =>
      -- What is returned depends on what the ledger answers.
      have hask : ∀ next : Option Asset → ContractM (Option Json),
          Program.interpret (answer nested a) (ContractM.get id >>= next).run s =
            Program.interpret (answer nested a) (next (Ledger.get s.ledger id).1).run
              { s with ledger := (Ledger.get s.ledger id).2 } := fun _ => rfl
      refine .inr ⟨_, some (reading id (Ledger.get s.ledger id).1), s.log, rfl, ?_⟩
      refine (hask _).trans ?_
      cases (Ledger.get s.ledger id).1 with
      | none => rfl
      | some asset => rfl
  | put =>
    dsimp only [Kind.logic, Kind.calls, BuiltinContract.put]
    cases hwrite : writeOf argument with
    | error f => exact .inl ⟨f, writeOf_error hwrite, rfl, rfl⟩
    | ok write => exact .inr ⟨_, none, _, rfl, rfl⟩
  | scan =>
    dsimp only [Kind.logic, Kind.calls, BuiltinContract.scan]
    cases hfilter : filterOf argument with
    | error f => exact .inl ⟨f, filterOf_error hfilter, rfl, rfl⟩
    | ok filter => exact .inr ⟨_, _, _, rfl, rfl⟩

end Scene

/-! ## The function -/

namespace BuiltinFunction

/-- The calls of the database that an argument for functions asks for. -/
inductive Grants : Option Json → List DatabaseCall → Prop where
  | none : Grants none []
  | unnamed {argument : Json} {state : Int} :
      argument.get? "asset_id" = some (.str "") → Argument.HasNumber argument "state" state →
      Grants (some argument) []
  | named {argument : Json} {id : String} {state : Int} :
      argument.get? "asset_id" = some (.str id) → id ≠ "" →
      Argument.HasNumber argument "state" state →
      Grants (some argument)
        [.put ⟨"emulator", "state", id⟩ (.ofEntries [("state", .int state)])]

variable {functionArgument : Option Json} {argument : Json} {calls : List DatabaseCall}
  {record : Option (DatabaseKey × Json)} {id : String} {state : Int} {f : Failure}

theorem stateOf_error (h : stateOf argument = .error f) : f.OfArgument := by
  refine Failure.ofArgument_bind h (fun _ => Argument.requiredText_error) fun id f h => ?_
  split at h
  · cases h
  · cases h
    exact ⟨_, rfl⟩

theorem stateOf_eq_ok_iff : stateOf argument = .ok (id, state) ↔
    argument.get? "asset_id" = some (.str id) ∧
      argument.get? "state" = some (.int state) ∧ state < 0x8000000000000000 := by
  constructor
  · intro h
    obtain ⟨hid, hstate⟩ := stateOf_eq_ok h
    obtain ⟨j, hget, hint⟩ := Option.bind_eq_some_iff.1 hstate
    obtain ⟨rfl, hlt⟩ := Json.asInt64?_eq_some_iff.1 hint
    exact ⟨hid, hget, hlt⟩
  · rintro ⟨hid, hget, hlt⟩
    have hstate : (argument.get? "state").bind Json.asInt64? = some state := by
      rw [hget]
      exact Json.asInt64?_eq_some_iff.2 ⟨rfl, hlt⟩
    rw [stateOf, Argument.requiredText_eq_ok_iff.2 hid, hstate]
    rfl

theorem stateRecord_error (h : stateRecord functionArgument = .error f) : f.OfArgument := by
  cases functionArgument with
  | none => cases h
  | some argument =>
    rw [stateRecord] at h
    split at h
    · next hstate =>
      cases h
      exact stateOf_error hstate
    · cases h

/-- What the state updater makes of an argument is what the argument asks for. A number that was
read is never lower than 64 bits allow, and so nobody looks. -/
theorem grants_iff
    (hstate : ∀ n, functionArgument.bind (Json.get? "state") = some (.int n) →
      -0x8000000000000000 ≤ n) :
    Grants functionArgument calls ↔ ∃ record, stateRecord functionArgument = .ok record ∧
      calls = (record.map fun entry => .put entry.1 entry.2).toList := by
  constructor
  · rintro (_ | ⟨hid, hnumber⟩ | ⟨hid, hne, hnumber⟩)
    · exact ⟨none, rfl, rfl⟩
    · refine ⟨none, ?_, rfl⟩
      rw [stateRecord, stateOf_eq_ok_iff.2 ⟨hid, hnumber.get?_eq, hnumber.high⟩]
      rfl
    · refine ⟨some (stateKey _, .ofEntries [("state", .int _)]), ?_, rfl⟩
      rw [stateRecord, stateOf_eq_ok_iff.2 ⟨hid, hnumber.get?_eq, hnumber.high⟩]
      exact congrArg Except.ok (if_neg (mt String.isEmpty_iff.1 hne))
  · rintro ⟨record, hrecord, rfl⟩
    cases functionArgument with
    | none =>
      cases hrecord
      exact .none
    | some argument =>
      rw [stateRecord] at hrecord
      split at hrecord
      · cases hrecord
      · next id state hnamed =>
        obtain ⟨hid, hget, hhigh⟩ := stateOf_eq_ok_iff.1 hnamed
        have hnumber : Argument.HasNumber argument "state" state := ⟨hget, hstate state hget, hhigh⟩
        by_cases hempty : id = ""
        · subst hempty
          cases hrecord
          exact .unnamed hid hnumber
        · rw [if_neg (mt String.isEmpty_iff.1 hempty)] at hrecord
          cases hrecord
          exact .named hid hempty hnumber

end BuiltinFunction

namespace FunctionDesk

open BuiltinFunction

variable {δ : Type} [Database δ]

/-- The state updater makes the calls for which its argument asks. If it refuses its argument,
nothing is changed. -/
theorem run_stateUpdater_cases (id : String) (input : FunctionInput) (desk : FunctionDesk δ) :
    (∃ f, f.OfArgument ∧ stateRecord input.functionArgument = .error f ∧
        run id stateUpdater input desk = (.error f, desk)) ∨
      ∃ record desk', stateRecord input.functionArgument = .ok record ∧
        run id stateUpdater input desk = (.ok (), desk') ∧
        desk'.database =
          Database.replay desk.database (record.map fun entry => .put entry.1 entry.2).toList := by
  rw [run, run_stateUpdater_eq]
  cases hrecord : stateRecord input.functionArgument with
  | error f => exact .inl ⟨f, stateRecord_error hrecord, rfl, rfl⟩
  | ok record =>
    cases record with
    | none => exact .inr ⟨none, desk, rfl, rfl, rfl⟩
    | some entry => exact .inr ⟨some entry, _, rfl, rfl, rfl⟩

end FunctionDesk

/-! ## Both -/

/-- Who calls looks at the argument first: it succeeds exactly if the argument asks for some calls,
and then it makes these. Else it says that the argument is bad, and makes no call. -/
structure ChecksFirst {Call ρ : Type} (granted : List Call → Prop) (outcome : Except Failure ρ)
    (calls calls' : List Call) : Prop where
  ok_iff : (∃ r, outcome = .ok r) ↔ ∃ made, granted made
  made : ∀ made, granted made → calls' = calls ++ made
  refused : (∀ made, ¬ granted made) → calls' = calls ∧ ∃ f, f.OfArgument ∧ outcome = .error f

theorem checksFirst_of_ok {Call ρ : Type} {granted : List Call → Prop} {calls made : List Call}
    {r : ρ} (hmade : granted made) (hsame : ∀ made', granted made' → made' = made) :
    ChecksFirst granted (.ok r) calls (calls ++ made) where
  ok_iff := ⟨fun _ => ⟨made, hmade⟩, fun _ => ⟨r, rfl⟩⟩
  made made' h := by rw [hsame made' h]
  refused h := absurd hmade (h made)

theorem checksFirst_of_error {Call ρ : Type} {granted : List Call → Prop} {calls : List Call}
    {f : Failure} (hf : f.OfArgument) (hnone : ∀ made, ¬ granted made) :
    ChecksFirst granted (.error f : Except Failure ρ) calls calls where
  ok_iff := ⟨nofun, fun ⟨made, h⟩ => absurd h (hnone made)⟩
  made made h := absurd h (hnone made)
  refused _ := ⟨rfl, f, hf, rfl⟩

/-- Whatever the ledger does, a built-in contract looks at its argument before it calls the ledger,
and one that refuses leaves everything as it was. Whatever the database does, so does the built-in
function. -/
theorem builtins_check_first {σ δ : Type} [Ledger σ] [Database δ] {i : Instance}
    {kind : BuiltinContract.Kind} (hlogic : i.logic = kind.logic)
    (nested : Scene.Nested (RecordedLedger σ)) (a : Activation) (argument : Json)
    (properties : Option Json) (s : Scene (RecordedLedger σ)) (id : String) (input : FunctionInput)
    (hstate : ∀ n, input.functionArgument.bind (Json.get? "state") = some (.int n) →
      -0x8000000000000000 ≤ n)
    (desk : FunctionDesk (RecordedDatabase δ)) :
    (∃ outcome s',
        Scene.runOwn nested a i argument properties s = some (outcome, s') ∧
        ChecksFirst (BuiltinContract.Grants argument kind) outcome s.ledger.calls s'.ledger.calls ∧
        ((∃ f, outcome = .error f) → s' = s)) ∧
      ∃ outcome desk',
        FunctionDesk.run id BuiltinFunction.stateUpdater input desk = (outcome, desk') ∧
        ChecksFirst (BuiltinFunction.Grants input.functionArgument) outcome desk.database.calls
          desk'.database.calls ∧
        ((∃ f, outcome = .error f) → desk' = desk) := by
  constructor
  · rcases Scene.runOwn_builtin nested a hlogic argument properties s with
      ⟨f, hf, hcalls, hrun⟩ | ⟨calls, r, log, hcalls, hrun⟩
    · refine ⟨_, _, hrun, checksFirst_of_error hf fun made h => ?_, fun _ => rfl⟩
      exact nomatch hcalls.symm.trans (BuiltinContract.grants_iff.1 h)
    · refine ⟨_, _, hrun, ?_, nofun⟩
      rw [RecordedLedger.calls_replay]
      refine checksFirst_of_ok (BuiltinContract.grants_iff.2 hcalls) fun made h => ?_
      exact Except.ok.inj ((BuiltinContract.grants_iff.1 h).symm.trans hcalls)
  · rcases FunctionDesk.run_stateUpdater_cases id input desk with
      ⟨f, hf, hrecord, hrun⟩ | ⟨record, desk', hrecord, hrun, hdatabase⟩
    · refine ⟨_, _, hrun, checksFirst_of_error hf fun made h => ?_, fun _ => rfl⟩
      obtain ⟨record, hok, -⟩ := (BuiltinFunction.grants_iff hstate).1 h
      exact nomatch hrecord.symm.trans hok
    · refine ⟨_, _, hrun, ?_, nofun⟩
      rw [hdatabase, RecordedDatabase.calls_replay]
      refine checksFirst_of_ok ((BuiltinFunction.grants_iff hstate).2 ⟨record, hrecord, rfl⟩) ?_
      intro made h
      obtain ⟨record', hrecord', rfl⟩ := (BuiltinFunction.grants_iff hstate).1 h
      obtain rfl : record' = record := Except.ok.inj (hrecord'.symm.trans hrecord)
      rfl

/-- The built-in contract that lists, once it is loaded. -/
def lister : Instance :=
  ⟨"scan", BuiltinContract.scanSymbol, BuiltinContract.scan, none, true, .initial,
    some (.weak 0), .null⟩

/-- A listing up to the highest age. -/
def highestListing : Json := .obj [("asset_id", .str "coin"), ("end", .int 4294967295)]

/-- A function is to note a number for an asset. -/
def coinInput : FunctionInput :=
  ⟨.null, some (.obj [("asset_id", .str "coin"), ("state", .int (-1))]), none⟩

/-- The listing calls the ledger once, with the bound as it stands there. The function calls the
database once. -/
theorem highest_check_first : ∃ r s' desk',
    Scene.runOwn (fun _ _ _ _ => none) (lister.activation 0 []) lister highestListing none
        (⟨.empty, ⟨.empty, []⟩, []⟩ : Scene (RecordedLedger MemoryLedger)) = some (.ok r, s') ∧
      s'.ledger.calls = [.scan ⟨"coin", none, some 4294967295, 0, .descending⟩] ∧
    FunctionDesk.run "note" BuiltinFunction.stateUpdater coinInput
        (⟨.new .empty, ⟨.empty, []⟩, []⟩ : FunctionDesk (RecordedDatabase MemoryDatabase)) =
          (.ok (), desk') ∧
      desk'.database.calls =
        [.put ⟨"emulator", "state", "coin"⟩ (.ofEntries [("state", .int (-1))])] := by
  have hlogic : lister.logic = BuiltinContract.Kind.logic .scan := rfl
  have hstate : ∀ n, coinInput.functionArgument.bind (Json.get? "state") = some (.int n) →
      -0x8000000000000000 ≤ n := by
    rintro _ ⟨⟩
    decide
  have hlisting : BuiltinContract.Grants highestListing .scan
      [.scan ⟨"coin", none, some 4294967295, 0, .descending⟩] :=
    @BuiltinContract.Grants.scan _ "coin" none (some 4294967295) none none rfl rfl rfl rfl rfl
  have hnote : BuiltinFunction.Grants coinInput.functionArgument
      [.put ⟨"emulator", "state", "coin"⟩ (.ofEntries [("state", .int (-1))])] :=
    .named rfl (by decide) ⟨rfl, by decide, by decide⟩
  obtain ⟨⟨outcome, s', hrun, hcontract, -⟩, ⟨result, desk', hdone, hfunction, -⟩⟩ :=
    builtins_check_first hlogic (fun _ _ _ _ => none) (lister.activation 0 []) highestListing none
      (⟨.empty, ⟨.empty, []⟩, []⟩ : Scene (RecordedLedger MemoryLedger)) "note" coinInput hstate
      (⟨.new .empty, ⟨.empty, []⟩, []⟩ : FunctionDesk (RecordedDatabase MemoryDatabase))
  obtain ⟨r, rfl⟩ := hcontract.ok_iff.2 ⟨_, hlisting⟩
  obtain ⟨⟨⟩, rfl⟩ := hfunction.ok_iff.2 ⟨_, hnote⟩
  exact ⟨r, s', desk', hrun, hcontract.made _ hlisting, hdone, hfunction.made _ hnote⟩

end ContractEmulator
