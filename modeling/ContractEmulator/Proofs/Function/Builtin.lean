import ContractEmulator.Database.Memory
import ContractEmulator.Function.Builtin
import ContractEmulator.Proofs.Contract.Builtin
import ContractEmulator.Proofs.Function.Service

/-!
# What the built-in function does

The state updater looks at the argument for functions before it writes, and it writes one record at
most. It looks at nothing else, so all its runs of a list end in the same way.

* `stateRecord`, `noted`: the record, and a database with it. `run_stateUpdater`: this is what a run
  does.
* `FunctionManager.Builtin`: a manager that knows no other function. Every operation keeps it.
* `entryResult`: how an entry of a list ends. `notes`: what the entries of a list write.
* `FunctionDesk.Serves.builtin_notes`: what a list has written, however it ends.
* `FunctionDesk.Serves.builtin_error`: a list that fails has written the records of the entries
  before the first that is bad.
-/

namespace ContractEmulator

namespace BuiltinFunction

theorem stateOf_eq_ok {argument : Json} {id : String} {state : Int}
    (h : stateOf argument = .ok (id, state)) :
    argument.get? "asset_id" = some (.str id) ∧
      (argument.get? "state").bind Json.asInt64? = some state := by
  obtain ⟨id', hid, h⟩ := Failure.exists_of_bind_eq_ok h
  split at h
  · next hstate =>
    cases h
    exact ⟨Argument.requiredText_eq_ok_iff.1 hid, hstate⟩
  · cases h

/-- The record that the state updater writes for an argument, if it writes one. -/
def stateRecord : Option Json → Except Failure (Option (DatabaseKey × Json))
  | none => .ok none
  | some argument =>
    match stateOf argument with
    | .error f => .error f
    | .ok (id, state) =>
      .ok (if id.isEmpty then none else some (stateKey id, .ofEntries [("state", .int state)]))

/-- A database in which the state updater has written its record. -/
def noted (functionArgument : Option Json) (database : MemoryDatabase) : MemoryDatabase :=
  match stateRecord functionArgument with
  | .ok (some (key, value)) => database.put key value
  | .ok none | .error _ => database

/-- The call by which the state updater writes its record. -/
def noteCall? (functionArgument : Option Json) : Option DatabaseCall :=
  match stateRecord functionArgument with
  | .ok (some (key, value)) => some (.put key value)
  | .ok none | .error _ => none

/-- What the state updater writes are an asset and a state that the argument names. -/
theorem noteCall?_eq_some {functionArgument : Option Json} {call : DatabaseCall}
    (h : noteCall? functionArgument = some call) :
    ∃ argument id state, functionArgument = some argument ∧
      argument.get? "asset_id" = some (.str id) ∧
      (argument.get? "state").bind Json.asInt64? = some state ∧
      call = .put ⟨"emulator", "state", id⟩ (.ofEntries [("state", .int state)]) := by
  cases functionArgument with
  | none => cases h
  | some argument =>
    dsimp only [noteCall?, stateRecord] at h
    cases hstate : stateOf argument with
    | error f =>
      rw [hstate] at h
      cases h
    | ok named =>
      obtain ⟨id, state⟩ := named
      obtain ⟨hid, hnumber⟩ := stateOf_eq_ok hstate
      rw [hstate] at h
      dsimp only at h
      cases hempty : id.isEmpty with
      | true =>
        rw [hempty] at h
        cases h
      | false =>
        rw [hempty] at h
        cases h
        exact ⟨argument, id, state, rfl, hid, hnumber, rfl⟩

theorem noted_eq_replay (functionArgument : Option Json) (database : MemoryDatabase) :
    noted functionArgument database =
      Database.replay database (noteCall? functionArgument).toList := by
  rw [noted, noteCall?]
  cases stateRecord functionArgument with
  | error => rfl
  | ok record => cases record <;> rfl

theorem replay_notes {α : Type} (functionArgument : Option Json) (entries : List α)
    (database : MemoryDatabase) :
    Database.replay database (entries.flatMap fun _ => (noteCall? functionArgument).toList) =
      entries.foldl (fun database _ => noted functionArgument database) database := by
  induction entries generalizing database with
  | nil => rfl
  | cons entry entries ih =>
    rw [List.flatMap_cons, Database.replay_append, ← noted_eq_replay, ih, List.foldl_cons]

/-- The state updater writes its record, or there is something wrong with its argument. -/
theorem run_stateUpdater_eq (input : FunctionInput) :
    (stateUpdater input).run =
      match stateRecord input.functionArgument with
      | .error f => .done (.error f)
      | .ok none => .done (.ok ())
      | .ok (some (key, value)) => (FunctionM.put key value).run := by
  obtain ⟨argument, functionArgument, properties⟩ := input
  cases functionArgument with
  | none => rfl
  | some functionArgument =>
    dsimp only [stateUpdater, stateRecord]
    cases stateOf functionArgument with
    | error f => rfl
    | ok named =>
      obtain ⟨assetId, state⟩ := named
      dsimp only
      show (if assetId.isEmpty then pure ()
        else FunctionM.put (stateKey assetId) (.ofEntries [("state", .int state)]) :
          FunctionM Unit).run = _
      cases assetId.isEmpty <;> rfl

/-- A run of the state updater writes its record or fails. It never does both. -/
theorem run_stateUpdater (id : String) (input : FunctionInput)
    (desk : FunctionDesk MemoryDatabase) :
    (FunctionDesk.run id stateUpdater input desk).1 =
        (stateRecord input.functionArgument).map (fun _ => ()) ∧
      (FunctionDesk.run id stateUpdater input desk).2.database =
        noted input.functionArgument desk.database := by
  rw [FunctionDesk.run, run_stateUpdater_eq, noted]
  cases stateRecord input.functionArgument with
  | error f => exact ⟨rfl, rfl⟩
  | ok record =>
    cases record with
    | none => exact ⟨rfl, rfl⟩
    | some entry => exact ⟨rfl, rfl⟩

/-- The loader knows the state updater and nothing else. -/
theorem eq_stateUpdater_of_find? {symbol : String} {logic : FunctionLogic}
    (h : loader.factories.find? symbol = some logic) : logic = stateUpdater := by
  have hmem := OrderedMap.mem_of_find?_ofList h
  exact (Prod.mk.inj (List.mem_singleton.1 hmem)).2

end BuiltinFunction

open BuiltinFunction

namespace FunctionManager

/-- A manager that knows the state updater and no other function. -/
structure Builtin (m : FunctionManager) : Prop where
  loader : m.loader = BuiltinFunction.loader
  loaded : ∀ {id function}, m.loaded.find? id = some function → function.logic = stateUpdater

variable {m m' : FunctionManager} {id : String} {function : LoadedFunction}
  {logic : FunctionLogic} {functionArgument : Option Json}

theorem builtin_new : (new BuiltinFunction.loader).Builtin where
  loader := rfl
  loaded h := nomatch h

theorem Builtin.register (hb : m.Builtin) (entry : FunctionEntry) :
    (m.register entry).1.Builtin where
  loader := hb.loader
  loaded := hb.loaded

/-- Whatever an id stands for is the state updater. -/
theorem Builtin.resolve_ok (hb : m.Builtin) (h : m.resolve id = .ok logic) :
    logic = stateUpdater := by
  rcases resolve_eq_ok_iff.1 h with ⟨function, hfind, rfl⟩ | ⟨-, entry, -, hload⟩
  · exact hb.loaded hfind
  · obtain ⟨symbol, hknown⟩ := Loader.known_of_load hload
    rw [hb.loader] at hknown
    exact eq_stateUpdater_of_find? hknown

theorem Builtin.insert (hb : m.Builtin) (h : function.logic = stateUpdater) :
    Builtin { m with loaded := m.loaded.insert id function } where
  loader := hb.loader
  loaded {id' function'} hfind := by
    rw [OrderedMap.find?_insert] at hfind
    split at hfind
    · exact Option.some.inj hfind ▸ h
    · exact hb.loaded hfind

theorem Builtin.fetch (hb : m.Builtin) (h : m.fetch id = .ok (function, m')) : m'.Builtin := by
  obtain ⟨hresolve, rfl | rfl⟩ := fetch_eq_ok h
  · exact hb
  · exact hb.insert (hb.resolve_ok hresolve)

theorem Builtin.setMemory (hb : m.Builtin) (id : String) (memory : Json) :
    (m.setMemory id memory).Builtin := by
  unfold FunctionManager.setMemory
  split
  · next function hfind => exact hb.insert (hb.loaded hfind : function.logic = stateUpdater)
  · exact hb

/-- How an entry of a list of functions ends when it is run. -/
def entryResult (m : FunctionManager) (functionArgument : Option Json) :
    Json → Except Failure Unit
  | .str id =>
    match m.resolve id with
    | .error f => .error f
    | .ok _ => (stateRecord functionArgument).map fun _ => ()
  | _ => .error (.badArgument "_functions_ must contain strings")

/-- What the entries of a list write. They are run up to the first that is bad, and each of them
writes the record of the state updater. -/
def notes (m : FunctionManager) (functionArgument : Option Json) (entries : List Json) :
    List DatabaseCall :=
  (entries.takeWhile fun entry => (m.entryResult functionArgument entry).isOk).flatMap
    fun _ => (noteCall? functionArgument).toList

/-- What is written stops at the first entry that is bad. -/
theorem notes_of_bad {done rest : List Json} {bad : Json} {f : Failure}
    (hdone : ∀ entry ∈ done, m.entryResult functionArgument entry = .ok ())
    (hbad : m.entryResult functionArgument bad = .error f) :
    m.notes functionArgument (done ++ bad :: rest) =
      done.flatMap fun _ => (noteCall? functionArgument).toList := by
  rw [notes, List.takeWhile_append_of_pos fun entry hmem => by rw [hdone entry hmem]; rfl,
    List.takeWhile_cons, hbad]
  exact congrArg (List.flatMap _) (List.append_nil done)

theorem mem_notes {entries : List Json} {call : DatabaseCall}
    (h : call ∈ m.notes functionArgument entries) : noteCall? functionArgument = some call := by
  obtain ⟨_, -, hmem⟩ := List.mem_flatMap.1 h
  exact Option.mem_toList.1 hmem

theorem entryResult_malformed {entry : Json} (h : ∀ id, entry ≠ .str id) :
    m.entryResult functionArgument entry =
      .error (.badArgument "_functions_ must contain strings") := by
  cases entry with
  | str id => exact absurd rfl (h id)
  | _ => rfl

theorem entryResult_congr (h : ∀ id, m'.resolve id = m.resolve id) (entry : Json) :
    m'.entryResult functionArgument entry = m.entryResult functionArgument entry := by
  cases entry with
  | str id => rw [entryResult, entryResult, h]
  | _ => rfl

end FunctionManager

namespace FunctionDesk

variable {contractId : String} {input : FunctionInput} {desk desk' : FunctionDesk MemoryDatabase}
  {v : Invocation} {entries : List Json} {invocations : List Invocation}
  {result : Except Failure Unit} {f : Failure}

theorem Serves.builtin (hb : desk.manager.Builtin)
    (h : Serves contractId input desk entries invocations result desk') : desk'.manager.Builtin :=
  h.keeps (fun hfetch hm => hm.fetch hfetch) (fun _ id memory hm => hm.setMemory id memory) hb

/-- A function that is invoked is the state updater. -/
theorem Invokes.builtin (hb : desk.manager.Builtin) (h : Invokes contractId input desk v desk') :
    v.outcome = desk.manager.entryResult input.functionArgument (.str v.functionId) ∧
      v.outcome = (stateRecord input.functionArgument).map (fun _ => ()) ∧
      desk'.database = noted input.functionArgument desk.database ∧ desk'.manager.Builtin := by
  cases h with
  | @intro id function manager _ hfetch =>
    obtain ⟨hresolve, -⟩ := FunctionManager.fetch_eq_ok hfetch
    have hlogic := hb.resolve_ok hresolve
    obtain ⟨houtcome, hdatabase⟩ := run_stateUpdater id input (desk.ready contractId id manager)
    rw [← hlogic] at houtcome hdatabase
    refine ⟨?_, houtcome, hdatabase, ?_⟩
    · rw [FunctionManager.entryResult, hresolve]
      exact houtcome
    · exact run_keeps (fun _ memory hm => hm.setMemory id memory) (hb.fetch hfetch)

/-- A list that fails has a first entry that is bad. -/
theorem Serves.exists_bad (hb : desk.manager.Builtin)
    (h : Serves contractId input desk entries invocations (.error f) desk') :
    ∃ done bad rest, entries = done ++ bad :: rest ∧
      (∀ entry ∈ done, desk.manager.entryResult input.functionArgument entry = .ok ()) ∧
      desk.manager.entryResult input.functionArgument bad = .error f := by
  generalize hresult : Except.error f = result at h
  induction h with
  | finished => cases hresult
  | @malformed _ entry entries hstr =>
    cases hresult
    exact ⟨[], entry, entries, rfl, List.forall_mem_nil _,
      FunctionManager.entryResult_malformed hstr⟩
  | @refused _ id entries _ hresolve =>
    cases hresult
    refine ⟨[], .str id, entries, rfl, List.forall_mem_nil _, ?_⟩
    rw [FunctionManager.entryResult, hresolve]
  | @failed _ _ v entries _ hv hout =>
    cases hresult
    exact ⟨[], .str v.functionId, entries, rfl, List.forall_mem_nil _, (hv.builtin hb).1 ▸ hout⟩
  | @served desk desk₁ _ v entries _ _ hv hout _ ih =>
    obtain ⟨hentry, -, -, hb₁⟩ := hv.builtin hb
    obtain ⟨done, bad, rest, rfl, hdone, hbad⟩ := ih hb₁ hresult
    have hsame : ∀ entry, desk₁.manager.entryResult input.functionArgument entry =
        desk.manager.entryResult input.functionArgument entry :=
      FunctionManager.entryResult_congr hv.resolve_eq
    refine ⟨.str v.functionId :: done, bad, rest, rfl, ?_, hsame bad ▸ hbad⟩
    refine List.forall_mem_cons.2 ⟨hentry ▸ hout, fun entry hmem => ?_⟩
    rw [← hsame]
    exact hdone entry hmem

/-- However a list ends, it has written what its entries write. -/
theorem Serves.builtin_notes (hb : desk.manager.Builtin)
    (h : Serves contractId input desk entries invocations result desk') :
    desk'.database =
      Database.replay desk.database (desk.manager.notes input.functionArgument entries) := by
  induction h with
  | finished => rfl
  | malformed hstr =>
    rw [FunctionManager.notes, List.takeWhile_cons, FunctionManager.entryResult_malformed hstr]
    rfl
  | refused hresolve =>
    rw [FunctionManager.notes, List.takeWhile_cons, FunctionManager.entryResult, hresolve]
    rfl
  | @failed desk _ v _ _ hv hout =>
    obtain ⟨hentry, hrecord, hdatabase, -⟩ := hv.builtin hb
    rw [FunctionManager.notes, List.takeWhile_cons, ← hentry, hout, hdatabase, noted]
    -- The run that failed has written nothing.
    cases hwrites : stateRecord input.functionArgument with
    | error => rfl
    | ok =>
      rw [hout, hwrites] at hrecord
      cases hrecord
  | @served desk desk₁ _ v entries _ _ hv hout _ ih =>
    obtain ⟨hentry, -, hdatabase, hb₁⟩ := hv.builtin hb
    have hsame : desk₁.manager.entryResult input.functionArgument =
        desk.manager.entryResult input.functionArgument :=
      funext (FunctionManager.entryResult_congr hv.resolve_eq)
    rw [ih hb₁, hdatabase, noted_eq_replay, ← Database.replay_append, FunctionManager.notes,
      FunctionManager.notes, hsame, List.takeWhile_cons, ← hentry, hout]
    rfl

/-- The entries before the one that is bad have written the record of the state updater, and nothing
else was written. -/
theorem Serves.builtin_error (hb : desk.manager.Builtin)
    (h : Serves contractId input desk entries invocations (.error f) desk') :
    ∃ done bad rest, entries = done ++ bad :: rest ∧
      (∀ entry ∈ done, desk.manager.entryResult input.functionArgument entry = .ok ()) ∧
      desk.manager.entryResult input.functionArgument bad = .error f ∧
      desk'.database =
        done.foldl (fun database _ => noted input.functionArgument database) desk.database := by
  obtain ⟨done, bad, rest, rfl, hdone, hbad⟩ := h.exists_bad hb
  refine ⟨done, bad, rest, rfl, hdone, hbad, ?_⟩
  rw [h.builtin_notes hb, FunctionManager.notes_of_bad hdone hbad, replay_notes]

end FunctionDesk

end ContractEmulator
