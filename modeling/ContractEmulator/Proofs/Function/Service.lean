import ContractEmulator.Proofs.Function.Resolve

/-!
# Running a list of functions

A contract has the functions of a list run for it. They are run in order, and the first that cannot
be run or that fails ends it.

* `databaseCalls`: what a function asks of the database, in order.
* `database_run`, `run_keeps`: what a run leaves behind.
* `Invokes`: a function is fetched and run.
* `Serves contractId input desk entries invocations result desk'`: the list `entries` leads from
  `desk` to `desk'` by some invocations and ends with `result`.
* `exists_serves`, `Serves.runEntries`: this is how lists are run.
* `Verdict`, `Serves.verdict`: up to where a list was served, and what was wrong with the entry
  after that.
-/

namespace ContractEmulator

/-- The call of a database that a question is, if it is one. -/
def FunctionQuery.databaseCall? : FunctionQuery → Option DatabaseCall
  | .get key => some (.get key)
  | .put key value => some (.put key value)
  | .delete key => some (.delete key)
  | .memory | .remember _ => none

namespace FunctionDesk

variable {δ ρ : Type} [Database δ] {id contractId : String} {logic : FunctionLogic}
  {input : FunctionInput} {desk desk' desk₁ : FunctionDesk δ}

/-! ## One run -/

/-- The calls of the database that a program of the function `id` makes, in order. -/
def databaseCalls (id : String) :
    Program FunctionQuery.Answer ρ → FunctionDesk δ → List DatabaseCall
  | .done _, _ => []
  | .ask q next, desk =>
    q.databaseCall?.toList ++
      databaseCalls id (next (answer id q desk).1) (answer id q desk).2

theorem interpret_ask (q : FunctionQuery) (next : q.Answer → Program FunctionQuery.Answer ρ)
    (desk : FunctionDesk δ) :
    Program.interpret (m := StateM (FunctionDesk δ)) (answer id) (.ask q next) desk =
      Program.interpret (m := StateM (FunctionDesk δ)) (answer id)
        (next (answer id q desk).1) (answer id q desk).2 := rfl

theorem database_interpret (p : Program FunctionQuery.Answer ρ) (desk : FunctionDesk δ) :
    (Program.interpret (m := StateM (FunctionDesk δ)) (answer id) p desk).2.database =
      Database.replay desk.database (databaseCalls id p desk) := by
  induction p generalizing desk with
  | done => rfl
  | ask q next ih =>
    rw [interpret_ask, ih, databaseCalls, Database.replay_append]
    congr 1
    cases q <;> rfl

theorem log_interpret (p : Program FunctionQuery.Answer ρ) (desk : FunctionDesk δ) :
    ∃ events : List Event,
      (Program.interpret (m := StateM (FunctionDesk δ)) (answer id) p desk).2.log =
        events.reverse ++ desk.log := by
  induction p generalizing desk with
  | done => exact ⟨[], rfl⟩
  | ask q next ih =>
    obtain ⟨events, hrest⟩ := ih (answer id q desk).1 (answer id q desk).2
    rw [interpret_ask, hrest]
    cases q with
    | put key value =>
      refine ⟨(Database.put desk.database key value).2 ++ events, ?_⟩
      rw [List.reverse_append, List.append_assoc]
      rfl
    | get | delete | memory | remember => exact ⟨events, rfl⟩

/-- The memory is all that a program can change of a manager. -/
theorem interpret_keeps {P : FunctionManager → Prop}
    (hP : ∀ m memory, P m → P (m.setMemory id memory)) (p : Program FunctionQuery.Answer ρ)
    (desk : FunctionDesk δ) (h : P desk.manager) :
    P (Program.interpret (m := StateM (FunctionDesk δ)) (answer id) p desk).2.manager := by
  induction p generalizing desk with
  | done => exact h
  | ask q next ih =>
    rw [interpret_ask]
    apply ih
    cases q with
    | remember memory => exact hP _ memory h
    | get | put | delete | memory => exact h

/-- A run leaves the database as its calls of the database leave it. -/
theorem database_run (id : String) (logic : FunctionLogic) (input : FunctionInput)
    (desk : FunctionDesk δ) :
    (run id logic input desk).2.database =
      Database.replay desk.database (databaseCalls id (logic input).run desk) :=
  database_interpret (logic input).run desk

theorem log_run (id : String) (logic : FunctionLogic) (input : FunctionInput)
    (desk : FunctionDesk δ) :
    ∃ events : List Event, (run id logic input desk).2.log = events.reverse ++ desk.log :=
  log_interpret (logic input).run desk

theorem run_keeps {P : FunctionManager → Prop}
    (hP : ∀ m memory, P m → P (m.setMemory id memory)) (h : P desk.manager) :
    P (run id logic input desk).2.manager :=
  interpret_keeps hP (logic input).run desk h

/-- A run changes nothing about what ids stand for. -/
theorem resolve_run (id : String) (logic : FunctionLogic) (input : FunctionInput)
    (desk : FunctionDesk δ) (id' : String) :
    (run id logic input desk).2.manager.resolve id' = desk.manager.resolve id' :=
  run_keeps (P := fun m => m.resolve id' = desk.manager.resolve id')
    (fun m memory h => (m.resolve_setMemory id memory id').trans h) rfl

/-- A run keeps a manager well formed. -/
theorem wellFormed_run (h : desk.manager.WellFormed) :
    (run id logic input desk).2.manager.WellFormed :=
  run_keeps (fun _ memory hm => hm.setMemory id memory) h

/-! ## A list of runs -/

/-- The desk on which a function is run for a contract, once it is fetched. -/
def ready (desk : FunctionDesk δ) (contractId id : String) (manager : FunctionManager) :
    FunctionDesk δ :=
  { desk with manager := manager, log := invokeEvent id contractId :: desk.log }

end FunctionDesk

/-- A function was run once. -/
structure Invocation where
  functionId : String
  /-- The function was loaded for this. -/
  fresh : Bool
  input : FunctionInput
  /-- What the function asked of the database, up to where it ended. -/
  calls : List DatabaseCall
  /-- What the database announced meanwhile. -/
  events : List Event
  outcome : Except Failure Unit

namespace Invocation

/-- The calls of the database that some invocations made, in order. -/
def allCalls (invocations : List Invocation) : List DatabaseCall :=
  invocations.flatMap Invocation.calls

/-- The entries that name the functions of some invocations. -/
def entries (invocations : List Invocation) : List Json :=
  invocations.map fun v => .str v.functionId

end Invocation

namespace FunctionDesk

variable {δ : Type} [Database δ] {id contractId : String} {input : FunctionInput}
  {desk desk' desk₁ : FunctionDesk δ} {v : Invocation} {entry : Json} {entries : List Json}
  {invocations : List Invocation} {result : Except Failure Unit}

/-- A function is fetched and run for a contract. -/
inductive Invokes (contractId : String) (input : FunctionInput) :
    FunctionDesk δ → Invocation → FunctionDesk δ → Prop where
  | intro {desk : FunctionDesk δ} {id : String} {function : LoadedFunction}
      {manager : FunctionManager} {events : List Event} :
      desk.manager.fetch id = .ok (function, manager) →
      (run id function.logic input (desk.ready contractId id manager)).2.log =
        events.reverse ++ (desk.ready contractId id manager).log →
      Invokes contractId input desk
        ⟨id, !desk.manager.loaded.contains id, input,
          databaseCalls id (function.logic input).run (desk.ready contractId id manager), events,
          (run id function.logic input (desk.ready contractId id manager)).1⟩
        (run id function.logic input (desk.ready contractId id manager)).2

/-- A list of functions is run in order, up to the first entry that is bad. -/
inductive Serves (contractId : String) (input : FunctionInput) :
    FunctionDesk δ → List Json → List Invocation → Except Failure Unit → FunctionDesk δ →
      Prop where
  | finished {desk : FunctionDesk δ} : Serves contractId input desk [] [] (.ok ()) desk
  | malformed {desk : FunctionDesk δ} {entry : Json} {entries : List Json} :
      (∀ id, entry ≠ .str id) →
      Serves contractId input desk (entry :: entries) []
        (.error (.badArgument "_functions_ must contain strings")) desk
  | refused {desk : FunctionDesk δ} {id : String} {entries : List Json} {f : Failure} :
      desk.manager.resolve id = .error f →
      Serves contractId input desk (.str id :: entries) [] (.error f) desk
  | failed {desk desk' : FunctionDesk δ} {v : Invocation} {entries : List Json} {f : Failure} :
      Invokes contractId input desk v desk' → v.outcome = .error f →
      Serves contractId input desk (.str v.functionId :: entries) [v] (.error f) desk'
  | served {desk desk₁ desk' : FunctionDesk δ} {v : Invocation} {entries : List Json}
      {invocations : List Invocation} {result : Except Failure Unit} :
      Invokes contractId input desk v desk₁ → v.outcome = .ok () →
      Serves contractId input desk₁ entries invocations result desk' →
      Serves contractId input desk (.str v.functionId :: entries) (v :: invocations) result desk'

theorem runEntry_str (contractId : String) (input : FunctionInput) (desk : FunctionDesk δ)
    (id : String) :
    runEntry contractId input desk (.str id) =
      match desk.manager.fetch id with
      | .error f => (.error f, desk)
      | .ok (function, manager) =>
        run id function.logic input (desk.ready contractId id manager) := rfl

/-- A function that is fetched and run is invoked. -/
theorem exists_invokes (contractId : String) (input : FunctionInput)
    {function : LoadedFunction} {manager : FunctionManager}
    (h : desk.manager.fetch id = .ok (function, manager)) :
    ∃ v, v.functionId = id ∧
      Invokes contractId input desk v (runEntry contractId input desk (.str id)).2 := by
  obtain ⟨events, hlog⟩ := log_run id function.logic input (desk.ready contractId id manager)
  rw [runEntry_str, h]
  exact ⟨_, rfl, .intro h hlog⟩

theorem Invokes.runEntry (h : Invokes contractId input desk v desk') :
    runEntry contractId input desk (.str v.functionId) = (v.outcome, desk') := by
  cases h with
  | intro hfetch hlog =>
    rw [runEntry_str, hfetch]

theorem runEntry_malformed (h : ∀ id, entry ≠ .str id) :
    runEntry contractId input desk entry =
      (.error (.badArgument "_functions_ must contain strings"), desk) := by
  cases entry with
  | str id => exact absurd rfl (h id)
  | _ => rfl

theorem runEntry_refused {f : Failure} (h : desk.manager.resolve id = .error f) :
    runEntry contractId input desk (.str id) = (.error f, desk) := by
  rw [runEntry_str, FunctionManager.fetch_eq_error_iff.2 h]

/-- Every list of functions is served up to some place. -/
theorem exists_serves (contractId : String) (input : FunctionInput) (entries : List Json)
    (desk : FunctionDesk δ) :
    ∃ invocations, Serves contractId input desk entries invocations
      (runEntries contractId input entries desk).1
      (runEntries contractId input entries desk).2 := by
  induction entries generalizing desk with
  | nil => exact ⟨[], .finished⟩
  | cons entry entries ih =>
    unfold runEntries
    cases entry with
    | str id =>
      cases hfetch : desk.manager.fetch id with
      | error f =>
        have hresolve := FunctionManager.fetch_eq_error_iff.1 hfetch
        rw [runEntry_refused hresolve]
        exact ⟨[], .refused hresolve⟩
      | ok loaded =>
        obtain ⟨v, rfl, hv⟩ := exists_invokes contractId input hfetch
        rw [hv.runEntry] at hv ⊢
        cases houtcome : v.outcome with
        | error f => exact ⟨[v], .failed hv houtcome⟩
        | ok =>
          obtain ⟨invocations, hrest⟩ := ih _
          exact ⟨v :: invocations, .served hv houtcome hrest⟩
    | _ =>
      rw [runEntry_malformed (by rintro id ⟨⟩)]
      exact ⟨[], .malformed (by rintro id ⟨⟩)⟩

/-- What serves a list is how it is run. -/
theorem Serves.runEntries (h : Serves contractId input desk entries invocations result desk') :
    runEntries contractId input entries desk = (result, desk') := by
  induction h with
  | finished => rfl
  | malformed hstr =>
    rw [FunctionDesk.runEntries, runEntry_malformed hstr]
  | refused hresolve =>
    rw [FunctionDesk.runEntries, runEntry_refused hresolve]
  | failed hv hout =>
    rw [FunctionDesk.runEntries, hv.runEntry, hout]
  | served hv hout _ ih =>
    rw [FunctionDesk.runEntries, hv.runEntry, hout]
    exact ih

/-! ## What a list leaves behind -/

theorem Invokes.input_eq (h : Invokes contractId input desk v desk') : v.input = input := by
  cases h with
  | intro => rfl

/-- A function that is invoked is what its id stands for. -/
theorem Invokes.resolve_ok (h : Invokes contractId input desk v desk') :
    ∃ logic, desk.manager.resolve v.functionId = .ok logic := by
  cases h with
  | intro hfetch _ => exact ⟨_, (FunctionManager.fetch_eq_ok hfetch).1⟩

theorem Invokes.resolve_eq (h : Invokes contractId input desk v desk') (id : String) :
    desk'.manager.resolve id = desk.manager.resolve id := by
  cases h with
  | intro hfetch _ =>
    rw [resolve_run]
    exact FunctionManager.resolve_of_fetch hfetch id

theorem Invokes.database_eq (h : Invokes contractId input desk v desk') :
    desk'.database = Database.replay desk.database v.calls := by
  cases h with
  | intro => exact database_run _ _ _ _

theorem Serves.database_eq (h : Serves contractId input desk entries invocations result desk') :
    desk'.database = Database.replay desk.database (Invocation.allCalls invocations) := by
  induction h with
  | finished | malformed | refused => rfl
  | failed hv _ =>
    rw [hv.database_eq, Invocation.allCalls, List.flatMap_cons, List.flatMap_nil, List.append_nil]
  | served hv _ _ ih =>
    rw [ih, hv.database_eq, ← Database.replay_append]
    rfl

theorem Invokes.find?_loaded (h : Invokes contractId input desk v desk')
    (hne : id ≠ v.functionId) : desk'.manager.loaded.find? id = desk.manager.loaded.find? id := by
  cases h with
  | @intro functionId function manager _ hfetch _ =>
    have hfetched : manager.loaded.find? id = desk.manager.loaded.find? id :=
      FunctionManager.find?_of_fetch hfetch hne
    exact run_keeps (P := fun m => m.loaded.find? id = desk.manager.loaded.find? id)
      (fun m memory hm => (m.find?_setMemory functionId memory hne).trans hm) hfetched

/-- Only functions that are run are loaded. -/
theorem Serves.find?_loaded (h : Serves contractId input desk entries invocations result desk')
    (hne : ∀ v ∈ invocations, id ≠ v.functionId) :
    desk'.manager.loaded.find? id = desk.manager.loaded.find? id := by
  induction h with
  | finished | malformed | refused => rfl
  | failed hv _ => exact hv.find?_loaded (hne _ (List.mem_singleton_self _))
  | served hv _ _ ih =>
    obtain ⟨hhead, htail⟩ := List.forall_mem_cons.1 hne
    rw [ih htail, hv.find?_loaded hhead]

/-- What neither a fetch nor a new memory changes of a manager, no list of functions changes. -/
theorem Serves.keeps {P : FunctionManager → Prop}
    (hfetch : ∀ {m m' : FunctionManager} {id : String} {function : LoadedFunction},
      m.fetch id = .ok (function, m') → P m → P m')
    (hmemory : ∀ m id memory, P m → P (m.setMemory id memory))
    (h : Serves contractId input desk entries invocations result desk') (hP : P desk.manager) :
    P desk'.manager := by
  have hinvokes : ∀ {desk₁ desk₂ : FunctionDesk δ} {v : Invocation},
      Invokes contractId input desk₁ v desk₂ → P desk₁.manager → P desk₂.manager := by
    rintro _ _ _ ⟨hv, -⟩ hP
    exact run_keeps (fun m memory => hmemory m _ memory) (hfetch hv hP)
  induction h with
  | finished | malformed | refused => exact hP
  | failed hv _ => exact hinvokes hv hP
  | served hv _ _ ih => exact ih (hinvokes hv hP)

/-- A list of functions binds nothing. -/
theorem Serves.registry_eq (h : Serves contractId input desk entries invocations result desk') :
    desk'.manager.registry = desk.manager.registry :=
  h.keeps (P := fun m => m.registry = desk.manager.registry)
    (fun hfetch hP => (FunctionManager.registry_of_fetch hfetch).trans hP)
    (fun m id memory hP => (m.registry_setMemory id memory).trans hP) rfl

/-- Every function is given the same input, and is what its id stood for at the start. -/
theorem Serves.invocations_input
    (h : Serves contractId input desk entries invocations result desk') :
    ∀ v ∈ invocations,
      v.input = input ∧ ∃ logic, desk.manager.resolve v.functionId = .ok logic := by
  induction h with
  | finished | malformed | refused => exact fun _ hv => absurd hv List.not_mem_nil
  | failed hv _ =>
    intro v hmem
    obtain rfl := List.mem_singleton.1 hmem
    exact ⟨hv.input_eq, hv.resolve_ok⟩
  | served hv _ _ ih =>
    intro w hmem
    rcases List.mem_cons.1 hmem with rfl | hrest
    · exact ⟨hv.input_eq, hv.resolve_ok⟩
    · obtain ⟨hinput, logic, hlogic⟩ := ih w hrest
      exact ⟨hinput, logic, (hv.resolve_eq _).symm.trans hlogic⟩

/-! ## How far a list is served -/

/-- A list of functions was served to its end, or up to its first entry that is bad: no string, or
the id of a function that cannot be loaded, or the id of a function that fails. The functions that
were run are those of the entries up to there, each entry once. -/
inductive Verdict (manager : FunctionManager) (entries : List Json) :
    List Invocation → Except Failure Unit → Prop where
  | served {invocations : List Invocation} :
      entries = Invocation.entries invocations → (∀ v ∈ invocations, v.outcome = .ok ()) →
      Verdict manager entries invocations (.ok ())
  | malformed {invocations : List Invocation} {bad : Json} {rest : List Json} :
      entries = Invocation.entries invocations ++ bad :: rest →
      (∀ v ∈ invocations, v.outcome = .ok ()) → (∀ id, bad ≠ .str id) →
      Verdict manager entries invocations
        (.error (.badArgument "_functions_ must contain strings"))
  | unusable {invocations : List Invocation} {id : String} {rest : List Json} {f : Failure} :
      entries = Invocation.entries invocations ++ .str id :: rest →
      (∀ v ∈ invocations, v.outcome = .ok ()) → manager.resolve id = .error f →
      Verdict manager entries invocations (.error f)
  | failed (done : List Invocation) {v : Invocation} {rest : List Json} {f : Failure} :
      entries = Invocation.entries (done ++ [v]) ++ rest →
      (∀ w ∈ done, w.outcome = .ok ()) → v.outcome = .error f →
      Verdict manager entries (done ++ [v]) (.error f)

/-- One more entry that is good, before the others. -/
theorem Verdict.cons {manager manager' : FunctionManager}
    (hv : Verdict manager' entries invocations result) (hout : v.outcome = .ok ())
    (hsame : ∀ id, manager'.resolve id = manager.resolve id) :
    Verdict manager (.str v.functionId :: entries) (v :: invocations) result := by
  have hcons : ∀ {vs : List Invocation}, (∀ w ∈ vs, w.outcome = .ok ()) →
      ∀ w ∈ v :: vs, w.outcome = .ok () := fun hvs => List.forall_mem_cons.2 ⟨hout, hvs⟩
  cases hv with
  | served hentries hok => exact .served (congrArg _ hentries) (hcons hok)
  | malformed hentries hok hbad => exact .malformed (congrArg _ hentries) (hcons hok) hbad
  | @unusable _ id _ _ hentries hok hresolve =>
    exact .unusable (congrArg _ hentries) (hcons hok) ((hsame id).symm.trans hresolve)
  | @failed done _ _ _ hentries hok hfailed =>
    exact .failed (v :: done) (congrArg _ hentries) (hcons hok) hfailed

/-- Every list that is run comes to such an end. -/
theorem Serves.verdict (h : Serves contractId input desk entries invocations result desk') :
    Verdict desk.manager entries invocations result := by
  induction h with
  | finished => exact .served rfl fun _ hw => absurd hw List.not_mem_nil
  | malformed hstr => exact .malformed rfl (fun _ hw => absurd hw List.not_mem_nil) hstr
  | refused hresolve => exact .unusable rfl (fun _ hw => absurd hw List.not_mem_nil) hresolve
  | failed _ hout =>
    exact .failed [] rfl (fun _ hw => absurd hw List.not_mem_nil) hout
  | served hv hout _ ih => exact ih.cons hout hv.resolve_eq

/-- All goes well exactly if every entry is the id of a function that can be run, and every function
that is run returns. -/
theorem Verdict.ok_iff {manager : FunctionManager}
    (hv : Verdict manager entries invocations result)
    (hresolve : ∀ v ∈ invocations, ∃ logic, manager.resolve v.functionId = .ok logic) :
    result = .ok () ↔
      (∀ entry ∈ entries, ∃ id logic, entry = .str id ∧ manager.resolve id = .ok logic) ∧
        ∀ v ∈ invocations, v.outcome = .ok () := by
  cases hv with
  | served hentries hok =>
    refine ⟨fun _ => ⟨fun entry hmem => ?_, hok⟩, fun _ => rfl⟩
    rw [hentries] at hmem
    obtain ⟨v, hv, rfl⟩ := List.mem_map.1 hmem
    obtain ⟨logic, hlogic⟩ := hresolve v hv
    exact ⟨v.functionId, logic, rfl, hlogic⟩
  | malformed hentries _ hbad =>
    refine ⟨by rintro ⟨⟩, fun ⟨hgood, _⟩ => ?_⟩
    obtain ⟨id, logic, hid, -⟩ := hgood _ (hentries ▸ List.mem_append_cons_self)
    exact absurd hid (hbad id)
  | unusable hentries _ hbad =>
    refine ⟨by rintro ⟨⟩, fun ⟨hgood, _⟩ => ?_⟩
    obtain ⟨id, logic, hid, hlogic⟩ := hgood _ (hentries ▸ List.mem_append_cons_self)
    obtain rfl := Json.str.inj hid
    cases hbad.symm.trans hlogic
  | @failed done v _ _ _ _ hout =>
    refine ⟨by rintro ⟨⟩, fun ⟨_, hok⟩ => ?_⟩
    cases hout.symm.trans (hok v (List.mem_append_right done (List.mem_singleton_self v)))

end FunctionDesk

end ContractEmulator
