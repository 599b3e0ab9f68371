import ContractEmulator.Proofs.Engine.Stamps
import ContractEmulator.Proofs.Loader

/-!
# What a fetch comes to

The history of an engine decides what a fetch comes to. A contract that was fetched before is handed
out as it was kept. Else the artifact that was registered last decides: without one, or with one
that cannot be loaded, the fetch is refused, and then nothing has happened.

* `Deed.Fetched`, `Deed.Unregistered`: what some deeds say of an id.
* `Scene.fetchAs`: a fetch for either role, and `Scene.fetchAs_ok_iff`, `Scene.fetchAs_error_iff`:
  the engine decides about it.
* `Scene.Refuses`: what a fetch that fails leaves behind.
* `Scene.FetchOutcome`: what a fetch comes to. `Host.Reach.fetch_outcome`: so it does in every scene
  that comes about, also in the middle of a call.
-/

namespace ContractEmulator

namespace Deed

variable {id : String} {deeds deeds' : List Deed} {artifact : Artifact}

/-- The contract `id` was handed out. -/
def Fetched (id : String) (deeds : List Deed) : Prop :=
  ∃ fresh i, .fetched fresh i ∈ deeds ∧ i.id = id

/-- No contract was registered as `id`. -/
def Unregistered (id : String) (deeds : List Deed) : Prop :=
  ∀ artifact warned, .registered artifact warned ∈ deeds → artifact.id ≠ id

theorem fetched_iff : Fetched id deeds ↔ ∃ i, firstFetch? id deeds = some i := by
  constructor
  · rintro ⟨fresh, i, hmem, rfl⟩
    cases hfirst : firstFetch? i.id deeds with
    | some first => exact ⟨first, rfl⟩
    | none => cases (if_pos rfl).symm.trans (List.findSome?_eq_none_iff.1 hfirst _ hmem)
  · rintro ⟨i, hfirst⟩
    obtain ⟨deed, hmem, hdeed⟩ := List.exists_of_findSome?_eq_some hfirst
    obtain ⟨⟨fresh, rfl⟩, hid⟩ := instance?_eq_some_iff.1 hdeed
    exact ⟨fresh, i, hmem, hid⟩

theorem fetched_append : Fetched id (deeds ++ deeds') ↔ Fetched id deeds ∨ Fetched id deeds' := by
  simp only [Fetched, List.mem_append, or_and_right, exists_or]

theorem bound?_eq_none_iff : bound? id deeds = none ↔ Unregistered id deeds := by
  induction deeds using List.reverseRecOn with
  | nil => exact ⟨fun _ _ _ hmem => absurd hmem List.not_mem_nil, fun _ => rfl⟩
  | append_singleton deeds deed ih =>
    have happend : Unregistered id (deeds ++ [deed]) ↔
        Unregistered id deeds ∧ ∀ artifact warned, deed = .registered artifact warned →
          artifact.id ≠ id := by
      simp only [Unregistered, List.mem_append, List.mem_singleton, or_imp, forall_and, eq_comm]
    rw [bound?_concat, happend, ← ih]
    cases deed with
    | registered artifact warned =>
      rw [boundAfter]
      by_cases hid : id = artifact.id
      · simp [hid]
      · simp [hid, eq_comm]
    | _ => simp [boundAfter]

/-- What was bound since is bound. -/
theorem bound?_append (h : bound? id deeds' = some artifact) :
    bound? id (deeds ++ deeds') = some artifact := by
  induction deeds' using List.reverseRecOn with
  | nil => cases h
  | append_singleton deeds' deed ih =>
    rw [← List.append_assoc, bound?_concat]
    rw [bound?_concat] at h
    unfold boundAfter at h ⊢
    split at h
    · split at h
      · next hid => rw [if_pos hid, h]
      · next hid => rw [if_neg hid, ih h]
    · exact ih h

end Deed

namespace Engine

variable {e : Engine} {id : String} {deeds : List Deed} {isRoot : Bool} {i : Instance}
  {f : Failure} {loader : Loader ContractLogic}

/-- What was obtained is handed out under a new stamp. -/
theorem fetchAs_of_obtain {j : Instance} {event : Event} (h : e.obtain id = .ok (j, event))
    (isRoot : Bool) :
    ∃ e' events, e.fetchAs isRoot id = .ok (j.stamped isRoot e.certificate, e', events) := by
  cases hfetch : e.fetchAs isRoot id with
  | error f => cases h.symm.trans (fetchAs_error_iff.1 hfetch)
  | ok result =>
    obtain ⟨i, e', events⟩ := result
    obtain ⟨j', event', hob, rfl⟩ := fetchAs_eq_ok hfetch
    obtain ⟨rfl, rfl⟩ := Prod.mk.inj (Except.ok.inj (hob.symm.trans h))
    exact ⟨e', events, rfl⟩

/-- What is kept was handed out before, and what was handed out is kept. -/
theorem Follows.isSome_loaded_iff (hf : Follows loader deeds e) :
    (∃ i, e.loaded.find? id = some i) ↔ Deed.Fetched id deeds := by
  rw [Deed.fetched_iff, ← Option.isSome_iff_exists, ← Option.isSome_iff_exists,
    ← Option.isSome_map (f := Instance.make), hf.loaded, Option.isSome_map]

theorem Follows.not_loaded (hf : Follows loader deeds e) (hn : ¬Deed.Fetched id deeds) :
    e.loaded.find? id = none := by
  rw [← hf.isSome_loaded_iff, ← Option.isSome_iff_exists, Bool.not_eq_true,
    Option.isSome_eq_false_iff, Option.isNone_iff_eq_none] at hn
  exact hn

end Engine

namespace Scene

variable {σ : Type}

/-- Fetches an instance of the engine `k` for a root call, or for a call by another contract. -/
def fetchAs (s : Scene σ) (inFlight : List EngineRef) (k : Nat) (isRoot : Bool) (id : String) :
    Except Failure (Instance × Scene σ) :=
  if isRoot then s.fetch k id else s.fetchNested inFlight k id

/-- The trace of such a fetch. -/
def marksAs (s : Scene σ) (inFlight : List EngineRef) (k : Nat) (isRoot : Bool) (id : String) :
    Trace :=
  if isRoot then s.fetchMarks k id else s.nestedMarks inFlight k id

variable {s s' : Scene σ} {k : Nat} {e : Engine} {isRoot : Bool} {id : String} {i : Instance}
  {f : Failure} {inFlight : List EngineRef}

/-- The engine decides, as long as it is alive. -/
theorem fetchAs_eq (hk : s.world.engines[k]? = some e) (halive : s.world.isAlive inFlight k = true)
    (isRoot : Bool) (id : String) :
    s.fetchAs inFlight k isRoot id =
      (e.fetchAs isRoot id).map fun r => (r.1, s.advance k r.2) := by
  cases isRoot with
  | true =>
    show s.fetch k id = (e.fetch id).map _
    unfold fetch
    rw [hk]
    dsimp only
    cases e.fetch id <;> rfl
  | false =>
    show s.fetchNested inFlight k id = (e.fetchNested id).map _
    unfold fetchNested
    rw [if_pos halive, hk]
    dsimp only
    cases e.fetchNested id <;> rfl

theorem fetchAs_ok_iff (hk : s.world.engines[k]? = some e)
    (halive : s.world.isAlive inFlight k = true) :
    (∃ s', s.fetchAs inFlight k isRoot id = .ok (i, s')) ↔
      ∃ j event, e.obtain id = .ok (j, event) ∧ i = j.stamped isRoot e.certificate := by
  rw [fetchAs_eq hk halive]
  constructor
  · rintro ⟨s', h⟩
    cases hfetch : e.fetchAs isRoot id with
    | error f =>
      rw [hfetch] at h
      cases h
    | ok result =>
      rw [hfetch] at h
      cases h
      exact Engine.fetchAs_eq_ok hfetch
  · rintro ⟨j, event, hob, rfl⟩
    obtain ⟨e', events, hfetch⟩ := Engine.fetchAs_of_obtain hob isRoot
    rw [hfetch]
    exact ⟨_, rfl⟩

theorem fetchAs_error_iff (hk : s.world.engines[k]? = some e)
    (halive : s.world.isAlive inFlight k = true) :
    s.fetchAs inFlight k isRoot id = .error f ↔
      e.loaded.find? id = none ∧ e.materialize id = .error f := by
  have hengine : e.fetchAs isRoot id = .error f ↔ e.obtain id = .error f :=
    Engine.fetchAs_error_iff
  rw [fetchAs_eq hk halive, ← Engine.obtain_eq_error_iff, ← hengine]
  cases e.fetchAs isRoot id with
  | error f' => simp [Except.map]
  | ok result => simp [Except.map]

/-! ## Fetches that fail -/

variable [Ledger σ]

/-- A fetch of the contract `id` fails with `f`, and nothing else happens. -/
structure Refuses (s : Scene σ) (inFlight : List EngineRef) (k : Nat) (e : Engine) (isRoot : Bool)
    (id : String) (f : Failure) : Prop where
  /-- There is no instance to hand out. -/
  unloaded : e.loaded.find? id = none
  /-- The loader finds no logic, so no instance is made. -/
  unmade : ∀ {artifact}, e.get id = .ok artifact →
    ∀ logic, e.loader.load .contract artifact.binaryName artifact.code ≠ .ok logic
  /-- Nothing is announced, and the engines stay as they are: what they have registered and loaded,
  the stamps, the certificates and the functions. -/
  still : s.marksAs inFlight k isRoot id = [.engine k ⟨.refused id f, []⟩] ∧
    s.Plays (s.marksAs inFlight k isRoot id) s
  /-- An execution ends at once, with the scene and the database as they were. -/
  executed : isRoot = true → ∀ {δ : Type} [Database δ] (database : δ) (depth : Nat)
    (argument : Json) (functionArgument : Option Json),
    s.execute depth k id argument functionArgument database = some (.error f, s, database)
  /-- So does a fetch from within a contract. -/
  asked : isRoot = true → s.world.handle? s.world.focus = some k →
    fetchOnFocus id s = some (.error f, s)
  /-- A contract that makes a call is told, and goes on with the scene as it was. -/
  called : isRoot = false → ∀ (depth : Nat) (a : Activation) (argument : Json)
    (handed : HandedLedger), a.Wired k → a.inFlight = inFlight →
    callNested (depth + 1) a id argument handed s = some ((.error f, handed.state), s)

theorem refuses_of_fetchAs_error (hk : s.world.engines[k]? = some e)
    (halive : s.world.isAlive inFlight k = true) (h : s.fetchAs inFlight k isRoot id = .error f) :
    s.Refuses inFlight k e isRoot id f := by
  obtain ⟨hfind, hmat⟩ := (fetchAs_error_iff hk halive).1 h
  have hengine : e.fetchAs isRoot id = .error f :=
    Engine.fetchAs_error_iff.2 (Engine.obtain_eq_error_iff.2 ⟨hfind, hmat⟩)
  exact {
    unloaded := hfind
    unmade := by
      intro artifact hget logic hload
      cases hmat.symm.trans (Engine.materialize_eq_ok_iff.2 ⟨artifact, logic, hget, hload, rfl⟩)
    still := by
      cases isRoot with
      | true =>
        have hfetch : e.fetch id = .error f := hengine
        have hmarks : s.marksAs inFlight k true id = [.engine k ⟨.refused id f, []⟩] := by
          show s.fetchMarks k id = _
          rw [fetchMarks, turnMarks_of_some hk, hfetch]
        exact ⟨hmarks, plays_fetch_error h⟩
      | false =>
        have hfetch : e.fetchNested id = .error f := hengine
        have hmarks : s.marksAs inFlight k false id = [.engine k ⟨.refused id f, []⟩] := by
          show s.nestedMarks inFlight k id = _
          rw [nestedMarks, if_pos halive, turnMarks_of_some hk, hfetch]
        exact ⟨hmarks, plays_fetchNested_error h⟩
    executed := by
      rintro rfl δ _ database depth argument functionArgument
      have hfetch : s.fetch k id = .error f := h
      rw [execute, hfetch]
    asked := by
      rintro rfl hfocus
      have hfetch : s.fetch k id = .error f := h
      rw [fetchOnFocus, hfocus]
      dsimp only
      rw [hfetch]
    called := by
      rintro rfl depth a argument handed ha rfl
      have hfetch : s.fetchNested a.inFlight k id = .error f := h
      rw [callNested_succ, dispatch_of_wired ha, hfetch]
      rfl }

/-! ## What a fetch comes to -/

/-- What a fetch of the contract `id`, for either role, comes to in a scene where the engine `k` has
done some deeds, and its loader was filled with some registrations. -/
structure FetchOutcome (s : Scene σ) (inFlight : List EngineRef) (k : Nat) (e : Engine)
    (registrations : List (String × ContractLogic)) (deeds : List Deed) (isRoot : Bool)
    (id : String) : Prop where
  /-- The instance that is kept is handed out exactly if the contract was fetched before. What is
  bound to the id by now does not matter. -/
  kept : (∃ i s', e.loaded.find? id = some i ∧
      s.fetchAs inFlight k isRoot id = .ok (i.stamped isRoot e.certificate, s')) ↔
    Deed.Fetched id deeds
  /-- Else, a contract is missing exactly if none was ever registered under the id. -/
  missing : ¬Deed.Fetched id deeds →
    (s.fetchAs inFlight k isRoot id = .error (.missingContract id) ↔ Deed.Unregistered id deeds)
  /-- Else, a fresh instance is made of what was registered last exactly if this can be loaded. -/
  fresh : ∀ {artifact : Artifact} (logic : ContractLogic), ¬Deed.Fetched id deeds →
    Deed.bound? id deeds = some artifact →
    ((∃ i s', s.fetchAs inFlight k isRoot id = .ok (i, s') ∧
        i.make = .ofArtifact id artifact logic ∧ i.memory = .null ∧
        i.stamp = ⟨isRoot, e.certificate⟩) ↔
      Loader.Loadable registrations artifact.binaryName artifact.code logic)
  /-- In all other cases it is refused, in the name of its binary. -/
  broken : ∀ {artifact : Artifact}, ¬Deed.Fetched id deeds →
    Deed.bound? id deeds = some artifact →
    ((∃ fault, s.fetchAs inFlight k isRoot id = .error (.notLoadable artifact.binaryName fault)) ↔
      ∀ logic, ¬Loader.Loadable registrations artifact.binaryName artifact.code logic)
  /-- A fetch that fails leaves everything as it was. -/
  refused : ∀ {f : Failure}, s.fetchAs inFlight k isRoot id = .error f →
    s.Refuses inFlight k e isRoot id f
  /-- So it can be made good: once the last registration under the id can be loaded, whatever else
  happened, a fetch succeeds, and the first that does makes its instance of that registration. -/
  repaired : ∀ {t : Trace} {s' : Scene σ} {artifact : Artifact} {logic : ContractLogic}
    (inFlight' : List EngineRef) (isRoot' : Bool), ¬Deed.Fetched id deeds → s.Plays t s' →
    s'.world.isAlive inFlight' k = true → Deed.bound? id (Trace.deeds k t) = some artifact →
    Loader.Loadable registrations artifact.binaryName artifact.code logic →
    ∃ i s'', s'.fetchAs inFlight' k isRoot' id = .ok (i, s'') ∧
      (¬Deed.Fetched id (Trace.deeds k t) → i.make = .ofArtifact id artifact logic)

variable {registrations : List (String × ContractLogic)} {deeds : List Deed}
  {artifact : Artifact} {logic : ContractLogic}

omit [Ledger σ] in
theorem fetchAs_kept_iff (isRoot : Bool) (hf : e.Follows (.ofList registrations) deeds)
    (hk : s.world.engines[k]? = some e) (halive : s.world.isAlive inFlight k = true) :
    (∃ i s', e.loaded.find? id = some i ∧
      s.fetchAs inFlight k isRoot id = .ok (i.stamped isRoot e.certificate, s')) ↔
      Deed.Fetched id deeds := by
  rw [← hf.isSome_loaded_iff]
  constructor
  · rintro ⟨i, -, hfind, -⟩
    exact ⟨i, hfind⟩
  · rintro ⟨i, hfind⟩
    obtain ⟨s', hfetch⟩ := (fetchAs_ok_iff hk halive).2
      ⟨i, _, Engine.obtain_eq_ok_iff.2 (.inl ⟨hfind, rfl⟩), rfl⟩
    exact ⟨i, s', hfind, hfetch⟩

omit [Ledger σ] in
/-- A contract that was not fetched before fails to be fetched as it fails to be made. -/
theorem fetchAs_error_iff_of_not_fetched (hf : e.Follows (.ofList registrations) deeds)
    (hk : s.world.engines[k]? = some e) (halive : s.world.isAlive inFlight k = true)
    (hn : ¬Deed.Fetched id deeds) :
    s.fetchAs inFlight k isRoot id = .error f ↔
      (Deed.bound? id deeds = none ∧ f = .missingContract id) ∨
        ∃ artifact, Deed.bound? id deeds = some artifact ∧
          (Loader.ofList registrations).load .contract artifact.binaryName artifact.code =
            .error f := by
  rw [fetchAs_error_iff hk halive, Engine.materialize_eq_error_iff, hf.bound, hf.loader_eq,
    and_iff_right (hf.not_loaded hn)]

omit [Ledger σ] in
theorem fetchAs_missing_iff (isRoot : Bool) (hf : e.Follows (.ofList registrations) deeds)
    (hk : s.world.engines[k]? = some e) (halive : s.world.isAlive inFlight k = true)
    (hn : ¬Deed.Fetched id deeds) :
    s.fetchAs inFlight k isRoot id = .error (.missingContract id) ↔ Deed.Unregistered id deeds := by
  rw [fetchAs_error_iff_of_not_fetched hf hk halive hn, ← Deed.bound?_eq_none_iff]
  constructor
  · rintro (⟨hnone, -⟩ | ⟨artifact, -, hload⟩)
    · exact hnone
    · obtain ⟨fault, hfault⟩ := Loader.load_failure hload
      cases hfault
  · exact fun hnone => .inl ⟨hnone, rfl⟩

omit [Ledger σ] in
theorem fetchAs_broken_iff (isRoot : Bool) (hf : e.Follows (.ofList registrations) deeds)
    (hk : s.world.engines[k]? = some e) (halive : s.world.isAlive inFlight k = true)
    (hn : ¬Deed.Fetched id deeds) (hbound : Deed.bound? id deeds = some artifact) :
    (∃ fault, s.fetchAs inFlight k isRoot id = .error (.notLoadable artifact.binaryName fault)) ↔
      ∀ logic, ¬Loader.Loadable registrations artifact.binaryName artifact.code logic := by
  rw [← Loader.load_ofList_refused_iff .contract]
  refine exists_congr fun fault => ?_
  simp [fetchAs_error_iff_of_not_fetched hf hk halive hn, hbound]

omit [Ledger σ] in
theorem fetchAs_fresh_iff (isRoot : Bool) (hf : e.Follows (.ofList registrations) deeds)
    (hk : s.world.engines[k]? = some e) (halive : s.world.isAlive inFlight k = true)
    (hn : ¬Deed.Fetched id deeds) (hbound : Deed.bound? id deeds = some artifact) :
    (∃ i s', s.fetchAs inFlight k isRoot id = .ok (i, s') ∧ i.make = .ofArtifact id artifact logic ∧
        i.memory = .null ∧ i.stamp = ⟨isRoot, e.certificate⟩) ↔
      Loader.Loadable registrations artifact.binaryName artifact.code logic := by
  have hfind := hf.not_loaded hn
  have hget : e.get id = .ok artifact := Engine.get_eq_ok_iff.2 ((hf.bound id).trans hbound)
  rw [← Loader.load_ofList_eq_ok_iff .contract, ← hf.loader_eq]
  constructor
  · rintro ⟨i, s', hfetch, hmake, -, -⟩
    obtain ⟨j, event, hob, hi⟩ := (fetchAs_ok_iff hk halive).1 ⟨s', hfetch⟩
    rcases Engine.obtain_eq_ok_iff.1 hob with ⟨hsome, -⟩ | ⟨-, hmat, -⟩
    · cases hsome.symm.trans hfind
    · obtain ⟨artifact', logic', hget', hload, hmade, -⟩ := Engine.make_of_materialize hmat
      obtain rfl := Except.ok.inj (hget'.symm.trans hget)
      have hsame : Make.ofArtifact id artifact' logic' = .ofArtifact id artifact' logic := by
        rw [← hmade, ← hmake, Instance.make_of_stamped hi]
      obtain rfl : logic' = logic := congrArg Make.logic hsame
      exact hload
  · intro hload
    have hob := Engine.obtain_eq_ok_iff.2
      (.inr ⟨hfind, Engine.materialize_eq_ok_iff.2 ⟨artifact, logic, hget, hload, rfl⟩, rfl⟩)
    obtain ⟨s', hfetch⟩ := (fetchAs_ok_iff hk halive).2 ⟨_, _, hob, rfl⟩
    exact ⟨_, s', hfetch, rfl, rfl, rfl⟩

end Scene

namespace Host

variable {σ : Type} [Ledger σ] {trace t : Trace} {h : Host} {ledger : σ} {s : Scene σ} {k : Nat}
  {e : Engine} {registrations : List (String × ContractLogic)} {inFlight : List EngineRef}

omit [Ledger σ] in
/-- What is played from where a host has arrived accounts for each engine. -/
theorem Reach.follows (hr : Reach trace h) (hp : (h.scene ledger).Plays t s)
    (hk : s.world.engines[k]? = some e) :
    e.Follows e.loader (Trace.deeds k (trace ++ t)) := by
  obtain ⟨loader, functions, hsteps⟩ := (hr.accounts_of_plays hp).steps k e hk
  have hf := (Engine.follows_new k loader functions).steps hsteps
  rw [hf.loader_eq]
  exact hf

/-- In every scene that comes about from where a host has arrived, be it between two operations or
in the middle of a call, the history of an engine decides what a fetch comes to. -/
theorem Reach.fetch_outcome (hr : Reach trace h) (hp : (h.scene ledger).Plays t s)
    (hk : s.world.engines[k]? = some e) (halive : s.world.isAlive inFlight k = true)
    (hl : e.loader = .ofList registrations) (isRoot : Bool) (id : String) :
    s.FetchOutcome inFlight k e registrations (Trace.deeds k (trace ++ t)) isRoot id := by
  have hf := hr.follows hp hk
  rw [hl] at hf
  exact {
    kept := Scene.fetchAs_kept_iff isRoot hf hk halive
    missing := Scene.fetchAs_missing_iff isRoot hf hk halive
    fresh := fun logic hn hbound => Scene.fetchAs_fresh_iff isRoot hf hk halive hn hbound
    broken := Scene.fetchAs_broken_iff isRoot hf hk halive
    refused := Scene.refuses_of_fetchAs_error hk halive
    repaired := by
      intro t' s' artifact logic inFlight' isRoot' hn hp' halive' hbound hloadable
      obtain ⟨e', hk', hsteps⟩ := hp'.world.steps hk
      have hf' := hr.follows (hp.append hp') hk'
      rw [hsteps.loader_eq, hl, ← List.append_assoc, Trace.deeds_append] at hf'
      by_cases hsince : Deed.Fetched id (Trace.deeds k t')
      · obtain ⟨i, s'', -, hfetch⟩ := (Scene.fetchAs_kept_iff isRoot' hf' hk' halive').2
          (Deed.fetched_append.2 (.inr hsince))
        exact ⟨_, s'', hfetch, fun hnot => absurd hsince hnot⟩
      · have hn' : ¬Deed.Fetched id (Trace.deeds k (trace ++ t) ++ Trace.deeds k t') :=
          fun hfetched => (Deed.fetched_append.1 hfetched).elim hn hsince
        obtain ⟨i, s'', hfetch, hmake, -⟩ := (Scene.fetchAs_fresh_iff isRoot' hf' hk'
          halive' hn' (Deed.bound?_append hbound)).2 hloadable
        exact ⟨i, s'', hfetch, fun _ => hmake⟩ }

/-- A host with a contract `probe`, and a contract `bad` whose code declares another name than that
of its binary. -/
def mislabelled : Host :=
  probing.update 0 fun e =>
    e.register (.emulated "bad" "test.Echo" (Descriptor.encode "test.Probe") none 0)

theorem exists_reach_mislabelled : ∃ trace, Reach trace mislabelled := by
  have hhandle : probing.world.handle? 0 = some 0 := rfl
  obtain ⟨trace, hr⟩ := exists_reach_probing
  exact ⟨_, hr.step (.register _ hhandle)⟩

/-- While `probe` is executed, a call of `bad` is refused in the name of its binary. -/
theorem mislabelled_fetch_outcome : ∃ trace i s e, Reach trace mislabelled ∧
    (mislabelled.scene MemoryLedger.empty).fetch 0 "probe" = .ok (i, s) ∧
    s.world.engines[0]? = some e ∧
    s.FetchOutcome [] 0 e SampleContract.symbols
      (Trace.deeds 0 (trace ++ (mislabelled.scene MemoryLedger.empty).fetchMarks 0 "probe"))
      false "bad" ∧
    ∃ fault, s.fetchAs [] 0 false "bad" = .error (.notLoadable "test.Echo" fault) := by
  obtain ⟨trace, hr⟩ := exists_reach_mislabelled
  have hdone : (match (mislabelled.scene MemoryLedger.empty).fetch 0 "probe" with
      | .ok (_, s) => (match s.fetchAs [] 0 false "bad" with
        | .error (.notLoadable name _) => name == "test.Echo"
        | _ => false)
      | .error _ => false) = true := by decide +kernel
  cases hfetch : (mislabelled.scene MemoryLedger.empty).fetch 0 "probe" with
  | error f =>
    rw [hfetch] at hdone
    cases hdone
  | ok fetched =>
    obtain ⟨i, s⟩ := fetched
    rw [hfetch] at hdone
    dsimp only at hdone
    have hp := Scene.plays_fetch hfetch
    obtain ⟨e, hk, hsteps⟩ := hp.world.steps (k := 0) rfl
    have hloader : e.loader = .ofList SampleContract.symbols := hsteps.loader_eq
    have hhandle : some 0 ∈ s.world.handles := by
      rw [hp.world.handles_eq.1]
      decide
    have halive : s.world.isAlive [] 0 = true := World.isAlive_of_mem_handles hhandle []
    refine ⟨trace, i, s, e, hr, rfl, hk, hr.fetch_outcome hp hk halive hloader false "bad", ?_⟩
    split at hdone
    · next name fault hbad =>
      obtain rfl : name = "test.Echo" := eq_of_beq hdone
      exact ⟨fault, hbad⟩
    · cases hdone

end Host

end ContractEmulator
