import ContractEmulator.Engine.Basic

/-!
# Fetching an instance

What a fetch needs, what it hands out and what it leaves behind.

* `materialize_eq_ok_iff`: a contract is made from the artifact that is bound at the time.
* `fetch_eq_ok`, `fetchNested_eq_ok`: both kinds of fetch hand out the instance that was kept, or a
  new one, with a new stamp, and keep it that way; they differ in the role and in one announcement.
* `fetch_eq_error`, `fetchNested_eq_error_iff`: both fail for the same reasons, and only for an id
  without an instance.
-/

namespace ContractEmulator

/-- What an instance was made of. Stamps and memory come and go; this stays. -/
structure Make where
  id : String
  binaryName : String
  logic : ContractLogic
  properties : Option Json

/-- What the instance was made of. -/
def Instance.make (i : Instance) : Make := ⟨i.id, i.binaryName, i.logic, i.properties⟩

/-- A contract could not be fetched: it is not registered, or its code names no logic. -/
def Failure.OfFetch (id : String) (f : Failure) : Prop :=
  f = .missingContract id ∨ ∃ binaryName fault, f = .notLoadable binaryName fault

/-- The instance under another stamp. -/
def Instance.stamped (i : Instance) (isRoot : Bool) (caller : Identity) : Instance :=
  { i with isRoot := isRoot, caller := caller }

/-- An instance of the id `id` with the code of an artifact, from the logic that the code names. -/
def Make.ofArtifact (id : String) (artifact : Artifact) (logic : ContractLogic) : Make :=
  ⟨id, artifact.binaryName, logic, artifact.properties⟩

namespace Instance

variable {i j : Instance}

/-- A new stamp leaves an instance what it was made of. -/
theorem make_of_stamped {isRoot : Bool} {caller : Identity} (h : i = j.stamped isRoot caller) :
    i.make = j.make := by
  rw [h]
  rfl

theorem memory_of_stamped {isRoot : Bool} {caller : Identity} (h : i = j.stamped isRoot caller) :
    i.memory = j.memory := by
  rw [h]
  rfl

theorem properties_eq_of_make (h : i.make = j.make) : i.properties = j.properties :=
  congrArg Make.properties h

end Instance

namespace Engine

variable {e e' : Engine} {id : String} {i j : Instance} {event : Event} {events : List Event}
  {f : Failure}

theorem get_eq_ok_iff {artifact : Artifact} :
    e.get id = .ok artifact ↔ e.registry.find? id = some artifact :=
  ContractRegistry.lookup_eq_ok_iff

theorem get_eq_error_iff : e.get id = .error f ↔
    e.registry.find? id = none ∧ f = .missingContract id :=
  ContractRegistry.lookup_eq_error_iff

/-- A contract is made from the artifact bound to its id, with the logic that its code names. -/
theorem materialize_eq_ok_iff : e.materialize id = .ok i ↔
    ∃ artifact logic, e.get id = .ok artifact ∧
      e.loader.load .contract artifact.binaryName artifact.code = .ok logic ∧
      i = ⟨id, artifact.binaryName, logic, artifact.properties, true, .initial,
        some (.weak e.place), .null⟩ := by
  unfold materialize
  cases hget : e.get id with
  | error f => simp
  | ok artifact =>
    cases hload : e.loader.load .contract artifact.binaryName artifact.code with
    | error f => simp [hload]
    | ok logic => simp [hload, eq_comm]

theorem make_of_materialize (h : e.materialize id = .ok i) :
    ∃ artifact logic, e.get id = .ok artifact ∧
      e.loader.load .contract artifact.binaryName artifact.code = .ok logic ∧
      i.make = .ofArtifact id artifact logic ∧ i.memory = .null := by
  obtain ⟨artifact, logic, hget, hload, rfl⟩ := materialize_eq_ok_iff.1 h
  exact ⟨artifact, logic, hget, hload, rfl, rfl⟩

/-- No contract is made from what is not bound, or from code that names no logic. -/
theorem materialize_eq_error_iff : e.materialize id = .error f ↔
    (e.registry.find? id = none ∧ f = .missingContract id) ∨
      ∃ artifact, e.registry.find? id = some artifact ∧
        e.loader.load .contract artifact.binaryName artifact.code = .error f := by
  unfold materialize
  cases hget : e.get id with
  | error f' =>
    obtain ⟨hnone, rfl⟩ := get_eq_error_iff.1 hget
    simp [hnone, eq_comm]
  | ok artifact =>
    have hbound := get_eq_ok_iff.1 hget
    cases hload : e.loader.load .contract artifact.binaryName artifact.code with
    | error f' => simp [hbound, hload]
    | ok logic => simp [hbound, hload]

/-- The instance of an id is the one that was kept, or a new one if none was. -/
theorem obtain_eq_ok_iff : e.obtain id = .ok (i, event) ↔
    (e.loaded.find? id = some i ∧ event = hitEvent id) ∨
      (e.loaded.find? id = none ∧ e.materialize id = .ok i ∧
        event = materializedEvent id i.binaryName) := by
  unfold obtain
  cases hfind : e.loaded.find? id with
  | some j => simp [eq_comm]
  | none =>
    cases hmat : e.materialize id with
    | error f => simp
    | ok j =>
      simp only [Except.ok.injEq, Prod.mk.injEq, reduceCtorEq, false_and, true_and, false_or]
      constructor
      · rintro ⟨rfl, rfl⟩
        exact ⟨rfl, rfl⟩
      · rintro ⟨rfl, rfl⟩
        exact ⟨rfl, rfl⟩

theorem obtain_eq_error_iff : e.obtain id = .error f ↔
    e.loaded.find? id = none ∧ e.materialize id = .error f := by
  unfold obtain
  cases e.loaded.find? id with
  | some j => simp
  | none => cases e.materialize id <;> simp

/-! ## Keeping -/

theorem find?_keep (e : Engine) (i : Instance) (id : String) :
    (e.keep i).loaded.find? id = if id = i.id then some i else e.loaded.find? id :=
  OrderedMap.find?_insert e.loaded i.id i id

/-- Of two instances with the same id the later one is kept. -/
theorem keep_keep (e : Engine) {i j : Instance} (h : j.id = i.id) :
    (e.keep i).keep j = e.keep j := by
  simp only [keep, h, OrderedMap.insert_insert]

/-! ## Root fetches and nested fetches -/

/-- A fetch for a root call hands out the instance with a root stamp, and keeps it. -/
theorem fetch_eq_ok (h : e.fetch id = .ok (i, e', events)) :
    ∃ j event, e.obtain id = .ok (j, event) ∧
      i = j.stamped true e.certificate ∧ e' = e.keep i ∧
      events = [event, stampEvent id e.certificate] := by
  unfold fetch at h
  split at h
  · cases h
  · next j event hob =>
    cases h
    exact ⟨j, event, hob, rfl, rfl, rfl⟩

theorem fetch_eq_error (h : e.fetch id = .error f) :
    e.loaded.find? id = none ∧ e.materialize id = .error f := by
  unfold fetch at h
  split at h
  · next hob =>
    cases h
    exact obtain_eq_error_iff.1 hob
  · cases h

/-- A fetch for a nested call is a fetch for a root call with the other role. -/
theorem fetchNested_eq_ok (h : e.fetchNested id = .ok (i, e', events)) :
    ∃ j event, e.obtain id = .ok (j, event) ∧
      i = j.stamped false e.certificate ∧ e' = e.keep i ∧
      events = [event, stampEvent id e.certificate, nestedEvent id] := by
  unfold fetchNested at h
  split at h
  · cases h
  · next hfetch =>
    cases h
    obtain ⟨j, event, hob, rfl, rfl, rfl⟩ := fetch_eq_ok hfetch
    exact ⟨j, event, hob, rfl, keep_keep e rfl, rfl⟩

/-- A fetch of either kind leaves an engine with the instance that it hands out. -/
theorem eq_keep_of_fetch (h : e.fetch id = .ok (i, e', events)) : e' = e.keep i := by
  obtain ⟨j, event, -, -, he', -⟩ := fetch_eq_ok h
  exact he'

theorem eq_keep_of_fetchNested (h : e.fetchNested id = .ok (i, e', events)) : e' = e.keep i := by
  obtain ⟨j, event, -, -, he', -⟩ := fetchNested_eq_ok h
  exact he'

theorem fetchNested_eq_error_iff : e.fetchNested id = .error f ↔ e.fetch id = .error f := by
  unfold fetchNested
  cases e.fetch id <;> simp

/-- A contract that cannot be fetched was never registered, or its code names no logic. -/
theorem fetch_failure (h : e.fetch id = .error f) : f.OfFetch id := by
  obtain ⟨-, hmat⟩ := fetch_eq_error h
  rcases materialize_eq_error_iff.1 hmat with ⟨-, rfl⟩ | ⟨artifact, -, hload⟩
  · exact .inl rfl
  · obtain ⟨fault, rfl⟩ := Loader.load_failure hload
    exact .inr ⟨artifact.binaryName, fault, rfl⟩

end Engine

end ContractEmulator
