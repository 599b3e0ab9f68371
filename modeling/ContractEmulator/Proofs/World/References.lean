import ContractEmulator.Proofs.World.Trace

/-!
# What keeps an engine alive

Handles hold strong references to an engine, and so does a call on its way to another contract.
Instances are kept by the engine themselves, and reach it by weak references.

* `World.WellFormed.isAlive_iff`: an engine is alive exactly if a handle of it is left, or a call on
  its way holds it.
* `Scene.dispatch_eq_gone_iff`: a contract that calls another one finds its emulator gone exactly if
  it is not alive.
* `Scene.dispatch_failure`: otherwise it is a matter of the callee whether it can be called.
-/

namespace ContractEmulator

/-- Of all that the engine holds itself, only the handles that its contracts keep are strong. -/
theorem Engine.WellFormed.strong_mem_refs_iff {e : Engine} (hw : e.WellFormed) (k : Nat) :
    .strong k ∈ e.refs ↔ e.place = k ∧ 0 < e.kept := by
  rw [refs, List.mem_append, List.mem_filterMap, List.mem_replicate]
  constructor
  · rintro (⟨i, hmem, hinvoker⟩ | ⟨hkept, hself⟩)
    · obtain ⟨id, hfind⟩ := (OrderedMap.mem_values_iff _ _).1 hmem
      cases (hw.loaded_wired hfind).symm.trans hinvoker
    · exact ⟨(EngineRef.strong.inj hself).symm, Nat.pos_of_ne_zero hkept⟩
  · rintro ⟨rfl, hkept⟩
    exact .inr ⟨Nat.ne_of_gt hkept, rfl⟩

namespace World

variable {w : World} {k handle : Nat} {inFlight : List EngineRef}

theorem mem_handles_of_handle? (h : w.handle? handle = some k) : some k ∈ w.handles := by
  rw [handle?, Option.join_eq_some_iff] at h
  exact List.mem_of_getElem? h

theorem hasHandle_iff : w.hasHandle k = true ↔
    some k ∈ w.handles ∨ ∃ e, w.engines[k]? = some e ∧ 0 < e.kept := by
  rw [hasHandle, Bool.or_eq_true, List.contains_iff_mem, Option.any_eq_true]
  simp only [decide_eq_true_eq]

theorem WellFormed.strong_mem_refs_iff (hw : w.WellFormed) (k : Nat) :
    .strong k ∈ w.refs ↔ w.hasHandle k = true := by
  rw [hasHandle_iff, refs, List.mem_append, List.mem_filterMap, List.mem_flatMap]
  refine or_congr ?_ ?_
  · constructor
    · rintro ⟨target, hmem, htarget⟩
      obtain ⟨j, rfl, hj⟩ := Option.map_eq_some_iff.1 htarget
      rwa [← EngineRef.strong.inj hj]
    · exact fun hmem => ⟨some k, hmem, rfl⟩
  · constructor
    · rintro ⟨e, hmem, hstrong⟩
      obtain ⟨j, hj⟩ := List.mem_iff_getElem?.1 hmem
      obtain ⟨hplace, hkept⟩ := ((hw.engine hj).strong_mem_refs_iff k).1 hstrong
      rw [← hplace, hw.place hj]
      exact ⟨e, hj, hkept⟩
    · rintro ⟨e, hk, hkept⟩
      exact ⟨e, List.mem_of_getElem? hk,
        ((hw.engine hk).strong_mem_refs_iff k).2 ⟨hw.place hk, hkept⟩⟩

/-- An engine is alive exactly if a handle of it is left, or a call on its way holds it: instances
never keep it alive. -/
theorem WellFormed.isAlive_iff (hw : w.WellFormed) (inFlight : List EngineRef) (k : Nat) :
    w.isAlive inFlight k = true ↔ w.hasHandle k = true ∨ .strong k ∈ inFlight := by
  rw [isAlive, List.contains_iff_mem, List.mem_append, hw.strong_mem_refs_iff]

theorem isAlive_of_mem_handles (h : some k ∈ w.handles) (inFlight : List EngineRef) :
    w.isAlive inFlight k = true :=
  List.contains_iff_mem.2 (List.mem_append_left _
    (List.mem_append_left _ (List.mem_filterMap.2 ⟨some k, h, rfl⟩)))

theorem isAlive_of_mem_inFlight (w : World) (h : .strong k ∈ inFlight) :
    w.isAlive inFlight k = true :=
  List.contains_iff_mem.2 (List.mem_append_right _ h)

end World

theorem Failure.OfFetch.ne_gone {id : String} {f : Failure} (h : f.OfFetch id) :
    f ≠ .emulatorGone := by
  rintro rfl
  rcases h with h | ⟨_, _, h⟩ <;> cases h

namespace Scene

variable {σ : Type} {s : Scene σ} {k : Nat} {e : Engine} {id : String} {f : Failure}
  {a : Activation}

/-- A call of another contract finds the emulator gone exactly if it is not alive. -/
theorem dispatch_eq_gone_iff (ha : a.Wired k) (hk : s.world.engines[k]? = some e) (id : String) :
    s.dispatch a id = .error .emulatorGone ↔ s.world.isAlive a.inFlight k = false := by
  have hgone : s.dispatch a id = .error .emulatorGone ↔
      s.fetchNested a.inFlight k id = .error .emulatorGone := by
    rw [dispatch_of_wired ha]
    cases s.fetchNested a.inFlight k id with
    | error f => exact ⟨fun h => by cases h; rfl, fun h => by cases h; rfl⟩
    | ok fetched => exact ⟨nofun, nofun⟩
  rw [hgone]
  constructor
  · intro h
    rcases fetchNested_eq_error h with ⟨hdead | hnone, -⟩ | ⟨e', -, -, hfetch⟩
    · exact hdead
    · cases hnone.symm.trans hk
    · exact absurd rfl (Engine.fetch_failure hfetch).ne_gone
  · intro h
    rw [fetchNested, h]
    rfl

/-- As long as the emulator is alive, it is a matter of the callee whether it can be fetched. -/
theorem dispatch_failure (ha : a.Wired k) (hk : s.world.engines[k]? = some e)
    (halive : s.world.isAlive a.inFlight k = true) (h : s.dispatch a id = .error f) :
    f.OfFetch id := by
  rcases dispatch_eq_error h with ⟨hnone, -⟩ | ⟨ref, href, hfetch⟩
  · cases hnone.symm.trans ha.invoker
  · obtain rfl : ref = .weak k := Option.some.inj (href.symm.trans ha.invoker)
    rcases fetchNested_eq_error hfetch with ⟨hdead | hnone, -⟩ | ⟨e', -, -, hfetch'⟩
    · cases hdead.symm.trans halive
    · cases hnone.symm.trans hk
    · exact Engine.fetch_failure hfetch'

end Scene

end ContractEmulator
