import ContractEmulator.Proofs.World.Host

/-!
# The history of handles

A handle is made when an emulator is created or when a handle is cloned, and it is dropped once. A
contract may keep handles as well. Between calls, these are all that keeps an emulator alive.

* `Host.Lives past trace h`: a host that started without emulators arrives at `h`, with notes of the
  handles that were made and dropped on the way. `Host.Reach.exists_lives`: this is so for all
  hosts.
* `World.Noted past w`: the notes tell which handles lead where. `Host.Lives.noted`: so they do
  wherever a host arrives.
* `HandleDeed.Abandoned`, `Host.Lives.hasHandle_eq_false_iff`: no handle of an emulator is left
  exactly if all that were made were dropped.
-/

namespace ContractEmulator

/-- A note about a handle. -/
inductive HandleDeed where
  /-- A handle of the engine `k` was made, with the creation of the emulator or as a clone. -/
  | made (handle k : Nat)
  | dropped (handle : Nat)

/-- Every handle that was made for the engine `k` has been dropped. -/
def HandleDeed.AllDropped (k : Nat) (past : List HandleDeed) : Prop :=
  ∀ handle, .made handle k ∈ past → .dropped handle ∈ past

/-- Every handle of the engine `k` has been dropped: those that the host had, and those that its
contracts have kept. -/
structure HandleDeed.Abandoned (k : Nat) (past : List HandleDeed) (trace : Trace) : Prop where
  host : AllDropped k past
  /-- As many handles have been dropped by contracts as were kept by them. -/
  contracts : (Trace.deeds k trace).foldl Deed.keptAfter 0 = 0

namespace World

variable {w w' : World} {past : List HandleDeed} {k handle : Nat}

theorem mem_handles_iff : some k ∈ w.handles ↔ ∃ handle, w.handle? handle = some k := by
  constructor
  · intro h
    obtain ⟨handle, hget⟩ := List.mem_iff_getElem?.1 h
    exact ⟨handle, Option.join_eq_some_iff.2 hget⟩
  · rintro ⟨handle, h⟩
    exact mem_handles_of_handle? h

/-- The notes tell which handles there are and where they lead. -/
structure Noted (past : List HandleDeed) (w : World) : Prop where
  leads : ∀ handle k,
    w.handle? handle = some k ↔ .made handle k ∈ past ∧ .dropped handle ∉ past
  made_lt : ∀ {handle k}, .made handle k ∈ past → handle < w.handles.length
  dropped_lt : ∀ {handle}, .dropped handle ∈ past → handle < w.handles.length

theorem noted_empty : Noted [] .empty where
  leads _ _ := by simp [handle?, empty]
  made_lt h := absurd h List.not_mem_nil
  dropped_lt h := absurd h List.not_mem_nil

theorem Noted.congr (h : w'.handles = w.handles) (hn : w.Noted past) : w'.Noted past where
  leads handle k := by
    rw [handle?, h]
    exact hn.leads handle k
  made_lt hmem := h ▸ hn.made_lt hmem
  dropped_lt hmem := h ▸ hn.dropped_lt hmem

/-- One more handle, the last one, which may lead nowhere. -/
theorem Noted.append {target : Option Nat} (h : w'.handles = w.handles ++ [target])
    (hn : w.Noted past) :
    w'.Noted (past ++ target.toList.map (.made w.handles.length ·)) where
  leads handle k := by
    rw [handle?_of_append h, List.mem_append, List.mem_append]
    by_cases hlast : handle = w.handles.length
    · -- No note so far is about a handle that is not there yet.
      have hmade : .made handle k ∉ past := fun hmem => absurd (hn.made_lt hmem) (by omega)
      have hdropped : .dropped handle ∉ past := fun hmem => absurd (hn.dropped_lt hmem) (by omega)
      cases target <;> simp [hlast ▸ hmade, hlast ▸ hdropped, hlast, eq_comm]
    · rw [if_neg hlast, hn.leads]
      cases target <;> simp [hlast]
  made_lt hmem := by
    rw [h, List.length_append, List.length_singleton]
    rcases List.mem_append.1 hmem with hold | hnew
    · have hlt := hn.made_lt hold
      omega
    · obtain ⟨_, -, hdeed⟩ := List.mem_map.1 hnew
      cases hdeed
      omega
  dropped_lt hmem := by
    rw [h, List.length_append, List.length_singleton]
    rcases List.mem_append.1 hmem with hold | hnew
    · have hlt := hn.dropped_lt hold
      omega
    · obtain ⟨_, -, hdeed⟩ := List.mem_map.1 hnew
      cases hdeed

/-- One handle is dropped, if it leads anywhere. -/
theorem Noted.drop (hn : w.Noted past) (dropped : Nat) :
    (w.drop dropped).Noted (past ++ (w.handle? dropped).toList.map fun _ => .dropped dropped) where
  leads handle k := by
    rw [handle?_drop, List.mem_append, List.mem_append]
    by_cases hsame : handle = dropped
    · subst hsame
      have hleads := hn.leads handle k
      cases htarget : w.handle? handle with
      | none => simp_all
      | some j => simp
    · rw [if_neg hsame, hn.leads]
      cases w.handle? dropped <;> simp [hsame]
  made_lt hmem := by
    rw [World.drop, List.length_set]
    rcases List.mem_append.1 hmem with hold | hnew
    · exact hn.made_lt hold
    · obtain ⟨_, -, hdeed⟩ := List.mem_map.1 hnew
      cases hdeed
  dropped_lt hmem := by
    rw [World.drop, List.length_set]
    rcases List.mem_append.1 hmem with hold | hnew
    · exact hn.dropped_lt hold
    · obtain ⟨j, hj, hdeed⟩ := List.mem_map.1 hnew
      cases hdeed
      have hleads := Option.mem_toList.1 hj
      exact hn.made_lt ((hn.leads _ j).1 hleads).1

/-- The host has no handle of an emulator exactly if every one that it ever had has been dropped. -/
theorem Noted.not_mem_handles_iff (hn : w.Noted past) (k : Nat) :
    some k ∉ w.handles ↔ HandleDeed.AllDropped k past := by
  rw [mem_handles_iff]
  constructor
  · intro hnone handle hmade
    refine Classical.byContradiction fun hkept => ?_
    exact hnone ⟨handle, (hn.leads handle k).2 ⟨hmade, hkept⟩⟩
  · rintro hall ⟨handle, hleads⟩
    obtain ⟨hmade, hkept⟩ := (hn.leads handle k).1 hleads
    exact hkept (hall handle hmade)

end World

namespace Host

/-- A host that starts without emulators arrives somewhere, one operation after the other, with
notes of its handles. -/
inductive Lives : List HandleDeed → Trace → Host → Prop where
  | start : Lives [] [] .empty
  | create {past : List HandleDeed} {trace : Trace} {h : Host} (loader : Loader ContractLogic)
      (functions : Loader FunctionLogic) :
      Lives past trace h →
      Lives (past ++ [.made h.world.handles.length h.world.engines.length]) trace
        { h with world := h.world.add (.new h.world.engines.length loader functions) }
  | clone {past : List HandleDeed} {trace : Trace} {h : Host} (handle : Nat) :
      Lives past trace h →
      Lives (past ++ (h.world.handle? handle).toList.map (.made h.world.handles.length ·)) trace
        { h with world := h.world.clone handle }
  | drop {past : List HandleDeed} {trace : Trace} {h : Host} (handle : Nat) :
      Lives past trace h →
      Lives (past ++ (h.world.handle? handle).toList.map fun _ => .dropped handle) trace
        { h with world := h.world.drop handle }
  /-- Everything else leaves the handles alone. -/
  | work {past : List HandleDeed} {trace t : Trace} {h h' : Host} :
      Lives past trace h → Does h t h' → h'.world.handles = h.world.handles →
      Lives past (trace ++ t) h'

variable {past : List HandleDeed} {trace : Trace} {h : Host}

theorem Lives.reach (hl : Lives past trace h) : Reach trace h := by
  induction hl with
  | start => exact .start
  | create loader functions _ ih =>
    have hstep := ih.step (.manage (.create _ loader functions))
    rwa [List.append_nil] at hstep
  | clone handle _ ih =>
    have hstep := ih.step (.manage (.clone _ handle))
    rwa [List.append_nil] at hstep
  | drop handle _ ih =>
    have hstep := ih.step (.manage (.drop _ handle))
    rwa [List.append_nil] at hstep
  | work _ hdoes _ ih => exact ih.step hdoes

/-- Every host has such notes. -/
theorem Reach.exists_lives (hr : Reach trace h) : ∃ past, Lives past trace h := by
  induction hr with
  | start => exact ⟨[], .start⟩
  | @step trace t h h' hr hdoes ih =>
    obtain ⟨past, hl⟩ := ih
    rcases hdoes.plays_or_manages hr.accounts.wellFormed with hplays | ⟨rfl, hlog, hmanages⟩
    · exact ⟨past, hl.work hdoes hplays.world.handles_eq.1⟩
    · obtain ⟨w, log⟩ := h
      obtain ⟨w', log'⟩ := h'
      obtain rfl : log' = log := hlog
      have hmanages' : w.Manages w' := hmanages
      rw [List.append_nil]
      cases hmanages' with
      | create loader functions => exact ⟨_, hl.create loader functions⟩
      | clone handle => exact ⟨_, hl.clone handle⟩
      | drop handle => exact ⟨_, hl.drop handle⟩
      | focus handle =>
        have hwork := hl.work hdoes rfl
        rw [List.append_nil] at hwork
        exact ⟨past, hwork⟩

/-- The notes of a host tell which handles lead where. -/
theorem Lives.noted (hl : Lives past trace h) : h.world.Noted past := by
  induction hl with
  | start => exact World.noted_empty
  | @create _ _ h _ _ _ ih => exact @World.Noted.append _ _ _ (some h.world.engines.length) rfl ih
  | clone handle _ ih => exact ih.append rfl
  | drop handle _ ih => exact ih.drop handle
  | work _ _ hsame ih => exact ih.congr hsame

/-- In every scene that comes about from where a host has arrived, no handle of an emulator is left
exactly if every one has been dropped. -/
theorem Lives.hasHandle_eq_false_iff {σ : Type} {ledger : σ} {s : Scene σ} {t : Trace} {k : Nat}
    {e : Engine} (hl : Lives past trace h) (hp : (h.scene ledger).Plays t s)
    (hk : s.world.engines[k]? = some e) :
    s.world.hasHandle k = false ↔ HandleDeed.Abandoned k past (trace ++ t) := by
  obtain ⟨loader, functions, hsteps⟩ := (hl.reach.accounts_of_plays hp).steps k e hk
  have hhost : some k ∉ s.world.handles ↔ HandleDeed.AllDropped k past := by
    rw [hp.world.handles_eq.1]
    exact hl.noted.not_mem_handles_iff k
  have hkept : e.kept = (Trace.deeds k (trace ++ t)).foldl Deed.keptAfter 0 := hsteps.kept_eq
  rw [← Bool.not_eq_true, World.hasHandle_iff, not_or, hhost]
  constructor
  · rintro ⟨hall, hnone⟩
    refine ⟨hall, hkept ▸ Nat.eq_zero_of_not_pos fun hpos => hnone ⟨e, hk, hpos⟩⟩
  · rintro ⟨hall, hzero⟩
    refine ⟨hall, ?_⟩
    rintro ⟨e', hk', hpos⟩
    obtain rfl : e' = e := Option.some.inj (hk'.symm.trans hk)
    omega

end Host

end ContractEmulator
