import ContractEmulator.Proofs.Engine.Warnings
import Mathlib.Data.List.Perm.Subperm

/-!
# What deeds leave alone

An engine keeps five things: the registered contracts, the loaded ones, the certificate, and the
registered and the loaded functions. A deed changes what it is about, and nothing that is loaded is
ever removed or replaced.

* `Engine.Frame`: what some turns leave alone. `Engine.Steps.frame`: all turns do.
* `Engine.Step.administers`: registrations and certificates change nothing that is loaded.
* `OrderedMap.size_le`, `Engine.Steps.loaded_le`: no more is loaded than is registered.
-/

namespace ContractEmulator

/-- A map whose keys are keys of another one has no more of them. -/
theorem OrderedMap.size_le {κ α β : Type} [DecidableEq κ] {m : OrderedMap κ α} {n : OrderedMap κ β}
    (h : ∀ key, m.contains key = true → n.contains key = true) : m.size ≤ n.size := by
  have hsubset : m.keys ⊆ n.keys := fun key hkey =>
    (n.contains_iff key).1 (h key ((m.contains_iff key).2 hkey))
  have hsize : ∀ {γ : Type} (l : OrderedMap κ γ), l.keys.length = l.size :=
    fun _ => List.length_map _
  rw [← hsize m, ← hsize n]
  exact (List.subperm_of_subset m.nodup_keys hsubset).length_le

namespace Deed

/-- Something was registered, or a certificate was put in force. -/
def isAdministrative : Deed → Bool
  | .registered _ _ | .registeredFunction _ _ | .certified _ => true
  | _ => false

end Deed

namespace Engine

variable {e e' : Engine} {turn : Turn} {turns : List Turn} {id : String} {i : Instance}

/-- What some turns leave alone. -/
structure Frame (e : Engine) (turns : List Turn) (e' : Engine) : Prop where
  /-- The registered contracts are those from before, with what the turns have registered. -/
  registry : e'.registry = (turns.map Turn.deed).foldl Deed.registryAfter e.registry
  certificate : e'.certificate = (turns.map Turn.deed).foldl Deed.certificateAfter e.certificate
  /-- No contract that is loaded is removed or replaced. -/
  contracts : ∀ {id i}, e.loaded.find? id = some i →
    ∃ j, e'.loaded.find? id = some j ∧ j.make = i.make
  /-- One that is not fetched keeps its stamp, and is not loaded. -/
  unfetched : ∀ {id}, ¬Deed.Fetched id (turns.map Turn.deed) →
    e'.stampOf? id = e.stampOf? id ∧ (e.loaded.find? id = none → e'.loaded.find? id = none)
  /-- If it does not replace its memory either, it stays as it is. -/
  untouched : ∀ {id}, ¬Deed.Fetched id (turns.map Turn.deed) →
    (∀ memory, .remembered id memory ∉ turns.map Turn.deed) →
    e'.loaded.find? id = e.loaded.find? id
  /-- No function that is loaded is removed or replaced. -/
  functions : ∀ {id function}, e.functions.loaded.find? id = some function →
    ∃ function', e'.functions.loaded.find? id = some function' ∧ function'.logic = function.logic

theorem Steps.registry_eq_foldl (h : Steps e turns e') :
    e'.registry = (turns.map Turn.deed).foldl Deed.registryAfter e.registry :=
  h.part_eq_foldl fun hstep => hstep.parts.1

/-- Without a deed that registers a contract, the registered contracts stay. -/
theorem Steps.registry_eq (h : Steps e turns e')
    (hn : ∀ turn ∈ turns, ∀ artifact warned, turn.deed ≠ .registered artifact warned) :
    e'.registry = e.registry :=
  h.part_eq fun turn hmem _ _ hstep =>
    hstep.parts.1.trans (Deed.registryAfter_eq (hn turn hmem) _)

/-- Without a deed that registers a function, the registered functions stay. -/
theorem Steps.functionRegistry_eq_of_not_registered (h : Steps e turns e')
    (hn : ∀ turn ∈ turns, ∀ entry warned, turn.deed ≠ .registeredFunction entry warned) :
    e'.functions.registry = e.functions.registry :=
  h.part_eq fun turn hmem _ _ hstep =>
    hstep.functionRegistry_eq.trans (Deed.functionsAfter_eq (hn turn hmem) _)

theorem instance?_eq_none_of_not_fetched (hn : ¬Deed.Fetched id (turns.map Turn.deed)) :
    ∀ turn ∈ turns, turn.deed.instance? id = none := by
  intro turn hmem
  cases hinstance : turn.deed.instance? id with
  | none => rfl
  | some i =>
    obtain ⟨⟨fresh, hdeed⟩, hid⟩ := Deed.instance?_eq_some_iff.1 hinstance
    exact absurd ⟨fresh, i, hdeed ▸ List.mem_map_of_mem hmem, hid⟩ hn

/-- A contract that is neither fetched nor remembers anything stays as it is. -/
theorem Step.find?_loaded_eq (h : Step e turn e') (hw : e.WellFormed)
    (hinstance : turn.deed.instance? id = none)
    (hmemory : ∀ memory, turn.deed ≠ .remembered id memory) :
    e'.loaded.find? id = e.loaded.find? id := by
  rw [h.find?_loaded hw]
  obtain ⟨deed, events⟩ := turn
  cases deed with
  | fetched fresh i =>
    by_cases hid : id = i.id
    · cases (if_pos hid).symm.trans hinstance
    · exact if_neg hid
  | remembered id' memory =>
    by_cases hid : id = id'
    · exact absurd (hid ▸ rfl) (hmemory memory)
    · exact if_neg hid
  | _ => rfl

theorem Steps.find?_loaded_eq (h : Steps e turns e') (hw : e.WellFormed)
    (hinstance : ∀ turn ∈ turns, turn.deed.instance? id = none)
    (hmemory : ∀ turn ∈ turns, ∀ memory, turn.deed ≠ .remembered id memory) :
    e'.loaded.find? id = e.loaded.find? id := by
  induction h with
  | nil => rfl
  | cons hstep _ ih =>
    obtain ⟨hhead, htail⟩ := List.forall_mem_cons.1 hinstance
    obtain ⟨hhead', htail'⟩ := List.forall_mem_cons.1 hmemory
    rw [ih (hstep.wellFormed hw) htail htail', hstep.find?_loaded_eq hw hhead hhead']

/-- All turns leave that alone. -/
theorem Steps.frame (h : Steps e turns e') (hw : e.WellFormed) : e.Frame turns e' where
  registry := h.registry_eq_foldl
  certificate := h.certificate_eq_foldl
  contracts := h.make_kept hw
  unfetched {id} hn := by
    have hstamp := h.stampOf?_eq hw (instance?_eq_none_of_not_fetched hn)
    refine ⟨hstamp, fun hnone => ?_⟩
    rw [stampOf?, stampOf?, hnone] at hstamp
    exact Option.map_eq_none_iff.1 hstamp
  untouched {id} hn hmemory := by
    refine h.find?_loaded_eq hw (instance?_eq_none_of_not_fetched hn) ?_
    rintro turn hmem memory hdeed
    exact hmemory memory (hdeed ▸ List.mem_map_of_mem hmem)
  functions {id function} hfind := by
    have hkept := (Slot.lawful_function id).made_kept hw h
      (congrArg (Option.map LoadedFunction.logic) hfind)
    exact Option.map_eq_some_iff.1 hkept

/-- Registrations and certificates change nothing that is loaded, and so no stamp either. -/
theorem Step.administers (h : Step e turn e') (hd : turn.deed.isAdministrative = true) :
    e'.loaded = e.loaded ∧ e'.functions.loaded = e.functions.loaded := by
  cases h with
  | register | registerFunction | certify => exact ⟨rfl, rfl⟩
  | _ => cases hd

variable {place : Nat} {loader : Loader ContractLogic} {functions : Loader FunctionLogic}

/-- Every contract that is loaded is registered. -/
theorem Steps.exists_get (h : Steps (new place loader functions) turns e)
    (hfind : e.loaded.find? id = some i) : ∃ artifact, e.get id = .ok artifact := by
  obtain ⟨artifact, hbound⟩ := (Slot.lawful_contract id).bound_of_made
    (wellFormed_new place loader functions) h rfl (congrArg (Option.map Instance.make) hfind)
  exact ⟨artifact, get_eq_ok_iff.2 hbound⟩

/-- No more contracts are loaded than are registered. -/
theorem Steps.loaded_le (h : Steps (new place loader functions) turns e) :
    e.loaded.size ≤ e.registry.size := by
  refine OrderedMap.size_le fun id hcontains => ?_
  obtain ⟨i, hfind⟩ := Option.isSome_iff_exists.1 hcontains
  obtain ⟨artifact, hget⟩ := h.exists_get hfind
  exact OrderedMap.contains_of_find? (get_eq_ok_iff.1 hget)

end Engine

end ContractEmulator
