import ContractEmulator.Loader
import Mathlib.Data.List.Induction

/-!
# What a loader finds

A loader is filled by making one symbol after the other known. It knows a symbol as what it was made
known as last, and it finds this for code that names the symbol under its own name.

* `Loader.find?_ofList`: what it knows, by what it was filled with (`Loader.lastOf?`).
* `Loader.Loadable`: what a code is loaded as. `load_ofList_eq_ok_iff`: this is what is found.
  `load_ofList_refused_iff`: all else is refused in the name of the binary.
-/

namespace ContractEmulator

namespace Loader

variable {α : Type} {registrations : List (String × α)} {loader : Loader α} {symbol : String}
  {logic : α} {binaryName : String} {code : List UInt8}

/-- What a symbol was made known as last. -/
def lastOf? (symbol : String) (registrations : List (String × α)) : Option α :=
  registrations.reverse.lookup symbol

theorem lastOf?_concat (symbol symbol' : String) (logic : α)
    (registrations : List (String × α)) :
    lastOf? symbol (registrations ++ [(symbol', logic)]) =
      if symbol = symbol' then some logic else lastOf? symbol registrations := by
  rw [lastOf?, List.reverse_append, List.reverse_singleton, List.singleton_append,
    List.lookup_cons]
  by_cases h : symbol = symbol'
  · simp [h]
  · have hne : (symbol == symbol') = false := beq_eq_false_iff_ne.2 h
    rw [if_neg h, hne, lastOf?]

theorem ofList_concat (registrations : List (String × α)) (symbol : String) (logic : α) :
    ofList (registrations ++ [(symbol, logic)]) = (ofList registrations).register symbol logic := by
  rw [ofList, OrderedMap.ofList, List.foldl_append]
  rfl

/-- A loader knows every symbol as what it was made known as last. -/
theorem find?_ofList (registrations : List (String × α)) (symbol : String) :
    (ofList registrations).factories.find? symbol = lastOf? symbol registrations := by
  induction registrations using List.reverseRecOn with
  | nil => rfl
  | append_singleton registrations last ih =>
    obtain ⟨symbol', logic⟩ := last
    rw [ofList_concat, lastOf?_concat, ← ih]
    exact OrderedMap.find?_insert _ _ _ _

/-! ## Loading -/

/-- A code is loaded as `logic`: it declares the name of its binary, and the loader was told last
that this name stands for `logic`. -/
structure Loadable (registrations : List (String × α)) (binaryName : String) (code : List UInt8)
    (logic : α) : Prop where
  declared : ∃ symbol, Descriptor.parse binaryName code = .ok symbol
  known : lastOf? binaryName registrations = some logic

theorem Loadable.unique {logic' : α} (h : Loadable registrations binaryName code logic)
    (h' : Loadable registrations binaryName code logic') : logic = logic' :=
  Option.some.inj (h.known.symm.trans h'.known)

/-- Nothing is loaded if the code does not declare the name, or the loader was not told of it. -/
theorem forall_not_loadable_iff : (∀ logic, ¬Loadable registrations binaryName code logic) ↔
    (∀ symbol, Descriptor.parse binaryName code ≠ .ok symbol) ∨
      lastOf? binaryName registrations = none := by
  constructor
  · intro h
    cases hknown : lastOf? binaryName registrations with
    | none => exact .inr rfl
    | some logic => exact .inl fun symbol hparse => h logic ⟨⟨symbol, hparse⟩, hknown⟩
  · rintro (hparse | hnone) logic ⟨⟨symbol, hdeclared⟩, hknown⟩
    · exact hparse symbol hdeclared
    · cases hnone.symm.trans hknown

/-- A loader finds what a code is loaded as. -/
theorem load_ofList_eq_ok_iff (kind : LogicKind) :
    (ofList registrations).load kind binaryName code = .ok logic ↔
      Loadable registrations binaryName code logic := by
  constructor
  · intro h
    have hknown := find?_of_load h
    rw [find?_ofList] at hknown
    refine ⟨?_, hknown⟩
    cases hparse : Descriptor.parse binaryName code with
    | ok symbol => exact ⟨symbol, rfl⟩
    | error f =>
      rw [load, hparse] at h
      cases h
  · rintro ⟨⟨symbol, hparse⟩, hknown⟩
    obtain rfl := Descriptor.eq_of_parse hparse
    rw [load, hparse]
    dsimp only
    rw [find?_ofList, hknown]

/-- All else is refused in the name of the binary. -/
theorem load_ofList_refused_iff (kind : LogicKind) :
    (∃ fault, (ofList registrations).load kind binaryName code =
      .error (.notLoadable binaryName fault)) ↔
      ∀ logic, ¬Loadable registrations binaryName code logic := by
  constructor
  · rintro ⟨fault, h⟩ logic hloadable
    cases h.symm.trans ((load_ofList_eq_ok_iff kind).2 hloadable)
  · intro h
    cases hload : (ofList registrations).load kind binaryName code with
    | ok logic => exact absurd ((load_ofList_eq_ok_iff kind).1 hload) (h logic)
    | error f =>
      obtain ⟨fault, rfl⟩ := load_failure hload
      exact ⟨fault, rfl⟩

end Loader

end ContractEmulator
