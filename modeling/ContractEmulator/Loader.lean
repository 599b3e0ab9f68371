import ContractEmulator.Descriptor
import ContractEmulator.OrderedMap

/-!
# Loaders

A loader knows logic by its symbol, and finds the logic that a code names. To make a logic has no
other effect than to hand it out, with a fresh memory.

* `find?_of_load`, `known_of_load`: what is found was made known, under its binary name.
* `load_failure`: how a code that names no logic fails.
-/

namespace ContractEmulator

/-- A table of logic by symbol. -/
structure Loader (α : Type) where
  factories : OrderedMap String α

namespace Loader

variable {α : Type}

/-- The loader that knows nothing. -/
def empty : Loader α := ⟨.empty⟩

/-- Makes a symbol known, in place of what was known under it. -/
def register (loader : Loader α) (symbol : String) (logic : α) : Loader α :=
  ⟨loader.factories.insert symbol logic⟩

/-- The loader that knows the given symbols, later ones first. -/
def ofList (pairs : List (String × α)) : Loader α := ⟨.ofList pairs⟩

/-- The logic that a code names. -/
def load (loader : Loader α) (kind : LogicKind) (binaryName : String) (code : List UInt8) :
    Except Failure α :=
  match Descriptor.parse binaryName code with
  | .error f => .error f
  | .ok symbol =>
    match loader.factories.find? symbol with
    | some logic => .ok logic
    | none => .error (.notLoadable binaryName (.unknownSymbol kind symbol))

/-- The known symbols in order. -/
def symbols (loader : Loader α) : List String :=
  loader.factories.keys.mergeSort fun a b => decide (a ≤ b)

variable {loader : Loader α} {kind : LogicKind} {binaryName : String} {code : List UInt8}

/-- The logic that a loader finds is known under the binary name. -/
theorem find?_of_load {logic : α} (h : loader.load kind binaryName code = .ok logic) :
    loader.factories.find? binaryName = some logic := by
  unfold load at h
  split at h
  · cases h
  · next symbol hparse =>
    obtain rfl := Descriptor.eq_of_parse hparse
    split at h
    · next hfind =>
      cases h
      exact hfind
    · cases h

/-- The logic that a loader finds is known under some symbol. -/
theorem known_of_load {logic : α} (h : loader.load kind binaryName code = .ok logic) :
    ∃ symbol, loader.factories.find? symbol = some logic :=
  ⟨binaryName, find?_of_load h⟩

/-- Code that names no logic fails in the name of the binary it was registered as. -/
theorem load_failure {f : Failure} (h : loader.load kind binaryName code = .error f) :
    ∃ fault, f = .notLoadable binaryName fault := by
  unfold load Descriptor.parse at h
  cases hsym : Descriptor.symbol binaryName code with
  | error fault =>
    rw [hsym] at h
    cases h
    exact ⟨fault, rfl⟩
  | ok symbol =>
    rw [hsym] at h
    dsimp only at h
    split at h
    · cases h
    · cases h
      exact ⟨_, rfl⟩

end Loader

end ContractEmulator
