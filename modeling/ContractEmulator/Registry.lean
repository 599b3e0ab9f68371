import ContractEmulator.Artifact
import ContractEmulator.Failure
import ContractEmulator.OrderedMap

/-!
# Registries

What is registered under which id, in the order in which the ids were bound first. There is one
registrant and no versions: binding an id again replaces what was bound to it.
-/

namespace ContractEmulator

/-- Registered contracts. -/
abbrev ContractRegistry := OrderedMap String Artifact

namespace ContractRegistry

/-- Binds an artifact to its id. -/
def bind (registry : ContractRegistry) (artifact : Artifact) : ContractRegistry :=
  registry.insert artifact.id artifact

/-- Removes what is bound to an id. -/
def unbind (registry : ContractRegistry) (id : String) : ContractRegistry := registry.erase id

/-- The artifact bound to an id. -/
def lookup (registry : ContractRegistry) (id : String) : Except Failure Artifact :=
  match registry.find? id with
  | some artifact => .ok artifact
  | none => .error (.missingContract id)

variable {registry : ContractRegistry} {id : String}

theorem lookup_eq_ok_iff {artifact : Artifact} :
    registry.lookup id = .ok artifact ↔ registry.find? id = some artifact := by
  unfold lookup
  cases registry.find? id <;> simp

theorem lookup_eq_error_iff {f : Failure} :
    registry.lookup id = .error f ↔ registry.find? id = none ∧ f = .missingContract id := by
  unfold lookup
  cases registry.find? id <;> simp [eq_comm]

end ContractRegistry

/-- Registered functions. -/
abbrev FunctionRegistry := OrderedMap String FunctionEntry

namespace FunctionRegistry

/-- Binds an entry to its id. -/
def bind (registry : FunctionRegistry) (entry : FunctionEntry) : FunctionRegistry :=
  registry.insert entry.id entry

/-- Removes what is bound to an id. -/
def unbind (registry : FunctionRegistry) (id : String) : FunctionRegistry := registry.erase id

/-- The entry bound to an id. -/
def lookup (registry : FunctionRegistry) (id : String) : Except Failure FunctionEntry :=
  match registry.find? id with
  | some entry => .ok entry
  | none => .error (.missingFunction id)

variable {registry : FunctionRegistry} {id : String}

theorem lookup_eq_ok_iff {entry : FunctionEntry} :
    registry.lookup id = .ok entry ↔ registry.find? id = some entry := by
  unfold lookup
  cases registry.find? id <;> simp

theorem lookup_eq_error_iff {f : Failure} :
    registry.lookup id = .error f ↔ registry.find? id = none ∧ f = .missingFunction id := by
  unfold lookup
  cases registry.find? id <;> simp [eq_comm]

end FunctionRegistry

end ContractEmulator
