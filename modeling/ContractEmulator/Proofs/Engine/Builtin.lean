import ContractEmulator.Proofs.Contract.Builtin
import ContractEmulator.Proofs.Engine.Fetch
import ContractEmulator.Proofs.Function.Builtin

/-!
# Built-in engines

An engine that knows the built-in contracts and the built-in function, and no others. Whatever it
has loaded is one of them.

* `Instance.OfKind`: the instance of a built-in contract.
* `Engine.Builtin`: such an engine. Every operation keeps it.
* `Builtin.ofKind_of_fetch`: what it hands out.
* `Engine.binaryName?`: the binary name under which a contract is loaded.
  `Builtin.binaryName?_of_fetch`: it is that of the artifact that is bound when the contract is
  fetched for the first time. `Builtin.binaryName?_of_kind`: it tells which contract is loaded.
-/

namespace ContractEmulator

open BuiltinContract

/-- The instance of a built-in contract. -/
structure Instance.OfKind (i : Instance) (kind : Kind) : Prop where
  binaryName : i.binaryName = kind.symbol
  logic : i.logic = kind.logic

namespace Engine

/-- An engine that knows what is built in and nothing else. -/
structure Builtin (e : Engine) : Prop where
  loader : e.loader = BuiltinContract.loader
  loaded : ∀ {id i}, e.loaded.find? id = some i → i.id = id ∧ ∃ kind, i.OfKind kind
  functions : e.functions.Builtin

/-- The artifact that is bound to a contract, if the contract can be fetched. -/
def fetchable? (e : Engine) (id : String) : Option Artifact :=
  if (e.fetch id).isOk then e.registry.find? id else none

/-- The binary name under which a contract is loaded. -/
def binaryName? (e : Engine) (id : String) : Option String :=
  (e.loaded.find? id).map Instance.binaryName

variable {e e' : Engine} {id : String} {i : Instance} {event : Event} {events : List Event}
  {f : Failure}

theorem Builtin.register (hb : e.Builtin) (artifact : Artifact) : (e.register artifact).1.Builtin :=
  ⟨hb.loader, hb.loaded, hb.functions⟩

theorem Builtin.registerFunction (hb : e.Builtin) (entry : FunctionEntry) :
    (e.registerFunction entry).1.Builtin :=
  ⟨hb.loader, hb.loaded, hb.functions.register entry⟩

theorem Builtin.setCertificate (hb : e.Builtin) (identity : Identity) :
    (e.setCertificate identity).1.Builtin :=
  ⟨hb.loader, hb.loaded, hb.functions⟩

theorem builtin_new (place : Nat) :
    (new place BuiltinContract.loader BuiltinFunction.loader).Builtin :=
  ⟨rfl, (nomatch ·), FunctionManager.builtin_new⟩

theorem builtin_withBuiltins (place : Nat) : (withBuiltins place).1.Builtin :=
  (((builtin_new place).register _).register _).register _

/-- Nothing is loaded at the start. -/
theorem binaryName?_withBuiltins (place : Nat) (id : String) :
    (withBuiltins place).1.binaryName? id = none := rfl

/-- What is obtained is a built-in contract. -/
theorem Builtin.ofKind_of_obtain (hb : e.Builtin) (h : e.obtain id = .ok (i, event)) :
    i.id = id ∧ ∃ kind, i.OfKind kind := by
  rcases obtain_eq_ok_iff.1 h with ⟨hfind, -⟩ | ⟨-, hmat, -⟩
  · exact hb.loaded hfind
  · obtain ⟨artifact, logic, -, hload, rfl⟩ := materialize_eq_ok_iff.1 hmat
    have hknown := Loader.find?_of_load hload
    rw [hb.loader] at hknown
    obtain ⟨kind, hsymbol, hlogic⟩ := kind_of_find? hknown
    exact ⟨rfl, kind, hsymbol, hlogic⟩

/-- What is handed out is a built-in contract. -/
theorem Builtin.ofKind_of_fetch (hb : e.Builtin) (h : e.fetch id = .ok (i, e', events)) :
    i.id = id ∧ ∃ kind, i.OfKind kind := by
  obtain ⟨j, event, hob, rfl, -⟩ := fetch_eq_ok h
  obtain ⟨hid, kind, hkind⟩ := hb.ofKind_of_obtain hob
  exact ⟨hid, kind, hkind.binaryName, hkind.logic⟩

theorem Builtin.fetch (hb : e.Builtin) (h : e.fetch id = .ok (i, e', events)) : e'.Builtin := by
  obtain rfl := eq_keep_of_fetch h
  refine ⟨hb.loader, fun {id' j} hfind => ?_, hb.functions⟩
  rw [find?_keep] at hfind
  obtain ⟨hid, hkind⟩ := hb.ofKind_of_fetch h
  split at hfind
  · next heq =>
    cases hfind
    exact ⟨heq.symm, hkind⟩
  · exact hb.loaded hfind

theorem fetchable?_of_fetch (h : e.fetch id = .ok (i, e', events)) :
    e.fetchable? id = e.registry.find? id := by
  rw [fetchable?, h]
  rfl

/-- A contract is loaded under the binary name that its artifact has when it is fetched for the
first time, and stays what it is. -/
theorem Builtin.binaryName?_of_fetch (hb : e.Builtin) (h : e.fetch id = .ok (i, e', events))
    (id' : String) : e'.binaryName? id' =
      (e.binaryName? id').or
        (if id = id' then (e.fetchable? id').map Artifact.binaryName else none) := by
  obtain ⟨hid, -⟩ := hb.ofKind_of_fetch h
  obtain ⟨j, event, hob, hi, he', -⟩ := fetch_eq_ok h
  rw [binaryName?, binaryName?, he', find?_keep, hid]
  by_cases hsame : id = id'
  · subst hsame
    rw [if_pos rfl, if_pos rfl, Option.map_some, fetchable?_of_fetch h, hi]
    rcases obtain_eq_ok_iff.1 hob with ⟨hfind, -⟩ | ⟨hnone, hmat, -⟩
    · rw [hfind]
      rfl
    · obtain ⟨artifact, logic, hget, -, rfl⟩ := materialize_eq_ok_iff.1 hmat
      rw [hnone, get_eq_ok_iff.1 hget]
      rfl
  · rw [if_neg (Ne.symm hsame), if_neg hsame, Option.or_none]

/-- The binary name tells which contract was handed out. -/
theorem Builtin.binaryName?_of_kind (hb : e.Builtin) (h : e.fetch id = .ok (i, e', events))
    {kind : Kind} (hkind : i.OfKind kind) : e'.binaryName? id = some kind.symbol := by
  obtain ⟨hid, -⟩ := hb.ofKind_of_fetch h
  rw [binaryName?, eq_keep_of_fetch h, find?_keep, if_pos hid.symm, Option.map_some,
    hkind.binaryName]

/-- What cannot be fetched is not loaded. -/
theorem unloaded_of_fetch_error (h : e.fetch id = .error f) :
    e.binaryName? id = none ∧ e.fetchable? id = none := by
  rw [binaryName?, (fetch_eq_error h).1, fetchable?, h]
  exact ⟨rfl, rfl⟩

end Engine

end ContractEmulator
