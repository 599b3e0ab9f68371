import ContractEmulator.Ledger.Memory
import ContractEmulator.Proofs.Contract.Handed

/-!
# What the built-in contracts do

A built-in contract looks at its argument, and then it reads from the ledger or writes to it. It has
no other part in the world, so what it does is a function of the ledger and of the argument.

* `Argument.HasCount`, `Argument.HasFlag`: what an argument has under a key that may be missing.
  `requiredText_eq_ok_iff`, `optionalCount_eq_ok_iff`, `optionalFlag_eq_ok_iff`: this is what is
  accepted. `filterOf_eq_ok_iff`: the selection that an argument describes.
* `BuiltinContract.Kind`: the built-in contracts. `kind_of_find?`: the loader knows no others.
* `Kind.perform`: what each of them returns, and the ledger that it leaves.
  `Scene.exists_call_builtin`: this is how it runs.
* `Kind.perform_error`, `Kind.perform_ledger_cases`: one that fails leaves the ledger as it was, and
  at most one version is appended in any case.
-/

namespace ContractEmulator

/-! ## Arguments -/

/-- Of all values, only integers count as numbers of 64 bits. -/
theorem Json.asInt64?_eq_some_iff {j : Json} {n : Int} :
    j.asInt64? = some n ↔ j = .int n ∧ n < 0x8000000000000000 := by
  cases j with
  | int m =>
    rw [Json.asInt64?, Option.ite_none_right_eq_some, Option.some_inj, Json.int.injEq, and_comm]
    exact and_congr_right fun h => h ▸ Iff.rfl
  | _ => exact ⟨nofun, nofun⟩

namespace Argument

/-- There is a number of 32 bits under a key of an argument, or nothing. -/
def HasCount (argument : Json) (name : String) : Option UInt32 → Prop
  | none => argument.get? name = none
  | some count => argument.get? name = some (.int count.toNat)

/-- There is a truth value under a key of an argument, or nothing. -/
def HasFlag (argument : Json) (name : String) : Option Bool → Prop
  | none => argument.get? name = none
  | some flag => argument.get? name = some (.bool flag)

variable {argument : Json} {name : String}

theorem requiredText_eq_ok_iff {text : String} :
    requiredText argument name = .ok text ↔ argument.get? name = some (.str text) := by
  unfold requiredText
  cases argument.get? name with
  | none => simp
  | some j => cases j <;> simp [Json.asStr?]

/-- A bound is accepted if it is a number of 32 bits, and it is not changed. -/
theorem optionalCount_eq_ok_iff {count : Option UInt32} :
    optionalCount argument name = .ok count ↔ HasCount argument name count := by
  unfold optionalCount
  cases hget : argument.get? name with
  | none =>
    cases count with
    | none => exact ⟨fun _ => hget, fun _ => rfl⟩
    | some count => exact ⟨nofun, fun h => nomatch hget.symm.trans h⟩
  | some j =>
    dsimp only
    constructor
    · intro h
      split at h
      · cases h
      · next n hint =>
        obtain ⟨rfl, -⟩ := Json.asInt64?_eq_some_iff.1 hint
        split at h
        · cases h
        · split at h
          · next hpos hlt =>
            cases h
            have hsmall : (UInt32.ofNat n.toNat).toNat = n.toNat :=
              UInt32.toNat_ofNat_of_lt' (by simp only [UInt32.size]; omega)
            rw [HasCount, hget, hsmall, Int.toNat_of_nonneg (by omega)]
          · cases h
    · intro h
      cases count with
      | none => exact nomatch hget.symm.trans h
      | some count =>
        obtain rfl : j = .int count.toNat := Option.some.inj (hget.symm.trans h)
        have hsmall : count.toNat < 0x100000000 := count.toNat_lt
        rw [Json.asInt64?_eq_some_iff.2 ⟨rfl, by omega⟩]
        dsimp only
        rw [if_neg (by omega), if_pos (by omega), Int.toNat_natCast, UInt32.ofNat_toNat]

theorem optionalFlag_eq_ok_iff {flag : Option Bool} :
    optionalFlag argument name = .ok flag ↔ HasFlag argument name flag := by
  unfold optionalFlag
  cases hget : argument.get? name with
  | none => cases flag <;> simp [HasFlag, hget]
  | some j => cases flag <;> cases j <;> simp [HasFlag, hget, Json.asBool?]

/-- The number under a key is read as it stands there. -/
theorem HasCount.map_toNat {count : Option UInt32} (h : HasCount argument name count) :
    count.map UInt32.toNat = (argument.get? name).bind Json.asNat? := by
  cases count with
  | none => exact congrArg (Option.bind · Json.asNat?) (Eq.symm h)
  | some count =>
    have hget : argument.get? name = some (.int count.toNat) := h
    rw [hget, Option.map_some, Option.bind_some, Json.asNat?, if_pos (by omega), Int.toNat_natCast]

theorem HasFlag.eq_bind {flag : Option Bool} (h : HasFlag argument name flag) :
    flag = (argument.get? name).bind Json.asBool? := by
  cases flag with
  | none => exact congrArg (Option.bind · Json.asBool?) (Eq.symm h)
  | some flag => exact congrArg (Option.bind · Json.asBool?) (Eq.symm h)

end Argument

namespace BuiltinContract

variable {argument : Json}

/-- A write needs the name of an asset and some data. -/
theorem writeOf_eq_ok_iff {id : String} {data : Json} : writeOf argument = .ok (id, data) ↔
    argument.get? "asset_id" = some (.str id) ∧ argument.get? "data" = some data := by
  unfold writeOf
  cases argument.get? "asset_id" with
  | none => simp
  | some j =>
    cases argument.get? "data" with
    | none => simp
    | some d => cases j <;> simp [Json.asStr?]

/-- A selection is described by a name, by bounds that are numbers of 32 bits, and by a truth value
for the order. -/
theorem filterOf_eq_ok_iff {filter : AssetFilter} : filterOf argument = .ok filter ↔
    ∃ id start stop limit ascending, argument.get? "asset_id" = some (.str id) ∧
      Argument.HasCount argument "start" start ∧ Argument.HasCount argument "end" stop ∧
      Argument.HasCount argument "limit" limit ∧ Argument.HasFlag argument "asc_order" ascending ∧
      filter = ⟨id, start, stop, limit.getD 0,
        if ascending.getD false then .ascending else .descending⟩ := by
  constructor
  · intro h
    obtain ⟨id, hid, h⟩ := Failure.exists_of_bind_eq_ok h
    obtain ⟨start, hstart, h⟩ := Failure.exists_of_bind_eq_ok h
    obtain ⟨stop, hstop, h⟩ := Failure.exists_of_bind_eq_ok h
    obtain ⟨limit, hlimit, h⟩ := Failure.exists_of_bind_eq_ok h
    obtain ⟨ascending, hascending, h⟩ := Failure.exists_of_bind_eq_ok h
    exact ⟨id, start, stop, limit, ascending, Argument.requiredText_eq_ok_iff.1 hid,
      Argument.optionalCount_eq_ok_iff.1 hstart, Argument.optionalCount_eq_ok_iff.1 hstop,
      Argument.optionalCount_eq_ok_iff.1 hlimit, Argument.optionalFlag_eq_ok_iff.1 hascending,
      (Except.ok.inj h).symm⟩
  · rintro ⟨id, start, stop, limit, ascending, hid, hstart, hstop, hlimit, hascending, rfl⟩
    rw [filterOf, Argument.requiredText_eq_ok_iff.2 hid, Argument.optionalCount_eq_ok_iff.2 hstart,
      Argument.optionalCount_eq_ok_iff.2 hstop, Argument.optionalCount_eq_ok_iff.2 hlimit,
      Argument.optionalFlag_eq_ok_iff.2 hascending]
    rfl

/-- A selection that is accepted has the bounds that stand in the argument. -/
theorem filterOf_eq_ok {filter : AssetFilter} (h : filterOf argument = .ok filter) :
    argument.get? "asset_id" = some (.str filter.id) ∧
      filter.startAge.map UInt32.toNat = (argument.get? "start").bind Json.asNat? ∧
      filter.endAge.map UInt32.toNat = (argument.get? "end").bind Json.asNat? ∧
      filter.limit.toNat = ((argument.get? "limit").bind Json.asNat?).getD 0 ∧
      filter.order =
        if ((argument.get? "asc_order").bind Json.asBool?).getD false then .ascending
        else .descending := by
  obtain ⟨id, start, stop, limit, ascending, hid, hstart, hstop, hlimit, hascending, rfl⟩ :=
    filterOf_eq_ok_iff.1 h
  refine ⟨hid, hstart.map_toNat, hstop.map_toNat, ?_, ?_⟩
  · rw [← hlimit.map_toNat]
    cases limit <;> rfl
  · rw [← hascending.eq_bind]

/-! ## The built-in contracts -/

/-- A built-in contract. -/
inductive Kind where
  | get | put | scan
  deriving DecidableEq, Repr

namespace Kind

/-- The binary name of a built-in contract. -/
def symbol : Kind → String
  | .get => getSymbol
  | .put => putSymbol
  | .scan => scanSymbol

/-- The logic that is known under this name. -/
def logic : Kind → ContractLogic
  | .get => BuiltinContract.get
  | .put => BuiltinContract.put
  | .scan => BuiltinContract.scan

theorem symbol_injective {kind kind' : Kind} (h : kind.symbol = kind'.symbol) : kind = kind' := by
  cases kind <;> cases kind' <;> first | rfl | exact absurd h (by decide)

theorem some_symbol_inj {kind kind' : Kind} : some kind.symbol = some kind'.symbol ↔ kind = kind' :=
  ⟨fun h => symbol_injective (Option.some.inj h), fun h => h ▸ rfl⟩

end Kind

/-- The loader knows the built-in contracts and no others. -/
theorem kind_of_find? {symbol : String} {logic : ContractLogic}
    (h : loader.factories.find? symbol = some logic) :
    ∃ kind : Kind, symbol = kind.symbol ∧ logic = kind.logic := by
  have hmem := OrderedMap.mem_of_find?_ofList h
  simp only [List.mem_cons, Prod.mk.injEq, List.not_mem_nil, or_false] at hmem
  obtain ⟨rfl, rfl⟩ | ⟨rfl, rfl⟩ | ⟨rfl, rfl⟩ := hmem
  · exact ⟨.get, rfl, rfl⟩
  · exact ⟨.put, rfl, rfl⟩
  · exact ⟨.scan, rfl, rfl⟩

/-! ## What they do -/

/-- The object that says that an asset has no versions. -/
def absence (id : String) : Json :=
  .ofEntries [("result", .str "failure"), ("message", .str (id ++ " is not in the ledger"))]

/-- What is returned for the latest version of an asset. -/
def reading (id : String) : Option Asset → Json
  | some asset => asset.toJson
  | none => absence id

/-- What is returned for a list of versions. -/
def listing (assets : List Asset) : Json := .ofEntries [("data", .arr (assets.map Asset.toJson))]

/-- What a built-in contract returns for an argument, and the ledger that it leaves. -/
def Kind.perform (ledger : MemoryLedger) (argument : Json) : Kind → Outcome × MemoryLedger
  | .get =>
    match Argument.requiredText argument "asset_id" with
    | .error f => (.error f, ledger)
    | .ok id => (.ok (some (reading id (ledger.get id))), ledger)
  | .put =>
    match writeOf argument with
    | .error f => (.error f, ledger)
    | .ok (id, data) => (.ok none, ledger.put id data)
  | .scan =>
    match filterOf argument with
    | .error f => (.error f, ledger)
    | .ok filter => (.ok (some (listing (ledger.scan filter))), ledger)

variable {kind : Kind} {ledger : MemoryLedger} {f : Failure} {r : Option Json}

/-- A built-in contract that fails has not touched the ledger. -/
theorem Kind.perform_error (h : (kind.perform ledger argument).1 = .error f) :
    (kind.perform ledger argument).2 = ledger := by
  cases kind with
  | get =>
    dsimp only [perform]
    split <;> rfl
  | put =>
    dsimp only [perform] at h ⊢
    split at h
    · rfl
    · cases h
  | scan =>
    dsimp only [perform]
    split <;> rfl

/-- The ledger stays as it was, or one version is appended, which the argument tells. -/
theorem Kind.perform_ledger_cases (kind : Kind) (ledger : MemoryLedger) (argument : Json) :
    (kind.perform ledger argument).2 = ledger ∨
      kind = .put ∧ ∃ id data, argument.get? "asset_id" = some (.str id) ∧
        argument.get? "data" = some data ∧
        (kind.perform ledger argument).2 = ledger.put id data := by
  cases kind with
  | get =>
    dsimp only [perform]
    split <;> exact .inl rfl
  | put =>
    dsimp only [perform]
    split
    · exact .inl rfl
    · next id data hwrite =>
      obtain ⟨hid, hdata⟩ := writeOf_eq_ok_iff.1 hwrite
      exact .inr ⟨rfl, id, data, hid, hdata, rfl⟩
  | scan =>
    dsimp only [perform]
    split <;> exact .inl rfl

/-- What is read is the latest version of the asset that the argument names. -/
theorem perform_get_eq_ok (h : (Kind.get.perform ledger argument).1 = .ok r) :
    ∃ id, argument.get? "asset_id" = some (.str id) ∧ r = some (reading id (ledger.get id)) := by
  dsimp only [Kind.perform] at h
  split at h
  · cases h
  · next id hid =>
    cases h
    exact ⟨id, Argument.requiredText_eq_ok_iff.1 hid, rfl⟩

/-- What is listed is the selection that the argument describes. -/
theorem perform_scan_eq_ok (h : (Kind.scan.perform ledger argument).1 = .ok r) :
    ∃ filter, filterOf argument = .ok filter ∧ r = some (listing (ledger.scan filter)) := by
  dsimp only [Kind.perform] at h
  split at h
  · cases h
  · next filter hfilter =>
    cases h
    exact ⟨filter, hfilter, rfl⟩

end BuiltinContract

namespace Scene

open BuiltinContract

/-- A built-in contract runs as `perform` says. The log aside, it changes nothing but the ledger. -/
theorem exists_call_builtin (depth k : Nat) {i : Instance} {kind : Kind}
    (hlogic : i.logic = kind.logic) (argument : Json) (properties : Option Json)
    (s : Scene MemoryLedger) :
    ∃ log, call depth k i argument properties s =
      some ((kind.perform s.ledger argument).1,
        { s with ledger := (kind.perform s.ledger argument).2, log := log }) := by
  rw [call_eq_interpret, hlogic]
  generalize i.activation k [] = a
  generalize callNested (σ := MemoryLedger) depth a = nested
  cases kind with
  | get =>
    dsimp only [Kind.logic, Kind.perform, BuiltinContract.get]
    cases Argument.requiredText argument "asset_id" with
    | error f => exact ⟨s.log, rfl⟩
    | ok id =>
      refine ⟨s.log, ?_⟩
      dsimp only
      -- What is returned depends on what the ledger answers.
      have hask : ∀ next : Option Asset → ContractM (Option Json),
          Program.interpret (answer nested a) (ContractM.get id >>= next).run s =
            Program.interpret (answer nested a) (next (s.ledger.get id)).run s :=
        fun _ => rfl
      refine (hask _).trans ?_
      cases s.ledger.get id with
      | none => rfl
      | some asset => rfl
  | put =>
    dsimp only [Kind.logic, Kind.perform, BuiltinContract.put]
    cases writeOf argument with
    | error f => exact ⟨s.log, rfl⟩
    | ok write => exact ⟨_, rfl⟩
  | scan =>
    dsimp only [Kind.logic, Kind.perform, BuiltinContract.scan]
    cases filterOf argument with
    | error f => exact ⟨s.log, rfl⟩
    | ok filter => exact ⟨s.log, rfl⟩

end Scene

end ContractEmulator
