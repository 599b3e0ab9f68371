import ContractEmulator.Proofs.Contract.Builtin

/-!
# Reading from a history

A ledger in memory is the list of the data that were put to each asset. What the built-in contracts
return is told here by such lists, with the ages of versions as natural numbers.

* `history_put`: a write appends to one history and leaves the others. `history_perform`: so does a
  built-in contract that writes, and the others leave all histories.
* `latest`, `reading_get`: what is read from a history.
* `selected`, `listing_scan`: what is listed of a history.
* `Kind.returns`, `returns_of_perform`: what a built-in contract returns, from the history of the
  asset that its argument names.

Ages are counted with 32 bits, so this holds up to `maxVersions` versions.
-/

namespace ContractEmulator

namespace MemoryLedger

/-- How many versions of an asset have different ages. -/
def maxVersions : Nat := UInt32.size

theorem history_put (ledger : MemoryLedger) (id id' : String) (data : Json) :
    (ledger.put id data).history id' =
      if id' = id then ledger.history id ++ [data] else ledger.history id' := by
  unfold history put
  rw [OrderedMap.find?_insert]
  split
  · rfl
  · rfl

/-- The versions of a history are its data with their places. -/
theorem versionsFrom_eq_map (id : String) (age : Nat) (history : List Json) :
    versionsFrom id age history =
      (history.zipIdx age).map fun version => ⟨id, UInt32.ofNat version.2, version.1⟩ := by
  induction history generalizing age with
  | nil => rfl
  | cons data rest ih => rw [versionsFrom, ih, List.zipIdx_cons, List.map_cons]

end MemoryLedger

namespace BuiltinContract

open MemoryLedger

/-- What an argument lets an asset have as its next version: the data under its name, if it is the
asset that the argument names. -/
def dataFor? (argument : Json) (id : String) : Option Json :=
  if (argument.get? "asset_id").bind Json.asStr? = some id then argument.get? "data" else none

/-- What is returned for a version. -/
def versionJson (id : String) (age : Nat) (data : Json) : Json :=
  .ofEntries [("asset_id", .str id), ("age", .int age), ("data", data)]

/-- What is read from a history: its last version. -/
def latest (id : String) (history : List Json) : Json :=
  match history.getLast? with
  | some data => versionJson id (history.length - 1) data
  | none => absence id

/-- The number under a key of an argument. -/
def bound? (argument : Json) (name : String) : Option Nat :=
  (argument.get? name).bind Json.asNat?

/-- Whether an age lies within the bounds of an argument. -/
def inBounds (argument : Json) (age : Nat) : Bool :=
  (bound? argument "start").all (fun start => decide (start ≤ age)) &&
    (bound? argument "end").all fun stop => decide (age < stop)

/-- Versions in the order for which an argument asks, oldest first or latest first, and as many of
them. -/
def arranged {α : Type} (argument : Json) (versions : List α) : List α :=
  let isAscending := ((argument.get? "asc_order").bind Json.asBool?).getD false
  let limit := (bound? argument "limit").getD 0
  let ordered := if isAscending then versions else versions.reverse
  if limit = 0 then ordered else ordered.take limit

/-- The versions of a history that an argument selects. An age is the place in the history. -/
def selected (argument : Json) (history : List Json) : List (Json × Nat) :=
  arranged argument (history.zipIdx.filter fun version => inBounds argument version.2)

/-- What is listed of a history. -/
def selectedJson (id : String) (argument : Json) (history : List Json) : Json :=
  .ofEntries [("data", .arr ((selected argument history).map fun version =>
    versionJson id version.2 version.1))]

theorem toNat_ofNat_of_lt_maxVersions {n : Nat} (h : n < maxVersions) :
    (UInt32.ofNat n).toNat = n :=
  UInt32.toNat_ofNat_of_lt' h

theorem mem_of_mem_arranged {α : Type} {argument : Json} {versions : List α} {version : α}
    (h : version ∈ arranged argument versions) : version ∈ versions := by
  have hordered : version ∈ if ((argument.get? "asc_order").bind Json.asBool?).getD false
      then versions else versions.reverse := by
    unfold arranged at h
    dsimp only at h
    split at h
    · exact h
    · exact List.mem_of_mem_take h
  split at hordered
  · exact hordered
  · exact List.mem_reverse.1 hordered

/-- A version that is selected has its place in the history. -/
theorem lt_length_of_mem_selected {argument : Json} {history : List Json} {version : Json × Nat}
    (h : version ∈ selected argument history) : version.2 < history.length :=
  (List.mem_zipIdx' (List.mem_filter.1 (mem_of_mem_arranged h)).1).1

theorem asStr?_eq_some_iff {j : Json} {text : String} : j.asStr? = some text ↔ j = .str text := by
  cases j <;> simp [Json.asStr?]

theorem dataFor?_eq_some_iff {argument data : Json} {id : String} :
    dataFor? argument id = some data ↔ writeOf argument = .ok (id, data) := by
  rw [writeOf_eq_ok_iff, dataFor?, Option.ite_none_right_eq_some, Option.bind_eq_some_iff]
  simp only [asStr?_eq_some_iff, exists_eq_right]

theorem dataFor?_eq_none {argument : Json} {id : String}
    (h : ∀ data, writeOf argument ≠ .ok (id, data)) : dataFor? argument id = none :=
  Option.eq_none_iff_forall_ne_some.2 fun data hdata => h data (dataFor?_eq_some_iff.1 hdata)

variable {ledger : MemoryLedger} {id : String} {argument : Json} {filter : AssetFilter}

/-- A history grows where the contract writes and nowhere else. -/
theorem history_perform (kind : Kind) (ledger : MemoryLedger) (argument : Json) (id : String) :
    (kind.perform ledger argument).2.history id = ledger.history id ++
      (if kind = .put then dataFor? argument id else none).toList := by
  cases kind with
  | get | scan =>
    rw [if_neg (by decide), Option.toList_none, List.append_nil, Kind.perform]
    split <;> rfl
  | put =>
    rw [if_pos rfl, Kind.perform]
    cases hwrite : writeOf argument with
    | error f =>
      rw [dataFor?_eq_none fun data hdata => nomatch hwrite.symm.trans hdata]
      exact (List.append_nil _).symm
    | ok write =>
      obtain ⟨id', data⟩ := write
      rw [history_put]
      by_cases hid : id = id'
      · rw [if_pos hid, dataFor?_eq_some_iff.2 (hid ▸ hwrite), hid]
        rfl
      · rw [if_neg hid, dataFor?_eq_none fun data' hdata =>
          hid (congrArg Prod.fst (Except.ok.inj (hdata.symm.trans hwrite)))]
        exact (List.append_nil _).symm

/-- Reading an asset returns the last version in its history. -/
theorem reading_get (h : (ledger.history id).length ≤ maxVersions) :
    reading id (ledger.get id) = latest id (ledger.history id) := by
  unfold MemoryLedger.get latest
  dsimp only
  cases hlast : (ledger.history id).getLast? with
  | none => rfl
  | some data =>
    have hne : ledger.history id ≠ [] := by
      intro hnil
      rw [hnil] at hlast
      cases hlast
    have hpos := List.length_pos_iff.2 hne
    dsimp only [reading, Asset.toJson, versionJson]
    rw [toNat_ofNat_of_lt_maxVersions (by omega)]

theorem admits_eq (h : filterOf argument = .ok filter) {age : Nat} (hage : age < maxVersions) :
    filter.admits (UInt32.ofNat age) = inBounds argument age := by
  obtain ⟨-, hstart, hstop, -, -⟩ := filterOf_eq_ok h
  rw [inBounds, bound?, bound?, ← hstart, ← hstop, AssetFilter.admits]
  congr 1
  · cases filter.startAge with
    | none => rfl
    | some start =>
      simp only [Option.map_some, Option.all_some, UInt32.le_iff_toNat_le,
        toNat_ofNat_of_lt_maxVersions hage]
  · cases filter.endAge with
    | none => rfl
    | some stop =>
      simp only [Option.map_some, Option.all_some, UInt32.lt_iff_toNat_lt,
        toNat_ofNat_of_lt_maxVersions hage]

theorem arrange_eq {α : Type} (h : filterOf argument = .ok filter) (versions : List α) :
    filter.arrange versions = arranged argument versions := by
  obtain ⟨-, -, -, hlimit, horder⟩ := filterOf_eq_ok h
  have hzero : filter.limit = 0 ↔ filter.limit.toNat = 0 := UInt32.toNat_inj.symm
  simp only [AssetFilter.arrange, arranged, bound?, ← hlimit, hzero, horder]
  cases ((argument.get? "asc_order").bind Json.asBool?).getD false <;> rfl

/-- Versions that are changed one by one are arranged all the same. -/
theorem arranged_map {α β : Type} (argument : Json) (f : α → β) (versions : List α) :
    arranged argument (versions.map f) = (arranged argument versions).map f := by
  simp only [arranged, apply_ite (List.map f), List.map_take, List.map_reverse]

/-- Listing an asset returns the versions in its history that the argument selects. -/
theorem listing_scan (h : filterOf argument = .ok filter)
    (hlen : (ledger.history filter.id).length ≤ maxVersions) :
    listing (ledger.scan filter) = selectedJson filter.id argument (ledger.history filter.id) := by
  generalize hhistory : ledger.history filter.id = history at hlen ⊢
  have hadmitted :
      (versionsFrom filter.id 0 history).filter (fun asset => filter.admits asset.age) =
      (history.zipIdx.filter fun version => inBounds argument version.2).map
        fun version => ⟨filter.id, UInt32.ofNat version.2, version.1⟩ := by
    rw [versionsFrom_eq_map, List.filter_map]
    -- Ages are compared with 32 bits, which is the same for the places in a history.
    refine congrArg (List.map _) (List.filter_congr fun version hmem => ?_)
    have hlt := (List.mem_zipIdx' hmem).1
    exact admits_eq h (by omega)
  rw [listing, selectedJson, MemoryLedger.scan, hhistory, hadmitted, arrange_eq h, arranged_map,
    List.map_map]
  refine congrArg (fun items => Json.ofEntries [("data", .arr items)]) ?_
  refine List.map_congr_left fun version hmem => ?_
  have hlt : version.2 < history.length := lt_length_of_mem_selected hmem
  dsimp only [Function.comp, Asset.toJson, versionJson]
  rw [toNat_ofNat_of_lt_maxVersions (by omega)]

/-- What a built-in contract returns for an asset with a history. -/
def Kind.returns (id : String) (argument : Json) (history : List Json) : Kind → Option Json
  | .get => some (latest id history)
  | .put => none
  | .scan => some (selectedJson id argument history)

/-- A built-in contract that succeeds was given the name of an asset, and it returns what the
history of this asset tells. -/
theorem returns_of_perform {kind : Kind} {r : Option Json}
    (h : (kind.perform ledger argument).1 = .ok r) :
    ∃ id, argument.get? "asset_id" = some (.str id) ∧
      ((ledger.history id).length ≤ maxVersions →
        r = kind.returns id argument (ledger.history id)) := by
  cases kind with
  | get =>
    obtain ⟨id, hid, rfl⟩ := perform_get_eq_ok h
    exact ⟨id, hid, fun hlen => congrArg some (reading_get hlen)⟩
  | put =>
    unfold Kind.perform at h
    cases hwrite : writeOf argument with
    | error f =>
      rw [hwrite] at h
      cases h
    | ok write =>
      rw [hwrite] at h
      cases h
      exact ⟨write.1, (writeOf_eq_ok_iff.1 hwrite).1, fun _ => rfl⟩
  | scan =>
    obtain ⟨filter, hfilter, rfl⟩ := perform_scan_eq_ok h
    exact ⟨filter.id, (filterOf_eq_ok hfilter).1, fun hlen =>
      congrArg some (listing_scan hfilter hlen)⟩

end BuiltinContract

end ContractEmulator
