import ContractEmulator.Proofs.Ledger.History
import ContractEmulator.Proofs.Replay
import Mathlib.Data.List.Forall2
import Mathlib.Data.List.Intervals

/-!
# The versions of an asset

What a ledger in memory answers about an asset is told by what was put to this asset, oldest first.
Reads and writes to other assets have no part in it.

* `LedgerCall.written`: what some calls put to an asset. `history_replay`: this is its history.
* `Asset.IsVersion`: the version at a place in a history. `forall₂_versionsFrom`: a ledger numbers
  its versions by these places, with 32 bits.
* `AssetFilter.places`: the places that a filter selects. `forall₂_scan`: these are listed.
* `AssetFilter.Lists`: what it means to list a history. `MemoryLedger.Tells`: what is answered about
  an asset with a history. `answers_of_written`: this is what is answered after some calls.
-/

namespace ContractEmulator

/-! ## Writes -/

namespace LedgerCall

/-- What a call puts to an asset. -/
def dataFor? (id : String) : LedgerCall → Option Json
  | .put written data => if written = id then some data else none
  | .get _ | .scan _ => none

/-- What some calls put to an asset, oldest first. -/
def written (id : String) (calls : List LedgerCall) : List Json := calls.filterMap (dataFor? id)

end LedgerCall

open LedgerCall (dataFor? written)

namespace MemoryLedger

variable {id : String}

/-- A call appends to the history of an asset what it puts to it. -/
theorem history_receive (ledger : MemoryLedger) (call : LedgerCall) (id : String) :
    (Ledger.receive ledger call).history id = ledger.history id ++ (dataFor? id call).toList := by
  cases call with
  | get | scan => exact (List.append_nil _).symm
  | put id' data =>
    refine (history_put ledger id' id data).trans ?_
    dsimp only [dataFor?]
    by_cases hid : id = id'
    · rw [if_pos hid, if_pos hid.symm, hid]
      rfl
    · rw [if_neg hid, if_neg (Ne.symm hid)]
      exact (List.append_nil _).symm

theorem history_replay (ledger : MemoryLedger) (calls : List LedgerCall) (id : String) :
    (Ledger.replay ledger calls).history id = ledger.history id ++ written id calls := by
  induction calls generalizing ledger with
  | nil => exact (List.append_nil _).symm
  | cons call calls ih =>
    rw [Ledger.replay, List.foldl_cons, ← Ledger.replay, ih, history_receive, List.append_assoc,
      written, written, List.filterMap_cons]
    cases dataFor? id call <;> rfl

/-- A ledger that was empty holds what was put to it. -/
theorem history_replay_empty (calls : List LedgerCall) (id : String) :
    (Ledger.replay empty calls).history id = written id calls := history_replay empty calls id

end MemoryLedger

/-! ## Ages -/

namespace Asset

open MemoryLedger (maxVersions)

/-- The version at a place in the history of an asset. Its age is the number of the place, with 32
bits. -/
structure IsVersion (asset : Asset) (id : String) (history : List Json) (place : Nat) : Prop where
  id_eq : asset.id = id
  age_eq : asset.age = UInt32.ofNat place
  data_eq : history[place]? = some asset.data

/-- The ages of some versions. -/
def ages (assets : List Asset) : List Nat := assets.map fun asset => asset.age.toNat

variable {asset : Asset} {id : String} {history : List Json} {place : Nat}

theorem IsVersion.lt_length (h : asset.IsVersion id history place) : place < history.length :=
  (List.getElem?_eq_some_iff.1 h.data_eq).1

theorem IsVersion.toNat_age (h : asset.IsVersion id history place) :
    asset.age.toNat = place % maxVersions := by
  rw [h.age_eq]
  rfl

/-- An age tells the place as long as there are no more places than ages. -/
theorem IsVersion.toNat_age_eq (h : asset.IsVersion id history place)
    (hlen : history.length ≤ maxVersions) : asset.age.toNat = place := by
  rw [h.toNat_age, Nat.mod_eq_of_lt (Nat.lt_of_lt_of_le h.lt_length hlen)]

variable {places : List Nat} {assets : List Asset}

theorem exists_isVersion
    (h : List.Forall₂ (fun place asset => IsVersion asset id history place) places assets)
    (hmem : asset ∈ assets) : ∃ place ∈ places, asset.IsVersion id history place := by
  induction h with
  | nil => cases hmem
  | cons hversion _ ih =>
    rcases List.mem_cons.1 hmem with rfl | hrest
    · exact ⟨_, List.mem_cons_self, hversion⟩
    · obtain ⟨place, hplace, hversion⟩ := ih hrest
      exact ⟨place, List.mem_cons_of_mem _ hplace, hversion⟩

/-- The ages of versions are the numbers of their places, with 32 bits. -/
theorem ages_eq_map
    (h : List.Forall₂ (fun place asset => IsVersion asset id history place) places assets) :
    ages assets = places.map (· % maxVersions) := by
  induction h with
  | nil => rfl
  | cons hversion _ ih => exact congrArg₂ List.cons hversion.toNat_age ih

theorem ages_eq
    (h : List.Forall₂ (fun place asset => IsVersion asset id history place) places assets)
    (hlen : history.length ≤ maxVersions) : ages assets = places := by
  induction h with
  | nil => rfl
  | cons hversion _ ih => exact congrArg₂ List.cons (hversion.toNat_age_eq hlen) ih

end Asset

namespace MemoryLedger

/-- The versions of a history stand at its places. -/
theorem forall₂_versionsFrom (id : String) (history : List Json) :
    List.Forall₂ (fun place asset => asset.IsVersion id history place)
      (List.Ico 0 history.length) (versionsFrom id 0 history) := by
  -- The versions that are left stand behind those that were passed.
  have hrest : ∀ passed rest : List Json,
      List.Forall₂ (fun place asset => asset.IsVersion id (passed ++ rest) place)
        (List.range' passed.length rest.length) (versionsFrom id passed.length rest) := by
    intro passed rest
    induction rest generalizing passed with
    | nil => exact .nil
    | cons data rest ih =>
      refine .cons ⟨rfl, rfl, ?_⟩ ?_
      · rw [List.getElem?_append_right (Nat.le_refl _), Nat.sub_self]
        rfl
      · have hnext := ih (passed ++ [data])
        rw [List.append_assoc, List.length_append] at hnext
        exact hnext
  exact hrest [] history

end MemoryLedger

/-! ## Selections -/

namespace AssetFilter

/-- An age lies within the bounds: at or above the start, if there is one, and below the end, if
there is one. -/
structure Spans (filter : AssetFilter) (age : Nat) : Prop where
  start : ∀ start ∈ filter.startAge, start.toNat ≤ age
  stop : ∀ stop ∈ filter.endAge, age < stop.toNat

end AssetFilter

/-- One age is listed before another. -/
def VersionOrder.Before : VersionOrder → Nat → Nat → Prop
  | .ascending, age, age' => age < age'
  | .descending, age, age' => age' < age

/-- Versions with ascending ages, in order. -/
def VersionOrder.inOrder {α : Type} : VersionOrder → List α → List α
  | .ascending, versions => versions
  | .descending, versions => versions.reverse

namespace AssetFilter

/-- The least age within the bounds. -/
def first (filter : AssetFilter) : Nat := (filter.startAge.map UInt32.toNat).getD 0

/-- The first age above the bounds, or above those of a history. -/
def stop (filter : AssetFilter) (length : Nat) : Nat :=
  match filter.endAge with
  | some stop => min length stop.toNat
  | none => length

/-- The places that are selected of a history with some length, as they are listed. -/
def places (filter : AssetFilter) (length : Nat) : List Nat :=
  filter.arrange (List.Ico filter.first (filter.stop length))

/-- Versions of a history are listed as a filter asks. -/
structure Lists (filter : AssetFilter) (history : List Json) (assets : List Asset) : Prop where
  /-- Each of them is the version of its age, as it was put. -/
  version : ∀ asset ∈ assets, asset.id = filter.id ∧ history[asset.age.toNat]? = some asset.data
  within : ∀ age ∈ Asset.ages assets, filter.Spans age
  /-- They come in the order asked for, and so none of them comes twice. -/
  ordered : (Asset.ages assets).Pairwise filter.order.Before
  atMost : filter.limit ≠ 0 → assets.length ≤ filter.limit.toNat
  /-- A version within the bounds is left out only for the limit, and then it would have come after
  all that are listed. -/
  earliest : ∀ age < history.length, filter.Spans age → age ∈ Asset.ages assets ∨
    filter.limit ≠ 0 ∧ assets.length = filter.limit.toNat ∧
      ∀ listed ∈ Asset.ages assets, filter.order.Before listed age

variable {filter : AssetFilter} {length age : Nat}

theorem admits_iff {age : UInt32} : filter.admits age = true ↔ filter.Spans age.toNat := by
  obtain ⟨id, startAge, endAge, limit, order⟩ := filter
  rw [admits, Bool.and_eq_true]
  refine ⟨fun h => ⟨?_, ?_⟩, fun h => ⟨?_, ?_⟩⟩
  · rintro start ⟨⟩
    exact of_decide_eq_true h.1
  · rintro stop ⟨⟩
    exact of_decide_eq_true h.2
  · cases startAge with
    | none => rfl
    | some start => exact decide_eq_true (h.start start rfl)
  · cases endAge with
    | none => rfl
    | some stop => exact decide_eq_true (h.stop stop rfl)

/-- The ages within the bounds are those from the least one on, up to the first that is too high. -/
theorem mem_ico_iff : age ∈ List.Ico filter.first (filter.stop length) ↔
    filter.Spans age ∧ age < length := by
  obtain ⟨id, startAge, endAge, limit, order⟩ := filter
  rw [List.Ico.mem, first, stop]
  constructor
  · rintro ⟨hfirst, hstop⟩
    refine ⟨⟨?_, ?_⟩, ?_⟩
    · rintro start ⟨⟩
      exact hfirst
    · rintro stop ⟨⟩
      exact (Nat.lt_min.1 hstop).2
    · cases endAge with
      | none => exact hstop
      | some stop => exact (Nat.lt_min.1 hstop).1
  · rintro ⟨⟨hstart, hend⟩, hlength⟩
    constructor
    · cases startAge with
      | none => exact Nat.zero_le age
      | some start => exact hstart start rfl
    · cases endAge with
      | none => exact hlength
      | some stop => exact Nat.lt_min.2 ⟨hlength, hend stop rfl⟩

/-- Of the places in a history, those are kept that lie within the bounds. -/
theorem filter_ico [DecidablePred filter.Spans] :
    (List.Ico 0 length).filter (fun place => decide (filter.Spans place)) =
      List.Ico filter.first (filter.stop length) := by
  have hkept := (List.Ico.pairwise_lt 0 length).filter fun place => decide (filter.Spans place)
  have hbetween := List.Ico.pairwise_lt filter.first (filter.stop length)
  have hperm : ((List.Ico 0 length).filter fun place => decide (filter.Spans place)).Perm
      (List.Ico filter.first (filter.stop length)) := by
    refine (List.perm_ext_iff_of_nodup ((List.Ico.nodup _ _).filter _) (List.Ico.nodup _ _)).2 ?_
    intro age
    rw [List.mem_filter, decide_eq_true_iff, mem_ico_iff, List.Ico.mem, and_comm]
    exact and_congr_right fun _ => ⟨fun h => h.2, fun h => ⟨Nat.zero_le age, h⟩⟩
  -- Both are sorted, so they are equal if they have the same members.
  exact hperm.eq_of_pairwise (fun a b _ _ hab hba => absurd hba (Nat.lt_asymm hab)) hkept hbetween

theorem ordered_inOrder {ages : List Nat} (h : ages.Pairwise (· < ·)) (order : VersionOrder) :
    (order.inOrder ages).Pairwise order.Before := by
  cases order with
  | ascending => exact h
  | descending => exact List.pairwise_reverse.2 h

theorem mem_inOrder {α : Type} {order : VersionOrder} {versions : List α} {version : α} :
    version ∈ order.inOrder versions ↔ version ∈ versions := by
  cases order with
  | ascending => exact Iff.rfl
  | descending => exact List.mem_reverse

theorem arrange_eq_inOrder {α : Type} (filter : AssetFilter) (versions : List α) :
    filter.arrange versions =
      if filter.limit = 0 then filter.order.inOrder versions
      else (filter.order.inOrder versions).take filter.limit.toNat := by
  rw [arrange]
  cases filter.order <;> rfl

theorem mem_of_mem_arrange {α : Type} {versions : List α} {version : α}
    (h : version ∈ filter.arrange versions) : version ∈ versions := by
  rw [arrange_eq_inOrder] at h
  split at h
  · exact mem_inOrder.1 h
  · exact mem_inOrder.1 (List.mem_of_mem_take h)

theorem ordered_arrange {ages : List Nat} (h : ages.Pairwise (· < ·)) :
    (filter.arrange ages).Pairwise filter.order.Before := by
  rw [arrange_eq_inOrder]
  split
  · exact ordered_inOrder h filter.order
  · exact (ordered_inOrder h filter.order).sublist (List.take_sublist _ _)

theorem length_arrange_le {α : Type} (h : filter.limit ≠ 0) (versions : List α) :
    (filter.arrange versions).length ≤ filter.limit.toNat := by
  rw [arrange_eq_inOrder, if_neg h]
  exact List.length_take_le _ _

/-- What the limit cuts off would have come after all that is kept. -/
theorem mem_arrange_or {ages : List Nat} (hasc : ages.Pairwise (· < ·)) (hage : age ∈ ages) :
    age ∈ filter.arrange ages ∨
      filter.limit ≠ 0 ∧ (filter.arrange ages).length = filter.limit.toNat ∧
        ∀ listed ∈ filter.arrange ages, filter.order.Before listed age := by
  have hmem : age ∈ filter.order.inOrder ages := mem_inOrder.2 hage
  have hpair := ordered_inOrder hasc filter.order
  rw [arrange_eq_inOrder]
  by_cases hlimit : filter.limit = 0
  · rw [if_pos hlimit]
    exact .inl hmem
  · rw [if_neg hlimit]
    rw [← List.take_append_drop filter.limit.toNat (filter.order.inOrder ages)] at hmem hpair
    refine (List.mem_append.1 hmem).imp_right fun hcut => ⟨hlimit, ?_, ?_⟩
    · have hlong := List.length_pos_of_mem hcut
      rw [List.length_drop] at hlong
      exact List.length_take_of_le (by omega)
    · exact fun listed hlisted => (List.pairwise_append.1 hpair).2.2 listed hlisted age hcut

/-- Two lists whose entries go together are arranged alike. -/
theorem forall₂_arrange {α β : Type} {R : α → β → Prop} {as : List α} {bs : List β}
    (h : List.Forall₂ R as bs) : List.Forall₂ R (filter.arrange as) (filter.arrange bs) := by
  have hordered : List.Forall₂ R (filter.order.inOrder as) (filter.order.inOrder bs) := by
    cases filter.order with
    | ascending => exact h
    | descending => exact List.forall₂_reverse_iff.2 h
  rw [arrange_eq_inOrder, arrange_eq_inOrder]
  split
  · exact hordered
  · exact List.forall₂_take _ hordered

end AssetFilter

/-! ## Answers -/

namespace MemoryLedger

variable {filter : AssetFilter} {ledger ledger' : MemoryLedger} {id : String}

theorem get_congr (h : ledger'.history id = ledger.history id) :
    (Ledger.get ledger' id).1 = (Ledger.get ledger id).1 := by
  show MemoryLedger.get ledger' id = MemoryLedger.get ledger id
  rw [MemoryLedger.get, MemoryLedger.get, h]

theorem scan_congr (h : ledger'.history filter.id = ledger.history filter.id) :
    (Ledger.scan ledger' filter).1 = (Ledger.scan ledger filter).1 := by
  show MemoryLedger.scan ledger' filter = MemoryLedger.scan ledger filter
  rw [MemoryLedger.scan, MemoryLedger.scan, h]

/-- What is read from a ledger is the last version of the history. -/
theorem get_eq_none_iff : (Ledger.get ledger id).1 = none ↔ ledger.history id = [] := by
  show ledger.get id = none ↔ _
  rw [MemoryLedger.get, ← List.getLast?_eq_none_iff]
  cases (ledger.history id).getLast? <;> simp

theorem isVersion_of_get {asset : Asset} (h : (Ledger.get ledger id).1 = some asset) :
    asset.IsVersion id (ledger.history id) ((ledger.history id).length - 1) := by
  have hget : ledger.get id = some asset := h
  unfold MemoryLedger.get at hget
  dsimp only at hget
  split at hget
  · next data hlast =>
    cases hget
    exact ⟨rfl, rfl, List.getLast?_eq_getElem?.symm.trans hlast⟩
  · cases hget

/-- The versions that are listed of a history are those at the places that the filter selects. -/
theorem forall₂_scan (hlen : (ledger.history filter.id).length ≤ maxVersions) :
    List.Forall₂ (fun place asset => asset.IsVersion filter.id (ledger.history filter.id) place)
      (filter.places (ledger.history filter.id).length) (Ledger.scan ledger filter).1 := by
  classical
  refine AssetFilter.forall₂_arrange ?_
  rw [← AssetFilter.filter_ico]
  refine List.rel_filter (fun place asset h => ?_) (forall₂_versionsFrom _ _)
  show decide (filter.Spans place) = true ↔ filter.admits asset.age = true
  rw [decide_eq_true_iff, AssetFilter.admits_iff, h.toNat_age_eq hlen]

/-- A ledger lists the history of an asset as the filter asks. -/
theorem lists_scan (hlen : (ledger.history filter.id).length ≤ maxVersions) :
    filter.Lists (ledger.history filter.id) (Ledger.scan ledger filter).1 := by
  have hscan := forall₂_scan hlen
  have hages := Asset.ages_eq hscan hlen
  have hasc := List.Ico.pairwise_lt filter.first (filter.stop (ledger.history filter.id).length)
  refine ⟨?_, ?_, ?_, ?_, ?_⟩
  · intro asset hmem
    obtain ⟨place, -, hversion⟩ := Asset.exists_isVersion hscan hmem
    rw [hversion.toNat_age_eq hlen]
    exact ⟨hversion.id_eq, hversion.data_eq⟩
  · intro age hage
    rw [hages] at hage
    exact (AssetFilter.mem_ico_iff.1 (AssetFilter.mem_of_mem_arrange hage)).1
  · rw [hages]
    exact AssetFilter.ordered_arrange hasc
  · intro hlimit
    rw [← hscan.length_eq]
    exact AssetFilter.length_arrange_le hlimit _
  · intro age hlength hspans
    rw [hages, ← hscan.length_eq]
    exact AssetFilter.mem_arrange_or hasc (AssetFilter.mem_ico_iff.2 ⟨hspans, hlength⟩)

end MemoryLedger

/-- Bounds between which no version lies select nothing. -/
theorem AssetFilter.Lists.eq_nil {filter : AssetFilter} {history : List Json}
    {assets : List Asset} (h : filter.Lists history assets)
    (hnone : ∀ age < history.length, ¬ filter.Spans age) : assets = [] := by
  refine List.eq_nil_iff_forall_not_mem.2 fun asset hmem => ?_
  have hplace := (List.getElem?_eq_some_iff.1 (h.version asset hmem).2).1
  exact hnone _ hplace (h.within _ (List.mem_map_of_mem hmem))

namespace MemoryLedger

variable {ledger : MemoryLedger} {id : String}

/-- What a ledger answers about an asset with a history. -/
structure Tells (ledger : MemoryLedger) (id : String) (history : List Json) : Prop where
  absent_iff : (Ledger.get ledger id).1 = none ↔ history = []
  /-- What is read is the last version, with its number. -/
  latest : ∀ asset, (Ledger.get ledger id).1 = some asset →
    asset.id = id ∧ asset.age.toNat = history.length - 1 ∧ history.getLast? = some asset.data
  lists : ∀ filter : AssetFilter, filter.id = id →
    filter.Lists history (Ledger.scan ledger filter).1
  /-- Bounds that leave nothing between them select nothing, and neither does a start behind the
  last version. -/
  nothing : ∀ filter : AssetFilter, filter.id = id → ∀ start ∈ filter.startAge,
    (∃ stop ∈ filter.endAge, stop ≤ start) ∨ history.length ≤ start.toNat →
    (Ledger.scan ledger filter).1 = []

/-- A ledger answers about an asset as its history tells. -/
theorem tells (hlen : (ledger.history id).length ≤ maxVersions) :
    ledger.Tells id (ledger.history id) where
  absent_iff := get_eq_none_iff
  latest asset hget := by
    have hversion := isVersion_of_get hget
    exact ⟨hversion.id_eq, hversion.toNat_age_eq hlen,
      List.getLast?_eq_getElem?.trans hversion.data_eq⟩
  lists filter hid := by
    subst hid
    exact lists_scan hlen
  nothing filter hid start hstart hbounds := by
    subst hid
    refine (lists_scan hlen).eq_nil fun age hage hspans => ?_
    have hfirst := hspans.start start hstart
    rcases hbounds with ⟨stop, hstop, hle⟩ | hbehind
    · have hlast := hspans.stop stop hstop
      have hle : stop.toNat ≤ start.toNat := UInt32.le_iff_toNat_le.1 hle
      omega
    · omega

/-- Calls that put the same to an asset leave ledgers that answer the same about it, whatever else
was called. As long as there are no more versions than ages, the answers are what the history of the
asset tells. -/
theorem answers_of_written (calls : List LedgerCall) (id : String) :
    (∀ calls', written id calls' = written id calls →
      (Ledger.get (Ledger.replay empty calls') id).1 =
          (Ledger.get (Ledger.replay empty calls) id).1 ∧
        ∀ filter : AssetFilter, filter.id = id →
          (Ledger.scan (Ledger.replay empty calls') filter).1 =
            (Ledger.scan (Ledger.replay empty calls) filter).1) ∧
      ((written id calls).length ≤ maxVersions →
        (Ledger.replay empty calls).Tells id (written id calls)) := by
  constructor
  · intro calls' hsame
    have hhistory : (Ledger.replay empty calls').history id =
        (Ledger.replay empty calls).history id := by
      rw [history_replay_empty, history_replay_empty, hsame]
    constructor
    · exact get_congr hhistory
    · rintro filter rfl
      exact scan_congr hhistory
  · intro hlen
    rw [← history_replay_empty] at hlen ⊢
    exact tells hlen

/-- A coin is put twice, with other calls in between. -/
def coinCalls : List LedgerCall :=
  [.put "coin" (.int 1), .put "note" (.int 5), .get "coin", .scan (.all "note"),
    .put "coin" (.int 2)]

/-- Only the two coins count. With a limit of one, the later of them is listed. -/
theorem coinCalls_answers : (written "coin" coinCalls).length ≤ maxVersions ∧
    (Ledger.replay empty coinCalls).Tells "coin" [.int 1, .int 2] ∧
    (Ledger.get (Ledger.replay empty coinCalls) "coin").1 =
      (Ledger.get (Ledger.replay empty [.put "coin" (.int 1), .put "coin" (.int 2)]) "coin").1 ∧
    (Ledger.scan (Ledger.replay empty coinCalls) ⟨"coin", none, none, 1, .descending⟩).1 =
      [⟨"coin", 1, .int 2⟩] := by
  have hlen : (written "coin" coinCalls).length ≤ maxVersions := by decide +kernel
  obtain ⟨hsame, -⟩ := answers_of_written [.put "coin" (.int 1), .put "coin" (.int 2)] "coin"
  refine ⟨hlen, (answers_of_written coinCalls "coin").2 hlen, (hsame coinCalls rfl).1, rfl⟩

end MemoryLedger

end ContractEmulator
