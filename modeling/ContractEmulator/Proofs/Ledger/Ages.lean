import ContractEmulator.Proofs.Ledger.Versions

/-!
# Ages as numbers of versions

An age has 32 bits, and a ledger in memory does not look how many versions there are. So ages start
again at zero after `maxVersions` versions.

* `ages_scan_all`: the ages that are listed are the numbers of the versions, cut to 32 bits.
* `MemoryLedger.Counts`: ages count the versions. `counts_iff`: they do so for up to `maxVersions`
  versions and for no more.
* `crowded_not_counts`: one version more, and the latest has the age of the first.
-/

namespace ContractEmulator

open LedgerCall (written)

namespace MemoryLedger

/-- Ages count the versions of an asset with a history. -/
structure Counts (ledger : MemoryLedger) (id : String) (history : List Json) : Prop where
  /-- What is read is the last version, whose age is one less than the number of versions. -/
  latest : ∃ asset, (Ledger.get ledger id).1 = some asset ∧ asset.id = id ∧
    asset.age.toNat = history.length - 1 ∧ history.getLast? = some asset.data
  /-- Without bounds and limit all versions are listed, latest first, each with the number of the
  versions that were put before it. -/
  listed : List.Forall₂
    (fun place asset => asset.id = id ∧ asset.age.toNat = place ∧ history[place]? = some asset.data)
    (List.range history.length) (Ledger.scan ledger (.all id)).1.reverse

variable {filter : AssetFilter} {ledger : MemoryLedger} {id : String} {asset : Asset}

/-- Without bounds and limit the whole history is listed, latest version first. -/
theorem forall₂_scan_all (ledger : MemoryLedger) (id : String) :
    List.Forall₂ (fun place asset => asset.IsVersion id (ledger.history id) place)
      (List.range (ledger.history id).length) (Ledger.scan ledger (.all id)).1.reverse := by
  have hadmits : ∀ asset ∈ versionsFrom id 0 (ledger.history id),
      (AssetFilter.all id).admits asset.age = true := fun _ _ => rfl
  have hall : (Ledger.scan ledger (.all id)).1 = (versionsFrom id 0 (ledger.history id)).reverse :=
    congrArg List.reverse (List.filter_eq_self.2 hadmits)
  rw [hall, List.reverse_reverse, ← List.Ico.zero_bot]
  exact forall₂_versionsFrom id (ledger.history id)

theorem ages_scan_all (ledger : MemoryLedger) (id : String) :
    Asset.ages (Ledger.scan ledger (.all id)).1.reverse =
      (List.range (ledger.history id).length).map (· % maxVersions) :=
  Asset.ages_eq_map (forall₂_scan_all ledger id)

/-- Whatever is listed has an age within the bounds, so it is no version before the start. -/
theorem not_isVersion_of_mem_scan {start : UInt32} {place : Nat} {history : List Json}
    (hstart : start ∈ filter.startAge) (hmem : asset ∈ (Ledger.scan ledger filter).1)
    (hplace : place < start.toNat) : ¬ asset.IsVersion id history place := by
  intro hversion
  have hadmits := (List.mem_filter.1 (AssetFilter.mem_of_mem_arrange hmem)).2
  have hle := (AssetFilter.admits_iff.1 hadmits).start start hstart
  have hsmall : place < maxVersions := Nat.lt_trans hplace start.toNat_lt
  rw [hversion.toNat_age, Nat.mod_eq_of_lt hsmall] at hle
  omega

/-- What is read is the last version, and its age is cut to 32 bits. -/
theorem exists_get (h : ledger.history id ≠ []) :
    ∃ asset, (Ledger.get ledger id).1 = some asset ∧
      asset.IsVersion id (ledger.history id) ((ledger.history id).length - 1) := by
  obtain ⟨asset, hget⟩ := Option.ne_none_iff_exists'.1 (mt get_eq_none_iff.1 h)
  exact ⟨asset, hget, isVersion_of_get hget⟩

/-- Ages count no more versions than there are ages. -/
theorem Counts.length_le {history : List Json} (h : ledger.Counts id history) :
    history.length ≤ maxVersions := by
  obtain ⟨asset, -, -, hage, -⟩ := h.latest
  have hlt : asset.age.toNat < maxVersions := asset.age.toNat_lt
  omega

theorem counts (hne : ledger.history id ≠ [])
    (hlen : (ledger.history id).length ≤ maxVersions) : ledger.Counts id (ledger.history id) where
  latest := by
    obtain ⟨asset, hget, hversion⟩ := exists_get hne
    exact ⟨asset, hget, hversion.id_eq, hversion.toNat_age_eq hlen,
      List.getLast?_eq_getElem?.trans hversion.data_eq⟩
  listed := (forall₂_scan_all ledger id).imp fun place asset hversion =>
    ⟨hversion.id_eq, hversion.toNat_age_eq hlen, hversion.data_eq⟩

/-- The age that is read, and the ages that are listed, are the numbers of the versions cut to 32
bits. So ages count the versions as long as there are no more versions than ages, and not after
that. However many there are, no version is listed that was put before the start. -/
theorem counts_iff (calls : List LedgerCall) (id : String) (hput : written id calls ≠ []) :
    (∃ asset, (Ledger.get (Ledger.replay empty calls) id).1 = some asset ∧
        asset.age.toNat = ((written id calls).length - 1) % maxVersions ∧
        (written id calls).getLast? = some asset.data) ∧
      Asset.ages (Ledger.scan (Ledger.replay empty calls) (.all id)).1.reverse =
        (List.range (written id calls).length).map (· % maxVersions) ∧
      ((Ledger.replay empty calls).Counts id (written id calls) ↔
        (written id calls).length ≤ maxVersions) ∧
      ∀ filter : AssetFilter, ∀ start ∈ filter.startAge,
        ∀ asset ∈ (Ledger.scan (Ledger.replay empty calls) filter).1, ∀ place < start.toNat,
          ¬ asset.IsVersion id (written id calls) place := by
  rw [← history_replay_empty] at hput ⊢
  obtain ⟨asset, hget, hversion⟩ := exists_get hput
  refine ⟨⟨asset, hget, hversion.toNat_age, List.getLast?_eq_getElem?.trans hversion.data_eq⟩,
    ages_scan_all _ id, ⟨Counts.length_le, counts hput⟩, ?_⟩
  intro filter start hstart asset hmem place hplace
  exact not_isVersion_of_mem_scan hstart hmem hplace

/-- Three versions of an asset are counted. -/
theorem threefold_counts :
    written "coin" (List.replicate 3 (.put "coin" .null)) ≠ [] ∧
      (Ledger.replay empty (List.replicate 3 (.put "coin" .null))).Counts "coin"
        (List.replicate 3 .null) := by
  have hput : written "coin" (List.replicate 3 (.put "coin" .null)) ≠ [] := by
    rintro ⟨⟩
  obtain ⟨-, -, hiff, -⟩ := counts_iff (List.replicate 3 (.put "coin" .null)) "coin" hput
  exact ⟨hput, hiff.2 (by decide +kernel)⟩

/-- An asset is put once more than there are ages. -/
def crowdedCalls : List LedgerCall := List.replicate (maxVersions + 1) (.put "coin" .null)

theorem written_crowdedCalls :
    written "coin" crowdedCalls = List.replicate (maxVersions + 1) .null := by
  have hdata : LedgerCall.dataFor? "coin" (.put "coin" .null) = some .null := rfl
  rw [written, crowdedCalls, List.filterMap_replicate_of_some hdata]

/-- The latest version has the age zero, as the first has. -/
theorem crowded_not_counts :
    (∃ asset, (Ledger.get (Ledger.replay empty crowdedCalls) "coin").1 = some asset ∧
        asset.age.toNat = 0) ∧
      ¬ (Ledger.replay empty crowdedCalls).Counts "coin" (written "coin" crowdedCalls) := by
  have hlength : (written "coin" crowdedCalls).length = maxVersions + 1 := by
    rw [written_crowdedCalls, List.length_replicate]
  constructor
  · have hput : (Ledger.replay empty crowdedCalls).history "coin" ≠ [] := by
      rw [history_replay_empty]
      exact List.ne_nil_of_length_eq_add_one hlength
    obtain ⟨asset, hget, hversion⟩ := exists_get hput
    refine ⟨asset, hget, ?_⟩
    rw [hversion.toNat_age, history_replay_empty, hlength, Nat.add_sub_cancel, Nat.mod_self]
  · intro h
    have hle := h.length_le
    omega

end MemoryLedger

end ContractEmulator
