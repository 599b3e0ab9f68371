import ContractEmulator.Artifact
import ContractEmulator.Identity
import ContractEmulator.Ledger.Basic
import ContractEmulator.Proofs.Json.Fields

/-!
# Stored forms

Identities, contracts, functions and asset versions are stored as objects, and what is read from
such an object is what was stored.

* `Record.Restores`: a stored form is read as a value, also if its entries stand in another order
  and between others. `Record.Writes.restores`: so it is if the entries are those of the fields.
* `Identity.restores`, `Asset.restores`, `FunctionEntry.restores`, `Artifact.restores`: the four
  stored forms. Only null properties of a contract do not come back.
-/

namespace ContractEmulator

namespace Record

variable {α : Type}

/-- The text is read as the value, unless too many of its containers stand in one another. -/
def ReadsAs (ofText : List Char → Except ReadError α) (text : List Char) (nesting : Nat)
    (value : α) : Prop :=
  (nesting ≤ Json.maxDepth → ofText text = .ok value) ∧
    (Json.maxDepth < nesting → ∃ e, ofText text = .error e)

/-- What is stored is read as the value, as it is written and with its entries rearranged. -/
structure Restores (record : Record) (ofText : List Char → Except ReadError α) (stored : Json)
    (value : α) : Prop where
  compact : ReadsAs ofText stored.compactChars stored.nesting value
  rearranged {entries : List (String × Json)} {members : List (String × List Char)} :
    stored = .obj entries → record.Rearranges entries members →
      ReadsAs ofText (Json.objectText members) stored.nesting value

variable {record : Record} {entries : List (String × Json)} {values : List (Option Json)}
  {build : List (Option Json) → Option α} {value : α}

/-- Entries that say what the fields are restore what is built from these. -/
theorem Writes.restores (h : Writes record.fields entries values)
    (hdistinct : Distinct record.fields) (hbuild : build values = some value) :
    record.Restores (record.ofText build) (.obj entries) value := by
  have hreads : ∀ {members : List (String × List Char)}, record.Rearranges entries members →
      ReadsAs (record.ofText build) (Json.objectText members) (Json.obj entries).nesting
        value := by
    intro members hmembers
    have hiff : ∀ a', record.ofText build (Json.objectText members) = .ok a' ↔
        a' = value ∧ (Json.obj entries).nesting ≤ Json.maxDepth := fun _ =>
      hmembers.ofText_iff h hdistinct hbuild
    refine ⟨fun hfits => (hiff value).2 ⟨rfl, hfits⟩, fun hdeep => ?_⟩
    cases hread : record.ofText build (Json.objectText members) with
    | error e => exact ⟨e, rfl⟩
    | ok a' =>
      have hfits := ((hiff a').1 hread).2
      omega
  refine ⟨?_, fun heq hmembers => ?_⟩
  · rw [Json.compactChars_obj]
    exact hreads (Rearranges.refl h)
  · cases heq
    exact hreads hmembers

end Record

/-! ## The four stored forms -/

theorem Json.toBytes?_map (bytes : List UInt8) :
    toBytes? (bytes.map fun b => .int b.toNat) = some bytes := by
  induction bytes with
  | nil => rfl
  | cons b bytes ih => rw [List.map_cons, toBytes?, ih, Int.toNat_natCast, UInt8.ofNat_toNat]; rfl

theorem Identity.restores (identity : Identity) :
    Identity.record.Restores Identity.ofText identity.stored identity := by
  have hwrites : Record.Writes Identity.record.fields _
      [some (.str identity.holderId), some (.int identity.version.toInt)] :=
    .value rfl nofun (.value (Scalar.accept_int32 _) nofun .nil)
  refine hwrites.restores ?_ ?_
  · simp [Record.Distinct, Identity.record, Field.required]
  · simp [Identity.ofFields?]

theorem Asset.restores (asset : Asset) (h : asset.data.Plain) :
    Asset.record.Restores Asset.ofText asset.stored asset := by
  have hwrites : Record.Writes Asset.record.fields _
      [some (.str asset.id), some (.int asset.age.toNat), some asset.data] :=
    .value rfl nofun (.value (Scalar.accept_uint32 _) nofun (.value h nofun .nil))
  refine hwrites.restores ?_ ?_
  · simp [Record.Distinct, Asset.record, Field.required]
  · simp [Asset.ofFields?]

theorem FunctionEntry.restores (entry : FunctionEntry) :
    FunctionEntry.record.Restores FunctionEntry.ofText entry.stored entry := by
  have hwrites : Record.Writes FunctionEntry.record.fields _
      [some (.str entry.id), some (.str entry.binaryName), some (.ofBytes entry.code),
        some (.int entry.registeredAt.toNat)] :=
    .value rfl nofun (.value rfl nofun (.value ⟨_, rfl⟩ nofun
      (.value (Scalar.accept_uint64 _) nofun .nil)))
  refine hwrites.restores ?_ ?_
  · simp [Record.Distinct, FunctionEntry.record, Field.required]
  · simp [FunctionEntry.ofFields?, Json.ofBytes, Json.toBytes?_map]

namespace Artifact

/-- The contract that comes back: null properties are no properties. -/
def restored (artifact : Artifact) : Artifact :=
  { artifact with properties := Record.dropNull artifact.properties }

theorem restored_eq_self_iff (artifact : Artifact) :
    artifact.restored = artifact ↔ artifact.properties ≠ some .null := by
  obtain ⟨id, binaryName, code, holderId, certVersion, properties, registeredAt, signature⟩ :=
    artifact
  constructor
  · rintro h rfl
    exact absurd (congrArg Artifact.properties h) (by simp [restored, Record.dropNull])
  · intro h
    have hproperties : Record.dropNull properties = properties := by
      unfold Record.dropNull
      split
      · exact absurd rfl h
      · rfl
    rw [restored, hproperties]

theorem restores (artifact : Artifact) (h : ∀ j, artifact.properties = some j → j.Plain) :
    record.Restores ofText artifact.stored artifact.restored := by
  have hstored : artifact.stored = artifact.restored.stored := by
    rw [stored, stored, restored, Record.ofOption_dropNull]
  rw [hstored]
  have hrest : Record.Writes [.required "registered_at" (.scalar (.integer .u64)),
      .required "signature" .bytes] _
      [some (.int artifact.registeredAt.toNat), some (.ofBytes artifact.signature)] :=
    .value (Scalar.accept_uint64 _) nofun (.value ⟨_, rfl⟩ nofun .nil)
  have hproperties : ∀ j, Record.dropNull artifact.properties = some j →
      FieldType.any.Holds j ∧ j ≠ .null := by
    intro j hj
    obtain ⟨hsome, hne⟩ := Record.of_dropNull_eq_some hj
    exact ⟨h j hsome, hne⟩
  have hwrites : Record.Writes record.fields _
      (some (.str artifact.id) :: some (.str artifact.binaryName) ::
        some (.ofBytes artifact.code) :: some (.str artifact.holderId) ::
        some (.int artifact.certVersion.toInt) :: _) :=
    .value rfl nofun (.value rfl nofun (.value ⟨_, rfl⟩ nofun (.value rfl nofun
      (.value (Scalar.accept_int32 _) nofun (hrest.optional rfl hproperties)))))
  refine hwrites.restores ?_ ?_
  · simp [Record.Distinct, record, Field.required]
  · simp [ofFields?, Json.ofBytes, Json.toBytes?_map, restored]

end Artifact

/-- What is stored comes back, as it is written and with its entries in any order and between
others: identities and functions always, contracts and asset versions unless their texts nest too
deep. Only a contract with null properties comes back as another one, which has no properties. -/
theorem stored_forms_restored :
    (∀ identity : Identity, identity.stored.nesting ≤ Json.maxDepth ∧
      Identity.record.Restores Identity.ofText identity.stored identity) ∧
    (∀ entry : FunctionEntry, entry.stored.nesting ≤ Json.maxDepth ∧
      FunctionEntry.record.Restores FunctionEntry.ofText entry.stored entry) ∧
    (∀ asset : Asset, asset.data.Plain →
      Asset.record.Restores Asset.ofText asset.stored asset) ∧
    ∀ artifact : Artifact, (∀ j, artifact.properties = some j → j.Plain) →
      Artifact.record.Restores Artifact.ofText artifact.stored artifact.restored ∧
      (artifact.restored = artifact ↔ artifact.properties ≠ some .null) ∧
      (artifact.properties = some .null →
        artifact.restored = { artifact with properties := none }) := by
  refine ⟨fun identity => ⟨?_, identity.restores⟩, fun entry => ⟨?_, entry.restores⟩,
    Asset.restores, fun artifact h => ⟨artifact.restores h, artifact.restored_eq_self_iff, ?_⟩⟩
  · simp [Identity.stored, Json.nesting, Json.entriesNesting, Json.maxDepth]
  · simp [FunctionEntry.stored, Json.nesting, Json.entriesNesting, Json.nesting_ofBytes,
      Json.maxDepth]
  · intro hnull
    rw [Artifact.restored, hnull]
    rfl

/-- A contract with properties that need every kind of care. -/
def fragileArtifact : Artifact where
  id := "a \"quoted\" id\n"
  binaryName := "éléphant"
  code := [0x00, 0xFF]
  holderId := "\x07"
  certVersion := -2147483648
  properties := some (.obj [("deep", .arr [.arr [], .obj [], .null, .bool true]),
    ("high", .int 0xFFFFFFFFFFFFFFFF), ("low", .int (-0x8000000000000000))])
  registeredAt := 0xFFFFFFFFFFFFFFFF
  signature := []

theorem fragileArtifact_plain : ∀ j, fragileArtifact.properties = some j → j.Plain := by
  intro j hj
  cases hj
  constructor
  · refine .obj ?_
    simp only [List.forall_mem_cons]
    refine ⟨.arr ?_, .int (by decide) (by decide), .int (by decide) (by decide),
      List.forall_mem_nil _⟩
    simp only [List.forall_mem_cons]
    exact ⟨.arr (List.forall_mem_nil _), .obj (List.forall_mem_nil _), .null, .bool true,
      List.forall_mem_nil _⟩
  · rfl

/-- The texts of its entries from the last to the first, after one under another name. -/
def fragileMembers : List (String × List Char) :=
  ("extra", "[1.5e3, \x7b\"id\": null\x7d]".toList) ::
    match fragileArtifact.stored with
    | .obj entries => (entries.map fun entry => (entry.1, entry.2.compactChars)).reverse
    | _ => []

theorem fragile_stored_forms_restored :
    Artifact.ofText fragileArtifact.stored.compactChars = .ok fragileArtifact ∧
    Artifact.ofText (Json.objectText fragileMembers) = .ok fragileArtifact ∧
    Asset.ofText (Asset.stored ⟨"a", 7, .null⟩).compactChars = .ok ⟨"a", 7, .null⟩ := by
  obtain ⟨-, -, hasset, hartifact⟩ := stored_forms_restored
  obtain ⟨hrestores, hsame, -⟩ := hartifact fragileArtifact fragileArtifact_plain
  have hself : fragileArtifact.restored = fragileArtifact := hsame.2 nofun
  rw [hself] at hrestores
  have howns : ∀ member ∈ fragileMembers.tail,
      Artifact.record.owns (Record.memberNode member) = true := by
    simp [fragileMembers, Artifact.stored, Record.owns, Record.memberNode, Artifact.record,
      Field.required]
  refine ⟨hrestores.compact.1 (by decide), ?_, ?_⟩
  · refine (hrestores.rearranged rfl ⟨?_, ?_⟩).1 (by decide)
    · have hfilter : fragileMembers.filter (fun member =>
          Artifact.record.owns (Record.memberNode member)) = fragileMembers.tail :=
        (List.filter_cons_of_neg (by decide)).trans (List.filter_eq_self.2 howns)
      rw [hfilter]
      exact List.reverse_perm (List.map _ _)
    · intro member hmember hskipped
      rcases List.mem_cons.1 hmember with rfl | hrest
      · exact ⟨_, .of_ends (by decide +kernel)⟩
      · rw [howns member hrest] at hskipped
        cases hskipped
  · exact (hasset ⟨"a", 7, .null⟩ ⟨.null, rfl⟩).compact.1 (by decide)

end ContractEmulator
