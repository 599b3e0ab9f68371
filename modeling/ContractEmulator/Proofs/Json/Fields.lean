import ContractEmulator.Proofs.Json.Record
import ContractEmulator.Proofs.Json.Text

/-!
# Written records

An object that is written from the fields of a record is read back as these fields.

* `FieldType.Holds`: the values of a type. `FieldType.Holds.read_node`: they are read back.
* `Record.Writes`: the entries that say what the fields of a record are. A field without a value is
  null or left out. `Record.Writes.readEntries_iff`: they are read as these fields.
* `Record.Rearranges`, `Record.Rearranges.ofText_iff`: the texts of the entries may stand in any
  order and between others.
-/

namespace ContractEmulator

/-! ## Values of a type -/

/-- A value without fractions, as contracts are given it: every object is sorted by key. -/
def Json.Plain (j : Json) : Prop := j.Whole ∧ j.canonical = j

/-- The values of a type, as they are written. -/
def FieldType.Holds : FieldType → Json → Prop
  | .scalar s, j => s.accept j = .ok j
  | .bytes, j => ∃ bytes : List UInt8, j = .ofBytes bytes
  | .choice names, j => ∃ name ∈ names, j = .str name
  | .any, j => j.Plain

theorem Scalar.cases_of_accept {scalar : Scalar} {j j' : Json} (h : scalar.accept j = .ok j') :
    (∃ s, j = .str s) ∨ (∃ b, j = .bool b) ∨
      ∃ n, j = .int n ∧ -0x8000000000000000 ≤ n ∧ n < 0x10000000000000000 := by
  unfold accept at h
  split at h
  · exact .inl ⟨_, rfl⟩
  · exact .inl ⟨_, rfl⟩
  · exact .inr (.inl ⟨_, rfl⟩)
  · rename_i type n
    split at h
    · rename_i hrange
      refine .inr (.inr ⟨n, rfl, ?_⟩)
      cases type <;> simp only [IntType.low, IntType.bound] at hrange <;> omega
    · cases h
  · cases h

theorem Scalar.accept_integer {type : IntType} {n : Int} (hlow : type.low ≤ n)
    (hbound : n < type.bound) : (Scalar.integer type).accept (.int n) = .ok (.int n) := by
  rw [accept, if_pos ⟨hlow, hbound⟩]

theorem Scalar.accept_int32 (n : Int32) :
    (Scalar.integer .i32).accept (.int n.toInt) = .ok (.int n.toInt) :=
  accept_integer n.le_toInt n.toInt_lt

theorem Scalar.accept_uint8 (b : UInt8) :
    (Scalar.integer .u8).accept (.int b.toNat) = .ok (.int b.toNat) :=
  accept_integer (Int.natCast_nonneg _) (Int.ofNat_lt.2 b.toNat_lt)

theorem Scalar.accept_uint32 (n : UInt32) :
    (Scalar.integer .u32).accept (.int n.toNat) = .ok (.int n.toNat) :=
  accept_integer (Int.natCast_nonneg _) (Int.ofNat_lt.2 n.toNat_lt)

theorem Scalar.accept_uint64 (n : UInt64) :
    (Scalar.integer .u64).accept (.int n.toNat) = .ok (.int n.toNat) :=
  accept_integer (Int.natCast_nonneg _) (Int.ofNat_lt.2 n.toNat_lt)

theorem Json.whole_ofBytes (bytes : List UInt8) : (Json.ofBytes bytes).Whole := by
  refine .arr fun item hitem => ?_
  obtain ⟨b, -, rfl⟩ := List.mem_map.1 hitem
  have hb := b.toNat_lt
  exact .int (by omega) (by omega)

theorem Json.nesting_ofBytes (bytes : List UInt8) : (Json.ofBytes bytes).nesting = 1 := by
  have hitems : itemsNesting (bytes.map fun b => .int b.toNat) ≤ 0 := by
    refine itemsNesting_le_iff.2 fun item hitem => ?_
    obtain ⟨b, -, rfl⟩ := List.mem_map.1 hitem
    exact Nat.le_refl _
  rw [ofBytes, nesting, Nat.le_zero.1 hitems]

namespace FieldType

variable {type : FieldType} {j : Json}

theorem Holds.whole (h : type.Holds j) : j.Whole := by
  cases type with
  | scalar scalar =>
    obtain ⟨s, rfl⟩ | ⟨b, rfl⟩ | ⟨n, rfl, hlow, hhigh⟩ := Scalar.cases_of_accept h
    · exact .str s
    · exact .bool b
    · exact .int hlow hhigh
  | bytes =>
    obtain ⟨bytes, rfl⟩ := h
    exact Json.whole_ofBytes bytes
  | choice names =>
    obtain ⟨name, -, rfl⟩ := h
    exact .str name
  | any => exact h.1

theorem readBytes_map_node (bytes : List UInt8) :
    readBytes ((bytes.map fun b => Json.int b.toNat).map Json.node) =
      .ok (bytes.map fun b => .int b.toNat) := by
  induction bytes with
  | nil => rfl
  | cons b bytes ih =>
    have hb := b.toNat_lt
    have hpeek : (Json.node (.int b.toNat)).peek = .ok (.int b.toNat) := by
      rw [Json.node_int, Node.peek, NumberLiteral.value?_ofInt (by omega) (by omega)]
    rw [List.map_cons, List.map_cons, readBytes, hpeek, ih]
    simp only [bind, Except.bind, Scalar.accept_uint8, ReadError.ofShape]
    rfl

theorem peek_node_of_accept {scalar : Scalar} (h : scalar.accept j = .ok j) :
    j.node.peek = .ok j := by
  obtain ⟨s, rfl⟩ | ⟨b, rfl⟩ | ⟨n, rfl, hlow, hhigh⟩ := Scalar.cases_of_accept h
  · rw [Json.node_str]; rfl
  · rw [Json.node_bool]; rfl
  · rw [Json.node_int, Node.peek, NumberLiteral.value?_ofInt hlow hhigh]

theorem nesting_of_accept {scalar : Scalar} (h : scalar.accept j = .ok j) : j.nesting = 0 := by
  obtain ⟨s, rfl⟩ | ⟨b, rfl⟩ | ⟨n, rfl, -⟩ := Scalar.cases_of_accept h <;> rfl

/-- A value of the type is read back, if there is room for its containers. -/
theorem Holds.read_node (h : type.Holds j) (depth : Nat) :
    type.read depth j.node = if j.nesting ≤ depth then .ok j else .error .malformed := by
  cases type with
  | scalar scalar =>
    rw [read, peek_node_of_accept h, nesting_of_accept h, if_pos (Nat.zero_le _)]
    simp only [bind, Except.bind, show scalar.accept j = .ok j from h, ReadError.ofShape]
  | bytes =>
    obtain ⟨bytes, rfl⟩ := h
    have hnode : (Json.ofBytes bytes).node =
        .seq ((bytes.map fun b => Json.int b.toNat).map Json.node) true := by
      have hwhole := Json.whole_ofBytes bytes
      cases hwhole with
      | arr hitems => exact Json.Whole.node_arr hitems
    rw [hnode, Json.nesting_ofBytes, read]
    cases depth with
    | zero => rfl
    | succ inner =>
      rw [if_pos (by omega), readBytes_map_node]
      rfl
  | choice names =>
    obtain ⟨name, hname, rfl⟩ := h
    rw [Json.node_str]
    simp [read, readChoice, Node.peek, accept, hname, bind, Except.bind, Json.nesting]
  | any =>
    rw [read, h.1.readsBack depth]
    split
    · simp only [bind, Except.bind, h.2]
      rfl
    · rfl

theorem Holds.node_ne_null (h : type.Holds j) (hj : j ≠ .null) : j.node ≠ .null := by
  intro hnode
  have hread := h.whole.readsBack j.nesting
  rw [hnode, if_pos (Nat.le_refl _)] at hread
  exact hj (Except.ok.inj hread).symm

end FieldType

/-- A value of a field is read back, if there is room for its containers. -/
theorem Field.read_node {field : Field} {j : Json} (h : field.type.Holds j)
    (hnull : field.nullable = true → j ≠ .null) (depth : Nat) :
    field.read depth j.node =
      if j.nesting ≤ depth then .ok (some j) else .error .malformed := by
  have hread : field.read depth j.node = (field.type.read depth j.node).map some := by
    unfold read
    split
    · rename_i hnullable hnode
      exact absurd hnode (h.node_ne_null (hnull hnullable))
    · rfl
  rw [hread, h.read_node depth]
  split <;> rfl

namespace Record

/-! ## Written fields -/

/-- The entries say what the fields are, in order of declaration. -/
inductive Writes : List Field → List (String × Json) → List (Option Json) → Prop where
  | nil : Writes [] [] []
  | value {field : Field} {j : Json} {fields : List Field} {entries : List (String × Json)}
      {values : List (Option Json)} : field.type.Holds j → (field.nullable = true → j ≠ .null) →
      Writes fields entries values →
      Writes (field :: fields) ((field.name, j) :: entries) (some j :: values)
  | null {field : Field} {fields : List Field} {entries : List (String × Json)}
      {values : List (Option Json)} : field.nullable = true → Writes fields entries values →
      Writes (field :: fields) ((field.name, .null) :: entries) (none :: values)
  | missing {field : Field} {fields : List Field} {entries : List (String × Json)}
      {values : List (Option Json)} : field.omissible = true → Writes fields entries values →
      Writes (field :: fields) entries (none :: values)

/-- A value that may be left out is written as null then. -/
theorem Writes.optional {field : Field} {fields : List Field} {entries : List (String × Json)}
    {values : List (Option Json)} {value : Option Json} (hnullable : field.nullable = true)
    (h : ∀ j, value = some j → field.type.Holds j ∧ j ≠ .null)
    (hrest : Writes fields entries values) :
    Writes (field :: fields) ((field.name, .ofOption value) :: entries) (value :: values) := by
  cases value with
  | none => exact .null hnullable hrest
  | some j => exact .value (h j rfl).1 (fun _ => (h j rfl).2) hrest

/-- A value that may be left out, as it comes back: null is no value. -/
def dropNull : Option Json → Option Json
  | some .null => none
  | value => value

theorem ofOption_dropNull (value : Option Json) :
    Json.ofOption (dropNull value) = .ofOption value := by
  unfold dropNull
  split <;> rfl

theorem of_dropNull_eq_some {value : Option Json} {j : Json} (h : dropNull value = some j) :
    value = some j ∧ j ≠ .null := by
  unfold dropNull at h
  split at h
  · cases h
  · rename_i hnull
    refine ⟨h, ?_⟩
    rintro rfl
    exact hnull h

variable {depth : Nat} {record : Record} {fields : List Field} {entries : List (String × Json)}
  {values : List (Option Json)}

theorem Writes.whole (h : Writes fields entries values) : ∀ entry ∈ entries, entry.2.Whole := by
  induction h with
  | nil => exact List.forall_mem_nil _
  | value hholds _ _ ih => exact List.forall_mem_cons.2 ⟨hholds.whole, ih⟩
  | null _ _ ih => exact List.forall_mem_cons.2 ⟨.null, ih⟩
  | missing _ _ ih => exact ih

theorem Writes.exists_field (h : Writes fields entries values) :
    ∀ entry ∈ entries, ∃ field ∈ fields, field.name = entry.1 := by
  induction h with
  | nil => exact List.forall_mem_nil _
  | @value field _ fields _ _ _ _ _ ih | @null field fields _ _ _ _ ih =>
    refine List.forall_mem_cons.2 ⟨⟨field, List.mem_cons_self, rfl⟩, fun entry hentry => ?_⟩
    obtain ⟨other, hother, hname⟩ := ih entry hentry
    exact ⟨other, List.mem_cons_of_mem _ hother, hname⟩
  | missing _ _ ih =>
    intro entry hentry
    obtain ⟨other, hother, hname⟩ := ih entry hentry
    exact ⟨other, List.mem_cons_of_mem _ hother, hname⟩

/-- Nothing is written under a name that no field has. -/
theorem Writes.under_eq_nil (h : Writes fields entries values) {name : String}
    (hname : name ∉ fields.map Field.name) : Node.under name (Json.nodes entries) = [] := by
  refine List.filter_eq_nil_iff.2 fun entry hentry => ?_
  obtain ⟨⟨key, j⟩, hmem, rfl⟩ := List.mem_map.1 hentry
  obtain ⟨field, hfield, hkey⟩ := h.exists_field _ hmem
  have hne : key ≠ name := by
    rintro rfl
    exact hname (List.mem_map.2 ⟨field, hfield, hkey⟩)
  simpa using hne

/-- The entries give what is written, if there is room for it. -/
theorem Writes.gives_iff (h : Writes fields entries values) (hdistinct : Distinct fields)
    {values' : List (Option Json)} :
    List.Forall₂ (Gives depth (Json.nodes entries)) fields values' ↔
      values' = values ∧ ∀ entry ∈ entries, entry.2.nesting ≤ depth := by
  induction h generalizing values' with
  | nil => simp
  | @value field j fields entries values hholds hnull hrest ih =>
    obtain ⟨hname, hfields⟩ := List.nodup_cons.1 hdistinct
    have hnone := hrest.under_eq_nil hname
    rw [Json.nodes_cons, gives_own_cons_iff hname hnone, Field.read_node hholds hnull,
      List.forall_mem_cons]
    simp only [ih hfields]
    constructor
    · rintro ⟨value, rest, hvalue, ⟨rfl, hfits⟩, rfl⟩
      split at hvalue
      · cases hvalue
        exact ⟨rfl, ‹_›, hfits⟩
      · cases hvalue
    · rintro ⟨rfl, hj, hfits⟩
      exact ⟨some j, values, if_pos hj, ⟨rfl, hfits⟩, rfl⟩
  | @null field fields entries values hnullable hrest ih =>
    obtain ⟨hname, hfields⟩ := List.nodup_cons.1 hdistinct
    have hnone := hrest.under_eq_nil hname
    rw [Json.nodes_cons, gives_own_cons_iff hname hnone, Json.node_null,
      Field.read_null hnullable, List.forall_mem_cons]
    simp only [ih hfields]
    constructor
    · rintro ⟨value, rest, hvalue, ⟨rfl, hfits⟩, rfl⟩
      cases hvalue
      exact ⟨rfl, Nat.zero_le _, hfits⟩
    · rintro ⟨rfl, -, hfits⟩
      exact ⟨none, values, rfl, ⟨rfl, hfits⟩, rfl⟩
  | @missing field fields entries values homissible hrest ih =>
    obtain ⟨hname, hfields⟩ := List.nodup_cons.1 hdistinct
    rw [gives_missing_cons_iff homissible (hrest.under_eq_nil hname)]
    simp only [ih hfields]
    constructor
    · rintro ⟨rest, ⟨rfl, hfits⟩, rfl⟩
      exact ⟨rfl, hfits⟩
    · rintro ⟨rfl, hfits⟩
      exact ⟨values, ⟨rfl, hfits⟩, rfl⟩

/-- Every entry that is written stands under the name of a field. -/
theorem Writes.owns (h : Writes record.fields entries values) :
    ∀ entry ∈ Json.nodes entries, record.owns entry = true := by
  intro entry hentry
  obtain ⟨⟨key, j⟩, hmem, rfl⟩ := List.mem_map.1 hentry
  exact owns_iff.2 (h.exists_field _ hmem)

/-- A written object is read as the fields that it was written from. -/
theorem Writes.readEntries_iff (h : Writes record.fields entries values)
    (hdistinct : Distinct record.fields) {values' : List (Option Json)} :
    record.readEntries depth (Json.nodes entries) true = .ok values' ↔
      values' = values ∧ ∀ entry ∈ entries, entry.2.nesting ≤ depth := by
  rw [readEntries_eq_ok_iff (named_of_distinct hdistinct), h.gives_iff hdistinct]
  refine and_iff_right fun entry hentry => ⟨?_, fun hskipped => ?_⟩
  · obtain ⟨⟨key, j⟩, -, rfl⟩ := List.mem_map.1 hentry
    exact ⟨key, rfl⟩
  · rw [h.owns entry hentry] at hskipped
    cases hskipped

/-! ## Texts of objects -/

/-- The tree of a text under a key. -/
def memberNode (member : String × List Char) : Option String × Node :=
  (some member.1, (Document.ofText member.2).root)

theorem map_memberNode (entries : List (String × Json)) :
    (entries.map fun entry => (entry.1, entry.2.compactChars)).map memberNode =
      Json.nodes entries := by
  rw [List.map_map]
  rfl

/-- Texts under keys: those under names of the record are the texts of the entries, in any order.
The others are texts of any values. -/
structure Rearranges (record : Record) (entries : List (String × Json))
    (members : List (String × List Char)) : Prop where
  own : (members.filter fun member => record.owns (memberNode member)).Perm
    (entries.map fun entry => (entry.1, entry.2.compactChars))
  other : ∀ member ∈ members, record.owns (memberNode member) = false →
    ∃ n : Node, n.HasText member.2

theorem Rearranges.refl (h : Writes record.fields entries values) :
    record.Rearranges entries (entries.map fun entry => (entry.1, entry.2.compactChars)) := by
  have howns : ∀ member ∈ entries.map fun entry => (entry.1, entry.2.compactChars),
      record.owns (memberNode member) = true := by
    intro member hmember
    refine h.owns (memberNode member) ?_
    rw [← map_memberNode]
    exact List.mem_map_of_mem hmember
  refine ⟨?_, fun member hmember hskipped => ?_⟩
  · rw [List.filter_eq_self.2 howns]
  · rw [howns member hmember] at hskipped
    cases hskipped

theorem hasText_memberNode {member : String × List Char} {n : Node} (h : n.HasText member.2) :
    (memberNode member).2.HasText member.2 := by
  have hroot : (memberNode member).2 = n := by
    rw [memberNode, show Document.ofText member.2 = ⟨n, true⟩ from h]
  rw [hroot]
  exact h

variable {members : List (String × List Char)}

theorem Rearranges.hasText (h : record.Rearranges entries members)
    (hwrites : Writes record.fields entries values) :
    ∀ member ∈ members, (memberNode member).2.HasText member.2 := by
  intro member hmember
  cases howns : record.owns (memberNode member) with
  | true =>
    have hown := h.own.mem_iff.1 (List.mem_filter.2 ⟨hmember, howns⟩)
    obtain ⟨entry, hentry, rfl⟩ := List.mem_map.1 hown
    exact hasText_memberNode (hwrites.whole entry hentry).hasText
  | false =>
    obtain ⟨n, hn⟩ := h.other member hmember howns
    exact hasText_memberNode hn

theorem Rearranges.readEntries_iff (h : record.Rearranges entries members)
    (hwrites : Writes record.fields entries values) (hdistinct : Distinct record.fields)
    {values' : List (Option Json)} :
    record.readEntries depth (members.map memberNode) true = .ok values' ↔
      values' = values ∧ ∀ entry ∈ entries, entry.2.nesting ≤ depth := by
  have hown : ((members.map memberNode).filter record.owns).Perm
      ((Json.nodes entries).filter record.owns) := by
    rw [List.filter_eq_self.2 hwrites.owns, List.filter_map, ← map_memberNode]
    exact h.own.map memberNode
  have hadmits : ∀ entry ∈ members.map memberNode, record.Admits entry := by
    intro entry hentry
    obtain ⟨member, hmember, rfl⟩ := List.mem_map.1 hentry
    exact ⟨⟨member.1, rfl⟩, fun _ => (h.hasText hwrites member hmember).isIntact⟩
  have hadmits' : ∀ entry ∈ Json.nodes entries, record.Admits entry := by
    intro entry hentry
    obtain ⟨⟨key, j⟩, hmem, rfl⟩ := List.mem_map.1 hentry
    exact ⟨⟨key, rfl⟩, fun _ => (hwrites.whole _ hmem).hasText.isIntact⟩
  rw [readEntries_congr (named_of_distinct hdistinct) hown hadmits hadmits']
  exact hwrites.readEntries_iff hdistinct

variable {α : Type} {build : List (Option Json) → Option α} {a : α}

/-- Whether the text of an object is read as a record depends on its entries. -/
theorem ofText_eq_ok_iff {text : List Char} {entries : List (Option String × Node)}
    (htext : (Node.map entries true).HasText text) : record.ofText build text = .ok a ↔
      ∃ values, record.readEntries 126 entries true = .ok values ∧ build values = some a := by
  have hread : record.read Json.maxDepth (.map entries true) =
      record.readEntries 126 entries true := rfl
  rw [ofText, show Document.ofText text = ⟨.map entries true, true⟩ from htext]
  dsimp only
  rw [hread]
  cases record.readEntries 126 entries true with
  | error e => exact ⟨nofun, fun ⟨_, hvalues, _⟩ => nomatch hvalues⟩
  | ok values =>
    simp only [bind, Except.bind]
    cases hbuild : build values with
    | none =>
      refine ⟨nofun, ?_⟩
      rintro ⟨values', hvalues, ha⟩
      cases hvalues
      rw [hbuild] at ha
      cases ha
    | some a' =>
      constructor
      · intro h
        cases h
        exact ⟨values, rfl, hbuild⟩
      · rintro ⟨values', hvalues, ha⟩
        cases hvalues
        rw [hbuild] at ha
        cases ha
        rfl

/-- The text of a written record is read as this record, in whatever order its entries stand and
between whatever others, unless too many containers stand in one another. -/
theorem Rearranges.ofText_iff (h : record.Rearranges entries members)
    (hwrites : Writes record.fields entries values) (hdistinct : Distinct record.fields)
    (hbuild : build values = some a) {a' : α} :
    record.ofText build (Json.objectText members) = .ok a' ↔
      a' = a ∧ (Json.obj entries).nesting ≤ Json.maxDepth := by
  have hall : List.Forall₂ Node.HasText.Member (members.map memberNode) members := by
    rw [List.forall₂_map_left_iff, List.forall₂_same]
    exact fun member hmember => ⟨rfl, h.hasText hwrites member hmember⟩
  have hnesting : (Json.obj entries).nesting ≤ Json.maxDepth ↔
      ∀ entry ∈ entries, entry.2.nesting ≤ 126 := by
    rw [← Json.entriesNesting_le_iff, Json.nesting, Json.maxDepth]
    omega
  rw [ofText_eq_ok_iff (Node.HasText.map hall), hnesting]
  simp only [h.readEntries_iff hwrites hdistinct]
  constructor
  · rintro ⟨values', ⟨rfl, hfits⟩, ha⟩
    rw [hbuild] at ha
    exact ⟨(Option.some.inj ha).symm, hfits⟩
  · rintro ⟨rfl, hfits⟩
    exact ⟨values, ⟨rfl, hfits⟩, hbuild⟩

end Record

end ContractEmulator
