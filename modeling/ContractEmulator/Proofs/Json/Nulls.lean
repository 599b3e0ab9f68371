import ContractEmulator.Json.Record

/-!
# Nulls in a record

A field that may be left out may also be null, and that is the same.

* `Node.eq_null_of_read`, `FieldType.eq_null_of_read`: only the text `null` is read as null.
* `Record.NonNull`: the fields of a record that may be left out hold no null.
  `Record.nonNull_of_readItems`, `Record.nonNull_of_readEntries`: this is so of all that are read.
* `Record.readEntries_null`, `Record.readFrom_null`: a null may be left out, in either form.
-/

namespace ContractEmulator

/-- What is read in sequence is read in each part. -/
theorem ReadError.exists_of_bind_eq_ok {α β : Type} {x : Except ReadError α}
    {next : α → Except ReadError β} {b : β} (h : (x >>= next) = .ok b) :
    ∃ a, x = .ok a ∧ next a = .ok b := by
  cases x with
  | error e => cases h
  | ok a => exact ⟨a, rfl, h⟩

theorem ReadError.ofShape_eq_ok {α : Type} {x : Except ShapeError α} {a : α}
    (h : ofShape x = .ok a) : x = .ok a := by
  cases x with
  | error => cases h
  | ok =>
    cases h
    rfl

/-! ## Null is read from null only -/

theorem NumberLiteral.fractionValue?_ne_null (literal : NumberLiteral) :
    literal.fractionValue? ≠ some .null := by
  unfold fractionValue?
  dsimp only
  split
  · intro h
    obtain ⟨magnitude, -, hsigned⟩ := Option.map_eq_some_iff.1 h
    cases hsigned
  · split
    · split <;> rintro ⟨⟩
    · rintro ⟨⟩

theorem NumberLiteral.value?_ne_null (literal : NumberLiteral) : literal.value? ≠ some .null := by
  have hfraction := literal.fractionValue?_ne_null
  unfold value?
  dsimp only
  split
  · split
    · split
      · rintro ⟨⟩
      · exact hfraction
    · split
      · rintro ⟨⟩
      · exact hfraction
  · exact hfraction

theorem Json.eq_null_of_canonical {j : Json} (h : j.canonical = .null) : j = .null := by
  cases j with
  | null => rfl
  | _ => cases h

theorem Scalar.accept_ne_null (scalar : Scalar) (j : Json) : scalar.accept j ≠ .ok .null := by
  unfold accept
  split
  · rintro ⟨⟩
  · rintro ⟨⟩
  · rintro ⟨⟩
  · split <;> rintro ⟨⟩
  · rintro ⟨⟩

namespace Node

variable {depth : Nat} {n : Node}

theorem eq_null_of_peek (h : n.peek = .ok .null) : n = .null := by
  cases n with
  | null => rfl
  | number literal =>
    dsimp only [peek] at h
    split at h
    · next j hvalue =>
      cases h
      exact absurd hvalue literal.value?_ne_null
    · cases h
  | string text => cases text <;> cases h
  | _ => cases h

/-- Only the text `null` is read as null. -/
theorem eq_null_of_read (h : n.read depth = .ok .null) : n = .null := by
  cases n with
  | seq items closed =>
    rw [read] at h
    split at h
    · cases h
    · split at h
      · cases h
      · split at h <;> cases h
  | map entries closed =>
    rw [read] at h
    split at h
    · cases h
    · split at h
      · cases h
      · split at h <;> cases h
  | null => rfl
  | broken | bool | number | string =>
    rw [read] at h
    exact eq_null_of_peek h

end Node

theorem FieldType.accept_ne_null (names : List String) (name : String) :
    accept names name ≠ .ok .null := by
  unfold accept
  split <;> rintro ⟨⟩

theorem FieldType.readChoice_ne_null (names : List String) (n : Node) :
    readChoice names n ≠ .ok .null := by
  intro h
  unfold readChoice at h
  split at h
  · obtain ⟨key, -, h⟩ := ReadError.exists_of_bind_eq_ok h
    obtain ⟨name, hname, h⟩ := ReadError.exists_of_bind_eq_ok h
    split at h
    · exact accept_ne_null names key (Except.ok.inj h ▸ hname)
    · exact accept_ne_null names key (Except.ok.inj h ▸ hname)
    · obtain ⟨_, -, h⟩ := ReadError.exists_of_bind_eq_ok h
      cases h
  · cases h
  · obtain ⟨j, -, h⟩ := ReadError.exists_of_bind_eq_ok h
    split at h
    · exact accept_ne_null names _ h
    · cases h

/-- No field is read as null, unless it is null in the text. -/
theorem FieldType.eq_null_of_read {depth : Nat} {type : FieldType} {n : Node}
    (h : type.read depth n = .ok .null) : n = .null := by
  cases type with
  | scalar scalar =>
    obtain ⟨j, -, haccept⟩ := ReadError.exists_of_bind_eq_ok h
    exact absurd (ReadError.ofShape_eq_ok haccept) (scalar.accept_ne_null j)
  | bytes =>
    dsimp only [read] at h
    split at h
    · obtain ⟨_, -, h⟩ := ReadError.exists_of_bind_eq_ok h
      obtain ⟨bytes, -, h⟩ := ReadError.exists_of_bind_eq_ok h
      split at h <;> cases h
    · obtain ⟨_, -, h⟩ := ReadError.exists_of_bind_eq_ok h
      cases h
  | choice names => exact absurd h (readChoice_ne_null names n)
  | any =>
    obtain ⟨j, hread, hj⟩ := ReadError.exists_of_bind_eq_ok h
    cases Json.eq_null_of_canonical (Except.ok.inj hj)
    exact Node.eq_null_of_read hread

/-- A field that may be left out holds a value other than null, or none. -/
def Field.NonNull (field : Field) (value : Option Json) : Prop :=
  field.nullable = true → value ≠ some .null

theorem Field.nonNull_none (field : Field) : field.NonNull none := by
  rintro - ⟨⟩

theorem Field.nonNull_of_read {depth : Nat} {field : Field} {n : Node} {value : Option Json}
    (h : field.read depth n = .ok value) : field.NonNull value := by
  rintro hnullable rfl
  unfold read at h
  split at h
  · cases h
  · next n _ _ hn =>
    cases hread : field.type.read depth n with
    | error e =>
      rw [hread] at h
      cases h
    | ok j =>
      rw [hread] at h
      cases h
      exact hn hnullable (FieldType.eq_null_of_read hread)

namespace Record

variable {depth : Nat} {record : Record} {closed : Bool} {values : List (Option Json)}

/-- Fields with their values, of which those that may be left out are not null. -/
inductive NonNull : List Field → List (Option Json) → Prop where
  | nil : NonNull [] []
  | cons {field : Field} {value : Option Json} {fields : List Field} {values : List (Option Json)} :
      field.NonNull value → NonNull fields values → NonNull (field :: fields) (value :: values)

/-- In the array form a field is read from the next item, or it may be missing at the end. -/
theorem readFrom_cons_eq_ok {expected : String} {index : Nat} {field : Field} {fields : List Field}
    {items rest : List Node}
    (h : readFrom depth expected closed index (field :: fields) items = .ok (values, rest)) :
    ∃ value index' items' values', values = value :: values' ∧
      readFrom depth expected closed index' fields items' = .ok (values', rest) ∧
      (items = [] ∧ items' = [] ∧ value = none ∨
        ∃ item, items = item :: items' ∧ field.read depth item = .ok value) := by
  cases items with
  | nil =>
    rw [readFrom] at h
    split at h
    · cases h
    · split at h
      · obtain ⟨⟨values', rest'⟩, hrest, h⟩ := ReadError.exists_of_bind_eq_ok h
        cases h
        exact ⟨none, index, [], values', rfl, hrest, .inl ⟨rfl, rfl, rfl⟩⟩
      · cases h
  | cons item items =>
    obtain ⟨value, hvalue, h⟩ := ReadError.exists_of_bind_eq_ok h
    obtain ⟨⟨values', rest'⟩, hrest, h⟩ := ReadError.exists_of_bind_eq_ok h
    cases h
    exact ⟨value, index + 1, items, values', rfl, hrest, .inr ⟨item, rfl, hvalue⟩⟩

theorem nonNull_of_readFrom {expected : String} {index : Nat} {fields : List Field}
    {items rest : List Node} (h : readFrom depth expected closed index fields items =
      .ok (values, rest)) : NonNull fields values := by
  induction fields generalizing index items values with
  | nil =>
    cases h
    exact .nil
  | cons field fields ih =>
    obtain ⟨value, _, _, _, rfl, hrest, ⟨-, -, rfl⟩ | ⟨_, -, hvalue⟩⟩ := readFrom_cons_eq_ok h
    · exact .cons field.nonNull_none (ih hrest)
    · exact .cons (Field.nonNull_of_read hvalue) (ih hrest)

/-- Collected fields, of which those that may be left out are not null. -/
def FoundNonNull (record : Record) (found : List (String × Option Json)) : Prop :=
  ∀ {key value field}, found.lookup key = some value →
    record.fields.find? (·.name == key) = some field → field.NonNull value

theorem foundNonNull_of_collect {found found' : List (String × Option Json)}
    {entries : List (Option String × Node)} (hfound : record.FoundNonNull found)
    (h : record.collect depth found entries = .ok found') : record.FoundNonNull found' := by
  induction entries generalizing found with
  | nil =>
    cases h
    exact hfound
  | cons entry entries ih =>
    obtain ⟨key?, node⟩ := entry
    obtain ⟨key, -, h⟩ := ReadError.exists_of_bind_eq_ok h
    split at h
    · next field hfield =>
      split at h
      · cases h
      · obtain ⟨value, hvalue, h⟩ := ReadError.exists_of_bind_eq_ok h
        refine ih (fun {key' value' field'} hlookup hfind => ?_) h
        rw [List.lookup_cons] at hlookup
        split at hlookup
        · next hkey =>
          cases hlookup
          rw [eq_of_beq hkey, hfield] at hfind
          cases hfind
          exact Field.nonNull_of_read hvalue
        · exact hfound hlookup hfind
    · split at h
      · exact ih hfound h
      · cases h

/-- What was collected for a field. -/
def collected (found : List (String × Option Json)) (field : Field) :
    Except ReadError (Option Json) :=
  match found.lookup field.name with
  | some value => .ok value
  | none => if field.omissible then .ok none else .error (.shape (.missingField field.name))

theorem arrange_cons (found : List (String × Option Json)) (field : Field) (fields : List Field) :
    arrange found (field :: fields) =
      collected found field >>= fun value =>
        arrange found fields >>= fun values => .ok (value :: values) := by
  rw [arrange, collected]
  cases found.lookup field.name with
  | some value => rfl
  | none => cases field.omissible <;> rfl

/-- Each field of a record is the one that is found under its name. -/
def Named (record : Record) : Prop :=
  ∀ field ∈ record.fields, record.fields.find? (·.name == field.name) = some field

theorem nonNull_of_arrange {found : List (String × Option Json)} {fields : List Field}
    (hfields : ∀ field ∈ fields, record.fields.find? (·.name == field.name) = some field)
    (hfound : record.FoundNonNull found) (h : arrange found fields = .ok values) :
    NonNull fields values := by
  induction fields generalizing values with
  | nil =>
    cases h
    exact .nil
  | cons field fields ih =>
    rw [List.forall_mem_cons] at hfields
    rw [arrange_cons] at h
    obtain ⟨value, hvalue, h⟩ := ReadError.exists_of_bind_eq_ok h
    obtain ⟨values', hvalues, h⟩ := ReadError.exists_of_bind_eq_ok h
    cases h
    refine .cons ?_ (ih hfields.2 hvalues)
    unfold collected at hvalue
    split at hvalue
    · next hlookup =>
      cases hvalue
      exact hfound hlookup hfields.1
    · split at hvalue
      · cases hvalue
        exact field.nonNull_none
      · cases hvalue

theorem nonNull_of_readItems {items rest : List Node}
    (h : record.readItems depth items closed = .ok (values, rest)) :
    NonNull record.fields values := nonNull_of_readFrom h

theorem nonNull_of_readEntries {entries : List (Option String × Node)} (hnamed : record.Named)
    (h : record.readEntries depth entries closed = .ok values) : NonNull record.fields values := by
  obtain ⟨found, hcollect, h⟩ := ReadError.exists_of_bind_eq_ok h
  split at h
  · exact nonNull_of_arrange hnamed (foundNonNull_of_collect (by rintro _ _ _ ⟨⟩) hcollect) h
  · cases h

end Record

/-! ## A null may be left out -/

/-- No entry has this key. -/
def Node.Apart (name : String) (entries : List (Option String × Node)) : Prop :=
  ∀ entry ∈ entries, entry.1 ≠ some name

theorem Node.readItems_null (depth : Nat) (items : List Node) :
    readItems depth (items ++ [.null]) = (readItems depth items).map (· ++ [.null]) := by
  induction items with
  | nil => rfl
  | cons item items ih =>
    rw [List.cons_append, readItems, readItems, ih]
    cases item.read depth with
    | error e => rfl
    | ok value => cases readItems depth items <;> rfl

theorem Field.read_null {field : Field} (h : field.nullable = true) (depth : Nat) :
    field.read depth .null = .ok none := by
  unfold read
  rw [h]

namespace Record

variable {depth : Nat} {record : Record} {name : String}

/-- What was collected with a null under a name, and what was collected without. -/
structure Omits (name : String) (found found' : List (String × Option Json)) : Prop where
  null : found.lookup name = some none
  missing : found'.lookup name = none
  other : ∀ {key}, key ≠ name → found.lookup key = found'.lookup key

theorem Omits.cons {found found' : List (String × Option Json)} (h : Omits name found found')
    {key : String} (hkey : key ≠ name) (value : Option Json) :
    Omits name ((key, value) :: found) ((key, value) :: found') where
  null := by rw [List.lookup_cons, beq_eq_false_iff_ne.2 hkey.symm, h.null]
  missing := by rw [List.lookup_cons, beq_eq_false_iff_ne.2 hkey.symm, h.missing]
  other hne := by rw [List.lookup_cons, List.lookup_cons, h.other hne]

theorem arrange_omits {found found' : List (String × Option Json)} {fields : List Field}
    (h : Omits name found found')
    (hfields : ∀ field ∈ fields, field.name = name → field.omissible = true) :
    arrange found fields = arrange found' fields := by
  induction fields with
  | nil => rfl
  | cons field fields ih =>
    rw [List.forall_mem_cons] at hfields
    have hsame : collected found field = collected found' field := by
      by_cases hname : field.name = name
      · rw [collected, collected, hname, h.null, h.missing, hfields.1 hname]
        rfl
      · rw [collected, collected, h.other hname]
    rw [arrange_cons, arrange_cons, hsame, ih hfields.2]

theorem collect_cons (key : String) (node : Node) (entries : List (Option String × Node))
    (found : List (String × Option Json)) :
    record.collect depth found ((some key, node) :: entries) =
      match record.fields.find? (·.name == key) with
      | some field =>
        if (found.lookup key).isSome then .error (.shape (.duplicateField key))
        else field.read depth node >>= fun value =>
          record.collect depth ((key, value) :: found) entries
      | none =>
        if node.isIntact then record.collect depth found entries else .error .malformed := rfl

variable {α : Type} {g : List (String × Option Json) → Except ReadError α}

/-- An entry makes no difference between two collections that agree on its key. -/
theorem collect_cons_congr {key : String} {node : Node}
    {entries entries' : List (Option String × Node)}
    {found found' : List (String × Option Json)} (hkey : found.lookup key = found'.lookup key)
    (hvalue : ∀ value, record.collect depth ((key, value) :: found) entries >>= g =
      record.collect depth ((key, value) :: found') entries' >>= g)
    (hskip : record.collect depth found entries >>= g =
      record.collect depth found' entries' >>= g) :
    record.collect depth found ((some key, node) :: entries) >>= g =
      record.collect depth found' ((some key, node) :: entries') >>= g := by
  rw [collect_cons, collect_cons, hkey]
  split
  · next field _ =>
    split
    · rfl
    · cases field.read depth node with
      | error e => rfl
      | ok value => exact hvalue value
  · split
    · exact hskip
    · rfl

/-- What is collected with a null makes no difference later. -/
theorem collect_omits (hg : ∀ {found found'}, Omits name found found' → g found = g found')
    {entries : List (Option String × Node)} (hentries : Node.Apart name entries)
    {found found' : List (String × Option Json)} (h : Omits name found found') :
    record.collect depth found entries >>= g = record.collect depth found' entries >>= g := by
  induction entries generalizing found found' with
  | nil => exact hg h
  | cons entry entries ih =>
    obtain ⟨hentry, hrest⟩ := List.forall_mem_cons.1 hentries
    obtain ⟨_ | key, node⟩ := entry
    · rfl
    · have hkey : key ≠ name := fun heq => hentry (congrArg some heq)
      exact collect_cons_congr (h.other hkey) (fun value => ih hrest (h.cons hkey value))
        (ih hrest h)

/-- A null makes no difference to what is collected. -/
theorem collect_null (hg : ∀ {found found'}, Omits name found found' → g found = g found')
    (hfields : ∀ field ∈ record.fields, field.name = name → field.nullable = true)
    {before after : List (Option String × Node)} (hbefore : Node.Apart name before)
    (hafter : Node.Apart name after) {found : List (String × Option Json)}
    (hfound : found.lookup name = none) :
    record.collect depth found (before ++ (some name, .null) :: after) >>= g =
      record.collect depth found (before ++ after) >>= g := by
  induction before generalizing found with
  | nil =>
    rw [List.nil_append, List.nil_append, collect_cons, hfound]
    split
    · next field hfind =>
      have hname := List.find?_some hfind
      rw [Field.read_null (hfields field (List.mem_of_find?_eq_some hfind) (eq_of_beq hname))]
      refine collect_omits hg hafter ⟨?_, hfound, fun hne => ?_⟩
      · rw [List.lookup_cons_self]
      · rw [List.lookup_cons, beq_eq_false_iff_ne.2 hne]
    · rfl
  | cons entry before ih =>
    obtain ⟨hentry, hrest⟩ := List.forall_mem_cons.1 hbefore
    obtain ⟨_ | key, node⟩ := entry
    · rfl
    · have hkey : key ≠ name := fun heq => hentry (congrArg some heq)
      refine collect_cons_congr rfl (fun value => ih hrest ?_) (ih hrest hfound)
      rw [List.lookup_cons, beq_eq_false_iff_ne.2 hkey.symm]
      exact hfound

/-- An entry that is null may be left out, if its field may. -/
theorem readEntries_null (hfields : ∀ field ∈ record.fields, field.name = name →
      field.nullable = true ∧ field.omissible = true)
    {before after : List (Option String × Node)} (hbefore : Node.Apart name before)
    (hafter : Node.Apart name after) (closed : Bool) :
    record.readEntries depth (before ++ (some name, .null) :: after) closed =
      record.readEntries depth (before ++ after) closed := by
  refine collect_null (fun homits => ?_) (fun field hmem hname => (hfields field hmem hname).1)
    hbefore hafter rfl
  rw [arrange_omits homits fun field hmem hname => (hfields field hmem hname).2]

/-- The array form leaves items over only if there are more of them than fields. -/
theorem rest_eq_nil_of_readFrom {expected : String} {closed : Bool} {index : Nat}
    {fields : List Field} {items rest : List Node} {values : List (Option Json)}
    (h : readFrom depth expected closed index fields items = .ok (values, rest))
    (hlength : items.length ≤ fields.length) : rest = [] := by
  induction fields generalizing index items values with
  | nil =>
    cases h
    exact List.eq_nil_of_length_eq_zero (Nat.le_zero.1 hlength)
  | cons field fields ih =>
    obtain ⟨_, _, _, _, -, hrest, ⟨-, rfl, -⟩ | ⟨_, rfl, -⟩⟩ := readFrom_cons_eq_ok h
    · exact ih hrest (Nat.zero_le _)
    · exact ih hrest (Nat.le_of_succ_le_succ hlength)

/-- A null at the end of the array form may be left out, if the last field may. -/
theorem readFrom_null {expected : String} {index : Nat} (fields : List Field) {field : Field}
    {items : List Node} (hnullable : field.nullable = true) (htrailing : field.trailing = true)
    (hlength : items.length = fields.length) :
    readFrom depth expected true index (fields ++ [field]) (items ++ [.null]) =
      readFrom depth expected true index (fields ++ [field]) items := by
  induction fields generalizing index items with
  | nil =>
    obtain rfl := List.eq_nil_of_length_eq_zero hlength
    simp only [List.nil_append, readFrom, Field.read_null hnullable, htrailing]
    rfl
  | cons first fields ih =>
    obtain _ | ⟨item, items⟩ := items
    · cases hlength
    · simp only [List.cons_append, readFrom]
      rw [ih (Nat.succ.inj hlength)]

end Record

end ContractEmulator
