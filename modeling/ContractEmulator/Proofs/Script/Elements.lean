import ContractEmulator.Proofs.Json.Record
import ContractEmulator.Proofs.Script.Loading

/-!
# Elements of a script

An element that is an object names its command under one key. What step it is depends on what it
says about the fields of this command.

* `Step.Names`: an object that names a command. `Step.Names.read_eq_ok_iff`: the steps that such an
  object can be.
* `Step.ReadAlike`: two elements are the same step, or neither is one. `Step.Names.readAlike`: so
  are two objects with the same entries for the fields of their command.
* `Step.readAlike_seq`: an array says the same as an object with its items under the names of the
  fields.
-/

namespace ContractEmulator

/-! ## Values without fault -/

namespace Node

mutual

/-- What is read as a value holds no fault. -/
theorem isIntact_of_read {depth : Nat} {j : Json} :
    (n : Node) → n.read depth = .ok j → n.isIntact = true
  | .broken, h => nomatch h
  | .null, _ => rfl
  | .bool _, _ => rfl
  | .number _, _ => rfl
  | .string _, _ => rfl
  | .seq items closed, h => by
    rw [read] at h
    split at h
    · cases h
    · split at h
      · cases h
      · rename_i hitems
        cases closed with
        | false => cases h
        | true => rw [isIntact, areIntact_of_readItems items hitems, Bool.and_self]
  | .map entries closed, h => by
    rw [read] at h
    split at h
    · cases h
    · split at h
      · cases h
      · rename_i hentries
        cases closed with
        | false => cases h
        | true => rw [isIntact, entriesIntact_of_readEntries entries hentries, Bool.and_self]

theorem areIntact_of_readItems {depth : Nat} {values : List Json} :
    (items : List Node) → readItems depth items = .ok values → areIntact items = true
  | [], _ => rfl
  | item :: items, h => by
    rw [readItems] at h
    split at h
    · cases h
    · rename_i hitem
      split at h
      · cases h
      · rename_i hitems
        rw [areIntact, isIntact_of_read item hitem, areIntact_of_readItems items hitems,
          Bool.and_self]

theorem entriesIntact_of_readEntries {depth : Nat} {values : List (String × Json)} :
    (entries : List (Option String × Node)) → readEntries depth entries = .ok values →
      entriesIntact entries = true
  | [], _ => rfl
  | (key, n) :: entries, h => by
    rw [readEntries] at h
    split at h
    · cases h
    · split at h
      · cases h
      · rename_i hvalue
        split at h
        · cases h
        · rename_i hentries
          rw [entriesIntact, isIntact_of_read n hvalue,
            entriesIntact_of_readEntries entries hentries, Bool.and_self]

end

/-- The entry is read as a value under a key. -/
def Readable (depth : Nat) (entry : Option String × Node) : Prop :=
  ∃ key j, entry.1 = some key ∧ entry.2.read depth = .ok j

theorem exists_readItems {depth : Nat} {items : List Node}
    (h : ∀ item ∈ items, ∃ j, item.read depth = .ok j) :
    ∃ values, readItems depth items = .ok values := by
  induction items with
  | nil => exact ⟨[], rfl⟩
  | cons item items ih =>
    obtain ⟨⟨j, hj⟩, hitems⟩ := List.forall_mem_cons.1 h
    obtain ⟨values, hvalues⟩ := ih hitems
    exact ⟨j :: values, by rw [readItems, hj, hvalues]⟩

end Node

namespace Step

variable {depth : Nat} {command : Command} {entries entries' : List (Option String × Node)}

/-! ## Objects -/

/-- An object of values, with room for `depth` containers in each, of which one names the
command. -/
structure Names (depth : Nat) (command : Command) (entries : List (Option String × Node)) :
    Prop where
  command : ∃ node, Node.under commandKey entries = [(some commandKey, node)] ∧
    readCommand node = .ok command
  readable : ∀ entry ∈ entries, Node.Readable depth entry

/-- The entries that do not name a command. -/
def others (entries : List (Option String × Node)) : List (Option String × Node) :=
  entries.filter fun entry => entry.1 != some commandKey

theorem takeCommand_of_found (found : Command)
    (hreadable : ∀ entry ∈ entries, Node.Readable depth entry)
    (hnone : Node.under commandKey entries = []) :
    takeCommand depth (some found) entries = .ok (some found, others entries) := by
  induction entries with
  | nil => rfl
  | cons entry entries ih =>
    obtain ⟨⟨key, j, hkey, hj⟩, hrest⟩ := List.forall_mem_cons.1 hreadable
    obtain ⟨_, node⟩ := entry
    obtain rfl : _ = some key := hkey
    have hne : key ≠ commandKey := by
      rintro rfl
      rw [Node.under_cons_self] at hnone
      cases hnone
    rw [Node.under_cons_of_ne hne] at hnone
    have hothers : others ((some key, node) :: entries) = (some key, node) :: others entries :=
      List.filter_cons_of_pos (by simpa using hne)
    rw [takeCommand_cons, if_neg hne, ih hrest hnone, hothers]
    simp only [bind, Except.bind, show node.read depth = .ok j from hj]

theorem takeCommand_of_names {node : Node}
    (hreadable : ∀ entry ∈ entries, Node.Readable depth entry)
    (hunder : Node.under commandKey entries = [(some commandKey, node)])
    (hcommand : readCommand node = .ok command) :
    takeCommand depth none entries = .ok (some command, others entries) := by
  induction entries with
  | nil => cases hunder
  | cons entry entries ih =>
    obtain ⟨⟨key, j, hkey, hj⟩, hrest⟩ := List.forall_mem_cons.1 hreadable
    obtain ⟨_, first⟩ := entry
    obtain rfl : _ = some key := hkey
    by_cases hname : key = commandKey
    · subst hname
      rw [Node.under_cons_self] at hunder
      obtain ⟨hfirst, hnone⟩ := List.cons.inj hunder
      obtain rfl : first = node := congrArg Prod.snd hfirst
      have hothers : others ((some commandKey, first) :: entries) = others entries :=
        List.filter_cons_of_neg (by simp)
      -- From here on the command is known, and no other entry may name one.
      rw [takeCommand_cons, if_pos rfl, hcommand, hothers]
      exact takeCommand_of_found command hrest hnone
    · rw [Node.under_cons_of_ne hname] at hunder
      have hothers : others ((some key, first) :: entries) = (some key, first) :: others entries :=
        List.filter_cons_of_pos (by simpa using hname)
      rw [takeCommand_cons, if_neg hname, ih hrest hunder, hothers]
      simp only [bind, Except.bind, show first.read depth = .ok j from hj]

theorem commandKey_notMem (command : Command) :
    commandKey ∉ command.record.fields.map Field.name := by
  cases command <;> decide

/-- The entry that names the command is for none of its fields. -/
theorem filter_owns_others (command : Command) (entries : List (Option String × Node)) :
    (others entries).filter command.record.owns = entries.filter command.record.owns := by
  rw [others, List.filter_filter]
  refine List.filter_congr fun entry _ => ?_
  cases howns : command.record.owns entry with
  | false => rfl
  | true =>
    obtain ⟨field, hfield, hname⟩ := List.any_eq_true.1 howns
    have hne : field.name ≠ commandKey := by
      intro heq
      exact commandKey_notMem command (heq ▸ List.mem_map_of_mem hfield)
    rw [Bool.true_and, eq_of_beq hname]
    simpa using hne

theorem build_eq_ok_iff {values : List (Option Json)} {step : Step} :
    build command values = .ok step ↔ ofFields? command values = some step := by
  unfold build
  cases ofFields? command values <;> simp

/-- An object is the step of its command that it gives fields for. -/
theorem Names.read_eq_ok_iff (h : Names depth command entries) {step : Step} :
    read (depth + 1) (.map entries true) = .ok step ↔
      ∃ values, List.Forall₂ (Record.Gives depth entries) command.record.fields values ∧
        ofFields? command values = some step := by
  obtain ⟨node, hunder, hcommand⟩ := h.command
  have hread : read (depth + 1) (.map entries true) =
      command.record.readEntries depth (others entries) true >>= build command := by
    dsimp only [read, ReadError.enter, bind, Except.bind]
    rw [takeCommand_of_names h.readable hunder hcommand]
    rfl
  have hadmits : ∀ entry ∈ others entries, command.record.Admits entry := by
    intro entry hentry
    obtain ⟨key, j, hkey, hj⟩ := h.readable entry (List.mem_filter.1 hentry).1
    exact ⟨⟨key, hkey⟩, fun _ => Node.isIntact_of_read entry.2 hj⟩
  have hgives : ∀ values, command.record.readEntries depth (others entries) true = .ok values ↔
      List.Forall₂ (Record.Gives depth entries) command.record.fields values := by
    intro values
    have hsame := filter_owns_others command entries
    rw [Record.readEntries_eq_ok_iff command.named_record, and_iff_right hadmits,
      Record.forall₂_gives_congr (List.Perm.of_eq hsame)]
  rw [hread]
  constructor
  · intro hstep
    obtain ⟨values, hvalues, hbuild⟩ := ReadError.exists_of_bind_eq_ok hstep
    exact ⟨values, (hgives values).1 hvalues, build_eq_ok_iff.1 hbuild⟩
  · rintro ⟨values, hvalues, hbuild⟩
    rw [(hgives values).2 hvalues]
    exact build_eq_ok_iff.2 hbuild

/-- Two elements of a script are the same step, or neither is a step. -/
def ReadAlike (depth : Nat) (n n' : Node) : Prop :=
  ∀ step, read depth n = .ok step ↔ read depth n' = .ok step

/-- Objects with the same entries for the fields of their command are the same step, in whatever
order the entries stand, and whatever other entries there are. -/
theorem Names.readAlike (h : Names depth command entries) (h' : Names depth command entries')
    (hperm : (entries.filter command.record.owns).Perm (entries'.filter command.record.owns)) :
    ReadAlike (depth + 1) (.map entries true) (.map entries' true) := by
  intro step
  rw [h.read_eq_ok_iff, h'.read_eq_ok_iff]
  refine exists_congr fun values => and_congr_left fun _ => ?_
  exact Record.forall₂_gives_congr hperm

/-! ## Arrays -/

/-- Items under the names of the fields. -/
def named : List Field → List Node → List (Option String × Node)
  | field :: fields, item :: items => (some field.name, item) :: named fields items
  | _, _ => []

theorem named_nil (fields : List Field) : named fields [] = [] := by
  cases fields <;> rfl

theorem exists_field_of_mem_named {fields : List Field} {items : List Node} :
    ∀ entry ∈ named fields items, ∃ field ∈ fields, entry.1 = some field.name := by
  induction fields generalizing items with
  | nil => exact List.forall_mem_nil _
  | cons field fields ih =>
    cases items with
    | nil => exact List.forall_mem_nil _
    | cons item items =>
      refine List.forall_mem_cons.2 ⟨⟨field, List.mem_cons_self, rfl⟩, fun entry hentry => ?_⟩
      obtain ⟨other, hother, hname⟩ := ih entry hentry
      exact ⟨other, List.mem_cons_of_mem _ hother, hname⟩

theorem under_named_eq_nil {fields : List Field} {name : String}
    (hname : name ∉ fields.map Field.name) (items : List Node) :
    Node.under name (named fields items) = [] := by
  refine List.filter_eq_nil_iff.2 fun entry hentry => ?_
  obtain ⟨field, hfield, heq⟩ := exists_field_of_mem_named entry hentry
  have hne : field.name ≠ name := by
    rintro rfl
    exact hname (List.mem_map_of_mem hfield)
  simpa [heq] using hne

theorem prepend_eq_ok_iff {read : Except ReadError (List (Option Json) × List Node)}
    {value : Option Json} {values : List (Option Json)} :
    (read >>= fun found => .ok (value :: found.1, found.2)) = .ok (values, []) ↔
      ∃ rest, read = .ok (rest, []) ∧ values = value :: rest := by
  constructor
  · intro h
    obtain ⟨⟨rest, extra⟩, hread, h⟩ := ReadError.exists_of_bind_eq_ok h
    cases h
    exact ⟨rest, hread, rfl⟩
  · rintro ⟨rest, rfl, rfl⟩
    rfl

/-- The array form gives what its items give under the names of the fields. -/
theorem readFrom_eq_ok_iff {expected : String} {index : Nat} {fields : List Field}
    {items : List Node} (hdistinct : Record.Distinct fields)
    (htrailing : ∀ field ∈ fields, field.trailing = field.omissible)
    (hlength : items.length ≤ fields.length) {values : List (Option Json)} :
    Record.readFrom depth expected true index fields items = .ok (values, []) ↔
      List.Forall₂ (Record.Gives depth (named fields items)) fields values := by
  induction fields generalizing index items values with
  | nil =>
    obtain rfl := List.eq_nil_of_length_eq_zero (Nat.le_zero.1 hlength)
    rw [List.forall₂_nil_left_iff, Record.readFrom]
    simp [eq_comm]
  | cons field fields ih =>
    obtain ⟨hfield, htrailing⟩ := List.forall_mem_cons.1 htrailing
    obtain ⟨hname, hdistinct⟩ := List.nodup_cons.1 hdistinct
    cases items with
    | nil =>
      -- After the last item all fields are left out, and this one has to allow it.
      have hih : ∀ {values}, Record.readFrom depth expected true index fields [] =
          .ok (values, []) ↔ List.Forall₂ (Record.Gives depth []) fields values := by
        intro values
        rw [ih hdistinct htrailing (Nat.zero_le _), named_nil]
      cases homissible : field.omissible with
      | true =>
        have hread : Record.readFrom depth expected true index (field :: fields) [] =
            Record.readFrom depth expected true index fields [] >>= fun found =>
              .ok (none :: found.1, found.2) := by
          rw [Record.readFrom, hfield, homissible]
          rfl
        rw [hread, prepend_eq_ok_iff, named_nil, Record.gives_missing_cons_iff homissible rfl]
        simp only [hih]
      | false =>
        constructor
        · intro h
          rw [Record.readFrom, hfield, homissible] at h
          cases h
        · rintro (_ | ⟨⟨htrue, -⟩ | ⟨hentry, -⟩, -⟩)
          · rw [homissible] at htrue
            cases htrue
          · cases hentry
    | cons item items =>
      have hread : Record.readFrom depth expected true index (field :: fields) (item :: items) =
          field.read depth item >>= fun value =>
            Record.readFrom depth expected true (index + 1) fields items >>= fun found =>
              .ok (value :: found.1, found.2) := rfl
      have htail : ∀ {values}, Record.readFrom depth expected true (index + 1) fields items =
          .ok (values, []) ↔
            List.Forall₂ (Record.Gives depth (named fields items)) fields values :=
        ih hdistinct htrailing (Nat.le_of_succ_le_succ hlength)
      rw [hread, named, Record.gives_own_cons_iff hname (under_named_eq_nil hname items)]
      constructor
      · intro h
        obtain ⟨value, hvalue, h⟩ := ReadError.exists_of_bind_eq_ok h
        obtain ⟨rest, hrest, rfl⟩ := prepend_eq_ok_iff.1 h
        exact ⟨value, rest, hvalue, htail.1 hrest, rfl⟩
      · rintro ⟨value, rest, hvalue, hrest, rfl⟩
        rw [hvalue]
        exact prepend_eq_ok_iff.2 ⟨rest, htail.2 hrest, rfl⟩

theorem distinct_fields (command : Command) : Record.Distinct command.record.fields := by
  cases command <;> simp [Record.Distinct, Command.record, Field.required, Field.optional,
    Field.defaulted]

theorem trailing_eq_omissible {field : Field} (hfield : field ∈ command.record.fields) :
    field.trailing = field.omissible := by
  have hall : ∀ field ∈ command.record.fields, field.trailing = field.omissible := by
    cases command <;> decide
  exact hall field hfield

variable {first : Node} {items : List Node} {step : Step}

/-- The name of a command is a value. -/
theorem exists_read_of_readCommand (hcommand : readCommand first = .ok command) :
    ∃ j, first.read depth = .ok j := by
  obtain ⟨j, hpeek, h⟩ := ReadError.exists_of_bind_eq_ok hcommand
  cases first with
  | seq | map =>
    cases hpeek
    cases h
  | _ => exact ⟨j, hpeek⟩

theorem names_named (hcommand : readCommand first = .ok command)
    (hreadable : ∀ item ∈ items, ∃ j, item.read depth = .ok j) :
    Names depth command ((some commandKey, first) :: named command.record.fields items) where
  command :=
    ⟨first, by rw [Node.under_cons_self, under_named_eq_nil (commandKey_notMem command)], hcommand⟩
  readable := by
    have hnamed : ∀ (fields : List Field) (items : List Node),
        (∀ item ∈ items, ∃ j, item.read depth = .ok j) →
        ∀ entry ∈ named fields items, Node.Readable depth entry := by
      intro fields
      induction fields with
      | nil => exact fun _ _ => List.forall_mem_nil _
      | cons field fields ih =>
        rintro (_ | ⟨item, items⟩) h
        · exact List.forall_mem_nil _
        · obtain ⟨⟨j, hj⟩, hitems⟩ := List.forall_mem_cons.1 h
          exact List.forall_mem_cons.2 ⟨⟨field.name, j, rfl, hj⟩, ih items hitems⟩
    obtain ⟨j, hj⟩ : ∃ j, first.read depth = .ok j := exists_read_of_readCommand hcommand
    exact List.forall_mem_cons.2 ⟨⟨commandKey, j, rfl, hj⟩, hnamed _ _ hreadable⟩

theorem readItems_eq_ok_iff (hlength : items.length ≤ command.record.fields.length) :
    readItems depth command items = .ok step ↔
      ∃ values, command.record.readItems depth items true = .ok (values, []) ∧
        ofFields? command values = some step := by
  constructor
  · intro h
    obtain ⟨⟨values, extra⟩, hread, h⟩ := ReadError.exists_of_bind_eq_ok h
    obtain rfl : extra = [] := Record.rest_eq_nil_of_readFrom hread hlength
    exact ⟨values, hread, build_eq_ok_iff.1 h⟩
  · rintro ⟨values, hread, hbuild⟩
    rw [readItems, hread]
    exact build_eq_ok_iff.2 hbuild

/-- An array says the same as the object with its items under the names of the fields. -/
theorem readAlike_seq (hcommand : readCommand first = .ok command)
    (hreadable : ∀ item ∈ items, ∃ j, item.read depth = .ok j)
    (hlength : items.length ≤ command.record.fields.length) :
    ReadAlike (depth + 1) (.seq (first :: items) true)
      (.map ((some commandKey, first) :: named command.record.fields items) true) := by
  intro step
  obtain ⟨values, hvalues⟩ := Node.exists_readItems hreadable
  have hread : read (depth + 1) (.seq (first :: items) true) = readItems depth command items := by
    dsimp only [read, ReadError.enter, bind, Except.bind]
    rw [hcommand, hvalues]
    rfl
  rw [hread, readItems_eq_ok_iff hlength, (names_named hcommand hreadable).read_eq_ok_iff]
  refine exists_congr fun values => and_congr_left fun _ => ?_
  rw [Record.gives_cons_iff (commandKey_notMem command)]
  exact readFrom_eq_ok_iff (distinct_fields command) (fun _ => trailing_eq_omissible) hlength

end Step

end ContractEmulator
