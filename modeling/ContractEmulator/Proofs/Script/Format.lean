import ContractEmulator.Proofs.Json.Fields
import ContractEmulator.Proofs.Script.Elements
import ContractEmulator.Proofs.Script.Text

/-!
# The format of a script

A step is written as an object of its command and its fields, or as an array of them.

* `Step.read_nullable`, `Step.Names.read_null_argument`, `Step.Names.read_null_ascending`: where
  null counts as nothing, where it is a value, and where it is refused.
* `Step.Writable`, `Step.written`, `Step.writtenArray`: the steps that can be written, and their two
  forms. `Step.read_written`, `Step.read_writtenArray`: they are read back, and so are the steps of
  a whole script, `Script.ofText_written`.
* `Script.Format`: all of this, with what `Step.ReadAlike` says about elements. `Script.format`:
  scripts have this format.
-/

namespace ContractEmulator

namespace Step

variable {depth : Nat} {step : Step} {before after : List (Option String × Node)}

/-! ## Nulls -/

/-- The names of the fields that may be left out, and then are nothing. -/
def nullableNames : List String :=
  ["properties", "function_argument", "object", "start", "end", "limit"]

theorem read_nullable {name : String} (hname : name ∈ nullableNames)
    (hbefore : Node.Apart name before) (hafter : Node.Apart name after) (closed : Bool) :
    read depth (.map (before ++ (some name, .null) :: after) closed) =
      read depth (.map (before ++ after) closed) := by
  have hne : ∀ name ∈ nullableNames, name ≠ commandKey := by decide
  have hfields : ∀ name ∈ nullableNames, ∀ command : Command, ∀ field ∈ command.record.fields,
      field.name = name → field.nullable = true ∧ field.omissible = true := by
    intro name hname command
    cases command <;> revert name <;> decide
  exact read_null (hne name hname) (hfields name hname) hbefore hafter closed

theorem Names.cons_null {command : Command} {name : String} (hname : name ≠ commandKey)
    (h : Names depth command (before ++ after)) :
    Names depth command (before ++ (some name, .null) :: after) where
  command := by
    rw [Node.under_append_cons_of_ne hname]
    exact h.command
  readable := by
    intro entry hentry
    rcases List.mem_append.1 hentry with hmem | hmem
    · exact h.readable entry (List.mem_append_left _ hmem)
    · rcases List.mem_cons.1 hmem with rfl | hmem
      · exact ⟨name, .null, rfl, rfl⟩
      · exact h.readable entry (List.mem_append_right _ hmem)

theorem ofFields?_execute {values : List (Option Json)} :
    ofFields? .execute values = some step ↔ ∃ id argument functionArgument,
      values = [some (.str id), argument, functionArgument] ∧
        step = .execute id (argument.getD (.obj [])) functionArgument := by
  constructor
  · intro h
    unfold ofFields? at h
    split at h
    case h_4 =>
      cases h
      exact ⟨_, _, _, rfl, rfl⟩
    all_goals contradiction
  · rintro ⟨id, argument, functionArgument, rfl, rfl⟩
    rfl

/-- A null argument stays null. -/
theorem Names.read_null_argument (h : Names depth .execute (before ++ after))
    (hbefore : Node.Apart "argument" before) (hafter : Node.Apart "argument" after) :
    read (depth + 1) (.map (before ++ (some "argument", .null) :: after) true) = .ok step ↔
      ∃ id functionArgument, step = .execute id .null functionArgument ∧
        read (depth + 1) (.map (before ++ after) true) =
          .ok (.execute id (.obj []) functionArgument) := by
  have hnull : Names depth .execute (before ++ (some "argument", .null) :: after) :=
    h.cons_null (by decide)
  have hunder : Node.under "argument" (before ++ after) = [] := by
    rw [Node.under_append, Node.under_eq_nil hbefore, Node.under_eq_nil hafter, List.nil_append]
  have hentry := Node.under_append_cons_self hbefore hafter .null
  have hother : ∀ {field : Field} {value : Option Json}, "argument" ≠ field.name →
      (Record.Gives depth (before ++ (some "argument", .null) :: after) field value ↔
        Record.Gives depth (before ++ after) field value) := fun hname =>
    Record.gives_congr (Node.under_append_cons_of_ne hname _ _ _)
  have hargument : ∀ {value : Option Json},
      Record.Gives depth (before ++ (some "argument", .null) :: after)
        (.defaulted "argument" .any) value ↔ value = some .null := by
    intro value
    have hread : (Field.defaulted "argument" .any).read depth .null = .ok (some .null) := rfl
    refine Iff.trans (Record.gives_iff_of_entry hentry) ?_
    rw [hread]
    exact ⟨fun heq => (Except.ok.inj heq).symm, fun heq => by rw [heq]⟩
  have hmissing : ∀ {value : Option Json}, Record.Gives depth (before ++ after)
      (.defaulted "argument" .any) value ↔ value = none :=
    Record.gives_iff_of_missing rfl hunder
  rw [hnull.read_eq_ok_iff]
  simp only [h.read_eq_ok_iff, ofFields?_execute]
  constructor
  · rintro ⟨_, hgives, id, argument, functionArgument, rfl, rfl⟩
    simp only [Command.record, List.forall₂_cons] at hgives
    obtain ⟨hid, hnull, hlast, -⟩ := hgives
    obtain rfl := hargument.1 hnull
    refine ⟨id, functionArgument, rfl, _, ?_, id, none, functionArgument, rfl, rfl⟩
    exact .cons ((hother (by decide)).1 hid) (.cons (hmissing.2 rfl)
      (.cons ((hother (by decide)).1 hlast) .nil))
  · rintro ⟨_, _, rfl, _, hgives, id, argument, functionArgument, rfl, hstep⟩
    simp only [Command.record, List.forall₂_cons] at hgives
    obtain ⟨hid, hnone, hlast, -⟩ := hgives
    obtain rfl := hmissing.1 hnone
    cases hstep
    refine ⟨_, ?_, _, some .null, _, rfl, rfl⟩
    exact .cons ((hother (by decide)).2 hid) (.cons (hargument.2 rfl)
      (.cons ((hother (by decide)).2 hlast) .nil))

/-- A null in place of a truth value is refused. -/
theorem Names.read_null_ascending {entries : List (Option String × Node)}
    (h : Names depth .scan entries) (hmem : (some "ascending", .null) ∈ entries) :
    read (depth + 1) (.map entries true) ≠ .ok step := by
  intro hread
  obtain ⟨values, hgives, -⟩ := h.read_eq_ok_iff.1 hread
  have hfield : Field.defaulted "ascending" (.scalar .boolean) ∈ Command.scan.record.fields := by
    simp [Command.record]
  have hunder : (some "ascending", .null) ∈ Node.under "ascending" entries :=
    List.mem_filter.2 ⟨hmem, by decide⟩
  obtain ⟨value, ⟨-, hnone⟩ | ⟨hentry, hvalue⟩⟩ := Record.exists_gives hgives hfield
  · have hnil : Node.under "ascending" entries = [] := hnone
    rw [hnil] at hunder
    cases hunder
  · rename_i node
    have hsingle : Node.under "ascending" entries = [(some "ascending", node)] := hentry
    rw [hsingle, List.mem_singleton] at hunder
    cases hunder
    cases hvalue

/-! ## Written steps -/

/-- The fields of a step, in order of declaration. -/
def fields : Step → List (Option Json)
  | .register id name file properties =>
    [some (.str id), some (.str name), some (.str file), properties]
  | .registerFunction id name file => [some (.str id), some (.str name), some (.str file)]
  | .setCertificate identity =>
    [some (.str identity.holderId), some (.int identity.version.toInt)]
  | .execute id argument functionArgument => [some (.str id), some argument, functionArgument]
  | .get assetId => [some (.str assetId)]
  | .put assetId data => [some (.str assetId), some data]
  | .scan assetId start stop limit ascending =>
    [some (.str assetId), start.map .int, stop.map .int, limit.map .int, some (.bool ascending)]
  | .listContracts => []
  | .database method space table assetId object =>
    [some (.str method.name), some (.str space), some (.str table), some (.str assetId), object]

theorem ofFields?_fields (step : Step) : ofFields? step.command step.fields = some step := by
  cases step with
  | setCertificate identity => simp [command, fields, ofFields?]
  | scan assetId start stop limit ascending =>
    cases start <;> cases stop <;> cases limit <;> rfl
  | database method => cases method <;> rfl
  | _ => rfl

/-- The payloads of a step are values without fractions and not null where null counts as nothing,
and its bounds are integers of 64 bits with a sign. -/
def Writable : Step → Prop
  | .register _ _ _ properties => ∀ j, properties = some j → j.Plain ∧ j ≠ .null
  | .execute _ argument functionArgument =>
    argument.Plain ∧ ∀ j, functionArgument = some j → j.Plain ∧ j ≠ .null
  | .put _ data => data.Plain
  | .scan _ start stop limit _ => ∀ bound ∈ [start, stop, limit], ∀ n, bound = some n →
    IntType.i64.low ≤ n ∧ n < IntType.i64.bound
  | .database _ _ _ _ object => ∀ j, object = some j → j.Plain ∧ j ≠ .null
  | _ => True

/-- Values under the names of fields. -/
def entriesOf : List Field → List (Option Json) → List (String × Json)
  | field :: fields, value :: values => (field.name, .ofOption value) :: entriesOf fields values
  | _, _ => []

/-- The object of a step: its command, then its fields, with null for those that it does not
have. -/
def written (step : Step) : Json :=
  .obj ((commandKey, .str step.command.name) :: entriesOf step.command.record.fields step.fields)

/-- The array of a step. -/
def writtenArray (step : Step) : Json :=
  .arr (.str step.command.name :: step.fields.map Json.ofOption)

/-- What is written says what the fields are. -/
theorem writes_fields (step : Step) (h : step.Writable) :
    Record.Writes step.command.record.fields (entriesOf step.command.record.fields step.fields)
      step.fields := by
  cases step with
  | register id name file properties =>
    exact .value rfl nofun (.value rfl nofun (.value rfl nofun (.optional rfl h .nil)))
  | registerFunction id name file =>
    exact .value rfl nofun (.value rfl nofun (.value rfl nofun .nil))
  | setCertificate identity =>
    exact .value rfl nofun (.value (Scalar.accept_int32 _) nofun .nil)
  | execute id argument functionArgument =>
    exact .value rfl nofun (.value h.1 nofun (.optional rfl h.2 .nil))
  | get assetId => exact .value rfl nofun .nil
  | put assetId data => exact .value rfl nofun (.value h nofun .nil)
  | scan assetId start stop limit ascending =>
    have hbound : ∀ bound ∈ [start, stop, limit], ∀ j, bound.map Json.int = some j →
        (FieldType.scalar (.integer .i64)).Holds j ∧ j ≠ .null := by
      intro bound hmem j hj
      obtain ⟨n, hn, rfl⟩ := Option.map_eq_some_iff.1 hj
      obtain ⟨hlow, hhigh⟩ := h bound hmem n hn
      exact ⟨Scalar.accept_integer hlow hhigh, nofun⟩
    simp only [List.forall_mem_cons] at hbound
    obtain ⟨hstart, hstop, hlimit, -⟩ := hbound
    exact .value rfl nofun (.optional rfl hstart (.optional rfl hstop (.optional rfl hlimit
      (.value rfl nofun .nil))))
  | listContracts => exact .nil
  | database method space table assetId object =>
    have hmethod : method.name ∈ DatabaseMethod.all.map DatabaseMethod.name := by
      cases method <;> decide
    exact .value ⟨method.name, hmethod, rfl⟩ nofun (.value rfl nofun (.value rfl nofun
      (.value rfl nofun (.optional rfl h .nil))))

theorem length_fields (step : Step) :
    step.fields.length = step.command.record.fields.length := by
  cases step <;> rfl

theorem readCommand_name (command : Command) :
    readCommand (Json.node (.str command.name)) = .ok command := by
  rw [Json.node_str]
  cases command <;> rfl

/-- The fields of a step under their names, after its command, are this step. -/
theorem read_fields (step : Step) (h : step.Writable)
    (hfits : ∀ entry ∈ entriesOf step.command.record.fields step.fields,
      entry.2.nesting ≤ depth) :
    read (depth + 1) (.map ((some commandKey, Json.node (.str step.command.name)) ::
      Json.nodes (entriesOf step.command.record.fields step.fields)) true) = .ok step := by
  have hwrites := step.writes_fields h
  have hcommand := commandKey_notMem step.command
  have hnames : Names depth step.command ((some commandKey, Json.node (.str step.command.name)) ::
      Json.nodes (entriesOf step.command.record.fields step.fields)) := by
    refine ⟨⟨_, ?_, readCommand_name step.command⟩, ?_⟩
    · rw [Node.under_cons_self, hwrites.under_eq_nil hcommand]
    · obtain ⟨j, hj⟩ : ∃ j, (Json.node (.str step.command.name)).read depth = .ok j :=
        exists_read_of_readCommand (readCommand_name step.command)
      refine List.forall_mem_cons.2 ⟨⟨commandKey, j, rfl, hj⟩, fun entry hentry => ?_⟩
      obtain ⟨⟨key, j⟩, hmem, rfl⟩ := List.mem_map.1 hentry
      have hread := (hwrites.whole _ hmem).readsBack depth
      rw [if_pos (hfits _ hmem)] at hread
      exact ⟨key, j, rfl, hread⟩
  refine hnames.read_eq_ok_iff.2 ⟨step.fields, ?_, ofFields?_fields step⟩
  rw [Record.gives_cons_iff hcommand, hwrites.gives_iff (distinct_fields step.command)]
  exact ⟨rfl, hfits⟩

/-- A written step is read as this step. -/
theorem read_written (step : Step) (h : step.Writable)
    (hdepth : step.written.nesting ≤ depth + 1) :
    read (depth + 1) step.written.node = .ok step := by
  have hwhole : ∀ entry ∈ (commandKey, Json.str step.command.name) ::
      entriesOf step.command.record.fields step.fields, entry.2.Whole :=
    List.forall_mem_cons.2 ⟨.str _, (step.writes_fields h).whole⟩
  rw [written, Json.nesting, Nat.add_le_add_iff_right, Json.entriesNesting_le_iff] at hdepth
  rw [written, Json.Whole.node_obj hwhole]
  exact step.read_fields h (List.forall_mem_cons.1 hdepth).2

theorem named_map_node (fields : List Field) (values : List (Option Json)) :
    named fields ((values.map Json.ofOption).map Json.node) =
      Json.nodes (entriesOf fields values) := by
  induction fields generalizing values with
  | nil => cases values <;> rfl
  | cons field fields ih =>
    cases values with
    | nil => rfl
    | cons value values =>
      rw [List.map_cons, List.map_cons, named, ih]
      rfl

/-- What is written under the names of the fields is what is written as items. -/
theorem map_snd_entriesOf {fields : List Field} {values : List (Option Json)}
    (hlength : values.length = fields.length) :
    (entriesOf fields values).map Prod.snd = values.map Json.ofOption := by
  induction fields generalizing values with
  | nil =>
    obtain rfl := List.eq_nil_of_length_eq_zero hlength
    rfl
  | cons field fields ih =>
    cases values with
    | nil => cases hlength
    | cons value values => rw [entriesOf, List.map_cons, List.map_cons, ih (Nat.succ.inj hlength)]

theorem read_writtenArray (step : Step) (h : step.Writable)
    (hdepth : step.writtenArray.nesting ≤ depth + 1) :
    read (depth + 1) step.writtenArray.node = .ok step := by
  have hitems := map_snd_entriesOf step.length_fields
  have hwhole : ∀ item ∈ step.fields.map Json.ofOption, item.Whole := by
    rw [← hitems]
    intro item hitem
    obtain ⟨entry, hentry, rfl⟩ := List.mem_map.1 hitem
    exact (step.writes_fields h).whole entry hentry
  rw [writtenArray, Json.nesting, Nat.add_le_add_iff_right, Json.itemsNesting_le_iff] at hdepth
  have hfits := (List.forall_mem_cons.1 hdepth).2
  rw [writtenArray, Json.Whole.node_arr (List.forall_mem_cons.2 ⟨.str _, hwhole⟩), List.map_cons]
  have hlength : ((step.fields.map Json.ofOption).map Json.node).length ≤
      step.command.record.fields.length := by
    simp [step.length_fields]
  have hreadable : ∀ item ∈ (step.fields.map Json.ofOption).map Json.node,
      ∃ j, item.read depth = .ok j := by
    intro node hnode
    obtain ⟨item, hitem, rfl⟩ := List.mem_map.1 hnode
    have hread := (hwhole item hitem).readsBack depth
    rw [if_pos (hfits item hitem)] at hread
    exact ⟨item, hread⟩
  refine (readAlike_seq (readCommand_name step.command) hreadable hlength step).2 ?_
  rw [named_map_node]
  refine step.read_fields h fun entry hentry => hfits entry.2 ?_
  rw [← hitems]
  exact List.mem_map_of_mem hentry

theorem whole_written (step : Step) (h : step.Writable) :
    step.written.Whole ∧ step.writtenArray.Whole := by
  have hwhole := (step.writes_fields h).whole
  refine ⟨.obj (List.forall_mem_cons.2 ⟨.str _, hwhole⟩),
    .arr (List.forall_mem_cons.2 ⟨.str _, ?_⟩)⟩
  rw [← map_snd_entriesOf step.length_fields]
  intro item hitem
  obtain ⟨entry, hentry, rfl⟩ := List.mem_map.1 hitem
  exact hwhole entry hentry

end Step

namespace Script

/-- The element is what is written of the step, as an object or as an array. -/
def Writes (element : Json) (step : Step) : Prop :=
  step.Writable ∧ (element = step.written ∨ element = step.writtenArray)

/-- A written script is read as the steps that it was written from. -/
theorem ofText_written {elements : List Json} {steps : List Step}
    (h : List.Forall₂ Writes elements steps)
    (hdepth : (Json.arr elements).nesting ≤ Json.maxDepth) :
    ofText (Json.arr elements).compactChars = .ok steps := by
  have hall : List.Forall₂ (fun element step => element.Whole ∧ Writes element step)
      elements steps := by
    refine h.imp fun element step hwrites => ⟨?_, hwrites⟩
    obtain ⟨hwritable, rfl | rfl⟩ := hwrites
    · exact (step.whole_written hwritable).1
    · exact (step.whole_written hwritable).2
  have hwhole := ((List.forall₂_and_left _ _).1 hall).1
  have hfits : ∀ element ∈ elements, element.nesting ≤ 125 + 1 := by
    rw [← Json.itemsNesting_le_iff]
    rw [Json.nesting, Json.maxDepth] at hdepth
    omega
  have htext := (Json.Whole.arr hwhole).hasText
  rw [Json.Whole.node_arr hwhole] at htext
  refine ofText_eq_ok_iff.2 ⟨elements.map Json.node, htext, ?_⟩
  have hboth := (List.forall₂_and_left _ _).2 ⟨hfits, h⟩
  rw [List.forall₂_map_left_iff]
  refine hboth.imp ?_
  rintro element step ⟨hfits, hwritable, rfl | rfl⟩
  · exact step.read_written hwritable hfits
  · exact step.read_writtenArray hwritable hfits

/-- How the steps of a script are written. -/
structure Format : Prop where
  /-- The steps of a script are what its elements are. -/
  elements {text : List Char} {items : List Node} :
    Document.ofText text = ⟨.seq items true, true⟩ → ∀ steps, ofText text = .ok steps ↔
      List.Forall₂ (fun item step => Step.read stepDepth item = .ok step) items steps
  /-- What an object is depends on its entries for the fields of its command, in any order. -/
  own {depth : Nat} {command : Command} {entries entries' : List (Option String × Node)} :
    Step.Names depth command entries → Step.Names depth command entries' →
      (entries.filter command.record.owns).Perm (entries'.filter command.record.owns) →
        Step.ReadAlike (depth + 1) (.map entries true) (.map entries' true)
  /-- Null may be left out. -/
  null {depth : Nat} {name : String} {before after : List (Option String × Node)} :
    name ∈ Step.nullableNames → Node.Apart name before → Node.Apart name after → ∀ closed,
      Step.read depth (.map (before ++ (some name, .null) :: after) closed) =
        Step.read depth (.map (before ++ after) closed)
  /-- A null argument stays null, where a missing one is an empty object. -/
  nullArgument {depth : Nat} {before after : List (Option String × Node)} :
    Step.Names depth .execute (before ++ after) → Node.Apart "argument" before →
      Node.Apart "argument" after → ∀ step,
        (Step.read (depth + 1) (.map (before ++ (some "argument", .null) :: after) true) =
          .ok step ↔ ∃ id functionArgument, step = .execute id .null functionArgument ∧
            Step.read (depth + 1) (.map (before ++ after) true) =
              .ok (.execute id (.obj []) functionArgument))
  /-- A null order is refused. -/
  nullAscending {depth : Nat} {entries : List (Option String × Node)} :
    Step.Names depth .scan entries → (some "ascending", .null) ∈ entries →
      ∃ e, Step.read (depth + 1) (.map entries true) = .error e
  /-- An array is the object with its items as fields, the last of which may be left out. -/
  array {depth : Nat} {command : Command} {first : Node} {items : List Node} :
    Step.readCommand first = .ok command → (∀ item ∈ items, ∃ j, item.read depth = .ok j) →
      items.length ≤ command.record.fields.length →
        Step.ReadAlike (depth + 1) (.seq (first :: items) true)
          (.map ((some Step.commandKey, first) :: Step.named command.record.fields items) true)
  /-- What is written of some steps is read as these steps. -/
  written {elements : List Json} {steps : List Step} : List.Forall₂ Writes elements steps →
    (Json.arr elements).nesting ≤ Json.maxDepth →
      ofText (Json.arr elements).compactChars = .ok steps

theorem format : Format where
  elements htext steps := by
    rw [ofText_eq_ok_iff, htext]
    constructor
    · rintro ⟨items, heq, hsteps⟩
      cases heq
      exact hsteps
    · exact fun hsteps => ⟨_, rfl, hsteps⟩
  own := Step.Names.readAlike
  null := Step.read_nullable
  nullArgument h hbefore hafter _ := h.read_null_argument hbefore hafter
  nullAscending {depth entries} h hmem := by
    cases hread : Step.read (depth + 1) (.map entries true) with
    | error e => exact ⟨e, rfl⟩
    | ok step => exact absurd hread (h.read_null_ascending hmem)
  array := Step.readAlike_seq
  written := ofText_written

/-- The entries of a step that lists at most three versions of an asset. -/
def limitedEntries : List (Option String × Node) :=
  [(some "command", .string (some "scan")), (some "asset_id", .string (some "a")),
    (some "limit", .number ⟨false, ['3'], none, none⟩)]

/-- The same from the last to the first, after an entry that is for no field of a scan. -/
def rearrangedEntries : List (Option String × Node) :=
  (some "data", .seq [.bool true] true) :: limitedEntries.reverse

/-- Three steps, with payloads and without. -/
def variedSteps : List Step :=
  [.execute "a" .null none, .scan "b" (some (-1)) none none true,
    .database .put "s" "t" "c" (some (.arr [.str "\n"]))]

/-- Rearranged entries are the same step, and three written steps are read back. -/
theorem varied_format :
    Step.read stepDepth (.map rearrangedEntries true) =
      .ok (.scan "a" none none (some 3) false) ∧
    ∃ elements, List.Forall₂ Writes elements variedSteps ∧
      ofText (Json.arr elements).compactChars = .ok variedSteps := by
  have hlimited : Step.Names 125 .scan limitedEntries := by
    refine ⟨⟨_, rfl, rfl⟩, ?_⟩
    simp only [limitedEntries, List.forall_mem_cons]
    exact ⟨⟨_, _, rfl, rfl⟩, ⟨_, _, rfl, rfl⟩, ⟨_, _, rfl, rfl⟩, List.forall_mem_nil _⟩
  have hrearranged : Step.Names 125 .scan rearrangedEntries :=
    ⟨⟨_, rfl, rfl⟩, List.forall_mem_cons.2 ⟨⟨_, _, rfl, rfl⟩, fun entry hentry =>
      hlimited.readable entry (List.mem_reverse.1 hentry)⟩⟩
  have hitems : ∀ item ∈ [Json.str "\n"], item.Whole := by simp [Json.Whole.str]
  have hwrites : List.Forall₂ Writes [(Step.execute "a" .null none).written,
      (Step.scan "b" (some (-1)) none none true).writtenArray,
      (Step.database .put "s" "t" "c" (some (.arr [.str "\n"]))).written] variedSteps := by
    refine .cons ⟨?_, .inl rfl⟩ (.cons ⟨?_, .inr rfl⟩ (.cons ⟨?_, .inl rfl⟩ .nil))
    · exact ⟨⟨.null, rfl⟩, fun _ h => by cases h⟩
    · simp [Step.Writable, IntType.low, IntType.bound]
    · rintro j ⟨⟩
      exact ⟨⟨.arr hitems, rfl⟩, fun h => by cases h⟩
  exact ⟨(format.own hlimited hrearranged (List.Perm.swap _ _ _) _).1 rfl,
    _, hwrites, format.written hwrites (by decide)⟩

end Script

end ContractEmulator
