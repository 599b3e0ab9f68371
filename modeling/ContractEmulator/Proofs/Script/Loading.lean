import ContractEmulator.Proofs.Json.Nulls
import ContractEmulator.Script.Step

/-!
# Null objects in a script

A step on the database may hold an object. A script cannot make this object null: null counts as no
object.

* `Step.object_ne_null_of_read`, `Script.object_ne_null`: no step that is read has the object null.
* `Step.read_null`: a null may be left out of a step, if its field may. `Step.read_null_object`,
  `Step.read_null_item`: so may a null object, in either form of the step.
  `Step.NullObjectIsMissing`: both of this.
-/

namespace ContractEmulator

theorem Command.named_record (command : Command) : command.record.Named := by
  cases command <;> simp [Record.Named, record, Field.required, Field.optional, Field.defaulted]

namespace Step

variable {depth : Nat} {step : Step}

/-- The object that a step writes to the database. -/
def object? : Step → Option Json
  | .database _ _ _ _ object => object
  | _ => none

theorem object_ne_null_of_ofFields? {command : Command} {fields : List (Option Json)}
    (hfields : Record.NonNull command.record.fields fields)
    (h : ofFields? command fields = some step) : step.object? ≠ some .null := by
  unfold ofFields? at h
  split at h
  case h_7 =>
    -- The bounds of a scan are read one after the other.
    obtain ⟨_, -, h⟩ := Option.bind_eq_some_iff.1 h
    obtain ⟨_, -, h⟩ := Option.bind_eq_some_iff.1 h
    obtain ⟨_, -, h⟩ := Option.bind_eq_some_iff.1 h
    split at h <;> cases h <;> rintro ⟨⟩
  case h_9 =>
    obtain ⟨method, -, rfl⟩ := Option.map_eq_some_iff.1 h
    obtain _ | ⟨-, _ | ⟨-, _ | ⟨-, _ | ⟨-, _ | ⟨hobject, -⟩⟩⟩⟩⟩ := hfields
    exact hobject rfl
  case h_10 => cases h
  all_goals
    cases h
    rintro ⟨⟩

theorem object_ne_null_of_build {command : Command} {fields : List (Option Json)}
    (hfields : Record.NonNull command.record.fields fields)
    (h : build command fields = .ok step) : step.object? ≠ some .null := by
  unfold build at h
  split at h
  · next hstep =>
    cases h
    exact object_ne_null_of_ofFields? hfields hstep
  · cases h

/-- No step that is read has the object null. -/
theorem object_ne_null_of_read {n : Node} (h : read depth n = .ok step) :
    step.object? ≠ some .null := by
  unfold read at h
  split at h
  · obtain ⟨inner, -, h⟩ := ReadError.exists_of_bind_eq_ok h
    split at h
    · split at h <;> cases h
    · obtain ⟨command, -, h⟩ := ReadError.exists_of_bind_eq_ok h
      obtain ⟨_, -, h⟩ := ReadError.exists_of_bind_eq_ok h
      split at h
      · obtain ⟨⟨fields, extra⟩, hfields, h⟩ := ReadError.exists_of_bind_eq_ok h
        dsimp only at h
        split at h
        · exact object_ne_null_of_build (Record.nonNull_of_readItems hfields) h
        · cases h
      · cases h
  · obtain ⟨inner, -, h⟩ := ReadError.exists_of_bind_eq_ok h
    obtain ⟨⟨command?, rest⟩, -, h⟩ := ReadError.exists_of_bind_eq_ok h
    dsimp only at h
    split at h
    · cases h
    · split at h
      · cases h
      · next command =>
        obtain ⟨fields, hfields, h⟩ := ReadError.exists_of_bind_eq_ok h
        exact object_ne_null_of_build
          (Record.nonNull_of_readEntries command.named_record hfields) h
  · obtain ⟨_, -, h⟩ := ReadError.exists_of_bind_eq_ok h
    cases h

end Step

namespace Script

theorem object_ne_null_of_readSteps {depth : Nat} {nodes : List Node} {steps : List Step}
    (h : readSteps depth nodes = .ok steps) : ∀ step ∈ steps, step.object? ≠ some .null := by
  induction nodes generalizing steps with
  | nil =>
    cases h
    exact List.forall_mem_nil _
  | cons n nodes ih =>
    obtain ⟨step, hstep, h⟩ := ReadError.exists_of_bind_eq_ok h
    obtain ⟨steps', hsteps, h⟩ := ReadError.exists_of_bind_eq_ok h
    cases h
    exact List.forall_mem_cons.2 ⟨Step.object_ne_null_of_read hstep, ih hsteps⟩

theorem object_ne_null_of_ofText {text : List Char} {steps : List Step}
    (h : ofText text = .ok steps) : ∀ step ∈ steps, step.object? ≠ some .null := by
  obtain ⟨steps', hread, h⟩ := ReadError.exists_of_bind_eq_ok h
  split at h
  · cases h
    unfold read at hread
    split at hread
    · obtain ⟨inner, -, hread⟩ := ReadError.exists_of_bind_eq_ok hread
      obtain ⟨steps', hsteps, hread⟩ := ReadError.exists_of_bind_eq_ok hread
      split at hread
      · cases hread
        exact object_ne_null_of_readSteps hsteps
      · cases hread
    · obtain ⟨_, -, hread⟩ := ReadError.exists_of_bind_eq_ok hread
      cases hread
  · cases h

/-- No step of a script that loads has the object null. -/
theorem object_ne_null {files : FileReader} {path : String} {steps : List Step}
    (h : load files path = .ok steps) : ∀ step ∈ steps, step.object? ≠ some .null := by
  unfold load at h
  split at h
  · cases h
  · split at h
    · cases h
    · split at h
      · cases h
      · next htext =>
        cases h
        exact object_ne_null_of_ofText htext

end Script

/-! ## A null object may be left out -/

namespace Step

variable {depth : Nat}

theorem takeCommand_cons (found : Option Command) (key : String) (node : Node)
    (entries : List (Option String × Node)) :
    takeCommand depth found ((some key, node) :: entries) =
      if key = commandKey then
        if found.isSome then .error (.shape (.duplicateField commandKey))
        else readCommand node >>= fun command => takeCommand depth (some command) entries
      else
        node.read depth >>= fun _ => takeCommand depth found entries >>= fun taken =>
          .ok (taken.1, (some key, node) :: taken.2) := rfl

/-- What is left besides the command are entries from before. -/
theorem apart_of_takeCommand {name : String} {found : Option Command}
    {entries : List (Option String × Node)}
    {taken : Option Command × List (Option String × Node)}
    (hentries : Node.Apart name entries) (h : takeCommand depth found entries = .ok taken) :
    Node.Apart name taken.2 := by
  induction entries generalizing found taken with
  | nil =>
    cases h
    exact List.forall_mem_nil _
  | cons entry entries ih =>
    obtain ⟨hentry, hrest⟩ := List.forall_mem_cons.1 hentries
    obtain ⟨_ | key, node⟩ := entry
    · cases h
    · rw [takeCommand_cons] at h
      split at h
      · split at h
        · cases h
        · obtain ⟨command, -, h⟩ := ReadError.exists_of_bind_eq_ok h
          exact ih hrest h
      · obtain ⟨_, -, h⟩ := ReadError.exists_of_bind_eq_ok h
        obtain ⟨taken', htaken, h⟩ := ReadError.exists_of_bind_eq_ok h
        cases h
        exact List.forall_mem_cons.2 ⟨hentry, ih hrest htaken⟩

/-- A null makes no difference to the command that is taken out. -/
theorem takeCommand_null {α : Type} {name : String} (hname : name ≠ commandKey)
    {g : Option Command × List (Option String × Node) → Except ReadError α}
    (hg : ∀ {command before after}, Node.Apart name before → Node.Apart name after →
      g (command, before ++ (some name, .null) :: after) = g (command, before ++ after))
    {before after : List (Option String × Node)} (hbefore : Node.Apart name before)
    (hafter : Node.Apart name after) {found : Option Command} :
    takeCommand depth found (before ++ (some name, .null) :: after) >>= g =
      takeCommand depth found (before ++ after) >>= g := by
  induction before generalizing found g with
  | nil =>
    rw [List.nil_append, List.nil_append, takeCommand_cons, if_neg hname]
    cases htaken : takeCommand depth found after with
    | error e => rfl
    | ok taken =>
      exact @hg taken.1 [] taken.2 (List.forall_mem_nil _) (apart_of_takeCommand hafter htaken)
  | cons entry before ih =>
    obtain ⟨hentry, hrest⟩ := List.forall_mem_cons.1 hbefore
    obtain ⟨_ | key, node⟩ := entry
    · rfl
    · rw [List.cons_append, List.cons_append, takeCommand_cons, takeCommand_cons]
      split
      · split
        · rfl
        · cases readCommand node with
          | error e => rfl
          | ok command => exact ih hg hrest
      · cases node.read depth with
        | error e => rfl
        | ok j =>
          -- The entry comes before what the other entries leave.
          have hassoc := fun entries => bind_assoc (takeCommand depth found entries)
            (fun taken => .ok (taken.1, (some key, node) :: taken.2)) g
          refine (hassoc _).trans (Eq.trans ?_ (hassoc _).symm)
          refine ih (g := fun taken => g (taken.1, (some key, node) :: taken.2)) ?_ hrest
          exact fun hbefore' => hg (List.forall_mem_cons.2 ⟨hentry, hbefore'⟩)

theorem object_omissible (command : Command) : ∀ field ∈ command.record.fields,
    field.name = "object" → field.nullable = true ∧ field.omissible = true := by
  cases command <;> simp [Command.record, Field.required, Field.optional, Field.defaulted]

/-- A null may be left out of a step, if the fields of its name may. -/
theorem read_null {name : String} (hname : name ≠ commandKey)
    (hfields : ∀ command : Command, ∀ field ∈ command.record.fields, field.name = name →
      field.nullable = true ∧ field.omissible = true)
    {before after : List (Option String × Node)} (hbefore : Node.Apart name before)
    (hafter : Node.Apart name after) (closed : Bool) :
    read depth (.map (before ++ (some name, .null) :: after) closed) =
      read depth (.map (before ++ after) closed) := by
  dsimp only [read]
  cases ReadError.enter depth with
  | error e => rfl
  | ok inner =>
    refine takeCommand_null hname (fun {command before after} hbefore hafter => ?_) hbefore hafter
    cases closed with
    | false => rfl
    | true =>
      cases command with
      | none => rfl
      | some command =>
        dsimp only
        rw [Record.readEntries_null (hfields command) hbefore hafter]

/-- A null object of a step may be left out. -/
theorem read_null_object {before after : List (Option String × Node)}
    (hbefore : Node.Apart "object" before) (hafter : Node.Apart "object" after) (closed : Bool) :
    read depth (.map (before ++ (some "object", .null) :: after) closed) =
      read depth (.map (before ++ after) closed) :=
  read_null (by decide) object_omissible hbefore hafter closed

/-- So may a null object at the end of the array form. -/
theorem read_null_item {first : Node} {items : List Node}
    (hfirst : readCommand first = .ok .database) (hlength : items.length = 4) (closed : Bool) :
    read depth (.seq (first :: (items ++ [.null])) closed) =
      read depth (.seq (first :: items) closed) := by
  have hitems : ∀ inner, readItems inner .database (items ++ [.null]) =
      readItems inner .database items := by
    intro inner
    have hsame : Command.database.record.readItems inner (items ++ [.null]) true =
        Command.database.record.readItems inner items true :=
      Record.readFrom_null (Command.database.record.fields.take 4) rfl rfl hlength
    unfold readItems
    rw [hsame]
    cases hread : Command.database.record.readItems inner items true with
    | error e => rfl
    | ok taken =>
      obtain ⟨fields, extra⟩ := taken
      obtain rfl : extra = [] := Record.rest_eq_nil_of_readFrom hread (by rw [hlength]; decide)
      rfl
  dsimp only [read]
  rw [hfirst]
  cases ReadError.enter depth with
  | error e => rfl
  | ok inner =>
    dsimp only [bind, Except.bind]
    rw [Node.readItems_null, hitems]
    cases Node.readItems inner items <;> rfl

/-- A null object in a step counts as no object. -/
structure NullObjectIsMissing : Prop where
  /-- An entry that makes the object null may be left out, if it is the only one for the object. -/
  entries {depth : Nat} {before after : List (Option String × Node)} :
    Node.Apart "object" before → Node.Apart "object" after → ∀ closed,
      read depth (.map (before ++ (some "object", .null) :: after) closed) =
        read depth (.map (before ++ after) closed)
  /-- In the array form the object comes after four other fields. -/
  items {depth : Nat} {first : Node} {items : List Node} :
    readCommand first = .ok .database → items.length = 4 → ∀ closed,
      read depth (.seq (first :: (items ++ [.null])) closed) =
        read depth (.seq (first :: items) closed)

theorem nullObjectIsMissing : NullObjectIsMissing where
  entries := read_null_object
  items := read_null_item

end Step

end ContractEmulator
