import ContractEmulator.Proofs.Json.Nulls
import Mathlib.Data.List.Forall2

/-!
# Objects as records

What an object says about a record depends on the entries under the names of its fields, and on
nothing else.

* `Record.Gives`: what some entries say about a field. `Record.readEntries_eq_ok_iff`: an object is
  read if its entries give a value for each field, and those under other names hold no fault.
* `Record.readEntries_congr`: the order of the entries makes no difference, and neither do entries
  under other names.
-/

namespace ContractEmulator

/-- The entries under a name. -/
def Node.under (name : String) (entries : List (Option String × Node)) :
    List (Option String × Node) :=
  entries.filter fun entry => entry.1 == some name

theorem Node.under_cons_self (name : String) (node : Node)
    (entries : List (Option String × Node)) :
    under name ((some name, node) :: entries) = (some name, node) :: under name entries :=
  List.filter_cons_of_pos (beq_self_eq_true _)

theorem Node.under_cons_of_ne {name key : String} (h : key ≠ name) (node : Node)
    (entries : List (Option String × Node)) :
    under name ((some key, node) :: entries) = under name entries :=
  List.filter_cons_of_neg (by simpa using h)

theorem Node.under_eq_nil {name : String} {entries : List (Option String × Node)}
    (h : Apart name entries) : under name entries = [] :=
  List.filter_eq_nil_iff.2 fun entry hentry => by simpa using h entry hentry

theorem Node.under_append (name : String) (before after : List (Option String × Node)) :
    under name (before ++ after) = under name before ++ under name after :=
  List.filter_append _ _

theorem Node.under_append_cons_of_ne {name key : String} (h : key ≠ name) (node : Node)
    (before after : List (Option String × Node)) :
    under name (before ++ (some key, node) :: after) = under name (before ++ after) := by
  rw [under_append, under_cons_of_ne h, under_append]

/-- An entry between others that do not have its key. -/
theorem Node.under_append_cons_self {name : String} {before after : List (Option String × Node)}
    (hbefore : Apart name before) (hafter : Apart name after) (node : Node) :
    under name (before ++ (some name, node) :: after) = [(some name, node)] := by
  rw [under_append, under_cons_self, under_eq_nil hbefore, under_eq_nil hafter, List.nil_append]

namespace Record

variable {depth : Nat} {record : Record} {entries entries' : List (Option String × Node)}
  {found found' : List (String × Option Json)} {field : Field} {values : List (Option Json)}

/-- An entry under the name of a field. -/
def owns (record : Record) (entry : Option String × Node) : Bool :=
  record.fields.any fun field => entry.1 == some field.name

theorem owns_iff {key : String} {node : Node} :
    record.owns (some key, node) = true ↔ ∃ field ∈ record.fields, field.name = key := by
  rw [owns, List.any_eq_true]
  refine exists_congr fun field => and_congr_right fun _ => ?_
  rw [beq_iff_eq, Option.some.injEq, eq_comm]

/-- An entry that does not stand in the way: its key has text, and if it is skipped, then it holds
no fault. -/
def Admits (record : Record) (entry : Option String × Node) : Prop :=
  (∃ key, entry.1 = some key) ∧ (record.owns entry = false → entry.2.isIntact = true)

/-- What some entries say about a field: it is left out, or there is one entry for it. -/
inductive Gives (depth : Nat) (entries : List (Option String × Node)) (field : Field) :
    Option Json → Prop where
  | missing : field.omissible = true → Node.under field.name entries = [] →
      Gives depth entries field none
  | entry {node : Node} {value : Option Json} :
      Node.under field.name entries = [(some field.name, node)] →
      field.read depth node = .ok value → Gives depth entries field value

theorem gives_congr {value : Option Json}
    (h : Node.under field.name entries = Node.under field.name entries') :
    Gives depth entries field value ↔ Gives depth entries' field value := by
  constructor
  · rintro (⟨homissible, hnone⟩ | ⟨hentry, hread⟩)
    · exact .missing homissible (h ▸ hnone)
    · exact .entry (h ▸ hentry) hread
  · rintro (⟨homissible, hnone⟩ | ⟨hentry, hread⟩)
    · exact .missing homissible (h ▸ hnone)
    · exact .entry (h ▸ hentry) hread

theorem gives_iff_of_entry {value : Option Json} {node : Node}
    (h : Node.under field.name entries = [(some field.name, node)]) :
    Gives depth entries field value ↔ field.read depth node = .ok value := by
  constructor
  · rintro (⟨-, hnone⟩ | ⟨hentry, hread⟩)
    · rw [h] at hnone
      cases hnone
    · rw [h] at hentry
      cases hentry
      exact hread
  · exact .entry h

theorem gives_iff_of_missing {value : Option Json} (homissible : field.omissible = true)
    (h : Node.under field.name entries = []) : Gives depth entries field value ↔ value = none := by
  constructor
  · rintro (⟨-, -⟩ | ⟨hentry, -⟩)
    · rfl
    · rw [h] at hentry
      cases hentry
  · rintro rfl
    exact .missing homissible h

/-- An entry under another name makes no difference to some fields. -/
theorem gives_cons_iff {fields : List Field} {key : String} (hkey : key ∉ fields.map Field.name)
    (node : Node) :
    List.Forall₂ (Gives depth ((some key, node) :: entries)) fields values ↔
      List.Forall₂ (Gives depth entries) fields values := by
  induction fields generalizing values with
  | nil => rw [List.forall₂_nil_left_iff, List.forall₂_nil_left_iff]
  | cons field fields ih =>
    rw [List.map_cons, List.mem_cons, not_or] at hkey
    have hunder := Node.under_cons_of_ne hkey.1 node entries
    simp only [List.forall₂_cons_left_iff, gives_congr hunder, ih hkey.2]

/-- If the first field has the entry in front and no other, then it is what this entry is read
as. -/
theorem gives_own_cons_iff {fields : List Field} (hname : field.name ∉ fields.map Field.name)
    (hnone : Node.under field.name entries = []) (node : Node) :
    List.Forall₂ (Gives depth ((some field.name, node) :: entries)) (field :: fields) values ↔
      ∃ value rest, field.read depth node = .ok value ∧
        List.Forall₂ (Gives depth entries) fields rest ∧ values = value :: rest := by
  have hentry : Node.under field.name ((some field.name, node) :: entries) =
      [(some field.name, node)] := by
    rw [Node.under_cons_self, hnone]
  simp only [List.forall₂_cons_left_iff, gives_iff_of_entry hentry, gives_cons_iff hname]

theorem gives_missing_cons_iff {fields : List Field} (homissible : field.omissible = true)
    (hnone : Node.under field.name entries = []) :
    List.Forall₂ (Gives depth entries) (field :: fields) values ↔
      ∃ rest, List.Forall₂ (Gives depth entries) fields rest ∧ values = none :: rest := by
  simp only [List.forall₂_cons_left_iff, gives_iff_of_missing homissible hnone, exists_and_left,
    exists_eq_left]

/-- If something is given for all fields, then for each of them. -/
theorem exists_gives {fields : List Field}
    (h : List.Forall₂ (Gives depth entries) fields values) (hfield : field ∈ fields) :
    ∃ value, Gives depth entries field value := by
  induction h with
  | nil => cases hfield
  | cons hvalue _ ih =>
    rcases List.mem_cons.1 hfield with rfl | hrest
    · exact ⟨_, hvalue⟩
    · exact ih hrest

/-- No two fields have the same name. -/
def Distinct (fields : List Field) : Prop := (fields.map Field.name).Nodup

theorem named_of_distinct (h : Distinct record.fields) : record.Named := by
  obtain ⟨title, fields⟩ := record
  intro field hfield
  dsimp only [Named] at h hfield ⊢
  induction fields with
  | nil => cases hfield
  | cons first fields ih =>
    rw [Distinct, List.map_cons, List.nodup_cons] at h
    rcases List.mem_cons.1 hfield with rfl | hrest
    · exact List.find?_cons_of_pos (by simp)
    · have hne : first.name ≠ field.name := fun heq =>
        h.1 (heq ▸ List.mem_map_of_mem hrest)
      rw [List.find?_cons_of_neg (by simpa using hne)]
      exact ih h.2 hrest

/-! ## Collecting -/

/-- What was collected for a field before and after some entries. -/
inductive Fills (depth : Nat) (entries : List (Option String × Node)) (field : Field) :
    Option (Option Json) → Option (Option Json) → Prop where
  | kept (value : Option Json) : Node.under field.name entries = [] →
      Fills depth entries field (some value) (some value)
  | missing : Node.under field.name entries = [] → Fills depth entries field none none
  | filled {node : Node} {value : Option Json} :
      Node.under field.name entries = [(some field.name, node)] →
      field.read depth node = .ok value → Fills depth entries field none (some value)

theorem Fills.cons_of_ne {key : String} (hkey : key ≠ field.name) (node : Node)
    {before after : Option (Option Json)} :
    Fills depth ((some key, node) :: entries) field before after ↔
      Fills depth entries field before after := by
  have hunder := Node.under_cons_of_ne hkey node entries
  constructor
  · intro h
    cases h with
    | kept value h => exact .kept value (hunder ▸ h)
    | missing h => exact .missing (hunder ▸ h)
    | filled h hread => exact .filled (hunder ▸ h) hread
  · intro h
    cases h with
    | kept value h => exact .kept value (hunder.trans h)
    | missing h => exact .missing (hunder.trans h)
    | filled h hread => exact .filled (hunder.trans h) hread

/-- An entry under the name of a field fills it, and so no other one may. -/
theorem Fills.cons_self_iff {node : Node} {before after : Option (Option Json)} :
    Fills depth ((some field.name, node) :: entries) field before after ↔
      before = none ∧ ∃ value, field.read depth node = .ok value ∧
        Fills depth entries field (some value) after := by
  constructor
  · intro h
    cases h with
    | kept value hunder =>
      rw [Node.under_cons_self] at hunder
      cases hunder
    | missing hunder =>
      rw [Node.under_cons_self] at hunder
      cases hunder
    | @filled _ value hunder hread =>
      rw [Node.under_cons_self] at hunder
      obtain ⟨hentry, hnil⟩ := List.cons.inj hunder
      cases hentry
      exact ⟨rfl, value, hread, .kept value hnil⟩
  · rintro ⟨rfl, value, hread, hkept⟩
    cases hkept with
    | kept _ hunder => exact .filled (by rw [Node.under_cons_self, hunder]) hread

theorem name_eq_of_find? {key : String}
    (h : record.fields.find? (·.name == key) = some field) :
    field ∈ record.fields ∧ field.name = key :=
  ⟨List.mem_of_find?_eq_some h, eq_of_beq (List.find?_some (p := fun f : Field => f.name == key) h)⟩

/-- Every field is the one that is found under its name. -/
theorem eq_of_find? {own : Field} (hnamed : record.Named) (hfield : field ∈ record.fields)
    (h : record.fields.find? (·.name == field.name) = some own) : own = field :=
  Option.some.inj (h.symm.trans (hnamed field hfield))

/-- A key under which no field is found is the name of none. -/
theorem ne_name_of_find? {key : String} (hnamed : record.Named)
    (h : record.fields.find? (·.name == key) = none) :
    ∀ field ∈ record.fields, key ≠ field.name := by
  rintro field hfield rfl
  cases h.symm.trans (hnamed field hfield)

theorem fills_of_collect (hnamed : record.Named)
    (h : record.collect depth found entries = .ok found') :
    (∀ entry ∈ entries, record.Admits entry) ∧
      ∀ field ∈ record.fields,
        Fills depth entries field (found.lookup field.name) (found'.lookup field.name) := by
  induction entries generalizing found with
  | nil =>
    obtain rfl := Except.ok.inj h
    refine ⟨List.forall_mem_nil _, fun field _ => ?_⟩
    cases found.lookup field.name with
    | none => exact .missing rfl
    | some value => exact .kept value rfl
  | cons entry entries ih =>
    obtain ⟨_ | key, node⟩ := entry
    · cases h
    rw [collect_cons] at h
    split at h
    · rename_i own hfind
      obtain ⟨hmem, rfl⟩ := name_eq_of_find? hfind
      split at h
      · cases h
      rename_i hnew
      obtain ⟨value, hvalue, h⟩ := ReadError.exists_of_bind_eq_ok h
      obtain ⟨hadmits, hfills⟩ := ih h
      have howns : record.owns (some own.name, node) = true := owns_iff.2 ⟨own, hmem, rfl⟩
      refine ⟨List.forall_mem_cons.2 ⟨⟨⟨_, rfl⟩, by simp [howns]⟩, hadmits⟩, ?_⟩
      intro field hfield
      have hrest := hfills field hfield
      by_cases hkey : own.name = field.name
      · -- The entry is the only one for its field.
        obtain rfl := eq_of_find? hnamed hfield (hkey ▸ hfind)
        rw [List.lookup_cons_self] at hrest
        have hnone : found.lookup own.name = none := Option.not_isSome_iff_eq_none.1 hnew
        exact Fills.cons_self_iff.2 ⟨hnone, value, hvalue, hrest⟩
      · rw [List.lookup_cons, beq_eq_false_iff_ne.2 (Ne.symm hkey)] at hrest
        exact (Fills.cons_of_ne hkey node).2 hrest
    · rename_i hfind
      split at h
      · rename_i hintact
        obtain ⟨hadmits, hfills⟩ := ih h
        refine ⟨List.forall_mem_cons.2 ⟨⟨⟨key, rfl⟩, fun _ => hintact⟩, hadmits⟩, ?_⟩
        intro field hfield
        exact (Fills.cons_of_ne (ne_name_of_find? hnamed hfind field hfield) node).2
          (hfills field hfield)
      · cases h

theorem exists_collect (hnamed : record.Named) (hadmits : ∀ entry ∈ entries, record.Admits entry)
    (hfills : ∀ field ∈ record.fields,
      ∃ after, Fills depth entries field (found.lookup field.name) after) :
    ∃ found', record.collect depth found entries = .ok found' := by
  induction entries generalizing found with
  | nil => exact ⟨found, rfl⟩
  | cons entry entries ih =>
    obtain ⟨⟨hkey, hintact⟩, hrest⟩ := List.forall_mem_cons.1 hadmits
    obtain ⟨key?, node⟩ := entry
    obtain ⟨key, rfl⟩ : ∃ key, key? = some key := hkey
    rw [collect_cons]
    split
    · rename_i own hfind
      obtain ⟨hmem, rfl⟩ := name_eq_of_find? hfind
      obtain ⟨after, hown⟩ := hfills own hmem
      obtain ⟨hnone, value, hread, hkept⟩ := Fills.cons_self_iff.1 hown
      rw [if_neg (by simp [hnone]), hread]
      refine ih hrest fun field hfield => ?_
      by_cases hsame : own.name = field.name
      · obtain rfl := eq_of_find? hnamed hfield (hsame ▸ hfind)
        rw [List.lookup_cons_self]
        exact ⟨after, hkept⟩
      · obtain ⟨after, hafter⟩ := hfills field hfield
        rw [List.lookup_cons, beq_eq_false_iff_ne.2 (Ne.symm hsame)]
        exact ⟨after, (Fills.cons_of_ne hsame _).1 hafter⟩
    · rename_i hfind
      have hne := ne_name_of_find? hnamed hfind
      have howns : record.owns (some key, node) = false := by
        rw [Bool.eq_false_iff]
        intro howns
        obtain ⟨field, hfield, heq⟩ := owns_iff.1 howns
        exact hne field hfield heq.symm
      rw [if_pos (hintact howns)]
      refine ih hrest fun field hfield => ?_
      obtain ⟨after, hafter⟩ := hfills field hfield
      exact ⟨after, (Fills.cons_of_ne (hne field hfield) node).1 hafter⟩

theorem arrange_eq_ok_iff {fields : List Field} : arrange found fields = .ok values ↔
    List.Forall₂ (fun field value => collected found field = .ok value) fields values := by
  induction fields generalizing values with
  | nil =>
    rw [arrange, List.forall₂_nil_left_iff]
    exact ⟨fun h => (Except.ok.inj h).symm, fun h => by rw [h]⟩
  | cons field fields ih =>
    rw [arrange_cons, List.forall₂_cons_left_iff]
    constructor
    · intro h
      obtain ⟨value, hvalue, h⟩ := ReadError.exists_of_bind_eq_ok h
      obtain ⟨rest, hrest, h⟩ := ReadError.exists_of_bind_eq_ok h
      cases h
      exact ⟨value, rest, hvalue, ih.1 hrest, rfl⟩
    · rintro ⟨value, rest, hvalue, hrest, rfl⟩
      rw [hvalue, ih.2 hrest]
      rfl

/-! ## Objects -/

/-- What is collected from entries for a field is what they give. -/
theorem gives_iff_collected {value : Option Json}
    (h : Fills depth entries field none (found.lookup field.name)) :
    Gives depth entries field value ↔ collected found field = .ok value := by
  unfold collected
  generalize found.lookup field.name = after at h ⊢
  cases h with
  | missing hunder =>
    constructor
    · intro hgives
      cases hgives with
      | missing homissible => rw [homissible]; rfl
      | entry hentry =>
        rw [hunder] at hentry
        cases hentry
    · intro hcollected
      dsimp only at hcollected
      split at hcollected
      · cases hcollected
        exact .missing ‹_› hunder
      · cases hcollected
  | filled hunder hread =>
    constructor
    · intro hgives
      cases hgives with
      | missing _ hnone =>
        rw [hunder] at hnone
        cases hnone
      | entry hentry hread' =>
        rw [hunder] at hentry
        cases hentry
        rw [← hread', hread]
    · intro hcollected
      cases hcollected
      exact .entry hunder hread

/-- An object is read as a record if it gives a value for each field. -/
theorem readEntries_eq_ok_iff (hnamed : record.Named) :
    record.readEntries depth entries true = .ok values ↔
      (∀ entry ∈ entries, record.Admits entry) ∧
        List.Forall₂ (Gives depth entries) record.fields values := by
  constructor
  · intro h
    obtain ⟨found, hcollect, h⟩ := ReadError.exists_of_bind_eq_ok h
    obtain ⟨hadmits, hfills⟩ := fills_of_collect hnamed hcollect
    have harrange : arrange found record.fields = .ok values := h
    have hboth := (List.forall₂_and_left _ _).2 ⟨hfills, arrange_eq_ok_iff.1 harrange⟩
    exact ⟨hadmits, hboth.imp fun field value h => (gives_iff_collected h.1).2 h.2⟩
  · rintro ⟨hadmits, hgives⟩
    have hready : ∀ field ∈ record.fields, ∃ after, Fills depth entries field none after := by
      intro field hfield
      obtain ⟨value, h⟩ := exists_gives hgives hfield
      cases h with
      | missing _ hunder => exact ⟨none, .missing hunder⟩
      | entry hunder hread => exact ⟨_, .filled hunder hread⟩
    obtain ⟨found, hcollect⟩ : ∃ found, record.collect depth [] entries = .ok found :=
      exists_collect hnamed hadmits hready
    obtain ⟨-, hfills⟩ := fills_of_collect hnamed hcollect
    have hboth := (List.forall₂_and_left _ _).2 ⟨hfills, hgives⟩
    have harrange : arrange found record.fields = .ok values :=
      arrange_eq_ok_iff.2 (hboth.imp fun field value h => (gives_iff_collected h.1).1 h.2)
    rw [readEntries, hcollect]
    exact harrange

/-! ## Other orders -/

/-- Entries under the name of a field are among those of the record. -/
theorem under_filter_owns (hfield : field ∈ record.fields) (entries : List (Option String × Node)) :
    Node.under field.name (entries.filter record.owns) = Node.under field.name entries := by
  rw [Node.under, List.filter_filter]
  refine List.filter_congr fun entry _ => ?_
  cases hname : entry.1 == some field.name with
  | false => rfl
  | true =>
    rw [Bool.true_and, owns, List.any_eq_true]
    exact ⟨field, hfield, hname⟩

theorem Gives.perm {value : Option Json} (hfield : field ∈ record.fields)
    (hperm : (entries.filter record.owns).Perm (entries'.filter record.owns))
    (h : Gives depth entries field value) : Gives depth entries' field value := by
  have hunder : (Node.under field.name entries).Perm (Node.under field.name entries') := by
    rw [← under_filter_owns hfield entries, ← under_filter_owns hfield entries']
    exact hperm.filter _
  cases h with
  | missing homissible hnone =>
    rw [hnone] at hunder
    exact .missing homissible hunder.nil_eq.symm
  | entry hentry hread =>
    rw [hentry] at hunder
    exact .entry hunder.singleton_eq.symm hread

/-- What is given for the fields depends on the entries under their names only. -/
theorem forall₂_gives_congr
    (hperm : (entries.filter record.owns).Perm (entries'.filter record.owns)) :
    List.Forall₂ (Gives depth entries) record.fields values ↔
      List.Forall₂ (Gives depth entries') record.fields values := by
  have hgives : ∀ {entries entries' : List (Option String × Node)},
      (entries.filter record.owns).Perm (entries'.filter record.owns) →
      List.Forall₂ (Gives depth entries) record.fields values →
      List.Forall₂ (Gives depth entries') record.fields values := by
    intro entries entries' hperm h
    have hboth := (List.forall₂_and_left _ _).2 ⟨fun field hfield => hfield, h⟩
    exact hboth.imp fun field value h => h.2.perm h.1 hperm
  exact ⟨hgives hperm, hgives hperm.symm⟩

/-- Neither the order of the entries makes a difference, nor what stands under other names. -/
theorem readEntries_congr (hnamed : record.Named)
    (hperm : (entries.filter record.owns).Perm (entries'.filter record.owns))
    (hadmits : ∀ entry ∈ entries, record.Admits entry)
    (hadmits' : ∀ entry ∈ entries', record.Admits entry) :
    record.readEntries depth entries true = .ok values ↔
      record.readEntries depth entries' true = .ok values := by
  rw [readEntries_eq_ok_iff hnamed, readEntries_eq_ok_iff hnamed, forall₂_gives_congr hperm,
    and_iff_right hadmits, and_iff_right hadmits']

end Record

end ContractEmulator
