/-!
# JSON values

A value as a contract sees it. Numbers are integers from `-2 ^ 63` to `2 ^ 64 - 1` or binary64
fractions, and the two never count as each other.

An object is a list of entries. A value that was just read keeps its entries as they stood in the
text; `Json.canonical` sorts every object by key and keeps the last entry of a repeated key, which
is the form that contracts are given.
-/

namespace ContractEmulator

/-- A JSON value. -/
inductive Json where
  | null
  | bool (b : Bool)
  /-- An integer from `-2 ^ 63` to `2 ^ 64 - 1`. -/
  | int (n : Int)
  /-- The finite binary64 number with the given pattern. -/
  | float (bits : UInt64)
  | str (s : String)
  | arr (items : List Json)
  | obj (entries : List (String × Json))
  deriving Inhabited

namespace Json

/-- Puts an entry into entries sorted by key, in place of one with the same key. -/
def insertEntry (key : String) (value : Json) : List (String × Json) → List (String × Json)
  | [] => [(key, value)]
  | (k, v) :: rest =>
    if key < k then (key, value) :: (k, v) :: rest
    else if key = k then (key, value) :: rest
    else (k, v) :: insertEntry key value rest

/-- Entries sorted by key; of entries with the same key the last one stays. -/
def sortEntries (entries : List (String × Json)) : List (String × Json) :=
  entries.foldl (fun sorted entry => insertEntry entry.1 entry.2 sorted) []

mutual

/-- The value with every object in it sorted by key and free of repeated keys. -/
def canonical : Json → Json
  | .arr items => .arr (canonicalItems items)
  | .obj entries => .obj (sortEntries (canonicalEntries entries))
  | .null => .null
  | .bool b => .bool b
  | .int n => .int n
  | .float bits => .float bits
  | .str s => .str s
  termination_by structural j => j

/-- `canonical` on each item. -/
def canonicalItems : List Json → List Json
  | [] => []
  | item :: items => canonical item :: canonicalItems items
  termination_by structural items => items

/-- `canonical` on the value of each entry. -/
def canonicalEntries : List (String × Json) → List (String × Json)
  | [] => []
  | (key, value) :: entries => (key, canonical value) :: canonicalEntries entries
  termination_by structural entries => entries

end

/-- The value under a key; `none` also for a value that is no object. -/
def get? (name : String) : Json → Option Json
  | .obj entries => entries.lookup name
  | _ => none

/-- Only an object has values under keys. -/
theorem get?_eq_none_iff (j : Json) (name : String) :
    j.get? name = none ↔ ∀ entries, j = .obj entries → name ∉ entries.map Prod.fst := by
  cases j with
  | obj entries =>
    show entries.lookup name = none ↔ _
    rw [List.lookup_eq_none_iff]
    constructor
    · rintro h _ ⟨⟩ hmem
      obtain ⟨entry, hentry, rfl⟩ := List.mem_map.1 hmem
      exact absurd (beq_self_eq_true entry.1) (by simpa using h entry hentry)
    · intro h entry hentry
      have hne : name ≠ entry.1 := fun heq => h entries rfl (heq ▸ List.mem_map_of_mem hentry)
      simpa using hne
  | _ => exact ⟨(by rintro _ _ ⟨⟩), fun _ => rfl⟩

/-- The object with the given entries, in canonical form. -/
def ofEntries (entries : List (String × Json)) : Json := .obj (sortEntries entries)

theorem fst_of_mem_insertEntry {key : String} {value : Json} {entries : List (String × Json)}
    {entry : String × Json} (h : entry ∈ insertEntry key value entries) :
    entry.1 = key ∨ entry ∈ entries := by
  induction entries with
  | nil => exact .inl (congrArg Prod.fst (List.mem_singleton.1 h))
  | cons first rest ih =>
    unfold insertEntry at h
    split at h
    · exact (List.mem_cons.1 h).imp_left (congrArg Prod.fst)
    · split at h
      · exact (List.mem_cons.1 h).imp (congrArg Prod.fst) (List.mem_cons_of_mem _)
      · rcases List.mem_cons.1 h with rfl | hrest
        · exact .inr List.mem_cons_self
        · exact (ih hrest).imp_right (List.mem_cons_of_mem _)

/-- Under a key is the value that was put in for it. -/
theorem lookup_insertEntry (key : String) (value : Json) (entries : List (String × Json))
    (name : String) : (insertEntry key value entries).lookup name =
      if name = key then some value else entries.lookup name := by
  by_cases hname : name = key
  · subst hname
    rw [if_pos rfl]
    induction entries with
    | nil => exact List.lookup_cons_self
    | cons first rest ih =>
      unfold insertEntry
      split
      · exact List.lookup_cons_self
      · split
        · exact List.lookup_cons_self
        · next hne => rw [List.lookup_cons, beq_eq_false_iff_ne.2 hne, ih]
  · have hbeq := beq_eq_false_iff_ne.2 hname
    rw [if_neg hname]
    induction entries with
    | nil => rw [insertEntry, List.lookup_cons, hbeq]
    | cons first rest ih =>
      unfold insertEntry
      split
      · rw [List.lookup_cons, hbeq]
      · split
        · next heq => rw [List.lookup_cons, List.lookup_cons, hbeq, ← heq, hbeq]
        · rw [List.lookup_cons, List.lookup_cons, ih]

/-- An object has the keys that it was given and no others. -/
theorem get?_ofEntries_eq_none {entries : List (String × Json)} {name : String}
    (h : name ∉ entries.map Prod.fst) : (ofEntries entries).get? name = none := by
  have hfold : ∀ sorted : List (String × Json), name ∉ sorted.map Prod.fst →
      name ∉ (entries.foldl (fun sorted entry => insertEntry entry.1 entry.2 sorted) sorted).map
        Prod.fst := by
    induction entries with
    | nil => exact fun _ hsorted => hsorted
    | cons entry entries ih =>
      intro sorted hsorted
      rw [List.map_cons, List.mem_cons, not_or] at h
      refine ih h.2 _ fun hmem => ?_
      obtain ⟨found, hfound, rfl⟩ := List.mem_map.1 hmem
      rcases fst_of_mem_insertEntry hfound with heq | hold
      · exact h.1 heq
      · exact hsorted (List.mem_map_of_mem hold)
  exact (get?_eq_none_iff _ _).2 fun _ heq => Json.obj.inj heq ▸ hfold [] List.not_mem_nil

/-- The object with one more entry, in place of one with the same key. -/
def insert (j : Json) (name : String) (value : Json) : Json :=
  match j with
  | .obj entries => .obj (insertEntry name value entries)
  | j => j

def asStr? : Json → Option String
  | .str s => some s
  | _ => none

def asBool? : Json → Option Bool
  | .bool b => some b
  | _ => none

def asArr? : Json → Option (List Json)
  | .arr items => some items
  | _ => none

theorem asArr?_eq_none_iff (j : Json) : j.asArr? = none ↔ ∀ items, j ≠ .arr items := by
  cases j with
  | arr items => exact ⟨(by rintro ⟨⟩), fun h => absurd rfl (h items)⟩
  | _ => exact ⟨(by rintro _ _ ⟨⟩), fun _ => rfl⟩

/-- An integer that fits into 64 bits with a sign. -/
def asInt64? : Json → Option Int
  | .int n => if n < 0x8000000000000000 then some n else none
  | _ => none

/-- An integer that is not negative. -/
def asNat? : Json → Option Nat
  | .int n => if 0 ≤ n then some n.toNat else none
  | _ => none

/-- An optional value, with `null` for none. -/
def ofOption : Option Json → Json
  | some j => j
  | none => .null

/-- A byte string as an array of numbers. -/
def ofBytes (bytes : List UInt8) : Json := .arr (bytes.map fun b => .int b.toNat)

end Json

end ContractEmulator
