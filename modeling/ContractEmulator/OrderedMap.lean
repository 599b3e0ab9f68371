/-!
# Ordered maps

A finite map that keeps its keys in the order in which they were bound. Binding a bound key again
replaces its value and leaves it in its place; a key that was erased and bound again comes last.

* `find?_insert`, `find?_erase`: what each operation does to the values.
* `mem_of_find?_ofList`: what a list of bindings binds stands in the list.
* `mem_values_iff`: the values are what the keys are bound to.
* `insert_insert`: binding a key twice is binding it once, to the later value.
* `keys_insert_of_mem`, `keys_insert_of_not_mem`, `keys_erase`: what it does to the order.
* `KeyedBy`: the values know their keys. `map_values`, `values_insert_of_mem`, `values_erase`: then
  they tell the keys in order, and what each operation does to them.
-/

namespace ContractEmulator

/-- A finite map with an order on its keys. -/
structure OrderedMap (κ α : Type) where
  entries : List (κ × α)
  nodup_keys : (entries.map Prod.fst).Nodup

namespace OrderedMap

variable {κ α : Type}

/-- The map without keys. -/
def empty : OrderedMap κ α := ⟨[], List.nodup_nil⟩

/-- The keys in order. -/
def keys (m : OrderedMap κ α) : List κ := m.entries.map Prod.fst

/-- The values in the order of their keys. -/
def values (m : OrderedMap κ α) : List α := m.entries.map Prod.snd

/-- The number of keys. -/
def size (m : OrderedMap κ α) : Nat := m.entries.length

/-- Whether there are no keys. -/
def isEmpty (m : OrderedMap κ α) : Bool := m.entries.isEmpty

theorem eq_of_entries {m n : OrderedMap κ α} (h : m.entries = n.entries) : m = n := by
  cases m
  cases n
  cases h
  rfl

variable [DecidableEq κ]

/-- The value bound to a key. -/
def find? (m : OrderedMap κ α) (key : κ) : Option α :=
  (m.entries.find? fun entry => entry.1 = key).map Prod.snd

/-- Whether a key is bound. -/
def contains (m : OrderedMap κ α) (key : κ) : Bool := (m.find? key).isSome

/-- Gives `value` to the entry of `key`. -/
def replaceEntry (key : κ) (value : α) (entry : κ × α) : κ × α :=
  if entry.1 = key then (key, value) else entry

theorem replaceEntry_fst (key : κ) (value : α) (entry : κ × α) :
    (replaceEntry key value entry).1 = entry.1 := by
  unfold replaceEntry
  split
  · simp_all
  · rfl

theorem map_replaceEntry_keys (key : κ) (value : α) (entries : List (κ × α)) :
    (entries.map (replaceEntry key value)).map Prod.fst = entries.map Prod.fst := by
  rw [List.map_map]
  exact List.map_congr_left fun entry _ => replaceEntry_fst key value entry

/-- Binds a key: in its place if it is bound already, else at the end. -/
def insert (m : OrderedMap κ α) (key : κ) (value : α) : OrderedMap κ α :=
  if h : key ∈ m.keys then
    ⟨m.entries.map (replaceEntry key value), by
      rw [map_replaceEntry_keys]
      exact m.nodup_keys⟩
  else
    ⟨m.entries ++ [(key, value)], by
      rw [List.map_append]
      refine List.nodup_append.2 ⟨m.nodup_keys, by simp, ?_⟩
      intro a ha b hb hab
      simp only [List.map_cons, List.map_nil, List.mem_singleton] at hb
      exact h (by rw [keys, ← hb, ← hab]; exact ha)⟩

/-- Removes a key. -/
def erase (m : OrderedMap κ α) (key : κ) : OrderedMap κ α :=
  ⟨m.entries.filter fun entry => entry.1 ≠ key,
    m.nodup_keys.sublist (List.filter_sublist.map Prod.fst)⟩

/-- The map that results from binding the given pairs one after the other. -/
def ofList (pairs : List (κ × α)) : OrderedMap κ α :=
  pairs.foldl (fun m pair => m.insert pair.1 pair.2) empty

/-! ## Values -/

theorem find?_empty (key : κ) : (empty : OrderedMap κ α).find? key = none := rfl

/-- A bound key is one that has a value. -/
theorem contains_iff (m : OrderedMap κ α) (key : κ) : m.contains key = true ↔ key ∈ m.keys := by
  simp [contains, find?, keys]

theorem find?_eq_none_iff (m : OrderedMap κ α) (key : κ) : m.find? key = none ↔ key ∉ m.keys := by
  rw [← contains_iff, contains]
  cases m.find? key <;> simp

theorem contains_of_find? {m : OrderedMap κ α} {key : κ} {value : α}
    (h : m.find? key = some value) : m.contains key = true := by
  rw [contains, h, Option.isSome_some]

theorem contains_eq_false_iff (m : OrderedMap κ α) (key : κ) :
    m.contains key = false ↔ m.find? key = none := by
  rw [contains, Option.isSome_eq_false_iff, Option.isNone_iff_eq_none]

/-- Looking a key up finds an entry with that key. -/
theorem fst_of_find? {entries : List (κ × α)} {k : κ} {e : κ × α}
    (h : (entries.find? fun e => e.1 = k) = some e) : e.1 = k := by
  simpa using List.find?_some h

/-- Of entries with different keys, each is the one that is found under its key. -/
theorem find?_of_mem {entries : List (κ × α)} (hn : (entries.map Prod.fst).Nodup) {e : κ × α}
    (h : e ∈ entries) : (entries.find? fun e' => e'.1 = e.1) = some e := by
  induction entries with
  | nil => cases h
  | cons first rest ih =>
    obtain ⟨hfirst, hrest⟩ := List.nodup_cons.1 hn
    rcases List.mem_cons.1 h with rfl | hmem
    · simp
    · have hne : first.1 ≠ e.1 := fun heq => hfirst (heq ▸ List.mem_map_of_mem hmem)
      rw [List.find?_cons_of_neg (by simpa using hne)]
      exact ih hrest hmem

/-- The values are what the keys are bound to. -/
theorem mem_values_iff (m : OrderedMap κ α) (value : α) :
    value ∈ m.values ↔ ∃ key, m.find? key = some value := by
  constructor
  · intro h
    obtain ⟨e, hmem, rfl⟩ := List.mem_map.1 h
    exact ⟨e.1, by rw [find?, find?_of_mem m.nodup_keys hmem, Option.map_some]⟩
  · rintro ⟨key, h⟩
    obtain ⟨e, hfound, rfl⟩ := Option.map_eq_some_iff.1 h
    exact List.mem_map_of_mem (List.mem_of_find?_eq_some hfound)

/-- Replacing an entry replaces it in whatever is found. -/
theorem find?_map_replaceEntry (key k : κ) (value : α) (entries : List (κ × α)) :
    ((entries.map (replaceEntry key value)).find? fun e => e.1 = k) =
      (entries.find? fun e => e.1 = k).map (replaceEntry key value) := by
  rw [List.find?_map]
  congr 2
  funext e
  rw [Function.comp_apply, replaceEntry_fst]

/-- After binding `key`, it has the new value, and every other key the value it had. -/
theorem find?_insert (m : OrderedMap κ α) (key : κ) (value : α) (k : κ) :
    (m.insert key value).find? k = if k = key then some value else m.find? k := by
  rw [insert]
  split
  · next h =>
    have hfound : (m.find? key).isSome = true := (m.contains_iff key).2 h
    rw [find?, find?_map_replaceEntry, find?]
    rw [find?, Option.isSome_map] at hfound
    cases hf : m.entries.find? fun e => e.1 = k with
    | none =>
      have hk : ¬ k = key := by
        rintro rfl
        rw [hf] at hfound
        cases hfound
      simp [hk]
    | some e =>
      have he := fst_of_find? hf
      by_cases hk : k = key
      · simp [replaceEntry, he, hk]
      · simp [replaceEntry, he, hk]
  · next h =>
    by_cases hk : k = key
    · subst hk
      have hnone := (m.find?_eq_none_iff k).2 h
      rw [find?, Option.map_eq_none_iff] at hnone
      simp [find?, List.find?_append, hnone]
    · have hne : ¬ key = k := fun h => hk h.symm
      simp [find?, List.find?_append, hk, hne]

/-- A value comes from one of the bindings. -/
theorem mem_of_find?_ofList {pairs : List (κ × α)} {key : κ} {value : α}
    (h : (ofList pairs).find? key = some value) : (key, value) ∈ pairs := by
  have hfold : ∀ m : OrderedMap κ α,
      (pairs.foldl (fun m pair => m.insert pair.1 pair.2) m).find? key = some value →
      (key, value) ∈ pairs ∨ m.find? key = some value := by
    clear h
    induction pairs with
    | nil => exact fun _ hfind => .inr hfind
    | cons pair pairs ih =>
      intro m hfind
      rcases ih _ hfind with hmem | hinsert
      · exact .inl (List.mem_cons_of_mem pair hmem)
      · rw [find?_insert] at hinsert
        split at hinsert
        · next hkey =>
          cases hinsert
          exact .inl (hkey ▸ List.mem_cons_self)
        · exact .inr hinsert
  rcases hfold empty h with hmem | hnone
  · exact hmem
  · cases hnone

/-- After erasing `key`, it has no value, and every other key the value it had. -/
theorem find?_erase (m : OrderedMap κ α) (key k : κ) :
    (m.erase key).find? k = if k = key then none else m.find? k := by
  by_cases hk : k = key
  · subst hk
    rw [if_pos rfl, find?_eq_none_iff]
    simp [erase, keys]
  · rw [if_neg hk, find?, find?, erase, List.find?_filter]
    congr 2
    funext e
    by_cases he : e.1 = k
    · simp [he, hk]
    · simp [he]

/-! ## Order -/

/-- Binding a bound key moves no key. -/
theorem keys_insert_of_mem {m : OrderedMap κ α} {key : κ} (h : key ∈ m.keys) (value : α) :
    (m.insert key value).keys = m.keys := by
  rw [insert, dif_pos h]
  exact map_replaceEntry_keys key value m.entries

/-- A key that was not bound comes last. -/
theorem keys_insert_of_not_mem {m : OrderedMap κ α} {key : κ} (h : key ∉ m.keys) (value : α) :
    (m.insert key value).keys = m.keys ++ [key] := by
  rw [insert, dif_neg h]
  simp [keys]

/-- Erasing a key leaves the others in their order. -/
theorem keys_erase (m : OrderedMap κ α) (key : κ) :
    (m.erase key).keys = m.keys.filter fun k => k ≠ key := by
  simp [keys, erase, List.filter_map, Function.comp_def]

/-- Erasing a key that is not bound changes nothing. -/
theorem erase_of_not_mem {m : OrderedMap κ α} {key : κ} (h : key ∉ m.keys) : m.erase key = m := by
  apply eq_of_entries
  refine List.filter_eq_self.2 fun entry hmem => decide_eq_true ?_
  rintro rfl
  exact h (List.mem_map_of_mem hmem)

/-! ## Binding a key twice -/

theorem entries_insert_of_mem {m : OrderedMap κ α} {key : κ} (h : key ∈ m.keys) (value : α) :
    (m.insert key value).entries = m.entries.map (replaceEntry key value) := by
  rw [insert, dif_pos h]

theorem entries_insert_of_not_mem {m : OrderedMap κ α} {key : κ} (h : key ∉ m.keys) (value : α) :
    (m.insert key value).entries = m.entries ++ [(key, value)] := by
  rw [insert, dif_neg h]

theorem mem_keys_insert (m : OrderedMap κ α) (key : κ) (value : α) :
    key ∈ (m.insert key value).keys := by
  rw [← contains_iff, contains, find?_insert, if_pos rfl, Option.isSome_some]

theorem replaceEntry_replaceEntry (key : κ) (a b : α) (entry : κ × α) :
    replaceEntry key b (replaceEntry key a entry) = replaceEntry key b entry := by
  by_cases h : entry.1 = key
  · simp [replaceEntry, h]
  · simp [replaceEntry, h]

/-- Replacing the entry of a key that is not there changes nothing. -/
theorem map_replaceEntry_of_not_mem {key : κ} {entries : List (κ × α)}
    (h : key ∉ entries.map Prod.fst) (value : α) :
    entries.map (replaceEntry key value) = entries := by
  refine (List.map_congr_left fun entry hmem => ?_).trans (List.map_id entries)
  have hne : entry.1 ≠ key := fun hk => h (hk ▸ List.mem_map_of_mem hmem)
  simp [replaceEntry, hne]

/-- The later value of a key replaces the earlier one, and the place of the key is the same. -/
theorem insert_insert (m : OrderedMap κ α) (key : κ) (a b : α) :
    (m.insert key a).insert key b = m.insert key b := by
  apply eq_of_entries
  rw [entries_insert_of_mem (m.mem_keys_insert key a)]
  by_cases h : key ∈ m.keys
  · rw [entries_insert_of_mem h, entries_insert_of_mem h, List.map_map]
    exact List.map_congr_left fun entry _ => replaceEntry_replaceEntry key a b entry
  · rw [entries_insert_of_not_mem h, entries_insert_of_not_mem h, List.map_append,
      map_replaceEntry_of_not_mem h]
    simp [replaceEntry]

/-! ## Values that know their keys -/

/-- Every value stands under the key that `keyOf` gives it. -/
def KeyedBy (m : OrderedMap κ α) (keyOf : α → κ) : Prop :=
  ∀ entry ∈ m.entries, keyOf entry.2 = entry.1

variable {m : OrderedMap κ α} {keyOf : α → κ}

omit [DecidableEq κ] in
/-- Such values tell the keys in order. -/
theorem KeyedBy.map_values (h : m.KeyedBy keyOf) : m.values.map keyOf = m.keys := by
  rw [values, List.map_map]
  exact List.map_congr_left h

/-- A new key brings its value last. -/
theorem values_insert_of_not_mem {key : κ} (h : key ∉ m.keys) (value : α) :
    (m.insert key value).values = m.values ++ [value] := by
  rw [values, entries_insert_of_not_mem h]
  simp [values]

/-- The value of a bound key is replaced where it stands. -/
theorem KeyedBy.values_insert_of_mem (h : m.KeyedBy keyOf) {key : κ} (hmem : key ∈ m.keys)
    (value : α) : (m.insert key value).values =
      m.values.map fun old => if keyOf old = key then value else old := by
  rw [values, entries_insert_of_mem hmem, values, List.map_map, List.map_map]
  refine List.map_congr_left fun entry hentry => ?_
  by_cases hkey : entry.1 = key
  · simp [replaceEntry, hkey, h entry hentry]
  · simp [replaceEntry, hkey, h entry hentry]

/-- Erasing a key leaves the other values in their order. -/
theorem KeyedBy.values_erase (h : m.KeyedBy keyOf) (key : κ) :
    (m.erase key).values = m.values.filter fun value => keyOf value ≠ key := by
  rw [values, values, erase, List.filter_map]
  refine congrArg (List.map Prod.snd) (List.filter_congr fun entry hentry => ?_)
  rw [Function.comp_apply, h entry hentry]

end OrderedMap

end ContractEmulator
