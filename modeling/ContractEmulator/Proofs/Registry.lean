import ContractEmulator.Registry
import Mathlib.Data.List.Induction
import Mathlib.Data.List.Nodup

/-!
# What registries list

A registry is told by its history: what was bound and unbound, oldest first. It lists every id that
is bound, once, with what it was bound to last. An id comes before another one if it has been bound
for longer. So a bound id that is bound again keeps its place, and an id that was unbound and is
bound again comes last.

* `Registry.LastBound`, `Registry.Bound`: what a history leaves bound. `Registry.BoundSince`: by
  which change. `exists_boundSince`, `BoundSince.unique`: there is exactly one such change.
* `Registry.Kind`: contracts and functions. `Kind.Lawful.find?_ofHistory`: what a registry finds.
  `Kind.Lawful.pairwise_keys`: in which order its ids are.
* `Registry.Lists`, `Registry.Answers`, `Registry.Moves`: what a registry lists, what it answers,
  and what becomes of the list. `told_by_history`: so it is after every history.
-/

namespace ContractEmulator

namespace Registry

/-- A change to a registry. -/
inductive Change (α : Type) where
  | bind (entry : α)
  | unbind (id : String)

variable {α : Type}

/-! ## Histories -/

variable (idOf : α → String)

/-- The id that a change is about. -/
def Change.id : Change α → String
  | .bind entry => idOf entry
  | .unbind id => id

/-- What was done last about the id of `entry` was to bind it to `entry`. -/
def LastBound (history : List (Change α)) (entry : α) : Prop :=
  ∃ earlier later, history = earlier ++ .bind entry :: later ∧
    ∀ change ∈ later, change.id idOf ≠ idOf entry

/-- By the end of a history, `id` is bound. -/
def Bound (history : List (Change α)) (id : String) : Prop :=
  ∃ entry, LastBound idOf history entry ∧ idOf entry = id

/-- The change at `place` has bound `id`, which was not bound then and has been bound ever since. -/
structure BoundSince (history : List (Change α)) (id : String) (place : Nat) : Prop where
  lt_length : place < history.length
  absent : ¬Bound idOf (history.take place) id
  bound : ∀ n, place < n → n ≤ history.length → Bound idOf (history.take n) id

/-- `id` has been bound for longer than `id'`. -/
def BoundLonger (history : List (Change α)) (id id' : String) : Prop :=
  ∀ place place', BoundSince idOf history id place → BoundSince idOf history id' place' →
    place < place'

variable {idOf} {history : List (Change α)} {change : Change α} {entry : α} {id : String}
  {place place' : Nat}

theorem not_lastBound_nil : ¬LastBound idOf [] entry := by
  rintro ⟨earlier, later, h, -⟩
  exact List.append_ne_nil_of_right_ne_nil earlier (List.cons_ne_nil _ later) h.symm

/-- One more change decides about the id that it is about, and about no other. -/
theorem lastBound_concat : LastBound idOf (history ++ [change]) entry ↔
    change = .bind entry ∨ change.id idOf ≠ idOf entry ∧ LastBound idOf history entry := by
  constructor
  · rintro ⟨earlier, later, heq, hlater⟩
    rcases List.eq_nil_or_concat later with rfl | ⟨later, last, rfl⟩
    · exact .inl (List.singleton_inj.1 (List.append_inj' heq rfl).2)
    · rw [List.concat_eq_append, ← List.cons_append, ← List.append_assoc] at heq
      obtain ⟨rfl, hlast⟩ := List.append_inj' heq rfl
      obtain rfl := List.singleton_inj.1 hlast
      rw [List.concat_eq_append] at hlater
      obtain ⟨hlater, hlast⟩ := List.forall_mem_append.1 hlater
      exact .inr ⟨hlast _ List.mem_cons_self, earlier, later, rfl, hlater⟩
  · rintro (rfl | ⟨hne, earlier, later, rfl, hlater⟩)
    · exact ⟨history, [], rfl, List.forall_mem_nil _⟩
    · refine ⟨earlier, later ++ [change], by simp, ?_⟩
      exact List.forall_mem_append.2 ⟨hlater, List.forall_mem_singleton.2 hne⟩

theorem lastBound_concat_of_ne (h : change.id idOf ≠ idOf entry) :
    LastBound idOf (history ++ [change]) entry ↔ LastBound idOf history entry := by
  rw [lastBound_concat]
  constructor
  · rintro (rfl | ⟨-, hlast⟩)
    · exact absurd rfl h
    · exact hlast
  · exact fun hlast => .inr ⟨h, hlast⟩

/-- What has been bound since some change, and is bound still, has been bound since that change. -/
theorem BoundSince.concat (h : BoundSince idOf history id place)
    (hbound : Bound idOf (history ++ [change]) id) :
    BoundSince idOf (history ++ [change]) id place where
  lt_length := by
    have hlt := h.lt_length
    rw [List.length_append]
    omega
  absent := by
    rw [List.take_append_of_le_length (Nat.le_of_lt h.lt_length)]
    exact h.absent
  bound n hplace hn := by
    by_cases hold : n ≤ history.length
    · rw [List.take_append_of_le_length hold]
      exact h.bound n hplace hold
    · rw [List.take_of_length_le]
      · exact hbound
      · rw [List.length_append, List.length_singleton]
        omega

/-- What was not bound, and is bound by the last change, has been bound since that change. -/
theorem boundSince_length (hnot : ¬Bound idOf history id)
    (hbound : Bound idOf (history ++ [change]) id) :
    BoundSince idOf (history ++ [change]) id history.length where
  lt_length := by simp
  absent := by rwa [List.take_left]
  bound n hplace hn := by
    rwa [List.take_of_length_le]
    rw [List.length_append, List.length_singleton]
    omega

/-- What was bound before the last change has been bound since an earlier one. -/
theorem BoundSince.of_concat (h : BoundSince idOf (history ++ [change]) id place)
    (hbound : Bound idOf history id) : BoundSince idOf history id place := by
  have hle : place ≤ history.length := by
    have hlt := h.lt_length
    rw [List.length_append, List.length_singleton] at hlt
    omega
  have habsent := h.absent
  rw [List.take_append_of_le_length hle] at habsent
  have hne : place ≠ history.length := by
    rintro rfl
    rw [List.take_length] at habsent
    exact habsent hbound
  refine ⟨by omega, habsent, fun n hplace hn => ?_⟩
  have hafter := h.bound n hplace (by rw [List.length_append]; omega)
  rwa [List.take_append_of_le_length hn] at hafter

/-- What was not bound before the last change has not been bound since an earlier one. -/
theorem BoundSince.length_le (h : BoundSince idOf (history ++ [change]) id place)
    (hnot : ¬Bound idOf history id) : history.length ≤ place := by
  by_contra hlt
  have hbound := h.bound history.length (by omega) (by rw [List.length_append]; omega)
  rw [List.take_left] at hbound
  exact hnot hbound

theorem exists_boundSince (h : Bound idOf history id) :
    ∃ place, BoundSince idOf history id place := by
  induction history using List.reverseRecOn with
  | nil =>
    obtain ⟨entry, hlast, -⟩ := h
    exact absurd hlast not_lastBound_nil
  | append_singleton history change ih =>
    by_cases hbefore : Bound idOf history id
    · obtain ⟨place, hplace⟩ := ih hbefore
      exact ⟨place, hplace.concat h⟩
    · exact ⟨history.length, boundSince_length hbefore h⟩

theorem BoundSince.unique (h : BoundSince idOf history id place)
    (h' : BoundSince idOf history id place') : place = place' := by
  rcases Nat.lt_trichotomy place place' with hlt | heq | hgt
  · exact absurd (h.bound place' hlt (Nat.le_of_lt h'.lt_length)) h'.absent
  · exact heq
  · exact absurd (h'.bound place hgt (Nat.le_of_lt h.lt_length)) h.absent

/-! ## Registries with a history -/

/-- A kind of registry: the ids of its entries, how it binds, unbinds and looks up, and how it fails
for an id that is not bound. -/
structure Kind (α : Type) where
  idOf : α → String
  bind : OrderedMap String α → α → OrderedMap String α
  unbind : OrderedMap String α → String → OrderedMap String α
  lookup : OrderedMap String α → String → Except Failure α
  missing : String → Failure

namespace Kind

/-- What the operations do to the map that a registry is. -/
structure Lawful (kind : Kind α) : Prop where
  bind_eq : ∀ registry entry,
    kind.bind registry entry = registry.insert (kind.idOf entry) entry
  unbind_eq : ∀ registry id, kind.unbind registry id = registry.erase id
  lookup_eq_ok_iff : ∀ {registry id entry},
    kind.lookup registry id = .ok entry ↔ registry.find? id = some entry
  lookup_eq_error_iff : ∀ {registry id f},
    kind.lookup registry id = .error f ↔ registry.find? id = none ∧ f = kind.missing id

/-- The registry after a change. -/
def apply (kind : Kind α) (registry : OrderedMap String α) : Change α → OrderedMap String α
  | .bind entry => kind.bind registry entry
  | .unbind id => kind.unbind registry id

/-- The registry after some changes, oldest first. -/
def ofHistory (kind : Kind α) (history : List (Change α)) : OrderedMap String α :=
  history.foldl kind.apply .empty

variable {kind : Kind α}

theorem ofHistory_concat (kind : Kind α) (history : List (Change α)) (change : Change α) :
    kind.ofHistory (history ++ [change]) = kind.apply (kind.ofHistory history) change := by
  rw [ofHistory, List.foldl_append]
  rfl

/-- A change leaves alone what is bound to other ids. -/
theorem Lawful.find?_apply_of_ne (hl : kind.Lawful) (h : change.id kind.idOf ≠ id)
    (registry : OrderedMap String α) :
    (kind.apply registry change).find? id = registry.find? id := by
  cases change with
  | bind entry =>
    rw [apply, hl.bind_eq, OrderedMap.find?_insert]
    exact if_neg (Ne.symm h)
  | unbind removed =>
    rw [apply, hl.unbind_eq, OrderedMap.find?_erase]
    exact if_neg (Ne.symm h)

/-- What is found under an id is what the id was bound to last. -/
theorem Lawful.find?_ofHistory (hl : kind.Lawful) (history : List (Change α)) (id : String)
    (entry : α) : (kind.ofHistory history).find? id = some entry ↔
      LastBound kind.idOf history entry ∧ kind.idOf entry = id := by
  induction history using List.reverseRecOn with
  | nil => simp [ofHistory, OrderedMap.find?_empty, not_lastBound_nil]
  | append_singleton history change ih =>
    rw [ofHistory_concat]
    by_cases hid : change.id kind.idOf = id
    · subst hid
      rw [lastBound_concat]
      cases change with
      | bind bound =>
        rw [apply, hl.bind_eq, OrderedMap.find?_insert, Change.id, if_pos rfl]
        constructor
        · rintro ⟨⟩
          exact ⟨.inl rfl, rfl⟩
        · rintro ⟨hlast | ⟨hne, -⟩, heq⟩
          · cases hlast
            rfl
          · exact absurd heq.symm hne
      | unbind removed =>
        rw [apply, hl.unbind_eq, OrderedMap.find?_erase, Change.id, if_pos rfl]
        constructor
        · rintro ⟨⟩
        · rintro ⟨hlast | ⟨hne, -⟩, heq⟩
          · cases hlast
          · exact absurd heq.symm hne
    · rw [hl.find?_apply_of_ne hid, ih]
      exact and_congr_left fun heq => (lastBound_concat_of_ne (heq ▸ hid)).symm

theorem Lawful.mem_keys_iff (hl : kind.Lawful) {history : List (Change α)} {id : String} :
    id ∈ (kind.ofHistory history).keys ↔ Bound kind.idOf history id := by
  rw [← OrderedMap.contains_iff, OrderedMap.contains, Option.isSome_iff_exists]
  exact exists_congr fun entry => hl.find?_ofHistory history id entry

/-- The ids are in the order in which they were bound after they were last absent. -/
theorem Lawful.pairwise_keys (hl : kind.Lawful) (history : List (Change α)) :
    (kind.ofHistory history).keys.Pairwise (BoundLonger kind.idOf history) := by
  induction history using List.reverseRecOn with
  | nil => exact .nil
  | append_singleton history change ih =>
    -- Ids that stay keep their order, since they have been bound since the same changes.
    have hkept : ∀ ids : List String, ids.Sublist (kind.ofHistory history).keys →
        ids.Pairwise (BoundLonger kind.idOf (history ++ [change])) := by
      intro ids hsub
      refine (ih.sublist hsub).imp_of_mem ?_
      intro id id' hmem hmem' hlonger place place' hplace hplace'
      have hbound := hl.mem_keys_iff.1 (hsub.subset hmem)
      have hbound' := hl.mem_keys_iff.1 (hsub.subset hmem')
      exact hlonger place place' (hplace.of_concat hbound) (hplace'.of_concat hbound')
    rw [ofHistory_concat]
    cases change with
    | bind entry =>
      rw [apply, hl.bind_eq]
      by_cases hmem : kind.idOf entry ∈ (kind.ofHistory history).keys
      · rw [OrderedMap.keys_insert_of_mem hmem]
        exact hkept _ (List.Sublist.refl _)
      · rw [OrderedMap.keys_insert_of_not_mem hmem, List.pairwise_append]
        refine ⟨hkept _ (List.Sublist.refl _), List.pairwise_singleton _ _, ?_⟩
        intro id hold id' hnew place place' hplace hplace'
        obtain rfl := List.mem_singleton.1 hnew
        have hbefore := (hplace.of_concat (hl.mem_keys_iff.1 hold)).lt_length
        have hafter := hplace'.length_le (mt hl.mem_keys_iff.2 hmem)
        omega
    | unbind removed =>
      rw [apply, hl.unbind_eq, OrderedMap.keys_erase]
      exact hkept _ List.filter_sublist

/-- Every entry stands under its own id. -/
theorem Lawful.keyedBy (hl : kind.Lawful) (history : List (Change α)) :
    (kind.ofHistory history).KeyedBy kind.idOf := by
  intro e hmem
  have hfind := OrderedMap.find?_of_mem (kind.ofHistory history).nodup_keys hmem
  exact ((hl.find?_ofHistory history e.1 e.2).1 (congrArg (Option.map Prod.snd) hfind)).2

end Kind

/-! ## What is listed -/

/-- What a registry with a history lists. -/
structure Lists (idOf : α → String) (history : List (Change α)) (listed : List α) : Prop where
  /-- Every id that is bound is listed with what it was bound to last, and nothing else is. -/
  mem_iff : ∀ entry, entry ∈ listed ↔ LastBound idOf history entry
  nodup : (listed.map idOf).Nodup
  since : ∀ entry ∈ listed, ∃! place, BoundSince idOf history (idOf entry) place
  /-- An id comes before those that were bound later. -/
  ordered : (listed.map idOf).Pairwise (BoundLonger idOf history)

/-- What a registry answers agrees with what it lists. -/
structure Answers (kind : Kind α) (registry : OrderedMap String α) : Prop where
  find?_iff : ∀ id entry,
    registry.find? id = some entry ↔ entry ∈ registry.values ∧ kind.idOf entry = id
  lookup_ok_iff : ∀ id entry,
    kind.lookup registry id = .ok entry ↔ entry ∈ registry.values ∧ kind.idOf entry = id
  lookup_error_iff : ∀ id f, kind.lookup registry id = .error f ↔
    id ∉ registry.values.map kind.idOf ∧ f = kind.missing id
  contains_iff : ∀ id, registry.contains id = true ↔ id ∈ registry.values.map kind.idOf
  size_eq : registry.size = registry.values.length
  isEmpty_iff : registry.isEmpty = true ↔ registry.values = []

/-- What becomes of the list. -/
structure Moves (kind : Kind α) (registry : OrderedMap String α) : Prop where
  bind_new : ∀ entry, registry.contains (kind.idOf entry) = false →
    (kind.bind registry entry).values = registry.values ++ [entry]
  /-- A bound id keeps its place. -/
  bind_bound : ∀ entry, registry.contains (kind.idOf entry) = true →
    (kind.bind registry entry).values =
      registry.values.map fun old => if kind.idOf old = kind.idOf entry then entry else old
  unbind : ∀ id,
    (kind.unbind registry id).values = registry.values.filter fun entry => kind.idOf entry ≠ id
  unbind_absent : ∀ id, registry.contains id = false → kind.unbind registry id = registry
  /-- An id that is unbound and bound again comes last. -/
  bind_unbound : ∀ entry, (kind.bind (kind.unbind registry (kind.idOf entry)) entry).values =
    (registry.values.filter fun old => kind.idOf old ≠ kind.idOf entry) ++ [entry]

/-- A history leaves no choice of what is listed, and in which order. -/
theorem Lists.unique {listed listed' : List α} (h : Lists idOf history listed)
    (h' : Lists idOf history listed') : listed = listed' := by
  have hnodup := List.Nodup.of_map idOf h.nodup
  have hnodup' := List.Nodup.of_map idOf h'.nodup
  have hperm : listed.Perm listed' := (List.perm_ext_iff_of_nodup hnodup hnodup').2 fun entry =>
    (h.mem_iff entry).trans (h'.mem_iff entry).symm
  refine hperm.eq_of_pairwise ?_ (List.pairwise_map.1 h.ordered) (List.pairwise_map.1 h'.ordered)
  intro entry entry' hmem hmem' hlonger hlonger'
  obtain ⟨place, hplace, -⟩ := h.since entry hmem
  obtain ⟨place', hplace', -⟩ := h'.since entry' hmem'
  have hlt := hlonger place place' hplace hplace'
  have hgt := hlonger' place' place hplace' hplace
  omega

namespace Kind

variable {kind : Kind α}

theorem Lawful.lists (hl : kind.Lawful) (history : List (Change α)) :
    Lists kind.idOf history (kind.ofHistory history).values := by
  have hids := (hl.keyedBy history).map_values
  have hmem : ∀ entry, entry ∈ (kind.ofHistory history).values ↔
      LastBound kind.idOf history entry := by
    intro entry
    rw [OrderedMap.mem_values_iff]
    simp [hl.find?_ofHistory]
  refine ⟨hmem, ?_, fun entry hentry => ?_, ?_⟩
  · rw [hids]
    exact (kind.ofHistory history).nodup_keys
  · obtain ⟨place, hplace⟩ := exists_boundSince ⟨entry, (hmem entry).1 hentry, rfl⟩
    exact ⟨place, hplace, fun place' hplace' => hplace'.unique hplace⟩
  · rw [hids]
    exact hl.pairwise_keys history

theorem Lawful.answers (hl : kind.Lawful) (history : List (Change α)) :
    Answers kind (kind.ofHistory history) := by
  have hids := (hl.keyedBy history).map_values
  have hfind : ∀ id entry, (kind.ofHistory history).find? id = some entry ↔
      entry ∈ (kind.ofHistory history).values ∧ kind.idOf entry = id := by
    intro id entry
    rw [hl.find?_ofHistory, (hl.lists history).mem_iff]
  refine ⟨hfind, fun id entry => ?_, fun id f => ?_, fun id => ?_, ?_, ?_⟩
  · rw [hl.lookup_eq_ok_iff, hfind]
  · rw [hl.lookup_eq_error_iff, OrderedMap.find?_eq_none_iff, hids]
  · rw [OrderedMap.contains_iff, hids]
  · simp [OrderedMap.size, OrderedMap.values]
  · simp [OrderedMap.isEmpty, OrderedMap.values]

theorem Lawful.moves (hl : kind.Lawful) (history : List (Change α)) :
    Moves kind (kind.ofHistory history) := by
  have hkeyed := hl.keyedBy history
  have hnot : ∀ id, (kind.ofHistory history).contains id = false →
      id ∉ (kind.ofHistory history).keys := fun id hcontains =>
    (OrderedMap.find?_eq_none_iff _ id).1 ((OrderedMap.contains_eq_false_iff _ id).1 hcontains)
  refine ⟨fun entry hcontains => ?_, fun entry hcontains => ?_, fun id => ?_,
    fun id hcontains => ?_, fun entry => ?_⟩
  · rw [hl.bind_eq, OrderedMap.values_insert_of_not_mem (hnot _ hcontains)]
  · rw [hl.bind_eq, hkeyed.values_insert_of_mem ((OrderedMap.contains_iff _ _).1 hcontains)]
  · rw [hl.unbind_eq, hkeyed.values_erase]
  · rw [hl.unbind_eq, OrderedMap.erase_of_not_mem (hnot id hcontains)]
  · have herased : kind.idOf entry ∉ ((kind.ofHistory history).erase (kind.idOf entry)).keys := by
      simp [OrderedMap.keys_erase]
    rw [hl.bind_eq, hl.unbind_eq, OrderedMap.values_insert_of_not_mem herased,
      hkeyed.values_erase]

end Kind

/-! ## Contracts and functions -/

/-- The registry of contracts. -/
def contracts : Kind Artifact where
  idOf := Artifact.id
  bind := ContractRegistry.bind
  unbind := ContractRegistry.unbind
  lookup := ContractRegistry.lookup
  missing := .missingContract

/-- The registry of functions. -/
def functions : Kind FunctionEntry where
  idOf := FunctionEntry.id
  bind := FunctionRegistry.bind
  unbind := FunctionRegistry.unbind
  lookup := FunctionRegistry.lookup
  missing := .missingFunction

theorem lawful_contracts : contracts.Lawful :=
  ⟨fun _ _ => rfl, fun _ _ => rfl, ContractRegistry.lookup_eq_ok_iff,
    ContractRegistry.lookup_eq_error_iff⟩

theorem lawful_functions : functions.Lawful :=
  ⟨fun _ _ => rfl, fun _ _ => rfl, FunctionRegistry.lookup_eq_ok_iff,
    FunctionRegistry.lookup_eq_error_iff⟩

/-- A registry lists what its history has bound, answers what it lists, and changes no more of the
list than it is asked to. -/
structure Kind.Tells (kind : Kind α) (history : List (Change α)) : Prop where
  lists_iff : ∀ listed, Lists kind.idOf history listed ↔ listed = (kind.ofHistory history).values
  answers : Answers kind (kind.ofHistory history)
  moves : Moves kind (kind.ofHistory history)

theorem Kind.Lawful.tells {kind : Kind α} (hl : kind.Lawful) (history : List (Change α)) :
    kind.Tells history where
  lists_iff listed := by
    constructor
    · exact fun h => h.unique (hl.lists history)
    · rintro rfl
      exact hl.lists history
  answers := hl.answers history
  moves := hl.moves history

/-- Registries of contracts and of functions are told by their histories. -/
theorem told_by_history :
    (∀ history : List (Change Artifact), contracts.Tells history) ∧
      ∀ history : List (Change FunctionEntry), functions.Tells history :=
  ⟨lawful_contracts.tells, lawful_functions.tells⟩

/-- Some code of a contract. -/
def version (id : String) (code : List UInt8) : Artifact := .emulated id "coin" code none 0

/-- Two contracts are bound. The first is bound again, the second is unbound and, after a third one
was bound, bound again. Nothing is bound to the fourth id. -/
def reboundHistory : List (Change Artifact) :=
  [.bind (version "mint" [1]), .bind (version "burn" [1]), .bind (version "mint" [2]),
    .unbind "burn", .unbind "melt", .bind (version "move" [1]), .bind (version "burn" [2])]

/-- The first contract has kept its place, and the second one has lost it. -/
theorem reboundHistory_told : (contracts.ofHistory reboundHistory).values =
      [version "mint" [2], version "move" [1], version "burn" [2]] ∧
    Lists Artifact.id reboundHistory
      [version "mint" [2], version "move" [1], version "burn" [2]] ∧
    ContractRegistry.lookup (contracts.ofHistory reboundHistory) "melt" =
      .error (.missingContract "melt") := by
  have hvalues : (contracts.ofHistory reboundHistory).values =
      [version "mint" [2], version "move" [1], version "burn" [2]] := rfl
  have htold := told_by_history.1 reboundHistory
  refine ⟨hvalues, (htold.lists_iff _).2 hvalues.symm, (htold.answers.lookup_error_iff "melt" _).2 ?_⟩
  rw [hvalues]
  exact ⟨by decide +kernel, rfl⟩

end Registry

end ContractEmulator
