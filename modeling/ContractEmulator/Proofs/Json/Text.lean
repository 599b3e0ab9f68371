import ContractEmulator.Json.Reader
import ContractEmulator.Proofs.Json.Document

/-!
# Values and their texts

What is written of a value without fractions is read back as this value, unless too many containers
stand in one another.

* `Json.Whole`: a value whose numbers are integers from `-2 ^ 63` to `2 ^ 64 - 1`.
* `Json.nesting`: how many arrays and objects stand in one another.
* `Json.Whole.hasText`: the compact text of such a value is one value. `Json.node` is its tree.
* `Json.Whole.readsBack`: the tree is read back as the value if there is room for its containers, and
  is refused otherwise.
-/

namespace ContractEmulator

namespace Json

/-- All numbers in the value are integers that are kept as they are. -/
inductive Whole : Json → Prop where
  | null : Whole .null
  | bool (b : Bool) : Whole (.bool b)
  | int {n : Int} : -0x8000000000000000 ≤ n → n < 0x10000000000000000 → Whole (.int n)
  | str (s : String) : Whole (.str s)
  | arr {items : List Json} : (∀ item ∈ items, Whole item) → Whole (.arr items)
  | obj {entries : List (String × Json)} : (∀ entry ∈ entries, Whole entry.2) →
      Whole (.obj entries)

mutual

/-- How many arrays and objects stand in one another. -/
def nesting : Json → Nat
  | .arr items => itemsNesting items + 1
  | .obj entries => entriesNesting entries + 1
  | .null => 0
  | .bool _ => 0
  | .int _ => 0
  | .float _ => 0
  | .str _ => 0
  termination_by structural j => j

/-- The greatest nesting of some items. -/
def itemsNesting : List Json → Nat
  | [] => 0
  | item :: items => max (nesting item) (itemsNesting items)
  termination_by structural items => items

/-- The greatest nesting of some entries. -/
def entriesNesting : List (String × Json) → Nat
  | [] => 0
  | (_, value) :: entries => max (nesting value) (entriesNesting entries)
  termination_by structural entries => entries

end

variable {j : Json} {items : List Json} {entries : List (String × Json)} {depth : Nat}

theorem itemsNesting_le_iff :
    itemsNesting items ≤ depth ↔ ∀ item ∈ items, item.nesting ≤ depth := by
  induction items with
  | nil => simp [itemsNesting]
  | cons item items ih => rw [itemsNesting, Nat.max_le, ih, List.forall_mem_cons]

theorem entriesNesting_le_iff :
    entriesNesting entries ≤ depth ↔ ∀ entry ∈ entries, entry.2.nesting ≤ depth := by
  induction entries with
  | nil => simp [entriesNesting]
  | cons entry entries ih =>
    obtain ⟨key, value⟩ := entry
    rw [entriesNesting, Nat.max_le, ih, List.forall_mem_cons]

/-! ## Trees -/

/-- The tree of the text of a value. -/
def node (j : Json) : Node := (Document.ofText j.compactChars).root

/-- The trees of some entries. -/
def nodes (entries : List (String × Json)) : List (Option String × Node) :=
  entries.map fun entry => (some entry.1, entry.2.node)

theorem nodes_cons (key : String) (j : Json) (entries : List (String × Json)) :
    nodes ((key, j) :: entries) = (some key, j.node) :: nodes entries :=
  rfl

theorem node_eq_of_hasText {n : Node} (h : n.HasText j.compactChars) : j.node = n := by
  rw [node, h]

theorem hasText_null : Node.null.HasText (compactChars .null) := by
  have hscan : Token.scan (compactChars .null) = [.null] := by
    rw [compactChars, scalarText, Token.scan_next (by decide) rfl, Token.scan_nil]
  rw [Node.HasText, Document.ofText, hscan]
  rfl

theorem hasText_bool (b : Bool) : (Node.bool b).HasText (compactChars (.bool b)) := by
  have hscan : Token.scan (compactChars (.bool b)) = [.bool b] := by
    cases b <;>
      rw [compactChars, scalarText, Token.scan_next (by decide) rfl, Token.scan_nil]
  rw [Node.HasText, Document.ofText, hscan]
  rfl

theorem hasText_int (n : Int) : (Node.number (.ofInt n)).HasText (compactChars (.int n)) := by
  have hscan := Token.scan_intText n .nil
  rw [List.append_nil, Token.scan_nil] at hscan
  rw [Node.HasText, compactChars, scalarText, Document.ofText, hscan]
  rfl

theorem hasText_str (s : String) : (Node.string (some s)).HasText (compactChars (.str s)) := by
  have hscan := Token.scan_quote s []
  rw [List.append_nil, Token.scan_nil] at hscan
  rw [Node.HasText, compactChars, scalarText, Document.ofText, hscan]
  rfl

theorem node_null : node .null = .null := node_eq_of_hasText hasText_null

theorem node_bool (b : Bool) : node (.bool b) = .bool b := node_eq_of_hasText (hasText_bool b)

theorem node_int (n : Int) : node (.int n) = .number (.ofInt n) :=
  node_eq_of_hasText (hasText_int n)

theorem node_str (s : String) : node (.str s) = .string (some s) :=
  node_eq_of_hasText (hasText_str s)

theorem hasText_arr (h : ∀ item ∈ items, item.node.HasText item.compactChars) :
    (Node.seq (items.map node) true).HasText (compactChars (.arr items)) := by
  rw [compactChars_arr]
  refine .seq ?_
  rw [List.forall₂_map_left_iff, List.forall₂_map_right_iff, List.forall₂_same]
  exact h

theorem hasText_obj (h : ∀ entry ∈ entries, entry.2.node.HasText entry.2.compactChars) :
    (Node.map (nodes entries) true).HasText (compactChars (.obj entries)) := by
  rw [compactChars_obj]
  refine .map ?_
  rw [nodes, List.forall₂_map_left_iff, List.forall₂_map_right_iff, List.forall₂_same]
  exact fun entry hentry => ⟨rfl, h entry hentry⟩

/-- The tree of the value is read as the value, if there is room for its containers. -/
def ReadsBack (j : Json) : Prop :=
  ∀ depth, j.node.read depth = if j.nesting ≤ depth then .ok j else .error .malformed

theorem readItems_map_node (h : ∀ item ∈ items, item.ReadsBack) (depth : Nat) :
    Node.readItems depth (items.map node) =
      if itemsNesting items ≤ depth then .ok items else .error .malformed := by
  induction items with
  | nil => simp [Node.readItems, itemsNesting]
  | cons item items ih =>
    obtain ⟨hitem, hitems⟩ := List.forall_mem_cons.1 h
    rw [List.map_cons, Node.readItems, hitem depth, ih hitems, itemsNesting]
    simp only [Nat.max_le]
    by_cases hfits : item.nesting ≤ depth
    · by_cases hrest : itemsNesting items ≤ depth <;> simp [hfits, hrest]
    · simp [hfits]

theorem readEntries_nodes (h : ∀ entry ∈ entries, entry.2.ReadsBack) (depth : Nat) :
    Node.readEntries depth (nodes entries) =
      if entriesNesting entries ≤ depth then .ok entries else .error .malformed := by
  induction entries with
  | nil => simp [nodes, Node.readEntries, entriesNesting]
  | cons entry entries ih =>
    obtain ⟨key, value⟩ := entry
    obtain ⟨hvalue, hentries⟩ := List.forall_mem_cons.1 h
    rw [nodes_cons, Node.readEntries, hvalue depth, ih hentries, entriesNesting]
    simp only [Nat.max_le]
    by_cases hfits : value.nesting ≤ depth
    · by_cases hrest : entriesNesting entries ≤ depth <;> simp [Node.keyText, hfits, hrest]
    · simp [Node.keyText, hfits]

namespace Whole

/-- The text of a value is one value. -/
theorem hasText (h : j.Whole) : j.node.HasText j.compactChars := by
  induction h with
  | null => exact node_null ▸ hasText_null
  | bool b => exact node_bool b ▸ hasText_bool b
  | @int n => exact node_int n ▸ hasText_int n
  | str s => exact node_str s ▸ hasText_str s
  | arr _ ih => exact node_eq_of_hasText (hasText_arr ih) ▸ hasText_arr ih
  | obj _ ih => exact node_eq_of_hasText (hasText_obj ih) ▸ hasText_obj ih

theorem node_arr (h : ∀ item ∈ items, item.Whole) :
    node (.arr items) = .seq (items.map node) true :=
  node_eq_of_hasText (hasText_arr fun item hitem => (h item hitem).hasText)

theorem node_obj (h : ∀ entry ∈ entries, entry.2.Whole) :
    node (.obj entries) = .map (nodes entries) true :=
  node_eq_of_hasText (hasText_obj fun entry hentry => (h entry hentry).hasText)

theorem readsBack (h : j.Whole) : j.ReadsBack := by
  intro depth
  induction h generalizing depth with
  | null => simp [node_null, Node.read, Node.peek, nesting]
  | bool b => simp [node_bool, Node.read, Node.peek, nesting]
  | int hlow hhigh =>
    simp [node_int, Node.read, Node.peek, NumberLiteral.value?_ofInt hlow hhigh, nesting]
  | str s => simp [node_str, Node.read, Node.peek, nesting]
  | @arr items hitems ih =>
    rw [node_arr hitems, Node.read, nesting]
    cases depth with
    | zero => simp [ReadError.enter]
    | succ inner =>
      by_cases hfits : itemsNesting items ≤ inner <;>
        simp [ReadError.enter, readItems_map_node ih, hfits]
  | @obj entries hentries ih =>
    rw [node_obj hentries, Node.read, nesting]
    cases depth with
    | zero => simp [ReadError.enter]
    | succ inner =>
      by_cases hfits : entriesNesting entries ≤ inner <;>
        simp [ReadError.enter, readEntries_nodes ih, hfits]

end Whole

end Json

end ContractEmulator
