import ContractEmulator.Proofs.Contract.Validation
import ContractEmulator.Proofs.Ledger.Versions

/-!
# Listing page by page

Whoever wants all versions of an asset can ask for them in pages: with a limit, and with a bound
that is taken from the last version of the page before. An empty page is the last one.

* `listingArgument`, `filterOf_listingArgument`: what is asked for, and the selection it describes.
* `VersionOrder.placesLeft`: the places that come after some page. `places_selection`,
  `placesLeft_after`: a page takes the first of them, and leaves the others.
* `listing_eq`: what is listed for some places.
* `readPages`: asks for page after page. `exists_pages`: what it reads.
* `PagesOf`, `listing_page_by_page`: pages are those of one listing without a limit.
-/

namespace ContractEmulator

/-! ## Intervals -/

theorem take_ico (first stop limit : Nat) :
    (List.Ico first stop).take limit = List.Ico first (min (first + limit) stop) := by
  rw [List.Ico, List.Ico]
  rcases Nat.le_total limit (stop - first) with hle | hle
  · rw [List.take_range'_of_length_ge hle]
    congr 1
    omega
  · rw [List.take_range'_of_length_le hle]
    congr 1
    omega

theorem drop_ico (first stop limit : Nat) :
    (List.Ico first stop).drop limit = List.Ico (first + limit) stop := by
  rw [List.Ico, List.drop_range', Nat.mul_one, List.Ico, Nat.sub_add_eq]

theorem head?_ico {first stop place : Nat} (h : (List.Ico first stop).head? = some place) :
    place = first ∧ first < stop := by
  rw [List.Ico, List.head?_range', Option.ite_none_left_eq_some, Option.some_inj] at h
  omega

theorem getLast?_ico {first stop place : Nat} (h : (List.Ico first stop).getLast? = some place) :
    place + 1 = stop ∧ first < stop := by
  rw [List.Ico, List.getLast?_range', Option.ite_none_left_eq_some, Option.some_inj] at h
  omega

/-! ## Pages as places -/

namespace VersionOrder

/-- The bound that says where a page begins. -/
def boundName : VersionOrder → String
  | .ascending => "start"
  | .descending => "end"

/-- The bound of the first page. -/
def firstBound : VersionOrder → Option Nat
  | .ascending => some 0
  | .descending => none

/-- The bound of the page that comes after the version with some age. -/
def boundAfter : VersionOrder → Nat → Nat
  | .ascending, age => age + 1
  | .descending, age => age

/-- The places in a history that a bound leaves, in the order in which they are listed. -/
def placesLeft (order : VersionOrder) (length : Nat) (bound : Option Nat) : List Nat :=
  match order with
  | .ascending => List.Ico (bound.getD 0) length
  | .descending => (List.Ico 0 (min length (bound.getD length))).reverse

variable {order : VersionOrder} {length limit age : Nat} {bound : Option Nat}

theorem placesLeft_none :
    order.placesLeft length none = order.inOrder (List.Ico 0 length) := by
  cases order with
  | ascending => rfl
  | descending => exact congrArg (fun stop => (List.Ico 0 stop).reverse) (Nat.min_self length)

theorem placesLeft_firstBound :
    order.placesLeft length order.firstBound = order.inOrder (List.Ico 0 length) := by
  cases order with
  | ascending => rfl
  | descending => exact placesLeft_none

theorem lt_of_mem_placesLeft (h : age ∈ order.placesLeft length bound) : age < length := by
  cases order with
  | ascending => exact (List.Ico.mem.1 h).2
  | descending => exact (Nat.lt_min.1 (List.Ico.mem.1 (List.mem_reverse.1 h)).2).1

/-- The bound taken from the last place of a page leaves what comes after the page. -/
theorem placesLeft_after
    (hlast : ((order.placesLeft length bound).take limit).getLast? = some age) :
    order.placesLeft length (some (order.boundAfter age)) =
      (order.placesLeft length bound).drop limit := by
  cases order with
  | ascending =>
    -- The page ends where the next one starts, or else with the last version of all.
    dsimp only [placesLeft, boundAfter, Option.getD_some] at hlast ⊢
    rw [take_ico] at hlast
    rw [drop_ico]
    obtain ⟨hstop, -⟩ := getLast?_ico hlast
    rw [hstop]
    rcases Nat.le_total (bound.getD 0 + limit) length with hle | hle
    · rw [Nat.min_eq_left hle]
    · rw [Nat.min_eq_right hle, List.Ico.self_empty, List.Ico.eq_nil_of_le hle]
  | descending =>
    -- The lowest place of the page is the first that the next page leaves out.
    dsimp only [placesLeft, boundAfter, Option.getD_some] at hlast ⊢
    rw [List.take_reverse, drop_ico, List.getLast?_reverse] at hlast
    rw [List.drop_reverse, take_ico]
    obtain ⟨rfl, -⟩ := head?_ico hlast
    rw [List.Ico.length]
    congr 2
    omega

end VersionOrder

namespace BuiltinContract

open MemoryLedger (maxVersions)

/-- The argument that asks for versions of an asset, with a limit and with a bound if they are
given. -/
def listingArgument (id : String) (order : VersionOrder) (limit bound : Option Nat) : Json :=
  .ofEntries ([("asset_id", .str id), ("asc_order", .bool (decide (order = .ascending)))] ++
    (limit.map fun limit => ("limit", .int limit)).toList ++
    (bound.map fun age => (order.boundName, .int age)).toList)

/-- The selection that such an argument describes. -/
def selection (id : String) (order : VersionOrder) (limit bound : Option Nat) : AssetFilter :=
  match order with
  | .ascending =>
    ⟨id, bound.map UInt32.ofNat, none, (limit.map UInt32.ofNat).getD 0, .ascending⟩
  | .descending =>
    ⟨id, none, bound.map UInt32.ofNat, (limit.map UInt32.ofNat).getD 0, .descending⟩

/-- The versions that are listed. -/
def listed (result : Option Json) : List Json :=
  ((result.bind (Json.get? "data")).bind Json.asArr?).getD []

/-- The age of the last version that is listed. -/
def lastAge? (page : List Json) : Option Nat :=
  page.getLast?.bind fun version => (version.get? "age").bind Json.asNat?

/-- Asks for page after page, up to the first that is empty, in at most as many rounds as given;
`none` if there are more. -/
def readPages (call : Json → Scene.Act MemoryLedger Outcome) (id : String) (order : VersionOrder)
    (limit : Nat) : Nat → Option Nat → Scene.Act MemoryLedger (Except Failure (List (List Json)))
  | 0, _ => fun _ => none
  | rounds + 1, bound => fun s =>
    match call (listingArgument id order (some limit) bound) s with
    | none => none
    | some (.error f, s) => some (.error f, s)
    | some (.ok result, s) =>
      match listed result with
      | [] => some (.ok [], s)
      | page =>
        match readPages call id order limit rounds ((lastAge? page).map order.boundAfter) s with
        | some (.ok pages, s) => some (.ok (page :: pages), s)
        | other => other

variable {id : String} {order : VersionOrder} {limit bound : Option Nat}

/-! ## What is asked for -/

/-- The argument has just the fields that were given. -/
theorem get?_listingArgument (name : String) : (listingArgument id order limit bound).get? name =
    if name = order.boundName ∧ bound.isSome then bound.map fun age => .int age
    else if name = "limit" ∧ limit.isSome then limit.map fun limit => .int limit
    else if name = "asc_order" then some (.bool (decide (order = .ascending)))
    else if name = "asset_id" then some (.str id)
    else none := by
  cases bound <;> cases limit <;>
  simp [listingArgument, Json.ofEntries, Json.sortEntries, Json.get?, Json.lookup_insertEntry]

/-- A number that is small enough is read as it is. -/
theorem hasCount_map {argument : Json} {name : String} {count : Option Nat}
    (hsmall : ∀ n ∈ count, n < maxVersions)
    (hget : argument.get? name = count.map fun n => .int n) :
    Argument.HasCount argument name (count.map UInt32.ofNat) := by
  cases count with
  | none => exact hget
  | some n => rwa [Option.map_some, Argument.HasCount, toNat_ofNat_of_lt_maxVersions (hsmall n rfl)]

/-- Such an argument is accepted, as long as its numbers are small enough. -/
theorem filterOf_listingArgument (hlimit : ∀ n ∈ limit, n < maxVersions)
    (hbound : ∀ age ∈ bound, age < maxVersions) :
    filterOf (listingArgument id order limit bound) = .ok (selection id order limit bound) := by
  have hid : (listingArgument id order limit bound).get? "asset_id" = some (.str id) := by
    cases order <;> simp [get?_listingArgument, VersionOrder.boundName]
  have horder : Argument.HasFlag (listingArgument id order limit bound) "asc_order"
      (some (decide (order = .ascending))) := by
    cases order <;> simp [Argument.HasFlag, get?_listingArgument, VersionOrder.boundName]
  have hcount : Argument.HasCount (listingArgument id order limit bound) "limit"
      (limit.map UInt32.ofNat) := by
    refine hasCount_map hlimit ?_
    cases order <;> cases limit <;> simp [get?_listingArgument, VersionOrder.boundName]
  refine filterOf_eq_ok_iff.2 ?_
  cases order with
  | ascending =>
    refine ⟨id, bound.map UInt32.ofNat, none, _, _, hid, hasCount_map hbound ?_, ?_, hcount, horder,
      rfl⟩
    · cases bound <;> simp [get?_listingArgument, VersionOrder.boundName]
    · simp [Argument.HasCount, get?_listingArgument, VersionOrder.boundName]
  | descending =>
    refine ⟨id, none, bound.map UInt32.ofNat, _, _, hid, ?_, hasCount_map hbound ?_, hcount, horder,
      rfl⟩
    · simp [Argument.HasCount, get?_listingArgument, VersionOrder.boundName]
    · cases bound <;> simp [get?_listingArgument, VersionOrder.boundName]

theorem id_selection : (selection id order limit bound).id = id := by cases order <;> rfl

/-- The places that the bound leaves are selected: the first of them if there is a limit, and all of
them if there is none. -/
theorem places_selection (hlimit : ∀ n ∈ limit, 0 < n ∧ n < maxVersions)
    (hbound : ∀ age ∈ bound, age < maxVersions) (length : Nat) :
    (selection id order limit bound).places length =
      match limit with
      | none => order.placesLeft length bound
      | some n => (order.placesLeft length bound).take n := by
  have hages : order.inOrder (List.Ico (selection id order limit bound).first
      ((selection id order limit bound).stop length)) = order.placesLeft length bound := by
    cases bound with
    | none =>
      rw [VersionOrder.placesLeft_none]
      cases order <;> rfl
    | some age =>
      have hage := toNat_ofNat_of_lt_maxVersions (hbound age rfl)
      cases order with
      | ascending => exact congrArg (fun first => List.Ico first length) hage
      | descending => exact congrArg (fun stop => (List.Ico 0 (min length stop)).reverse) hage
  have horder : (selection id order limit bound).order = order := by cases order <;> rfl
  have hcount : (selection id order limit bound).limit = (limit.map UInt32.ofNat).getD 0 := by
    cases order <;> rfl
  rw [AssetFilter.places, AssetFilter.arrange_eq_inOrder, horder, hcount, hages]
  cases limit with
  | none => rfl
  | some n =>
    obtain ⟨hpos, hlt⟩ := hlimit n rfl
    have hn := toNat_ofNat_of_lt_maxVersions hlt
    rw [Option.map_some, Option.getD_some, hn, if_neg]
    intro hzero
    rw [hzero] at hn
    exact absurd hn (Nat.ne_of_lt hpos)

/-! ## What is listed -/

/-- What is listed for a place in a history. -/
def versionAt (id : String) (history : List Json) (place : Nat) : Json :=
  versionJson id place ((history[place]?).getD .null)

theorem toJson_of_isVersion {asset : Asset} {history : List Json} {place : Nat}
    (h : asset.IsVersion id history place) (hlen : history.length ≤ maxVersions) :
    asset.toJson = versionAt id history place := by
  rw [Asset.toJson, versionAt, versionJson, h.id_eq, h.toNat_age_eq hlen, h.data_eq]
  rfl

/-- What is listed for all places are all versions with their numbers. -/
theorem map_versionAt (id : String) (history : List Json) :
    (List.Ico 0 history.length).map (versionAt id history) = history.mapIdx (versionJson id) := by
  refine List.ext_getElem? fun place => ?_
  rw [List.Ico.zero_bot, List.getElem?_map, List.getElem?_mapIdx]
  by_cases hplace : place < history.length
  · rw [List.getElem?_range hplace, Option.map_some, versionAt, List.getElem?_eq_getElem hplace]
    rfl
  · have hlen := Nat.le_of_not_lt hplace
    rw [List.getElem?_eq_none (by rwa [List.length_range]), List.getElem?_eq_none hlen]
    rfl

theorem map_inOrder {α β : Type} (f : α → β) (order : VersionOrder) (versions : List α) :
    (order.inOrder versions).map f = order.inOrder (versions.map f) := by
  cases order with
  | ascending => rfl
  | descending => exact List.map_reverse

variable {ledger : MemoryLedger} {filter : AssetFilter}

/-- A ledger lists the versions at the places that a filter selects. -/
theorem listing_eq (hlen : (ledger.history filter.id).length ≤ maxVersions) :
    listing (ledger.scan filter) = .ofEntries [("data",
      .arr ((filter.places (ledger.history filter.id).length).map
        (versionAt filter.id (ledger.history filter.id))))] := by
  have hjson := (MemoryLedger.forall₂_scan hlen).imp fun place asset h => toJson_of_isVersion h hlen
  have heq : (filter.places (ledger.history filter.id).length).map
      (versionAt filter.id (ledger.history filter.id)) = (ledger.scan filter).map Asset.toJson := by
    rw [← List.forall₂_eq_eq_eq, List.forall₂_map_left_iff, List.forall₂_map_right_iff]
    exact hjson.imp fun _ _ => Eq.symm
  rw [listing, heq]

theorem listed_ofEntries (items : List Json) :
    listed (some (.ofEntries [("data", .arr items)])) = items := rfl

theorem lastAge?_map (history : List Json) (places : List Nat) :
    lastAge? (places.map (versionAt id history)) = places.getLast? := by
  rw [lastAge?, List.getLast?_map]
  cases places.getLast? with
  | none => rfl
  | some place =>
    simp [versionAt, versionJson, Json.ofEntries, Json.sortEntries, Json.get?,
      Json.lookup_insertEntry, Json.asNat?]

end BuiltinContract

namespace Scene

open BuiltinContract

variable {i : Instance} {argument : Json} {filter : AssetFilter} {s : Scene MemoryLedger}

/-- The contract that lists returns what the ledger lists, and changes nothing. -/
theorem runOwn_scan (nested : Nested MemoryLedger) (a : Activation)
    (hlogic : i.logic = BuiltinContract.scan) (properties : Option Json)
    (hfilter : filterOf argument = .ok filter) :
    runOwn nested a i argument properties s =
      some (.ok (some (listing (s.ledger.scan filter))), s) := by
  rw [runOwn_eq_interpret, hlogic, BuiltinContract.scan, hfilter]
  rfl

end Scene

/-! ## Page after page -/

namespace BuiltinContract

open MemoryLedger (maxVersions)

variable {id : String} {order : VersionOrder} {limit length : Nat} {history : List Json}
  {call : Json → Scene.Act MemoryLedger Outcome} {s : Scene MemoryLedger}

/-- One page takes one from the number of pages. -/
theorem pageCount_succ {left : Nat} (hlimit : 0 < limit) (hpos : 0 < left) :
    (left - limit + limit - 1) / limit + 1 = (left + limit - 1) / limit := by
  rcases Nat.le_total limit left with hle | hle
  · rw [← Nat.add_div_right _ hlimit]
    congr 1
    omega
  · rw [Nat.sub_eq_zero_of_le hle, Nat.div_eq_of_lt (by omega)]
    exact (Nat.div_eq_of_lt_le (by omega) (by omega)).symm

/-- An empty page is the last one. -/
theorem readPages_nil {bound : Option Nat} (rounds : Nat)
    (hcall : call (listingArgument id order (some limit) bound) s =
      some (.ok (some (.ofEntries [("data", .arr [])])), s)) :
    readPages call id order limit (rounds + 1) bound s = some (.ok [], s) := by
  rw [readPages]
  beta_reduce
  rw [hcall]
  rfl

/-- Behind a page that is not empty the next one is asked for. -/
theorem readPages_cons {bound : Option Nat} {page : List Json} (rounds : Nat)
    (hcall : call (listingArgument id order (some limit) bound) s =
      some (.ok (some (.ofEntries [("data", .arr page)])), s)) (hpage : page ≠ []) :
    readPages call id order limit (rounds + 1) bound s =
      match readPages call id order limit rounds ((lastAge? page).map order.boundAfter) s with
      | some (.ok pages, s) => some (.ok (page :: pages), s)
      | other => other := by
  rw [readPages]
  beta_reduce
  rw [hcall]
  dsimp only
  rw [listed_ofEntries]
  cases page with
  | nil => exact absurd rfl hpage
  | cons version rest => rfl

/-- From some bound on, versions are read in pages. -/
structure ReadsPages (call : Json → Scene.Act MemoryLedger Outcome) (id : String)
    (order : VersionOrder) (limit : Nat) (bound : Option Nat) (s : Scene MemoryLedger)
    (versions : List Json) (pages : List (List Json)) : Prop where
  /-- One round more than there are pages is enough, and fewer are not. -/
  ends : ∀ rounds, readPages call id order limit rounds bound s =
    if pages.length < rounds then some (.ok pages, s) else none
  fits : ∀ page ∈ pages, page ≠ [] ∧ page.length ≤ limit
  count : pages.length = (versions.length + limit - 1) / limit
  whole : pages.flatten = versions

theorem readsPages_nil {bound : Option Nat} (hlimit : 0 < limit)
    (hcall : call (listingArgument id order (some limit) bound) s =
      some (.ok (some (.ofEntries [("data", .arr [])])), s)) :
    ReadsPages call id order limit bound s [] [] where
  ends
    | 0 => rfl
    | rounds + 1 => (readPages_nil rounds hcall).trans (if_pos rounds.succ_pos).symm
  fits := nofun
  count := by rw [List.length_nil, List.length_nil, Nat.div_eq_of_lt (by omega)]
  whole := rfl

/-- A page is read before those that begin behind its last version. -/
theorem readsPages_cons {bound : Option Nat} {versions : List Json} {pages : List (List Json)}
    (hlimit : 0 < limit) (hne : versions ≠ [])
    (hcall : call (listingArgument id order (some limit) bound) s =
      some (.ok (some (.ofEntries [("data", .arr (versions.take limit))])), s))
    (hrest : ReadsPages call id order limit
      ((lastAge? (versions.take limit)).map order.boundAfter) s (versions.drop limit) pages) :
    ReadsPages call id order limit bound s versions (versions.take limit :: pages) := by
  have hpage : versions.take limit ≠ [] := by
    rw [Ne, List.take_eq_nil_iff]
    exact not_or_intro (Nat.ne_of_gt hlimit) hne
  refine ⟨fun rounds => ?_, ?_, ?_, ?_⟩
  · cases rounds with
    | zero => rfl
    | succ rounds =>
      rw [readPages_cons rounds hcall hpage, hrest.ends rounds, List.length_cons]
      by_cases hlt : pages.length < rounds
      · rw [if_pos hlt, if_pos (Nat.succ_lt_succ hlt)]
      · rw [if_neg hlt, if_neg (mt Nat.lt_of_succ_lt_succ hlt)]
  · rintro page (_ | ⟨_, hmem⟩)
    · exact ⟨hpage, List.length_take_le _ _⟩
    · exact hrest.fits page hmem
  · rw [List.length_cons, hrest.count, List.length_drop,
      pageCount_succ hlimit (List.length_pos_iff.2 hne)]
  · rw [List.flatten_cons, hrest.whole, List.take_append_drop]

/-- Calls that list the first of the places that a bound leaves, and change nothing, are read as
pages that hold what is listed for all of these places. -/
theorem exists_readsPages (hlimit : 0 < limit) (hlength : length < maxVersions)
    (hcall : ∀ bound : Option Nat, (∀ age ∈ bound, age < maxVersions) →
      call (listingArgument id order (some limit) bound) s = some (.ok (some (.ofEntries [("data",
        .arr (((order.placesLeft length bound).take limit).map (versionAt id history)))])), s))
    (bound : Option Nat) (hbound : ∀ age ∈ bound, age < maxVersions) :
    ∃ pages, ReadsPages call id order limit bound s
      ((order.placesLeft length bound).map (versionAt id history)) pages := by
  -- Each page that is not empty leaves fewer places.
  induction hleft : (order.placesLeft length bound).length using Nat.strong_induction_on
    generalizing bound with
  | _ left ih =>
  have hfirst := hcall bound hbound
  rw [List.map_take] at hfirst
  by_cases hnil : order.placesLeft length bound = []
  · rw [hnil, List.map_nil, List.take_nil] at hfirst
    rw [hnil]
    exact ⟨[], readsPages_nil hlimit hfirst⟩
  · obtain ⟨age, hlast⟩ : ∃ age,
        ((order.placesLeft length bound).take limit).getLast? = some age := by
      refine Option.isSome_iff_exists.1 (List.getLast?_isSome.2 ?_)
      rw [Ne, List.take_eq_nil_iff]
      exact not_or_intro (Nat.ne_of_gt hlimit) hnil
    have hage : age < length :=
      VersionOrder.lt_of_mem_placesLeft (List.mem_of_mem_take (List.mem_of_getLast? hlast))
    have hnext := VersionOrder.placesLeft_after hlast
    have hbound' : ∀ age' ∈ some (order.boundAfter age), age' < maxVersions := by
      rintro _ ⟨⟩
      cases order <;> simp only [VersionOrder.boundAfter] <;> omega
    have hfewer : (order.placesLeft length (some (order.boundAfter age))).length < left := by
      have hpos := List.length_pos_iff.2 hnil
      rw [hnext, List.length_drop]
      omega
    obtain ⟨pages, hpages⟩ := ih _ hfewer _ hbound' rfl
    rw [hnext, List.map_drop] at hpages
    have hlastAge : lastAge?
        (((order.placesLeft length bound).map (versionAt id history)).take limit) = some age := by
      rw [← List.map_take, lastAge?_map, hlast]
    refine ⟨_ :: pages, readsPages_cons hlimit (mt List.map_eq_nil_iff.1 hnil) hfirst ?_⟩
    rw [hlastAge]
    exact hpages

/-- The contract that lists can be asked page by page, in either order. It accepts every page that
is asked for, and an empty page comes behind the last version. Together the pages hold what is
listed without a limit, and this is the same in both orders but for the direction. -/
theorem listing_page_by_page {i : Instance} (hlogic : i.logic = BuiltinContract.scan)
    (nested : Scene.Nested MemoryLedger) (a : Activation) (properties : Option Json)
    (s : Scene MemoryLedger) (id : String) {limit : Nat} (hlimit : 0 < limit)
    (hsmall : limit < maxVersions) (hlen : (s.ledger.history id).length < maxVersions) :
    ∀ order : VersionOrder,
      Scene.runOwn nested a i (listingArgument id order none none) properties s =
        some (.ok (some (.ofEntries [("data",
          .arr (order.inOrder ((s.ledger.history id).mapIdx (versionJson id))))])), s) ∧
      ∃ pages, ReadsPages (fun argument => Scene.runOwn nested a i argument properties) id order
        limit order.firstBound s
        (order.inOrder ((s.ledger.history id).mapIdx (versionJson id))) pages := by
  intro order
  -- Whatever is asked for, what is listed are the versions at the places that were selected.
  have hcall : ∀ limit bound : Option Nat, (∀ n ∈ limit, 0 < n ∧ n < maxVersions) →
      (∀ age ∈ bound, age < maxVersions) →
      Scene.runOwn nested a i (listingArgument id order limit bound) properties s =
        some (.ok (some (.ofEntries [("data", .arr
          (((selection id order limit bound).places (s.ledger.history id).length).map
            (versionAt id (s.ledger.history id))))])), s) := by
    intro limit bound hlimit hbound
    have hfilter := @filterOf_listingArgument id order limit bound
      (fun n hn => (hlimit n hn).2) hbound
    rw [Scene.runOwn_scan nested a hlogic properties hfilter, listing_eq]
    · rw [id_selection]
    · rw [id_selection]
      exact Nat.le_of_lt hlen
  have hfirst : ∀ age ∈ order.firstBound, age < maxVersions := by
    cases order with
    | ascending =>
      rintro _ ⟨⟩
      exact Nat.lt_trans hlimit hsmall
    | descending => nofun
  constructor
  · rw [hcall none none nofun nofun, @places_selection id order none none nofun nofun]
    dsimp only
    rw [VersionOrder.placesLeft_none, map_inOrder, map_versionAt]
  · rw [← map_versionAt, ← map_inOrder, ← VersionOrder.placesLeft_firstBound]
    refine exists_readsPages hlimit hlen (fun bound hbound => ?_) _ hfirst
    have hsize : ∀ n ∈ some limit, 0 < n ∧ n < maxVersions := by
      rintro _ ⟨⟩
      exact ⟨hlimit, hsmall⟩
    rw [hcall (some limit) bound hsize hbound, places_selection hsize hbound]

/-- A coin with three versions. -/
def threeCoins : Scene MemoryLedger :=
  ⟨.empty,
    Ledger.replay .empty [.put "coin" (.int 1), .put "coin" (.int 2), .put "coin" (.int 3)], []⟩

/-- Three versions make two pages of at most two. Three rounds read them, latest version first. -/
theorem threeCoins_page_by_page : 0 < 2 ∧ 2 < maxVersions ∧
    (threeCoins.ledger.history "coin").length < maxVersions ∧
    ∃ pages : List (List Json), pages.length = 2 ∧
      readPages (fun argument =>
          Scene.runOwn (fun _ _ _ _ => none) (lister.activation 0 []) lister argument none) "coin"
        .descending 2 3 none threeCoins = some (.ok pages, threeCoins) ∧
      pages.flatten = [versionJson "coin" 2 (.int 3), versionJson "coin" 1 (.int 2),
        versionJson "coin" 0 (.int 1)] := by
  have hlogic : lister.logic = BuiltinContract.scan := rfl
  have hlimit : 0 < 2 := by decide
  have hsmall : 2 < maxVersions := by decide +kernel
  have hlen : (threeCoins.ledger.history "coin").length < maxVersions := by decide +kernel
  obtain ⟨-, pages, hpages⟩ := listing_page_by_page hlogic (fun _ _ _ _ => none)
    (lister.activation 0 []) none threeCoins "coin" hlimit hsmall hlen .descending
  have hcount : pages.length = 2 := hpages.count
  refine ⟨hlimit, hsmall, hlen, pages, hcount, ?_, hpages.whole⟩
  exact (hpages.ends 3).trans (if_pos (by rw [hcount]; decide))

end BuiltinContract

end ContractEmulator
