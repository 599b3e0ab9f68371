import ContractEmulator.Proofs.Engine.SingleLoad

/-!
# What decides a stamp

An instance has one stamp, and every fetch of it that succeeds puts a new one in its place: the role
for which the instance was fetched, and the certificate in force at the time.

* `Engine.fetchAs`: a fetch for either role.
* `Deed.certificate`: the certificate that some deeds leave in force.
* `Engine.LastFetched id start turns stamp`: in a history from the engine `start`, the last fetch of
  `id` that succeeded was made in such a way.
* `Step.stampOf?_eq`: whatever is no fetch of a contract that succeeds leaves its stamp as it is.
* `Steps.stampOf?_eq_some_iff`: the stamps of an engine are decided by the last fetches in its
  history.
-/

namespace ContractEmulator

namespace Deed

/-- The certificate in force after some deeds of an engine that was new before them. -/
def certificate (deeds : List Deed) : Identity := deeds.foldl certificateAfter .initial

/-- A deed that hands out the contract `id` is a fetch of it that succeeded. -/
theorem instance?_eq_some_iff {id : String} {deed : Deed} {i : Instance} :
    deed.instance? id = some i ↔ (∃ fresh, deed = .fetched fresh i) ∧ i.id = id := by
  cases deed with
  | fetched fresh j =>
    by_cases hid : id = j.id
    · subst hid
      simp only [instance?, if_pos, Option.some.injEq, fetched.injEq]
      constructor
      · rintro rfl
        exact ⟨⟨fresh, rfl, rfl⟩, rfl⟩
      · rintro ⟨⟨_, -, rfl⟩, -⟩
        rfl
    · simp only [instance?, if_neg hid, fetched.injEq, reduceCtorEq, false_iff]
      rintro ⟨⟨_, -, rfl⟩, rfl⟩
      exact hid rfl
  | _ => simp [instance?]

end Deed

namespace Engine

/-- Fetches an instance for a root call, or for a call by another contract. -/
def fetchAs (e : Engine) (isRoot : Bool) (id : String) :
    Except Failure (Instance × Engine × List Event) :=
  if isRoot then e.fetch id else e.fetchNested id

/-- The stamp of the instance of an id. -/
def stampOf? (e : Engine) (id : String) : Option Stamp := (e.loaded.find? id).map Instance.stamp

/-- In a history that starts with the engine `start`, the last fetch of the contract `id` that
succeeded was made for a root call or for a nested call, with some certificate in force. -/
inductive LastFetched (id : String) (start : Engine) : List Turn → Stamp → Prop where
  | intro {pre post : List Turn} {isRoot fresh : Bool} {i : Instance} {events : List Event}
      {e₁ e₂ : Engine} :
      start.Steps pre e₁ → e₁.fetchAs isRoot id = .ok (i, e₂, events) →
      (∀ turn ∈ post, turn.deed.instance? id = none) →
      LastFetched id start (pre ++ ⟨.fetched fresh i, events⟩ :: post)
        ⟨isRoot, Deed.certificate (pre.map Turn.deed)⟩

variable {start e e' e₁ e₂ : Engine} {turn : Turn} {turns pre post : List Turn} {id : String}
  {i : Instance} {stamp : Stamp} {isRoot fresh : Bool} {events : List Event}

/-! ## Fetches -/

/-- Either way the instance is handed out that was obtained, under a new stamp. -/
theorem fetchAs_eq_ok (h : e.fetchAs isRoot id = .ok (i, e', events)) :
    ∃ j event, e.obtain id = .ok (j, event) ∧ i = j.stamped isRoot e.certificate := by
  cases isRoot with
  | true =>
    obtain ⟨j, event, hob, hi, -⟩ := fetch_eq_ok h
    exact ⟨j, event, hob, hi⟩
  | false =>
    obtain ⟨j, event, hob, hi, -⟩ := fetchNested_eq_ok h
    exact ⟨j, event, hob, hi⟩

theorem fetchAs_error_iff {f : Failure} :
    e.fetchAs isRoot id = .error f ↔ e.obtain id = .error f := by
  have hroot : e.fetch id = .error f ↔ e.obtain id = .error f := by
    unfold fetch
    cases e.obtain id <;> simp
  cases isRoot with
  | true => exact hroot
  | false => exact fetchNested_eq_error_iff.trans hroot

theorem eq_keep_of_fetchAs (h : e.fetchAs isRoot id = .ok (i, e', events)) : e' = e.keep i := by
  cases isRoot with
  | true => exact eq_keep_of_fetch h
  | false => exact eq_keep_of_fetchNested h

/-- A fetch stamps the instance with its role and with the certificate in force. -/
theorem stamp_of_fetchAs (h : e.fetchAs isRoot id = .ok (i, e', events)) :
    i.stamp = ⟨isRoot, e.certificate⟩ := by
  obtain ⟨j, event, -, rfl⟩ := fetchAs_eq_ok h
  rfl

theorem WellFormed.id_of_fetchAs (hw : e.WellFormed)
    (h : e.fetchAs isRoot id = .ok (i, e', events)) : i.id = id := by
  obtain ⟨j, event, hob, hi⟩ := fetchAs_eq_ok h
  have hj : j.id = id := hw.id_of_obtain hob
  exact (congrArg Instance.id hi).trans hj

/-- A fetch that succeeded was made for one of the two roles. -/
theorem Step.fetchAs_of_fetched (h : Step e ⟨.fetched fresh i, events⟩ e') (hw : e.WellFormed) :
    ∃ isRoot, e.fetchAs isRoot i.id = .ok (i, e', events) := by
  cases h with
  | @fetch _ _ id _ _ h =>
    have hfetch : e.fetchAs true id = .ok (i, e', events) := h
    obtain rfl := hw.id_of_fetchAs hfetch
    exact ⟨true, hfetch⟩
  | @fetchNested _ _ id _ _ h =>
    have hfetch : e.fetchAs false id = .ok (i, e', events) := h
    obtain rfl := hw.id_of_fetchAs hfetch
    exact ⟨false, hfetch⟩

/-! ## One deed -/

/-- An instance that is handed out is kept with its stamp. -/
theorem Step.stampOf?_of_fetched (h : Step e ⟨.fetched fresh i, events⟩ e') (hw : e.WellFormed) :
    e'.stampOf? i.id = some i.stamp := by
  rw [stampOf?, h.find?_loaded hw, Deed.loadedAfter, if_pos rfl]
  rfl

/-- Whatever is no fetch of a contract that succeeds leaves its stamp as it is: registrations, new
certificates, fetches that fail, calls, and fetches of other contracts. -/
theorem Step.stampOf?_eq (h : Step e turn e') (hw : e.WellFormed)
    (hn : turn.deed.instance? id = none) : e'.stampOf? id = e.stampOf? id := by
  rw [stampOf?, stampOf?, h.find?_loaded hw]
  obtain ⟨deed, events⟩ := turn
  cases deed with
  | fetched fresh i =>
    by_cases hid : id = i.id
    · cases (if_pos hid).symm.trans hn
    · rw [Deed.loadedAfter, if_neg hid]
  | remembered id' memory =>
    rw [Deed.loadedAfter]
    split
    · exact Option.map_map _ _ _
    · rfl
  | _ => rfl

/-! ## A history -/

theorem Steps.stampOf?_eq (h : Steps e turns e') (hw : e.WellFormed)
    (hn : ∀ turn ∈ turns, turn.deed.instance? id = none) : e'.stampOf? id = e.stampOf? id := by
  induction h with
  | nil => rfl
  | cons hstep _ ih =>
    obtain ⟨hhead, htail⟩ := List.forall_mem_cons.1 hn
    rw [ih (hstep.wellFormed hw) htail, hstep.stampOf?_eq hw hhead]

/-- The deeds of an engine tell which certificate is in force. -/
theorem Steps.certificate_eq_foldl (h : Steps e turns e') :
    e'.certificate = (turns.map Turn.deed).foldl Deed.certificateAfter e.certificate :=
  h.part_eq_foldl Step.certificate_eq

/-- A stamp stays the last one until the contract is fetched again. -/
theorem LastFetched.append (h : LastFetched id start turns stamp)
    (hn : ∀ turn ∈ post, turn.deed.instance? id = none) :
    LastFetched id start (turns ++ post) stamp := by
  cases h with
  | intro hsteps hfetch hpost =>
    rw [List.append_assoc, List.cons_append]
    exact .intro hsteps hfetch fun turn hmem =>
      (List.mem_append.1 hmem).elim (hpost turn) (hn turn)

/-- The certificate in force is the one that the deeds so far have left. -/
theorem Steps.certificate_eq_deeds (h : start.Steps pre e) (hcert : start.certificate = .initial) :
    e.certificate = Deed.certificate (pre.map Turn.deed) := by
  rw [h.certificate_eq_foldl, hcert, Deed.certificate]

/-- One more deed. -/
theorem LastFetched.step (hpre : start.Steps pre e) (hcert : start.certificate = .initial)
    (hw : e.WellFormed)
    (hlast : ∀ stamp, e.stampOf? id = some stamp → LastFetched id start pre stamp)
    (h : Step e turn e') (hstamp : e'.stampOf? id = some stamp) :
    LastFetched id start (pre ++ [turn]) stamp := by
  cases hinst : turn.deed.instance? id with
  | none =>
    rw [h.stampOf?_eq hw hinst] at hstamp
    refine (hlast stamp hstamp).append fun t hmem => ?_
    rw [List.mem_singleton.1 hmem]
    exact hinst
  | some i =>
    obtain ⟨deed, events⟩ := turn
    obtain ⟨⟨fresh, rfl⟩, rfl⟩ := Deed.instance?_eq_some_iff.1 hinst
    obtain ⟨isRoot, hfetch⟩ := h.fetchAs_of_fetched hw
    obtain rfl : stamp = ⟨isRoot, Deed.certificate (pre.map Turn.deed)⟩ := by
      rw [← hpre.certificate_eq_deeds hcert, ← stamp_of_fetchAs hfetch]
      exact Option.some.inj (hstamp.symm.trans (h.stampOf?_of_fetched hw))
    exact .intro hpre hfetch fun t hmem => absurd hmem List.not_mem_nil

theorem Steps.lastFetched (h : Steps e turns e') (hpre : start.Steps pre e)
    (hcert : start.certificate = .initial) (hw : e.WellFormed)
    (hlast : ∀ stamp, e.stampOf? id = some stamp → LastFetched id start pre stamp)
    (hstamp : e'.stampOf? id = some stamp) : LastFetched id start (pre ++ turns) stamp := by
  induction h generalizing pre with
  | nil =>
    rw [List.append_nil]
    exact hlast stamp hstamp
  | cons hstep _ ih =>
    rw [List.append_cons]
    exact ih (hpre.append (.cons hstep (.nil _))) (hstep.wellFormed hw)
      (fun stamp => LastFetched.step hpre hcert hw hlast hstep) hstamp

/-- The last fetch of a contract is what the engine is left with. -/
theorem LastFetched.stampOf?_eq (h : LastFetched id start turns stamp)
    (hcert : start.certificate = .initial) (hw : start.WellFormed) (hsteps : start.Steps turns e) :
    e.stampOf? id = some stamp := by
  cases h with
  | @intro pre post isRoot fresh i events e₁ e₂ hpre hfetch hpost =>
    obtain ⟨e₃, hbefore, hafter⟩ := hsteps.split
    cases hafter with
    | cons hstep hrest =>
      have hw₃ := hbefore.wellFormed hw
      have hid : i.id = id := (hpre.wellFormed hw).id_of_fetchAs hfetch
      rw [hrest.stampOf?_eq (hstep.wellFormed hw₃) hpost, ← hid, hstep.stampOf?_of_fetched hw₃,
        stamp_of_fetchAs hfetch, hpre.certificate_eq_deeds hcert]

/-- The stamps of an engine are those that the last fetches in its history left. -/
theorem Steps.stampOf?_eq_some_iff {place : Nat} {loader : Loader ContractLogic}
    {functions : Loader FunctionLogic} (h : (new place loader functions).Steps turns e) :
    e.stampOf? id = some stamp ↔ LastFetched id (new place loader functions) turns stamp := by
  have hw := wellFormed_new place loader functions
  exact ⟨h.lastFetched (.nil _) rfl hw (fun _ hnone => nomatch hnone),
    fun hlast => hlast.stampOf?_eq rfl hw h⟩

end Engine

end ContractEmulator
