import ContractEmulator.Proofs.Script.History

/-!
# What a script reads

What a session reads was written before, by the steps that it has taken, failed ones too.

* `Session.Reach.reads_written`: a step that runs a built-in contract returns what the writes so far
  tell about the asset.
-/

namespace ContractEmulator.Session

open BuiltinContract MemoryLedger

variable {past : List Moment} {s : Session} {step : Step} {c : Call} {output : Option Json}

/-- A step that calls a contract and succeeds runs the built-in contract for which the id stands. It
is given the name of an asset, and returns what was written to this asset: the last version, or the
versions that the argument selects. -/
theorem Reach.reads_written (hr : Reach past s) (hcall : step.call? = some c)
    (hok : (s.run step).1 = .ok output) :
    ∃ (kind : Kind) (assetId : String),
      resolve? c.id (⟨s, step⟩ :: past) = some kind.symbol ∧
      c.argument.get? "asset_id" = some (.str assetId) ∧
      ((written assetId past).length ≤ maxVersions →
        output = kind.returns assetId c.argument (written assetId past)) := by
  obtain ⟨e, ha⟩ := hr.accounts
  obtain ⟨outcome, e', hout, hends, ha'⟩ := ha.of_call hcall
  rw [hok] at hout
  cases outcome with
  | error f => cases hout
  | ok r =>
    obtain rfl : output = r := Except.ok.inj hout
    obtain ⟨kind, hname, hperform⟩ := hends.ok ha.builtin
    obtain ⟨assetId, hasset, hreturns⟩ := returns_of_perform hperform
    rw [ha.history] at hreturns
    exact ⟨kind, assetId, (ha'.loaded _).symm.trans hname, hasset, hreturns⟩

/-- The second number was written by a step that failed. It is read all the same. -/
theorem coins_reads_written :
    (written "coin" coinMoments).map Json.asNat? = [some 1, some 2] ∧
      (coins.run (.get "coin")).1 = .ok (some (latest "coin" (written "coin" coinMoments))) := by
  have hwritten : (written "coin" coinMoments).map Json.asNat? = [some 1, some 2] := by
    decide +kernel
  have hlength : (written "coin" coinMoments).length ≤ maxVersions := by decide +kernel
  have hname : resolve? "get" (⟨coins, .get "coin"⟩ :: coinMoments) = some Kind.get.symbol := by
    decide +kernel
  have hdone : (coins.run (.get "coin")).1.isOk = true := by decide +kernel
  refine ⟨hwritten, ?_⟩
  cases hok : (coins.run (.get "coin")).1 with
  | error =>
    rw [hok] at hdone
    cases hdone
  | ok output =>
    obtain ⟨kind, assetId, hkind, hasset, hreturns⟩ := reach_coins.reads_written rfl hok
    obtain rfl : kind = .get := Kind.some_symbol_inj.1 (hkind.symm.trans hname)
    obtain rfl : "coin" = assetId := Json.str.inj (Option.some.inj hasset)
    rw [hreturns hlength]
    rfl

end ContractEmulator.Session
