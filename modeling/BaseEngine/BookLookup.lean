import BaseEngine.BookInvariant

/-!
# Two notions of one address

The book finds the pool of a log by a key: the address without white space
and `0x`, in lower case. The pool then compares the address of the log with
its own as it was written, up to case only. Where the two differ, a log that
reached its pool is ignored and the pool keeps its old state.

`applied_iff_match` says that this is the only way a complete log gets lost.
-/

namespace BaseEngine

open Text

variable {u256FromDecimal : String → Option Nat} {book : PoolBook} {log : Log}
  {entry updated : PoolState} {address : String}

variable (u256FromDecimal log) in
/-- The entry with the values of a log of its own kind, if the payload is
complete and valid. -/
def PoolState.updatedBy : PoolState → Option PoolState
  | .v2 pool => do
      let decoded ← log.decodedEvent
      let reserve0 ← decoded.reserve0
      let reserve1 ← decoded.reserve1
      if decoded.kind = .v2Sync ∧ 0 < reserve0 ∧ 0 < reserve1 then
        some (.v2 (pool.synced reserve0 reserve1 log))
      else none
  | .v3 pool => do
      let decoded ← log.decodedEvent
      let values ← V3PoolState.carriedValues u256FromDecimal decoded
      if decoded.kind = .v3Swap then some (.v3 (pool.swapped values log)) else none

namespace PoolBook

/-- A log that names the pool is applied, and the pool takes its values. -/
theorem applyLog_of_match {id : AppliedLogKey}
    (hentry : book.pools.lookup (normalizeAddressKey address) = some entry)
    (haddr : log.address = some address) (hid : appliedLogKey log = .ok id)
    (hremoved : log.removed.getD false = false)
    (hpayload : entry.updatedBy u256FromDecimal log = some updated)
    (hmatch : eqIgnoreAsciiCase address entry.address = true) :
    (applyLog u256FromDecimal book log).2 = .ok .applied
      ∧ (applyLog u256FromDecimal book log).1.pools.lookup (normalizeAddressKey address)
        = some updated := by
  cases entry with
  | v2 pool =>
      obtain ⟨decoded, hdec, hpayload⟩ := Option.bind_eq_some_iff.mp hpayload
      obtain ⟨reserve0, h0, hpayload⟩ := Option.bind_eq_some_iff.mp hpayload
      obtain ⟨reserve1, h1, hpayload⟩ := Option.bind_eq_some_iff.mp hpayload
      split_ifs at hpayload with hvalid
      obtain ⟨hkind, hpos⟩ := hvalid
      obtain rfl := Option.some.inj hpayload
      rw [applyLog_applied haddr hentry hmatch hdec hkind hid hremoved h0 h1 hpos]
      exact ⟨rfl, lookup_insertPool_self ..⟩
  | v3 pool =>
      obtain ⟨decoded, hdec, hpayload⟩ := Option.bind_eq_some_iff.mp hpayload
      obtain ⟨values, hvalues, hpayload⟩ := Option.bind_eq_some_iff.mp hpayload
      split_ifs at hpayload with hkind
      obtain rfl := Option.some.inj hpayload
      rw [applyLog_of_v3 haddr hentry]
      rcases V3PoolState.applyLog_swap haddr hmatch hdec hkind with
        ⟨values', hvalues', hlog⟩ | ⟨hincomplete, -⟩
      · obtain rfl := Option.some.inj (hvalues.symm.trans hvalues')
        rw [hlog]
        exact ⟨rfl, lookup_insertPool_self ..⟩
      · exact absurd (V3PoolState.swapComplete_iff.mpr ⟨values, hvalues⟩) hincomplete

/-- A log that is applied names the pool under its key. -/
theorem match_of_applied
    (hentry : book.pools.lookup (normalizeAddressKey address) = some entry)
    (haddr : log.address = some address)
    (happlied : (applyLog u256FromDecimal book log).2 = .ok .applied) :
    eqIgnoreAsciiCase address entry.address = true := by
  have hstep := bookStep_applyLog u256FromDecimal book log
  generalize applyLog u256FromDecimal book log = result at hstep happlied
  cases hstep with
  | ignored _ _ => cases happlied
  | @applied address' pool _ _ _ _ haddr' hpool hmatch =>
      obtain rfl := Option.some.inj (haddr.symm.trans haddr')
      obtain rfl := Option.some.inj (hentry.symm.trans hpool)
      exact hmatch
  | reverted _ _ _ _ _ _ _ => cases happlied
  | @swapped address' pool _ _ haddr' hpool hmatch =>
      obtain rfl := Option.some.inj (haddr.symm.trans haddr')
      obtain rfl := Option.some.inj (hentry.symm.trans hpool)
      exact hmatch
  | failed _ _ _ => cases happlied

/-- **When a complete log reaches its pool.** For a pool of the book and a log
under the same key with its identity, not removed, and with a complete and
valid payload of the pool's kind, the log is applied and the pool carries its
values exactly when the two addresses differ in nothing but case. -/
theorem applied_iff_match {txHash : TxHash} {logIndex : Nat}
    (hentry : book.pool entry.address = some entry) (haddr : log.address = some address)
    (hkey : normalizeAddressKey address = normalizeAddressKey entry.address)
    (htxHash : log.metadata.txHash = some txHash) (hlogIndex : log.logIndex = some logIndex)
    (hremoved : log.removed.getD false = false)
    (hpayload : entry.updatedBy u256FromDecimal log = some updated) :
    ((applyLog u256FromDecimal book log).2 = .ok .applied
        ∧ (applyLog u256FromDecimal book log).1.pool entry.address = some updated)
      ↔ eqIgnoreAsciiCase address entry.address = true := by
  unfold PoolBook.pool at hentry ⊢
  rw [← hkey] at hentry ⊢
  have hid : appliedLogKey log = .ok ⟨txHash, logIndex⟩ :=
    appliedLogKey_eq_ok_iff.mpr ⟨htxHash, hlogIndex⟩
  exact ⟨fun h => match_of_applied hentry haddr h.1,
    applyLog_of_match hentry haddr hid hremoved hpayload⟩

/-- The pool of the unit tests, inserted without the `0x` of its address. -/
def barePool : V2PoolState := { V2PoolState.samplePool with address := "pool" }

/-- Its `Sync` is found under the pool's key and ignored. -/
theorem barePool_stale :
    (new.insertV2Pool barePool).pool barePool.address = some (.v2 barePool)
      ∧ (sampleSyncLog 123 77 88 1 false).address = some "0xpool"
      ∧ normalizeAddressKey "0xpool" = normalizeAddressKey barePool.address
      ∧ (PoolState.v2 barePool).updatedBy (fun _ => none) (sampleSyncLog 123 77 88 1 false)
        = some (.v2 (barePool.synced 77 88 (sampleSyncLog 123 77 88 1 false)))
      ∧ applyLog (fun _ => none) (new.insertV2Pool barePool) (sampleSyncLog 123 77 88 1 false)
        = (new.insertV2Pool barePool, .ok .ignored) := by
  decide +kernel

theorem samplePool_applied_iff :
    (new.insertV2Pool V2PoolState.samplePool).pool (PoolState.v2 V2PoolState.samplePool).address
        = some (.v2 V2PoolState.samplePool)
      ∧ (((applyLog (fun _ => none) (new.insertV2Pool V2PoolState.samplePool)
              (sampleSyncLog 123 77 88 1 false)).2 = .ok .applied
          ∧ (applyLog (fun _ => none) (new.insertV2Pool V2PoolState.samplePool)
              (sampleSyncLog 123 77 88 1 false)).1.pool
                (PoolState.v2 V2PoolState.samplePool).address
            = some (.v2 (V2PoolState.samplePool.synced 77 88 (sampleSyncLog 123 77 88 1 false))))
        ↔ eqIgnoreAsciiCase "0xpool" (PoolState.v2 V2PoolState.samplePool).address = true) := by
  have hentry : (new.insertV2Pool V2PoolState.samplePool).pool
      (PoolState.v2 V2PoolState.samplePool).address = some (.v2 V2PoolState.samplePool) := by
    decide
  have haddr : (sampleSyncLog 123 77 88 1 false).address = some "0xpool" := rfl
  have hpayload : (PoolState.v2 V2PoolState.samplePool).updatedBy (fun _ => none)
      (sampleSyncLog 123 77 88 1 false)
      = some (.v2 (V2PoolState.samplePool.synced 77 88 (sampleSyncLog 123 77 88 1 false))) := by
    decide
  exact ⟨hentry, applied_iff_match hentry haddr (by decide) rfl rfl rfl hpayload⟩

end PoolBook

end BaseEngine
