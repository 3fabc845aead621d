import BaseEngine.Lib.FiniteMap
import BaseEngine.MarketsV3

/-!
# The pool book

`PoolBook` of `crates/markets/src/lib.rs`: the tracked pools by
normalised address, and for every applied `Sync` the snapshot of the pool
it overwrote, by transaction hash and log index.

A method that takes `&mut self` and returns a `Result` is a function to
the state after the call *and* the result: the source mutates the book
before it knows whether the call succeeds, and what is left behind on an
error is part of its behaviour.

`bookStep_applyLog` says once what `applyLog` can do, one constructor per
way through the two levels of the update. Everything about runs of logs
is proved from it.
-/

namespace BaseEngine

open Fallible Text

inductive PoolState where
  | v2 (pool : V2PoolState)
  | v3 (pool : V3PoolState)
deriving Repr, DecidableEq

def PoolState.address : PoolState → Address
  | .v2 pool => pool.address
  | .v3 pool => pool.address

structure AppliedLogKey where
  txHash : TxHash
  logIndex : Nat
deriving Repr, DecidableEq

structure V2SyncSnapshot where
  reserve0 : Nat
  reserve1 : Nat
  lastUpdatedBlock : Option Nat
deriving Repr, DecidableEq

structure PoolBook where
  pools : Finmap (fun _ : String => PoolState)
  appliedSyncHistory : Finmap (fun _ : AppliedLogKey => V2SyncSnapshot)
deriving DecidableEq

namespace V2PoolState

def snapshot (pool : V2PoolState) : V2SyncSnapshot :=
  { reserve0 := pool.reserve0, reserve1 := pool.reserve1,
    lastUpdatedBlock := pool.lastUpdatedBlock }

def restore (pool : V2PoolState) (snapshot : V2SyncSnapshot) : V2PoolState :=
  { pool with reserve0 := snapshot.reserve0, reserve1 := snapshot.reserve1,
              lastUpdatedBlock := snapshot.lastUpdatedBlock }

/-! ## `Sync` on one pool -/

/-- The pool with the reserves and the block of a `Sync` log. -/
def synced (pool : V2PoolState) (reserve0 reserve1 : Nat) (log : Log) : V2PoolState :=
  pool.restore { reserve0, reserve1,
                 lastUpdatedBlock := blockNumber log.metadata.blockContext }

@[simp] theorem synced_synced (pool : V2PoolState) (reserve0 reserve1 : Nat) (log : Log) :
    (pool.synced reserve0 reserve1 log).synced reserve0 reserve1 log
      = pool.synced reserve0 reserve1 log := rfl

/-- The event carries both reserves, and neither is zero. -/
def ReservesPositive (decoded : DecodedLogEvent) : Prop :=
  ∃ reserve0 reserve1, decoded.reserve0 = some reserve0 ∧ decoded.reserve1 = some reserve1
    ∧ 0 < reserve0 ∧ 0 < reserve1

theorem applySync_of_pos {pool : V2PoolState} {reserve0 reserve1 : Nat} (log : Log)
    (hpos : 0 < reserve0 ∧ 0 < reserve1) :
    pool.applySync reserve0 reserve1 (blockNumber log.metadata.blockContext)
      = .ok (pool.synced reserve0 reserve1 log) := by
  unfold applySync
  rw [if_neg (by omega)]
  rfl

/-- A `Sync` log on the pool it names: the reserves are adopted when both
are there and non-zero, and the call fails otherwise. -/
theorem applyLog_sync {pool : V2PoolState} {log : Log} {address : String}
    {decoded : DecodedLogEvent} (haddr : log.address = some address)
    (hmatch : eqIgnoreAsciiCase address pool.address = true)
    (hdec : log.decodedEvent = some decoded) (hkind : decoded.kind = .v2Sync) :
    (∃ reserve0 reserve1, decoded.reserve0 = some reserve0 ∧ decoded.reserve1 = some reserve1
        ∧ (0 < reserve0 ∧ 0 < reserve1)
        ∧ pool.applyLog log = .ok (.applied, pool.synced reserve0 reserve1 log))
      ∨ (¬ ReservesPositive decoded ∧ ∃ e, pool.applyLog log = .error e) := by
  have heq : pool.applyLog log = (do
      let reserve0 ← okOr decoded.reserve0 (.missingDecodedField "reserve0")
      let reserve1 ← okOr decoded.reserve1 (.missingDecodedField "reserve1")
      let updated ← pool.applySync reserve0 reserve1 (blockNumber log.metadata.blockContext)
      return (.applied, updated)) := by
    unfold applyLog
    simp only [haddr, hmatch, hdec, hkind, if_true]
  rw [heq]
  cases h0 : decoded.reserve0 with
  | none =>
      refine Or.inr ⟨?_, _, rfl⟩
      rintro ⟨_, _, h0', -⟩
      rw [h0] at h0'; cases h0'
  | some reserve0 =>
      cases h1 : decoded.reserve1 with
      | none =>
          refine Or.inr ⟨?_, _, rfl⟩
          rintro ⟨_, _, -, h1', -⟩
          rw [h1] at h1'; cases h1'
      | some reserve1 =>
          by_cases hpos : 0 < reserve0 ∧ 0 < reserve1
          · refine Or.inl ⟨reserve0, reserve1, rfl, rfl, hpos, ?_⟩
            simp only [okOr_some, ok_bind, applySync_of_pos log hpos]
            rfl
          · have hzero : reserve0 = 0 ∨ reserve1 = 0 := by omega
            refine Or.inr ⟨?_, .invalidPool "sync reserves must be greater than zero", ?_⟩
            · rintro ⟨_, _, h0', h1', hpos'⟩
              rw [h0] at h0'; rw [h1] at h1'
              cases h0'; cases h1'
              exact hpos hpos'
            · simp only [okOr_some, ok_bind, applySync, if_pos hzero, error_bind]

theorem applyLog_of_not_match {pool : V2PoolState} {log : Log} {address : String}
    (haddr : log.address = some address)
    (hmatch : eqIgnoreAsciiCase address pool.address = false) :
    pool.applyLog log = .ok (.ignored, pool) := by
  unfold applyLog
  simp only [haddr, hmatch, Bool.false_eq_true, if_false]

end V2PoolState

/-- An address without its white space and `0x`, in lower case, under a
single `0x`. -/
def normalizeAddressKey (address : String) : String :=
  let trimmed := trim address
  let hex := (stripPrefix "0x" trimmed).getD trimmed
  "0x" ++ toAsciiLowercase hex

def appliedLogKey (log : Log) : Except MarketError AppliedLogKey := do
  let txHash ← okOr log.metadata.txHash .missingLogIdentity
  let logIndex ← okOr log.logIndex .missingLogIdentity
  return { txHash, logIndex }

theorem appliedLogKey_eq_ok_iff {log : Log} {id : AppliedLogKey} :
    appliedLogKey log = .ok id
      ↔ log.metadata.txHash = some id.txHash ∧ log.logIndex = some id.logIndex := by
  constructor
  · intro h
    obtain ⟨txHash, htx, h⟩ := okOr_bind_eq_ok_iff.mp h
    obtain ⟨logIndex, hidx, h⟩ := okOr_bind_eq_ok_iff.mp h
    obtain rfl := Except.ok.inj h
    exact ⟨htx, hidx⟩
  · rintro ⟨htx, hidx⟩
    simp only [appliedLogKey, htx, hidx, okOr_some, ok_bind]
    rfl

namespace PoolBook

def new : PoolBook := { pools := ∅, appliedSyncHistory := ∅ }

def insertPool (book : PoolBook) (key : String) (poolState : PoolState) : PoolBook :=
  { book with pools := book.pools.insert key poolState }

def removePool (book : PoolBook) (key : String) : PoolBook :=
  { book with pools := book.pools.erase key }

def insertV2Pool (book : PoolBook) (pool : V2PoolState) : PoolBook :=
  book.insertPool (normalizeAddressKey pool.address) (.v2 pool)

def insertV3Pool (book : PoolBook) (pool : V3PoolState) : PoolBook :=
  book.insertPool (normalizeAddressKey pool.address) (.v3 pool)

def rememberSync (book : PoolBook) (id : AppliedLogKey) (snapshot : V2SyncSnapshot) :
    PoolBook :=
  { book with appliedSyncHistory := book.appliedSyncHistory.insert id snapshot }

def forgetSync (book : PoolBook) (id : AppliedLogKey) : PoolBook :=
  { book with appliedSyncHistory := book.appliedSyncHistory.erase id }

def pool (book : PoolBook) (address : String) : Option PoolState :=
  book.pools.lookup (normalizeAddressKey address)

def v2Pool (book : PoolBook) (address : String) : Option V2PoolState :=
  match book.pool address with
  | some (.v2 pool) => some pool
  | _ => none

/-- The book and the pool after the call, with the call's result. -/
def applyV2Log (book : PoolBook) (pool : V2PoolState) (log : Log) :
    (PoolBook × V2PoolState) × Except MarketError MarketEventOutcome :=
  match log.decodedEvent with
  | none => ((book, pool), .ok .ignored)
  | some decoded =>
      match decoded.kind with
      | .v2Sync =>
          match appliedLogKey log with
          | .error e => ((book, pool), .error e)
          | .ok appliedKey =>
              if log.removed.getD false then
                match book.appliedSyncHistory.lookup appliedKey with
                | none =>
                    ((book, pool),
                      .error (.missingRevertSnapshot appliedKey.txHash appliedKey.logIndex))
                | some previous =>
                    ((book.forgetSync appliedKey, pool.restore previous), .ok .reverted)
              else
                match pool.applyLog log with
                | .error e => ((book, pool), .error e)
                | .ok (.applied, updated) =>
                    ((book.rememberSync appliedKey pool.snapshot, updated), .ok .applied)
                | .ok (outcome, updated) => ((book, updated), .ok outcome)
      | _ => ((book, pool), .ok .ignored)

variable (u256FromDecimal : String → Option Nat)

/-- The addressed pool is taken out of the map for the update. An error
returns from the middle of the function, before the pool is put back. -/
def applyLog (book : PoolBook) (log : Log) :
    PoolBook × Except MarketError MarketEventOutcome :=
  match log.address with
  | none => (book, .ok .ignored)
  | some address =>
      let key := normalizeAddressKey address
      match book.pools.lookup key with
      | none => (book, .ok .ignored)
      | some poolState =>
          let taken := book.removePool key
          match poolState with
          | .v2 pool =>
              match taken.applyV2Log pool log with
              | ((after, _), .error e) => (after, .error e)
              | ((after, updated), .ok outcome) =>
                  (after.insertPool key (.v2 updated), .ok outcome)
          | .v3 pool =>
              match pool.applyLog u256FromDecimal log with
              | .error e => (taken, .error e)
              | .ok (outcome, updated) => (taken.insertPool key (.v3 updated), .ok outcome)

/-! ## What a log can do -/

/-- What a log must bring for a V2 pool under its key: nothing unless it
is a `Sync`; a `Sync` needs its transaction hash and log index, and then
a snapshot to go back to, or non-zero reserves when it names the pool. -/
def V2Applicable (book : PoolBook) (pool : V2PoolState) (address : String) (log : Log) :
    Prop :=
  ∀ decoded, log.decodedEvent = some decoded → decoded.kind = .v2Sync →
    ∃ id : AppliedLogKey, log.metadata.txHash = some id.txHash
      ∧ log.logIndex = some id.logIndex
      ∧ if log.removed.getD false = true then
          (book.appliedSyncHistory.lookup id).isSome = true
        else eqIgnoreAsciiCase address pool.address = true →
          V2PoolState.ReservesPositive decoded

/-- What a log must bring for a V3 pool under its key. -/
def V3Applicable (pool : V3PoolState) (address : String) (log : Log) : Prop :=
  ∀ decoded, log.decodedEvent = some decoded → decoded.kind = .v3Swap →
    eqIgnoreAsciiCase address pool.address = true →
    V3PoolState.SwapComplete u256FromDecimal decoded

/-- What a log must bring for whatever is under its key. -/
def SlotApplicable (book : PoolBook) (slot : Option PoolState) (address : String)
    (log : Log) : Prop :=
  match slot with
  | none => True
  | some (.v2 pool) => V2Applicable book pool address log
  | some (.v3 pool) => V3Applicable u256FromDecimal pool address log

/-- The log can be carried out on the pool its address selects, if any. -/
def LogApplicable (book : PoolBook) (log : Log) : Prop :=
  ∀ address, log.address = some address →
    SlotApplicable u256FromDecimal book (book.pools.lookup (normalizeAddressKey address))
      address log

/-- The log is a decoded V2 `Sync`. -/
def isSync (log : Log) : Bool :=
  match log.decodedEvent with
  | some decoded => decide (decoded.kind = .v2Sync)
  | none => false

/-- The log is a `Sync` for a V2 pool of the book. -/
def tracksSync (book : PoolBook) (log : Log) : Bool :=
  isSync log && (log.address.bind book.v2Pool).isSome

/-- Nothing for a V2 pool: a `Sync` under the key of one is not a removal
and does not name the pool. -/
def NoSync (book : PoolBook) (log : Log) : Prop :=
  ∀ address pool, log.address = some address →
    book.pools.lookup (normalizeAddressKey address) = some (.v2 pool) → isSync log = true →
      log.removed.getD false = false ∧ eqIgnoreAsciiCase address pool.address = false

/-- One constructor per way through `applyLog`, with the book and the
result it ends in. `failed` is the way out of the middle: the addressed
pool is gone. -/
inductive BookStep (book : PoolBook) (log : Log) :
    PoolBook × Except MarketError MarketEventOutcome → Prop
  | ignored (happ : LogApplicable u256FromDecimal book log)
      (hkeep : book.NoSync log) :
      BookStep book log (book, .ok .ignored)
  | applied {address pool decoded id reserve0 reserve1}
      (haddr : log.address = some address)
      (hpool : book.pools.lookup (normalizeAddressKey address) = some (.v2 pool))
      (hmatch : eqIgnoreAsciiCase address pool.address = true)
      (hdec : log.decodedEvent = some decoded) (hkind : decoded.kind = .v2Sync)
      (hid : appliedLogKey log = .ok id) (hremoved : log.removed.getD false = false)
      (h0 : decoded.reserve0 = some reserve0) (h1 : decoded.reserve1 = some reserve1)
      (hpos : 0 < reserve0 ∧ 0 < reserve1) :
      BookStep book log
        ((book.rememberSync id pool.snapshot).insertPool (normalizeAddressKey address)
          (.v2 (pool.synced reserve0 reserve1 log)), .ok .applied)
  | reverted {address pool decoded id previous}
      (haddr : log.address = some address)
      (hpool : book.pools.lookup (normalizeAddressKey address) = some (.v2 pool))
      (hdec : log.decodedEvent = some decoded) (hkind : decoded.kind = .v2Sync)
      (hid : appliedLogKey log = .ok id) (hremoved : log.removed.getD false = true)
      (hprev : book.appliedSyncHistory.lookup id = some previous) :
      BookStep book log
        ((book.forgetSync id).insertPool (normalizeAddressKey address)
          (.v2 (pool.restore previous)), .ok .reverted)
  | swapped {address pool decoded values}
      (haddr : log.address = some address)
      (hpool : book.pools.lookup (normalizeAddressKey address) = some (.v3 pool))
      (hmatch : eqIgnoreAsciiCase address pool.address = true)
      (hdec : log.decodedEvent = some decoded) (hkind : decoded.kind = .v3Swap)
      (hvalues : V3PoolState.carriedValues u256FromDecimal decoded = some values) :
      BookStep book log
        (book.insertPool (normalizeAddressKey address) (.v3 (pool.swapped values log)),
          .ok .applied)
  | failed {address poolState e}
      (haddr : log.address = some address)
      (hpool : book.pools.lookup (normalizeAddressKey address) = some poolState)
      (hfail : ¬ LogApplicable u256FromDecimal book log) :
      BookStep book log (book.removePool (normalizeAddressKey address), .error e)

@[simp] theorem insertPool_removePool (book : PoolBook) (key : String)
    (poolState : PoolState) :
    (book.removePool key).insertPool key poolState = book.insertPool key poolState := by
  simp only [insertPool, removePool, FiniteMap.insert_erase]

@[simp] theorem rememberSync_removePool (book : PoolBook) (key : String)
    (id : AppliedLogKey) (snapshot : V2SyncSnapshot) :
    (book.removePool key).rememberSync id snapshot
      = (book.rememberSync id snapshot).removePool key := rfl

@[simp] theorem forgetSync_removePool (book : PoolBook) (key : String) (id : AppliedLogKey) :
    (book.removePool key).forgetSync id = (book.forgetSync id).removePool key := rfl

@[simp] theorem pools_rememberSync (book : PoolBook) (id : AppliedLogKey)
    (snapshot : V2SyncSnapshot) : (book.rememberSync id snapshot).pools = book.pools := rfl

theorem lookup_insertPool_self (book : PoolBook) (key : String) (poolState : PoolState) :
    (book.insertPool key poolState).pools.lookup key = some poolState :=
  Finmap.lookup_insert _

theorem lookup_insertPool_of_ne (book : PoolBook) {key other : String} (poolState : PoolState)
    (h : other ≠ key) :
    (book.insertPool key poolState).pools.lookup other = book.pools.lookup other :=
  Finmap.lookup_insert_of_ne _ h

theorem lookup_removePool_self (book : PoolBook) (key : String) :
    (book.removePool key).pools.lookup key = none :=
  Finmap.lookup_erase _ _

theorem lookup_removePool_of_ne (book : PoolBook) {key other : String} (h : other ≠ key) :
    (book.removePool key).pools.lookup other = book.pools.lookup other :=
  Finmap.lookup_erase_ne h

theorem lookup_rememberSync_self (book : PoolBook) (id : AppliedLogKey)
    (snapshot : V2SyncSnapshot) :
    (book.rememberSync id snapshot).appliedSyncHistory.lookup id = some snapshot :=
  Finmap.lookup_insert _

theorem lookup_rememberSync_of_ne (book : PoolBook) {id other : AppliedLogKey}
    (snapshot : V2SyncSnapshot) (h : other ≠ id) :
    (book.rememberSync id snapshot).appliedSyncHistory.lookup other
      = book.appliedSyncHistory.lookup other :=
  Finmap.lookup_insert_of_ne _ h

theorem lookup_forgetSync_self (book : PoolBook) (id : AppliedLogKey) :
    (book.forgetSync id).appliedSyncHistory.lookup id = none :=
  Finmap.lookup_erase _ _

theorem lookup_forgetSync_of_ne (book : PoolBook) {id other : AppliedLogKey} (h : other ≠ id) :
    (book.forgetSync id).appliedSyncHistory.lookup other
      = book.appliedSyncHistory.lookup other :=
  Finmap.lookup_erase_ne h

/-- Putting a pool back unchanged is no step at all. -/
theorem insertPool_of_lookup {book : PoolBook} {key : String} {poolState : PoolState}
    (hpool : book.pools.lookup key = some poolState) :
    book.insertPool key poolState = book := by
  simp only [insertPool, FiniteMap.insert_of_lookup hpool]

theorem removePool_ne {book : PoolBook} {key : String} {poolState : PoolState}
    (hpool : book.pools.lookup key = some poolState) : book.removePool key ≠ book := by
  intro h
  exact FiniteMap.erase_ne_self hpool (congrArg PoolBook.pools h)

variable {u256FromDecimal} {book : PoolBook} {log : Log} {address : String}

theorem applyLog_of_v2 {pool : V2PoolState} (haddr : log.address = some address)
    (hpool : book.pools.lookup (normalizeAddressKey address) = some (.v2 pool)) :
    applyLog u256FromDecimal book log =
      match (book.removePool (normalizeAddressKey address)).applyV2Log pool log with
      | ((after, _), .error e) => (after, .error e)
      | ((after, updated), .ok outcome) =>
          (after.insertPool (normalizeAddressKey address) (.v2 updated), .ok outcome) := by
  unfold applyLog
  simp only [haddr, hpool]

theorem applyLog_of_v3 {pool : V3PoolState} (haddr : log.address = some address)
    (hpool : book.pools.lookup (normalizeAddressKey address) = some (.v3 pool)) :
    applyLog u256FromDecimal book log =
      match pool.applyLog u256FromDecimal log with
      | .error e => (book.removePool (normalizeAddressKey address), .error e)
      | .ok (outcome, updated) =>
          (book.insertPool (normalizeAddressKey address) (.v3 updated), .ok outcome) := by
  unfold applyLog
  simp only [haddr, hpool, insertPool_removePool]

theorem logApplicable_iff {slot : Option PoolState} (haddr : log.address = some address)
    (hslot : book.pools.lookup (normalizeAddressKey address) = slot) :
    LogApplicable u256FromDecimal book log
      ↔ SlotApplicable u256FromDecimal book slot address log := by
  subst hslot
  constructor
  · exact fun h => h address haddr
  · intro h a ha
    obtain rfl : address = a := Option.some.inj (haddr.symm.trans ha)
    exact h

/-- `V2Applicable` of a `Sync` whose identity is known. -/
theorem v2Applicable_sync {pool : V2PoolState} {decoded : DecodedLogEvent}
    {id : AppliedLogKey} (hdec : log.decodedEvent = some decoded)
    (hkind : decoded.kind = .v2Sync) (hid : appliedLogKey log = .ok id) :
    V2Applicable book pool address log ↔
      if log.removed.getD false = true then
        (book.appliedSyncHistory.lookup id).isSome = true
      else eqIgnoreAsciiCase address pool.address = true →
        V2PoolState.ReservesPositive decoded := by
  obtain ⟨htx, hidx⟩ := appliedLogKey_eq_ok_iff.mp hid
  constructor
  · intro h
    obtain ⟨id', htx', hidx', h⟩ := h decoded hdec hkind
    obtain rfl : id' = id := by
      cases id'; cases id
      simp_all
    exact h
  · intro h d hd _
    obtain rfl : decoded = d := Option.some.inj (hdec.symm.trans hd)
    exact ⟨id, htx, hidx, h⟩

theorem isSync_eq_true_iff :
    isSync log = true ↔ ∃ decoded, log.decodedEvent = some decoded ∧ decoded.kind = .v2Sync := by
  unfold isSync
  cases log.decodedEvent <;> simp

theorem v2Applicable_of_not_sync {pool : V2PoolState} (h : ¬ isSync log = true) :
    V2Applicable book pool address log :=
  fun decoded hdec hkind => absurd (isSync_eq_true_iff.mpr ⟨decoded, hdec, hkind⟩) h

theorem v3Applicable_of_sync {pool : V3PoolState} (h : isSync log = true) :
    V3Applicable u256FromDecimal pool address log := by
  intro decoded hdec hswap
  obtain ⟨decoded', hdec', hsync⟩ := isSync_eq_true_iff.mp h
  obtain rfl := Option.some.inj (hdec'.symm.trans hdec)
  rw [hsync] at hswap
  cases hswap

theorem tracksSync_eq_true_iff :
    book.tracksSync log = true ↔ isSync log = true ∧ ∃ address pool,
      log.address = some address
        ∧ book.pools.lookup (normalizeAddressKey address) = some (.v2 pool) := by
  unfold tracksSync v2Pool PoolBook.pool
  rw [Bool.and_eq_true]
  refine and_congr_right fun _ => ?_
  cases haddr : log.address with
  | none => simp
  | some address =>
      rw [Option.bind_some]
      cases hpool : book.pools.lookup (normalizeAddressKey address) with
      | none => simp [hpool]
      | some poolState => cases poolState <;> simp [hpool]

theorem noSync_of_not_isSync (h : isSync log = false) : book.NoSync log := by
  intro _ _ _ _ hsync
  rw [h] at hsync
  cases hsync

theorem noSync_of_not_v2 (haddr : log.address = some address)
    (h : ∀ pool, book.pools.lookup (normalizeAddressKey address) ≠ some (.v2 pool)) :
    book.NoSync log := by
  intro a pool ha hpool
  obtain rfl : address = a := Option.some.inj (haddr.symm.trans ha)
  exact absurd hpool (h pool)

theorem noSync_of_v2 {pool : V2PoolState} (haddr : log.address = some address)
    (hpool : book.pools.lookup (normalizeAddressKey address) = some (.v2 pool))
    (h : log.removed.getD false = false ∧ eqIgnoreAsciiCase address pool.address = false) :
    book.NoSync log := by
  intro a pool' ha hpool' _
  obtain rfl : address = a := Option.some.inj (haddr.symm.trans ha)
  rw [hpool] at hpool'
  cases hpool'
  exact h

/-- A `Sync` that names its pool is applied, and the pool's snapshot kept. -/
theorem applyLog_applied {pool : V2PoolState} {decoded : DecodedLogEvent} {id : AppliedLogKey}
    {reserve0 reserve1 : Nat} (haddr : log.address = some address)
    (hpool : book.pools.lookup (normalizeAddressKey address) = some (.v2 pool))
    (hmatch : eqIgnoreAsciiCase address pool.address = true)
    (hdec : log.decodedEvent = some decoded) (hkind : decoded.kind = .v2Sync)
    (hid : appliedLogKey log = .ok id) (hremoved : log.removed.getD false = false)
    (h0 : decoded.reserve0 = some reserve0) (h1 : decoded.reserve1 = some reserve1)
    (hpos : 0 < reserve0 ∧ 0 < reserve1) :
    applyLog u256FromDecimal book log
      = ((book.rememberSync id pool.snapshot).insertPool (normalizeAddressKey address)
          (.v2 (pool.synced reserve0 reserve1 log)), .ok .applied) := by
  have hlog : pool.applyLog log = .ok (.applied, pool.synced reserve0 reserve1 log) := by
    rcases V2PoolState.applyLog_sync haddr hmatch hdec hkind with
      ⟨r0, r1, h0', h1', -, hlog⟩ | ⟨hnot, -⟩
    · obtain rfl := Option.some.inj (h0.symm.trans h0')
      obtain rfl := Option.some.inj (h1.symm.trans h1')
      exact hlog
    · exact absurd ⟨reserve0, reserve1, h0, h1, hpos⟩ hnot
  rw [applyLog_of_v2 haddr hpool]
  unfold applyV2Log
  simp only [hdec, hkind, hid, hremoved, hlog, Bool.false_eq_true, if_false,
    rememberSync_removePool, insertPool_removePool]

/-- A removed `Sync` takes the pool back to the snapshot under its identity. -/
theorem applyLog_reverted {pool : V2PoolState} {decoded : DecodedLogEvent} {id : AppliedLogKey}
    {previous : V2SyncSnapshot} (haddr : log.address = some address)
    (hpool : book.pools.lookup (normalizeAddressKey address) = some (.v2 pool))
    (hdec : log.decodedEvent = some decoded) (hkind : decoded.kind = .v2Sync)
    (hid : appliedLogKey log = .ok id) (hremoved : log.removed.getD false = true)
    (hprev : book.appliedSyncHistory.lookup id = some previous) :
    applyLog u256FromDecimal book log
      = ((book.forgetSync id).insertPool (normalizeAddressKey address)
          (.v2 (pool.restore previous)), .ok .reverted) := by
  have hprev' : (book.removePool (normalizeAddressKey address)).appliedSyncHistory.lookup id
      = some previous := hprev
  rw [applyLog_of_v2 haddr hpool]
  unfold applyV2Log
  simp only [hdec, hkind, hid, hremoved, hprev', if_true, forgetSync_removePool,
    insertPool_removePool]

/-- A V2 pool only reads `Sync` logs. -/
theorem applyLog_of_not_sync {pool : V2PoolState} (haddr : log.address = some address)
    (hpool : book.pools.lookup (normalizeAddressKey address) = some (.v2 pool))
    (h : ¬ isSync log = true) : applyLog u256FromDecimal book log = (book, .ok .ignored) := by
  have hback := insertPool_of_lookup hpool
  rw [applyLog_of_v2 haddr hpool]
  unfold applyV2Log
  cases hdec : log.decodedEvent with
  | none => simp only [insertPool_removePool, hback]
  | some decoded =>
      cases hkind : decoded.kind with
      | v2Sync => exact absurd (isSync_eq_true_iff.mpr ⟨decoded, hdec, hkind⟩) h
      | _ => simp only [hkind, insertPool_removePool, hback]

/-- A `Sync` of a V2 pool. -/
theorem bookStep_sync {pool : V2PoolState} {decoded : DecodedLogEvent}
    (haddr : log.address = some address)
    (hpool : book.pools.lookup (normalizeAddressKey address) = some (.v2 pool))
    (hdec : log.decodedEvent = some decoded) (hkind : decoded.kind = .v2Sync) :
    BookStep u256FromDecimal book log (applyLog u256FromDecimal book log) := by
  have happ : LogApplicable u256FromDecimal book log
      ↔ V2Applicable book pool address log := logApplicable_iff haddr hpool
  have heq : applyLog u256FromDecimal book log = _ := applyLog_of_v2 haddr hpool
  unfold applyV2Log at heq
  simp only [hdec, hkind] at heq
  cases hid : appliedLogKey log with
  | error e =>
      simp only [hid] at heq
      rw [heq]
      refine .failed haddr hpool fun h => ?_
      obtain ⟨id, htx, hidx, -⟩ := happ.mp h decoded hdec hkind
      rw [appliedLogKey_eq_ok_iff.mpr ⟨htx, hidx⟩] at hid
      cases hid
  | ok id =>
      rw [v2Applicable_sync hdec hkind hid] at happ
      by_cases hremoved : log.removed.getD false = true
      · rw [if_pos hremoved] at happ
        cases hprev : book.appliedSyncHistory.lookup id with
        | none =>
            simp only [hid, hremoved, if_true, removePool, hprev] at heq
            rw [heq]
            refine .failed haddr hpool fun h => ?_
            have hsome := happ.mp h
            rw [hprev] at hsome
            cases hsome
        | some previous =>
            rw [applyLog_reverted haddr hpool hdec hkind hid hremoved hprev]
            exact .reverted haddr hpool hdec hkind hid hremoved hprev
      · rw [if_neg hremoved] at happ
        rw [Bool.not_eq_true] at hremoved
        simp only [hid, hremoved, Bool.false_eq_true, if_false] at heq
        by_cases hmatch : eqIgnoreAsciiCase address pool.address = true
        · rcases V2PoolState.applyLog_sync haddr hmatch hdec hkind with
            ⟨r0, r1, h0, h1, hpos, hlog⟩ | ⟨hnot, e, hlog⟩
          · rw [applyLog_applied haddr hpool hmatch hdec hkind hid hremoved h0 h1 hpos]
            exact .applied haddr hpool hmatch hdec hkind hid hremoved h0 h1 hpos
          · simp only [hlog] at heq
            rw [heq]
            exact .failed haddr hpool fun h => hnot (happ.mp h hmatch)
        · rw [Bool.not_eq_true] at hmatch
          simp only [V2PoolState.applyLog_of_not_match haddr hmatch, insertPool_removePool,
            insertPool_of_lookup hpool] at heq
          rw [heq]
          refine .ignored (happ.mpr fun h => by rw [hmatch] at h; cases h) ?_
          exact noSync_of_v2 haddr hpool ⟨hremoved, hmatch⟩

/-- The V2 half of the inversion. -/
theorem bookStep_v2 {pool : V2PoolState} (haddr : log.address = some address)
    (hpool : book.pools.lookup (normalizeAddressKey address) = some (.v2 pool)) :
    BookStep u256FromDecimal book log (applyLog u256FromDecimal book log) := by
  by_cases hsync : isSync log = true
  · obtain ⟨decoded, hdec, hkind⟩ := isSync_eq_true_iff.mp hsync
    exact bookStep_sync haddr hpool hdec hkind
  · rw [applyLog_of_not_sync haddr hpool hsync]
    exact .ignored ((logApplicable_iff haddr hpool).mpr (v2Applicable_of_not_sync hsync))
      (noSync_of_not_isSync (Bool.eq_false_iff.mpr hsync))

/-- The V3 half. -/
theorem bookStep_v3 {pool : V3PoolState} (haddr : log.address = some address)
    (hpool : book.pools.lookup (normalizeAddressKey address) = some (.v3 pool)) :
    BookStep u256FromDecimal book log (applyLog u256FromDecimal book log) := by
  have happ : LogApplicable u256FromDecimal book log
      ↔ V3Applicable u256FromDecimal pool address log := logApplicable_iff haddr hpool
  have hback := insertPool_of_lookup hpool
  rw [applyLog_of_v3 haddr hpool]
  by_cases hswap : ∃ decoded, log.decodedEvent = some decoded ∧ decoded.kind = .v3Swap
      ∧ eqIgnoreAsciiCase address pool.address = true
  · obtain ⟨decoded, hdec, hkind, hmatch⟩ := hswap
    have hiff : V3Applicable u256FromDecimal pool address log
        ↔ V3PoolState.SwapComplete u256FromDecimal decoded := by
      refine ⟨fun h => h decoded hdec hkind hmatch, fun h d hd _ _ => ?_⟩
      obtain rfl : decoded = d := Option.some.inj (hdec.symm.trans hd)
      exact h
    rcases V3PoolState.applyLog_swap haddr hmatch hdec hkind with
      ⟨values, hvalues, hlog⟩ | ⟨hnot, e, hlog⟩
    · rw [hlog]
      exact .swapped haddr hpool hmatch hdec hkind hvalues
    · rw [hlog]
      exact .failed haddr hpool fun h => hnot (hiff.mp (happ.mp h))
  · have hign : pool.applyLog u256FromDecimal log = .ok (.ignored, pool) := by
      unfold V3PoolState.applyLog
      simp only [haddr]
      split_ifs with hmatch
      · cases hdec : log.decodedEvent with
        | none => rfl
        | some decoded =>
            cases hk : decoded.kind with
            | v3Swap => exact absurd ⟨decoded, hdec, hk, hmatch⟩ hswap
            | _ => simp only [hk]
      · rfl
    rw [hign]
    simp only [hback]
    exact .ignored (happ.mpr fun decoded hdec hkind hmatch =>
      absurd ⟨decoded, hdec, hkind, hmatch⟩ hswap) (noSync_of_not_v2 haddr (by simp [hpool]))

/-- **What a log can do to the book.** -/
theorem bookStep_applyLog (u256FromDecimal : String → Option Nat) (book : PoolBook)
    (log : Log) :
    BookStep u256FromDecimal book log (applyLog u256FromDecimal book log) := by
  cases haddr : log.address with
  | none =>
      have happ : LogApplicable u256FromDecimal book log := by
        intro a ha
        rw [haddr] at ha; cases ha
      unfold applyLog
      simp only [haddr]
      refine .ignored happ fun a _ ha => ?_
      rw [haddr] at ha; cases ha
  | some address =>
      cases hpool : book.pools.lookup (normalizeAddressKey address) with
      | none =>
          unfold applyLog
          simp only [haddr, hpool]
          exact .ignored ((logApplicable_iff haddr hpool).mpr trivial)
            (noSync_of_not_v2 haddr (by simp [hpool]))
      | some poolState =>
          cases poolState with
          | v2 pool => exact bookStep_v2 haddr hpool
          | v3 pool => exact bookStep_v3 haddr hpool

/-! ## Errors and the book

An error is returned with the addressed pool out of the map, so that the
book survives a call unchanged only when the call does not fail. -/

theorem BookStep.ok_iff {r : PoolBook × Except MarketError MarketEventOutcome}
    (h : BookStep u256FromDecimal book log r) :
    (∃ outcome, r.2 = .ok outcome) ↔ LogApplicable u256FromDecimal book log := by
  cases h with
  | ignored happ _ => exact ⟨fun _ => happ, fun _ => ⟨_, rfl⟩⟩
  | applied haddr hpool _ hdec hkind hid hremoved h0 h1 hpos =>
      refine ⟨fun _ => ?_, fun _ => ⟨_, rfl⟩⟩
      refine (logApplicable_iff haddr hpool).mpr ((v2Applicable_sync hdec hkind hid).mpr ?_)
      rw [hremoved, if_neg Bool.false_ne_true]
      exact fun _ => ⟨_, _, h0, h1, hpos⟩
  | reverted haddr hpool hdec hkind hid hremoved hprev =>
      refine ⟨fun _ => ?_, fun _ => ⟨_, rfl⟩⟩
      refine (logApplicable_iff haddr hpool).mpr ((v2Applicable_sync hdec hkind hid).mpr ?_)
      rw [hremoved, if_pos rfl, hprev]
      rfl
  | swapped haddr hpool _ hdec hkind hvalues =>
      refine ⟨fun _ => ?_, fun _ => ⟨_, rfl⟩⟩
      refine (logApplicable_iff haddr hpool).mpr fun d hd _ _ => ?_
      obtain rfl := Option.some.inj (hdec.symm.trans hd)
      exact V3PoolState.swapComplete_iff.mpr ⟨_, hvalues⟩
  | failed _ _ hfail =>
      refine ⟨?_, fun happ => absurd happ hfail⟩
      rintro ⟨_, h⟩
      cases h

/-- The call leaves the book as it was whenever it returns an error. -/
def ErrorAtomic (u256FromDecimal : String → Option Nat) (book : PoolBook) (log : Log) :
    Prop :=
  ∀ e, (applyLog u256FromDecimal book log).2 = .error e →
    (applyLog u256FromDecimal book log).1 = book

/-- **Where errors are atomic.** A call is atomic on error exactly when
the log can be carried out, that is, when there is no error: every one of
the failure points loses the addressed pool. -/
theorem errorAtomic_iff (u256FromDecimal : String → Option Nat) (book : PoolBook)
    (log : Log) :
    ErrorAtomic u256FromDecimal book log ↔ LogApplicable u256FromDecimal book log := by
  have hstep := bookStep_applyLog u256FromDecimal book log
  rw [← hstep.ok_iff]
  unfold ErrorAtomic
  generalize applyLog u256FromDecimal book log = r at hstep
  constructor
  · intro hatomic
    cases hstep with
    | failed _ hpool _ => exact absurd (hatomic _ rfl) (removePool_ne hpool)
    | _ => exact ⟨_, rfl⟩
  · rintro ⟨outcome, hok⟩ e he
    rw [hok] at he
    cases he

/-- The `Sync` log of the unit tests, for the pool `0xpool`. -/
def sampleSyncLog (blockNumber reserve0 reserve1 logIndex : Nat) (removed : Bool) : Log :=
  { metadata :=
      { blockContext := .block blockNumber none, channel := .ws, observedAtMs := 1, chainId := 8453,
        txHash := some "0xtx", decodeStatus := .decoded,
        raw := { messageType := .log, payloadSizeBytes := 0, fingerprint := none,
                 subscription := none } },
    address := some "0xpool", topics := [], data := none, eventSignature := none,
    decodedEvent := some
      { kind := .v2Sync, pool := some "0xpool", sender := none, recipient := none,
        owner := none, reserve0 := some reserve0, reserve1 := some reserve1, amount0In := none,
        amount1In := none, amount0Out := none, amount1Out := none, amount0 := none,
        amount1 := none, liquidity := none, sqrtPriceX96 := none, tick := none,
        tickLower := none, tickUpper := none, protocol := some .uniswapV2,
        exchange := some .aerodrome },
    protocol := some .uniswapV2, exchange := some .aerodrome, logIndex := some logIndex,
    removed := some removed }

/-- The same log for another pool. -/
def syncLogOf (address : String) (reserve0 reserve1 logIndex : Nat) (removed : Bool) : Log :=
  { sampleSyncLog 123 reserve0 reserve1 logIndex removed with address := some address }

/-- A second pool beside that of the unit tests. -/
def otherPool : V2PoolState :=
  { V2PoolState.samplePool with address := "0xother", reserve0 := 500, reserve1 := 600 }

/-- A removed log for which the book has no snapshot: the error comes back
with an empty book, the only pool is gone. -/
theorem removedLogWithoutSnapshot_not_errorAtomic :
    applyLog (fun _ => none) (new.insertV2Pool V2PoolState.samplePool)
        (sampleSyncLog 123 77 88 1 true) = (new, .error (.missingRevertSnapshot "0xtx" 1))
      ∧ (new.insertV2Pool V2PoolState.samplePool).v2Pool "0xpool"
        = some V2PoolState.samplePool
      ∧ ¬ ErrorAtomic (fun _ => none) (new.insertV2Pool V2PoolState.samplePool)
          (sampleSyncLog 123 77 88 1 true) := by
  have hlost : applyLog (fun _ => none) (new.insertV2Pool V2PoolState.samplePool)
      (sampleSyncLog 123 77 88 1 true)
        = (new, .error (.missingRevertSnapshot "0xtx" 1)) := by decide
  refine ⟨hlost, by decide, fun h => ?_⟩
  have hnew := h (.missingRevertSnapshot "0xtx" 1) (by rw [hlost])
  rw [hlost] at hnew
  exact absurd hnew (by decide)

end PoolBook

end BaseEngine
