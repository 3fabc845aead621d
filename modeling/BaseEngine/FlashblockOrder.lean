import BaseEngine.FlashblockBook
import BaseEngine.Lib.Run

/-!
# Flashblocks and the order of execution

A publisher lists the receipts of a sub-block in the order of execution;
`dispatch` walks them by transaction hash. This file compares the two as
the pool book sees them.

Along a run of logs a V2 pool follows the `Sync` logs that name it
(`poolStep_applyLog`, `lookup_consume`), so that its reserves at the end are
those of the last one in the order of the run. `executionOrdered_iff`: the
events come in the order of execution exactly when the transactions that
have logs happen to be listed by hash, and then, a zero reserve apart, the
pools end as they do on the chain.
-/

namespace BaseEngine

open Text Json PoolBook

namespace Flashblocks

variable {u256FromDecimal : String → Option Nat} {book : PoolBook} {log : Log}
  {env : Environment}

/-! ## A run of logs

The V2 pool under one key, along any run of logs that have an identity and
are no removals: it follows the `Sync` logs that name it, and is lost at the
first one with a reserve of zero. -/

/-- The log is a `Sync` of the pool at `poolAddress`, stored under `key`. -/
def syncsPool (key poolAddress : String) (log : Log) : Bool :=
  isSync log && log.address.any fun address =>
    normalizeAddressKey address == key && eqIgnoreAsciiCase address poolAddress

def carriedReserves (log : Log) : Option (Nat × Nat) := do
  let decoded ← log.decodedEvent
  return (← decoded.reserve0, ← decoded.reserve1)

/-- The log carries two reserves, none of them zero. -/
def NonZero (log : Log) : Prop := ∃ r ∈ carriedReserves log, 0 < r.1 ∧ 0 < r.2

theorem syncsPool_eq_true_iff {key poolAddress : String} :
    syncsPool key poolAddress log = true ↔ isSync log = true ∧ ∃ address,
      log.address = some address ∧ normalizeAddressKey address = key
        ∧ eqIgnoreAsciiCase address poolAddress = true := by
  unfold syncsPool
  cases log.address <;> simp

theorem syncsPool_eq_false_of_ne {key poolAddress address : String}
    (haddr : log.address = some address) (hne : key ≠ normalizeAddressKey address) :
    syncsPool key poolAddress log = false := by
  rw [← Bool.not_eq_true, syncsPool_eq_true_iff]
  rintro ⟨-, a, ha, hkey, -⟩
  obtain rfl := Option.some.inj (haddr.symm.trans ha)
  exact hne hkey.symm

theorem carriedReserves_eq_some_iff {decoded : DecodedLogEvent} {r : Nat × Nat}
    (hdec : log.decodedEvent = some decoded) :
    carriedReserves log = some r ↔ decoded.reserve0 = some r.1 ∧ decoded.reserve1 = some r.2 := by
  unfold carriedReserves
  rw [hdec]
  cases h0 : decoded.reserve0 <;> cases h1 : decoded.reserve1 <;> simp [h0, h1, Prod.ext_iff]

theorem nonZero_iff {decoded : DecodedLogEvent} (hdec : log.decodedEvent = some decoded) :
    NonZero log ↔ V2PoolState.ReservesPositive decoded := by
  constructor
  · rintro ⟨r, hr, hpos⟩
    obtain ⟨h0, h1⟩ := (carriedReserves_eq_some_iff hdec).mp hr
    exact ⟨r.1, r.2, h0, h1, hpos⟩
  · rintro ⟨r0, r1, h0, h1, hpos⟩
    exact ⟨(r0, r1), (carriedReserves_eq_some_iff hdec).mpr ⟨h0, h1⟩, hpos⟩

/-- What one log does to the V2 pool under a key. -/
inductive PoolStep (key : String) (pool : V2PoolState) (log : Log) : Option PoolState → Prop
  | kept (hother : syncsPool key pool.address log = false) : PoolStep key pool log (some (.v2 pool))
  | synced {reserves} (hsync : syncsPool key pool.address log = true)
      (hcarried : carriedReserves log = some reserves)
      (hpos : 0 < reserves.1 ∧ 0 < reserves.2) :
      PoolStep key pool log (some (.v2 (pool.synced reserves.1 reserves.2 log)))
  | lost (hsync : syncsPool key pool.address log = true) (hzero : ¬ NonZero log) :
      PoolStep key pool log none

/-- Only a `Sync` that names the pool and has a reserve of zero fails on it. -/
theorem poolStep_of_failed {address : String} {pool : V2PoolState}
    (haddr : log.address = some address)
    (hpool : book.pools.lookup (normalizeAddressKey address) = some (.v2 pool))
    (happ : Applicable log) (hfail : ¬ LogApplicable u256FromDecimal book log) :
    PoolStep (normalizeAddressKey address) pool log none := by
  obtain ⟨⟨id, hid⟩, hremoved⟩ := happ
  by_cases hsync : isSync log = true
  · obtain ⟨decoded, hdec, hkind⟩ := isSync_eq_true_iff.mp hsync
    have hbad : ¬ (eqIgnoreAsciiCase address pool.address = true →
        V2PoolState.ReservesPositive decoded) := by
      refine fun h => hfail ((logApplicable_iff haddr hpool).mpr ?_)
      refine (v2Applicable_sync hdec hkind hid).mpr ?_
      rwa [if_neg (by simp [hremoved])]
    obtain ⟨hmatch, hzero⟩ := Classical.not_imp.mp hbad
    refine .lost (syncsPool_eq_true_iff.mpr ⟨hsync, address, haddr, rfl, hmatch⟩) ?_
    rwa [nonZero_iff hdec]
  · exact absurd ((logApplicable_iff haddr hpool).mpr (v2Applicable_of_not_sync hsync)) hfail

/-- **Step lemma.** -/
theorem poolStep_applyLog {key : String} {pool : V2PoolState}
    (hpool : book.pools.lookup key = some (.v2 pool)) (happ : Applicable log) :
    PoolStep key pool log ((applyLog u256FromDecimal book log).1.pools.lookup key) := by
  have hstep := bookStep_applyLog u256FromDecimal book log
  generalize applyLog u256FromDecimal book log = result at hstep
  cases hstep with
  | ignored _ hkeep =>
      show PoolStep key pool log (book.pools.lookup key)
      rw [hpool]
      refine .kept ?_
      rw [← Bool.not_eq_true, syncsPool_eq_true_iff]
      rintro ⟨hsync, address, haddr, rfl, hmatch⟩
      rw [(hkeep address pool haddr hpool hsync).2] at hmatch
      cases hmatch
  | @applied address pool' decoded id' reserve0 reserve1 haddr hpool' hmatch hdec hkind _ _ h0 h1
      hpos =>
      by_cases hkey : key = normalizeAddressKey address
      · subst hkey
        obtain rfl : pool = pool' := by simpa [hpool] using hpool'
        rw [lookup_insertPool_self]
        have hsync := isSync_eq_true_iff.mpr ⟨decoded, hdec, hkind⟩
        have hcarried : carriedReserves log = some (reserve0, reserve1) :=
          (carriedReserves_eq_some_iff hdec).mpr ⟨h0, h1⟩
        exact .synced (syncsPool_eq_true_iff.mpr ⟨hsync, address, haddr, rfl, hmatch⟩) hcarried
          hpos
      · rw [lookup_insertPool_of_ne _ _ hkey, pools_rememberSync, hpool]
        exact .kept (syncsPool_eq_false_of_ne haddr hkey)
  | reverted _ _ _ _ _ hremoved _ =>
      rw [happ.2] at hremoved
      cases hremoved
  | @swapped address pool' decoded values haddr hpool' hmatch hdec hkind hvalues =>
      have hkey : key ≠ normalizeAddressKey address := by
        rintro rfl
        rw [hpool] at hpool'
        cases hpool'
      rw [lookup_insertPool_of_ne _ _ hkey, hpool]
      exact .kept (syncsPool_eq_false_of_ne haddr hkey)
  | @failed address poolState e haddr hpool' hfail =>
      by_cases hkey : key = normalizeAddressKey address
      · subst hkey
        rw [lookup_removePool_self]
        exact poolStep_of_failed haddr hpool happ hfail
      · rw [lookup_removePool_of_ne _ hkey, hpool]
        exact .kept (syncsPool_eq_false_of_ne haddr hkey)

/-- A key without a pool stays without one. -/
theorem lookup_applyLog_of_none {key : String} (hnone : book.pools.lookup key = none) :
    (applyLog u256FromDecimal book log).1.pools.lookup key = none := by
  have hne : ∀ {address poolState}, book.pools.lookup (normalizeAddressKey address)
      = some poolState → key ≠ normalizeAddressKey address := by
    rintro address poolState hpool rfl
    rw [hnone] at hpool
    cases hpool
  have hstep := bookStep_applyLog u256FromDecimal book log
  generalize applyLog u256FromDecimal book log = result at hstep
  cases hstep with
  | ignored _ _ => exact hnone
  | applied _ hpool => exact (lookup_insertPool_of_ne _ _ (hne hpool)).trans hnone
  | reverted _ hpool => exact (lookup_insertPool_of_ne _ _ (hne hpool)).trans hnone
  | swapped _ hpool => exact (lookup_insertPool_of_ne _ _ (hne hpool)).trans hnone
  | failed _ hpool => exact (lookup_removePool_of_ne _ (hne hpool)).trans hnone

/-- The book after a run of logs, whatever the calls return. -/
def consume (u256FromDecimal : String → Option Nat) (book : PoolBook) (logs : List Log) :
    PoolBook :=
  Run.final (fun book log => (applyLog u256FromDecimal book log).1) book logs

theorem consume_cons (logs : List Log) :
    consume u256FromDecimal book (log :: logs)
      = consume u256FromDecimal (applyLog u256FromDecimal book log).1 logs := rfl

/-- The reserves of the last `Sync` of a pool among the logs, or the
pool's own. -/
def lastReserves (key : String) (pool : V2PoolState) (logs : List Log) : Nat × Nat :=
  ((logs.filter (syncsPool key pool.address)).filterMap carriedReserves).getLast?.getD
    (pool.reserve0, pool.reserve1)

theorem lastReserves_cons_of_not {key : String} {pool : V2PoolState} {logs : List Log}
    (h : syncsPool key pool.address log = false) :
    lastReserves key pool (log :: logs) = lastReserves key pool logs := by
  unfold lastReserves
  rw [List.filter_cons_of_neg (by simp [h])]

theorem lastReserves_cons_of_sync {key : String} {pool : V2PoolState} {logs : List Log}
    {r : Nat × Nat} (h : syncsPool key pool.address log = true)
    (hr : carriedReserves log = some r) :
    lastReserves key pool (log :: logs) = lastReserves key (pool.synced r.1 r.2 log) logs := by
  unfold lastReserves
  rw [List.filter_cons_of_pos h, List.filterMap_cons_some hr, List.getLast?_cons]
  rfl

theorem lastReserves_concat {key : String} {pool : V2PoolState} {r : Nat × Nat}
    (logs : List Log) (h : syncsPool key pool.address log = true)
    (hr : carriedReserves log = some r) : lastReserves key pool (logs ++ [log]) = r := by
  simp [lastReserves, h, hr]

/-- **Run lemma.** Where no `Sync` of the pool has a reserve of zero, the
pool ends with the reserves of the last one. -/
theorem lookup_consume {key : String} {logs : List Log} {pool : V2PoolState}
    (hpool : book.pools.lookup key = some (.v2 pool)) (happ : ∀ log ∈ logs, Applicable log)
    (hpos : ∀ log ∈ logs, syncsPool key pool.address log = true → NonZero log) :
    ∃ pool', (consume u256FromDecimal book logs).pools.lookup key = some (.v2 pool')
      ∧ (pool'.reserve0, pool'.reserve1) = lastReserves key pool logs := by
  induction logs generalizing book pool with
  | nil => exact ⟨pool, hpool, rfl⟩
  | cons log logs ih =>
      have happ' := fun l hl => happ l (List.mem_cons_of_mem _ hl)
      have hpos' := fun l hl => hpos l (List.mem_cons_of_mem _ hl)
      have hstep := @poolStep_applyLog u256FromDecimal book log key pool hpool
        (happ log List.mem_cons_self)
      rw [consume_cons]
      generalize hnext : (applyLog u256FromDecimal book log).1.pools.lookup key = next at hstep
      cases hstep with
      | kept hother =>
          rw [lastReserves_cons_of_not hother]
          exact ih hnext happ' hpos'
      | synced hsync hcarried _ =>
          rw [lastReserves_cons_of_sync hsync hcarried]
          exact ih hnext happ' hpos'
      | lost hsync hzero => exact absurd (hpos log List.mem_cons_self hsync) hzero

theorem lookup_consume_of_none {key : String} {logs : List Log}
    (hnone : book.pools.lookup key = none) :
    (consume u256FromDecimal book logs).pools.lookup key = none := by
  induction logs generalizing book with
  | nil => exact hnone
  | cons log logs ih => exact ih (lookup_applyLog_of_none hnone)

/-- The other run lemma: one `Sync` with a reserve of zero, and the pool is
gone for good. -/
theorem lookup_consume_of_zero {key : String} {logs : List Log} {pool : V2PoolState}
    (hpool : book.pools.lookup key = some (.v2 pool)) (happ : ∀ log ∈ logs, Applicable log)
    (hzero : ∃ log ∈ logs, syncsPool key pool.address log = true ∧ ¬ NonZero log) :
    (consume u256FromDecimal book logs).pools.lookup key = none := by
  induction logs generalizing book pool with
  | nil => simp at hzero
  | cons log logs ih =>
      have happ' := fun l hl => happ l (List.mem_cons_of_mem _ hl)
      have hstep := @poolStep_applyLog u256FromDecimal book log key pool hpool
        (happ log List.mem_cons_self)
      rw [consume_cons]
      generalize hnext : (applyLog u256FromDecimal book log).1.pools.lookup key = next at hstep
      obtain ⟨bad, hmem, hsync, hbad⟩ := hzero
      rcases List.mem_cons.mp hmem with rfl | hmem
      · cases hstep with
        | kept hother => rw [hother] at hsync; cases hsync
        | synced _ hcarried hpos => exact absurd ⟨_, hcarried, hpos⟩ hbad
        | lost _ _ => exact lookup_consume_of_none hnext
      · cases hstep with
        | kept _ => exact ih hnext happ' ⟨bad, hmem, hsync, hbad⟩
        | synced _ _ _ => exact ih hnext happ' ⟨bad, hmem, hsync, hbad⟩
        | lost _ _ => exact lookup_consume_of_none hnext

/-! ## A payload against its listing -/

/-- A listing of receipts in the order of execution: no transaction twice,
and every log with a log index, with no transaction hash but that of its
transaction, and not removed. -/
structure ExecutionListing (listing : List (String × Value)) : Prop where
  distinct : (listing.map Prod.fst).Nodup
  owner : ∀ owned ∈ ownedLogs listing,
    ∀ value ∈ owned.2.lookup "transactionHash", value.asStr = some owned.1
  indexed : ∀ owned ∈ ownedLogs listing, (u64Field owned.2 "logIndex").isSome = true
  kept : ∀ owned ∈ ownedLogs listing, (boolField owned.2 "removed").getD false = false

/-- The log events in the order of the listing. -/
def listedEvents (env : Environment) (listing : List (String × Value)) : List Log :=
  (ownedLogs listing).mapIdx (receiptEvent env)

/-- The dispatch of a payload follows the listing: the log events come in
its order, and the book that consumes them ends with the reserves of the
last `Sync` of every V2 pool. -/
structure ExecutionOrdered (u256FromDecimal : String → Option Nat) (env : Environment)
    (book : PoolBook) (payload : FlashblockPayload) (rawSize : Nat)
    (listing : List (String × Value)) : Prop where
  events : (dispatch env payload rawSize).1.filterMap Event.asLog = listedEvents env listing
  reserves : ∀ key pool, book.pools.lookup key = some (.v2 pool) →
    ∃ pool', (consume u256FromDecimal book
        ((dispatch env payload rawSize).1.filterMap Event.asLog)).pools.lookup key
          = some (.v2 pool')
      ∧ (pool'.reserve0, pool'.reserve1) = lastReserves key pool (listedEvents env listing)

/-- No `Sync` of a tracked pool has a reserve of zero. -/
def TrackedNonZero (book : PoolBook) (logs : List Log) : Prop :=
  ∀ key pool, book.pools.lookup key = some (.v2 pool) →
    ∀ log ∈ logs, syncsPool key pool.address log = true → NonZero log

variable {listing : List (String × Value)}

theorem ExecutionListing.identified (h : ExecutionListing listing)
    {owned : TxHash × Entries} (howned : owned ∈ ownedLogs listing) : Identified owned.2 := by
  refine ⟨h.indexed owned howned, fun value hvalue => ?_, h.kept owned howned⟩
  rw [h.owner owned howned value hvalue]
  rfl

theorem applicable_mapIdx {logs : List (TxHash × Entries)}
    (h : ∀ owned ∈ logs, Identified owned.2) :
    ∀ log ∈ logs.mapIdx (receiptEvent env), Applicable log := by
  intro log hlog
  obtain ⟨i, hi, rfl⟩ := List.mem_mapIdx.mp hlog
  exact (identified_iff i _).mp (h _ (List.getElem_mem hi))

theorem ExecutionListing.applicable (h : ExecutionListing listing) :
    ∀ log ∈ listedEvents env listing, Applicable log :=
  applicable_mapIdx fun _ => h.identified

/-- The events tell the transactions of their logs. -/
theorem map_txHash_mapIdx {owned : List (TxHash × Entries)}
    (h : ∀ log ∈ owned, ∀ value ∈ log.2.lookup "transactionHash", value.asStr = some log.1) :
    (owned.mapIdx (receiptEvent env)).map (·.metadata.txHash)
      = (owned.map Prod.fst).map some := by
  refine List.ext_getElem (by simp) fun i hi hi' => ?_
  have hlen : i < owned.length := by simpa using hi
  simp only [List.getElem_map, List.getElem_mapIdx]
  rw [(receiptEvent_identity i owned[i]).1]
  have howner := h owned[i] (List.getElem_mem hlen)
  cases hlook : owned[i].2.lookup "transactionHash" with
  | none => rfl
  | some value => exact howner value hlook

/-- **When a dispatch follows the order of execution**: exactly when the
transactions that have logs are listed in increasing order of their hashes,
and no `Sync` of a tracked pool has a reserve of zero. -/
theorem executionOrdered_iff (u256FromDecimal : String → Option Nat) (book : PoolBook)
    {payload : FlashblockPayload} (rawSize : Nat) {blockNumber : Option Nat}
    (hopen : ∀ n, env.isOpen n = true) (hlisting : ExecutionListing listing)
    (hpayload : payload.metadata = some ⟨blockNumber, OrderedMap.ofList listing⟩) :
    ExecutionOrdered u256FromDecimal env book payload rawSize listing
      ↔ OrderedMap.ItemsIncreasing ownedBy listing
        ∧ TrackedNonZero book (listedEvents env listing) := by
  have hreceipts : payload.receipts = (OrderedMap.ofList listing).entries := by
    rw [FlashblockPayload.receipts, hpayload]
    rfl
  have hlogs := logs_dispatch_of_open hopen payload rawSize
  rw [hreceipts] at hlogs
  constructor
  · rintro ⟨hevents, hreserves⟩
    rw [hevents] at hreserves hlogs
    refine ⟨?_, fun key pool hpool log hlog hsync => ?_⟩
    · have hmem : ∀ owned ∈ ownedLogs (OrderedMap.ofList listing).entries,
          owned ∈ ownedLogs listing := fun owned howned =>
        ((OrderedMap.perm_ofList hlisting.distinct).flatMap_right ownedBy).mem_iff.mp howned
      have hkeys : (ownedLogs listing).map Prod.fst
          = (ownedLogs (OrderedMap.ofList listing).entries).map Prod.fst := by
        have htx := congrArg (List.map (·.metadata.txHash)) hlogs
        rw [listedEvents, map_txHash_mapIdx hlisting.owner,
          map_txHash_mapIdx fun owned howned => hlisting.owner owned (hmem owned howned)] at htx
        exact List.map_injective_iff.mpr (Option.some_injective _) htx
      refine OrderedMap.itemsIncreasing_of_keys_eq hlisting.distinct ?_ hkeys.symm
      intro receipt _ owned howned
      obtain ⟨_, _, rfl⟩ := List.mem_map.mp howned
      rfl
    · by_contra hzero
      obtain ⟨pool', hlook, -⟩ := hreserves key pool hpool
      rw [lookup_consume_of_zero hpool hlisting.applicable ⟨log, hlog, hsync, hzero⟩] at hlook
      cases hlook
  · rintro ⟨hincreasing, hpos⟩
    have hwalk : ownedLogs (OrderedMap.ofList listing).entries = ownedLogs listing :=
      OrderedMap.flatMap_ofList hlisting.distinct hincreasing
    rw [hwalk] at hlogs
    refine ⟨hlogs, fun key pool hpool => ?_⟩
    rw [hlogs]
    exact lookup_consume hpool hlisting.applicable (hpos key pool hpool)

/-- Two transactions that each move `0xpool` once, in the order of execution:
to the reserves 42 and 84, and then to 10 and 20. -/
def sampleListing (first second : TxHash) : List (String × Value) :=
  [(first, sampleReceipt (sampleSync "2a" "54" [("logIndex", .string "0x0")])),
    (second, sampleReceipt (sampleSync "0a" "14" [("logIndex", .string "0x1")]))]

theorem sampleSync_decoded_second :
    ((RawLogMessage.ofObject (sampleSync "0a" "14" [])).decode sampleEnv.codec).decodedEvent
      = some (sampleDecoded 10 20) :=
  @sampleSync_decoded_of_bytes "0a" "14" 10 20 (by decide) (by decide)

theorem ownedLogs_sampleListing (first second : TxHash) :
    ownedLogs (sampleListing first second)
      = [(first, sampleSync "2a" "54" [("logIndex", .string "0x0")]),
        (second, sampleSync "0a" "14" [("logIndex", .string "0x1")])] := rfl

theorem executionListing_sampleListing {first second : TxHash} (h : first ≠ second) :
    ExecutionListing (sampleListing first second) := by
  refine ⟨by simp [sampleListing, h], ?_, ?_, ?_⟩
  all_goals
    rw [ownedLogs_sampleListing]
    intro owned howned
  · have hnone : owned.2.lookup "transactionHash" = none := by
      rcases List.mem_pair.mp howned with rfl | rfl <;> rfl
    simp [hnone]
  · rcases List.mem_pair.mp howned with rfl | rfl
    · show (parseU64 "0x0").isSome = true
      decide
    · show (parseU64 "0x1").isSome = true
      decide
  · rcases List.mem_pair.mp howned with rfl | rfl <;> rfl

/-- What the book reads off the event of a sample log. -/
theorem sampleSync_event (i : Nat) (txHash : TxHash) (index : Value) {text0 text1 : String}
    {reserve0 reserve1 : Nat}
    (hdec : ((RawLogMessage.ofObject (sampleSync text0 text1 [])).decode
      sampleEnv.codec).decodedEvent = some (sampleDecoded reserve0 reserve1)) :
    syncsPool "0xpool" V2PoolState.samplePool.address
        (receiptEvent sampleEnv i (txHash, sampleSync text0 text1 [("logIndex", index)])) = true
      ∧ carriedReserves
        (receiptEvent sampleEnv i (txHash, sampleSync text0 text1 [("logIndex", index)]))
          = some (reserve0, reserve1) := by
  obtain ⟨haddr, hdec'⟩ := @receiptEvent_decoded sampleEnv i
    (txHash, sampleSync text0 text1 [("logIndex", index)])
  rw [sampleSync_decode, hdec] at hdec'
  refine ⟨syncsPool_eq_true_iff.mpr ⟨isSync_eq_true_iff.mpr ⟨_, hdec', rfl⟩, "0xpool", haddr,
    by decide, by decide⟩, (carriedReserves_eq_some_iff hdec').mpr ⟨rfl, rfl⟩⟩

/-- The events of two sample logs, in either order: every one is a `Sync`
with non-zero reserves, and the later one counts. -/
theorem sampleSync_pair {first second : TxHash × Entries} {r₁ r₂ : Nat × Nat}
    (h₁ : carriedReserves (receiptEvent sampleEnv 0 first) = some r₁)
    (hsync : syncsPool "0xpool" V2PoolState.samplePool.address (receiptEvent sampleEnv 1 second)
      = true)
    (h₂ : carriedReserves (receiptEvent sampleEnv 1 second) = some r₂)
    (hpos : (0 < r₁.1 ∧ 0 < r₁.2) ∧ 0 < r₂.1 ∧ 0 < r₂.2) :
    (∀ log ∈ [first, second].mapIdx (receiptEvent sampleEnv), NonZero log)
      ∧ lastReserves "0xpool" V2PoolState.samplePool
          ([first, second].mapIdx (receiptEvent sampleEnv)) = r₂ := by
  simp only [List.mapIdx_cons, List.mapIdx_nil, Nat.zero_add]
  refine ⟨fun log hlog => ?_, lastReserves_concat [_] hsync h₂⟩
  rcases List.mem_pair.mp hlog with rfl | rfl
  · exact ⟨r₁, h₁, hpos.1⟩
  · exact ⟨r₂, h₂, hpos.2⟩

theorem sampleListing_last (first second : TxHash) :
    (∀ log ∈ listedEvents sampleEnv (sampleListing first second), NonZero log)
      ∧ lastReserves "0xpool" V2PoolState.samplePool
          (listedEvents sampleEnv (sampleListing first second)) = (10, 20) := by
  obtain ⟨-, h₁⟩ := sampleSync_event 0 first (.string "0x0") sampleSync_decoded
  obtain ⟨hsync, h₂⟩ := sampleSync_event 1 second (.string "0x1") sampleSync_decoded_second
  exact sampleSync_pair h₁ hsync h₂ (by decide)

/-- The hash of the second transaction is the smaller one: its log is sent
first, and the book ends with the reserves of the first transaction. -/
theorem smallerHashSecond_not_executionOrdered :
    ExecutionListing (sampleListing "0xbb" "0xaa")
      ∧ (∃ pool', (consume (fun _ => none) sampleBook ((dispatch sampleEnv
            (samplePayload (sampleListing "0xbb" "0xaa")) 0).1.filterMap
              Event.asLog)).pools.lookup "0xpool" = some (.v2 pool')
          ∧ (pool'.reserve0, pool'.reserve1) = (42, 84))
      ∧ lastReserves "0xpool" V2PoolState.samplePool
          (listedEvents sampleEnv (sampleListing "0xbb" "0xaa")) = (10, 20)
      ∧ ¬ ExecutionOrdered (fun _ => none) sampleEnv sampleBook
          (samplePayload (sampleListing "0xbb" "0xaa")) 0 (sampleListing "0xbb" "0xaa") := by
  have hlisting := executionListing_sampleListing (show "0xbb" ≠ "0xaa" by decide)
  have hopen : ∀ n, sampleEnv.isOpen n = true := fun _ => rfl
  have hwalk : ownedLogs (samplePayload (sampleListing "0xbb" "0xaa")).receipts
      = [("0xaa", sampleSync "0a" "14" [("logIndex", .string "0x1")]),
        ("0xbb", sampleSync "2a" "54" [("logIndex", .string "0x0")])] := rfl
  have hpool : sampleBook.pools.lookup "0xpool" = some (.v2 V2PoolState.samplePool) := by decide
  obtain ⟨-, h₁⟩ := sampleSync_event 0 "0xaa" (.string "0x1") sampleSync_decoded_second
  obtain ⟨hsync, h₂⟩ := sampleSync_event 1 "0xbb" (.string "0x0") sampleSync_decoded
  obtain ⟨hpos, hlast⟩ := sampleSync_pair h₁ hsync h₂ (by decide)
  have hend : ∃ pool', (consume (fun _ => none) sampleBook ((dispatch sampleEnv
      (samplePayload (sampleListing "0xbb" "0xaa")) 0).1.filterMap
        Event.asLog)).pools.lookup "0xpool" = some (.v2 pool')
      ∧ (pool'.reserve0, pool'.reserve1) = (42, 84) := by
    rw [logs_dispatch_of_open hopen, hwalk, ← hlast]
    refine lookup_consume hpool (applicable_mapIdx fun owned howned => ?_)
      fun log hlog _ => hpos log hlog
    exact hlisting.identified ((List.Perm.swap _ _ _).mem_iff.mp howned)
  refine ⟨hlisting, hend, (sampleListing_last "0xbb" "0xaa").2, fun h => ?_⟩
  obtain ⟨pool', hlook, hreserves⟩ := hend
  obtain ⟨pool'', hlook', hreserves'⟩ := h.reserves "0xpool" V2PoolState.samplePool hpool
  obtain rfl : pool' = pool'' := by simpa [hlook] using hlook'
  rw [hreserves, (sampleListing_last "0xbb" "0xaa").2] at hreserves'
  exact absurd hreserves' (by decide)

/-- The other way round, all is in order. -/
theorem smallerHashFirst_executionOrdered :
    ExecutionOrdered (fun _ => none) sampleEnv sampleBook
      (samplePayload (sampleListing "0xaa" "0xbb")) 0 (sampleListing "0xaa" "0xbb") := by
  refine (executionOrdered_iff _ _ 0 (fun _ => rfl) (executionListing_sampleListing (by decide))
    rfl).mpr ⟨?_, fun _ _ _ log hlog _ => (sampleListing_last "0xaa" "0xbb").1 log hlog⟩
  refine List.pairwise_pair.mpr fun _ _ => ?_
  show "0xaa" < "0xbb"
  decide

end Flashblocks

end BaseEngine
