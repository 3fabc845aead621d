import BaseEngine.BookInvariant

/-!
# Where reserves come from

Every pair of reserves in the book was brought by somebody: by the insert
of the pool, or by a `Sync` log (`BookOp.supplies`). This file asks whether
a pool only ever holds pairs that were brought for that pool.

A removed log can break this. The history is keyed by transaction hash and
log index alone, so that the snapshot it finds may have been taken of
another pool. `Traced` runs the book and notes for every snapshot which
pool it is of; as long as each removal meets a snapshot of its own pool
(`OwnSnapshot`), reserves stay where they were brought to
(`supplied_of_ownSnapshot`).
-/

namespace BaseEngine

open PoolBook Text

/-- The key of a pool with the reserves an operation brings for it. -/
def BookOp.supplies : BookOp → Option (String × Nat × Nat)
  | .insertV2Pool pool =>
      some (normalizeAddressKey pool.address, pool.reserve0, pool.reserve1)
  | .insertV3Pool _ => none
  | .applyLog log => do
      let address ← log.address
      let decoded ← log.decodedEvent
      if decoded.kind = .v2Sync then
        let reserve0 ← decoded.reserve0
        let reserve1 ← decoded.reserve1
        some (normalizeAddressKey address, reserve0, reserve1)
      else none

/-- A book with the key of the pool each snapshot of its history is of, and
everything that was brought so far. -/
structure Traced where
  book : PoolBook
  origin : AppliedLogKey → Option String
  supplied : List (String × Nat × Nat)

namespace Traced

variable (u256FromDecimal : String → Option Nat)

def start : Traced := { book := new, origin := fun _ => none, supplied := [] }

/-- An applied `Sync` leaves a snapshot of the pool it names. -/
def originAfter (s : Traced) (log : Log) (result : Except MarketError MarketEventOutcome) :
    AppliedLogKey → Option String :=
  match appliedLogKey log, result with
  | .ok id, .ok .applied =>
      if isSync log = true then
        Function.update s.origin id (log.address.map normalizeAddressKey)
      else s.origin
  | _, _ => s.origin

def step (s : Traced) (op : BookOp) : Traced :=
  { book := s.book.step u256FromDecimal op,
    origin :=
      match op with
      | .applyLog log => s.originAfter log (applyLog u256FromDecimal s.book log).2
      | _ => s.origin,
    supplied := s.supplied ++ op.supplies.toList }

/-- A removed `Sync` of a tracked V2 pool that finds a snapshot finds one of
that pool. -/
def OwnSnapshot (s : Traced) : BookOp → Prop
  | .applyLog log =>
      s.book.tracksSync log = true → log.removed.getD false = true →
        ∀ id, appliedLogKey log = .ok id → (s.book.appliedSyncHistory.lookup id).isSome = true →
          s.origin id = log.address.map normalizeAddressKey
  | _ => True

/-- Pools and snapshots hold what was brought for their pool. -/
structure Supplied (s : Traced) : Prop where
  pools : ∀ key pool, s.book.pools.lookup key = some (.v2 pool) →
    (key, pool.reserve0, pool.reserve1) ∈ s.supplied
  snapshots : ∀ id snapshot, s.book.appliedSyncHistory.lookup id = some snapshot →
    ∃ key, s.origin id = some key ∧ (key, snapshot.reserve0, snapshot.reserve1) ∈ s.supplied

variable {u256FromDecimal} {s : Traced}

theorem supplied_start : Supplied start where
  pools _ _ h := by cases h
  snapshots _ _ h := by cases h

/-- More operations bring more. -/
theorem Supplied.extend (h : Supplied s) (more : List (String × Nat × Nat)) :
    Supplied { s with supplied := s.supplied ++ more } where
  pools key pool hpool := List.mem_append_left more (h.pools key pool hpool)
  snapshots id snapshot hsnapshot := by
    obtain ⟨key, horigin, hmem⟩ := h.snapshots id snapshot hsnapshot
    exact ⟨key, horigin, List.mem_append_left more hmem⟩

/-- An entry under a key: a V2 pool needs its reserves brought for it. -/
theorem Supplied.insertPool (h : Supplied s) {key : String} {entry : PoolState}
    (hentry : ∀ pool, entry = .v2 pool → (key, pool.reserve0, pool.reserve1) ∈ s.supplied) :
    Supplied { s with book := s.book.insertPool key entry } where
  pools k pool hlookup := by
    by_cases hk : k = key
    · subst hk
      rw [lookup_insertPool_self] at hlookup
      exact hentry pool (Option.some.inj hlookup)
    · rw [lookup_insertPool_of_ne _ _ hk] at hlookup
      exact h.pools k pool hlookup
  snapshots := h.snapshots

theorem Supplied.removePool (h : Supplied s) (key : String) :
    Supplied { s with book := s.book.removePool key } where
  pools k pool hlookup := h.pools k pool (lookup_of_lookup_removePool hlookup)
  snapshots := h.snapshots

theorem Supplied.forgetSync (h : Supplied s) (id : AppliedLogKey) :
    Supplied { s with book := s.book.forgetSync id } where
  pools := h.pools
  snapshots i snapshot hlookup := by
    by_cases hi : i = id
    · subst hi
      rw [lookup_forgetSync_self] at hlookup
      cases hlookup
    · rw [lookup_forgetSync_of_ne _ hi] at hlookup
      exact h.snapshots i snapshot hlookup

/-- The snapshot of a pool of the book, noted as of its key. -/
theorem Supplied.rememberSync (h : Supplied s) {key : String} {pool : V2PoolState}
    (hpool : s.book.pools.lookup key = some (.v2 pool)) (id : AppliedLogKey) :
    Supplied { s with book := s.book.rememberSync id pool.snapshot,
                      origin := Function.update s.origin id (some key) } where
  pools := h.pools
  snapshots i snapshot hlookup := by
    by_cases hi : i = id
    · subst hi
      rw [lookup_rememberSync_self] at hlookup
      obtain rfl := Option.some.inj hlookup
      exact ⟨key, Function.update_self .., h.pools key pool hpool⟩
    · rw [lookup_rememberSync_of_ne _ _ hi] at hlookup
      obtain ⟨key', horigin, hmem⟩ := h.snapshots i snapshot hlookup
      exact ⟨key', (Function.update_of_ne hi ..).trans horigin, hmem⟩

/-! ## One operation -/

theorem originAfter_applied {log : Log} {id : AppliedLogKey} {address : String}
    (hid : appliedLogKey log = .ok id) (hsync : isSync log = true)
    (haddr : log.address = some address) :
    s.originAfter log (.ok .applied)
      = Function.update s.origin id (some (normalizeAddressKey address)) := by
  simp only [originAfter, hid, hsync, haddr, if_true, Option.map_some]

theorem originAfter_of_not_sync {log : Log} (h : isSync log = false)
    (result : Except MarketError MarketEventOutcome) : s.originAfter log result = s.origin := by
  unfold originAfter
  split
  · simp [h]
  · rfl

theorem originAfter_of_not_applied {log : Log} {result : Except MarketError MarketEventOutcome}
    (h : result ≠ .ok .applied) : s.originAfter log result = s.origin := by
  unfold originAfter
  split
  · exact absurd rfl h
  · rfl

/-- A `Sync` log brings its reserves for the pool it names. -/
theorem supplies_sync {log : Log} {address : String} {decoded : DecodedLogEvent}
    {reserve0 reserve1 : Nat} (haddr : log.address = some address)
    (hdec : log.decodedEvent = some decoded) (hkind : decoded.kind = .v2Sync)
    (h0 : decoded.reserve0 = some reserve0) (h1 : decoded.reserve1 = some reserve1) :
    (BookOp.applyLog log).supplies = some (normalizeAddressKey address, reserve0, reserve1) := by
  simp [BookOp.supplies, haddr, hdec, hkind, h0, h1]

/-- **Step lemma.** -/
theorem Supplied.step (h : Supplied s) {op : BookOp} (hown : OwnSnapshot s op) :
    Supplied (step u256FromDecimal s op) := by
  cases op with
  | insertV2Pool pool =>
      refine (h.extend _).insertPool fun p hp => ?_
      obtain rfl := PoolState.v2.inj hp
      exact List.mem_append_right _ (List.mem_singleton.mpr rfl)
  | insertV3Pool pool =>
      exact (h.extend _).insertPool fun p hp => (by cases hp)
  | applyLog log =>
      have hmore := h.extend (BookOp.applyLog log).supplies.toList
      have hstep := bookStep_applyLog u256FromDecimal s.book log
      unfold Traced.step PoolBook.step
      dsimp only
      generalize PoolBook.applyLog u256FromDecimal s.book log = result at hstep
      cases hstep with
      | ignored _ _ =>
          rw [originAfter_of_not_applied (by simp)]
          exact hmore
      | @applied address pool decoded id reserve0 reserve1 haddr hpool _ hdec hkind hid _ h0 h1 _ =>
          have hsync : isSync log = true := isSync_eq_true_iff.mpr ⟨decoded, hdec, hkind⟩
          rw [originAfter_applied hid hsync haddr]
          refine (hmore.rememberSync hpool id).insertPool fun p hp => ?_
          obtain rfl := PoolState.v2.inj hp
          refine List.mem_append_right _ ?_
          rw [supplies_sync haddr hdec hkind h0 h1]
          exact List.mem_singleton.mpr rfl
      | @reverted address pool decoded id previous haddr hpool hdec hkind hid hremoved hprev =>
          have hsync : isSync log = true := isSync_eq_true_iff.mpr ⟨decoded, hdec, hkind⟩
          have htracks := tracksSync_eq_true_iff.mpr ⟨hsync, address, pool, haddr, hpool⟩
          rw [originAfter_of_not_applied (by simp)]
          refine (hmore.forgetSync id).insertPool fun p hp => ?_
          obtain rfl := PoolState.v2.inj hp
          -- the snapshot was brought for the pool it is of, which is this one
          obtain ⟨key, hkey, hmem⟩ := hmore.snapshots id previous hprev
          have hown' := hown htracks hremoved id hid (by rw [hprev]; rfl)
          rw [haddr, Option.map_some] at hown'
          obtain rfl : key = normalizeAddressKey address :=
            Option.some.inj (hkey.symm.trans hown')
          exact hmem
      | @swapped address pool decoded values haddr hpool _ hdec hkind _ =>
          have hsync : isSync log = false := by simp [isSync, hdec, hkind]
          rw [originAfter_of_not_sync hsync]
          exact hmore.insertPool fun p hp => (by cases hp)
      | @failed address poolState e haddr hpool _ =>
          rw [originAfter_of_not_applied (by simp)]
          exact hmore.removePool _

/-! ## Whole runs -/

theorem supplied_final (s : Traced) (ops : List BookOp) :
    (Run.final (step u256FromDecimal) s ops).supplied
      = s.supplied ++ ops.filterMap BookOp.supplies := by
  induction ops generalizing s with
  | nil => simp
  | cons op ops ih =>
      rw [Run.final_cons, ih]
      cases hop : op.supplies with
      | none => simp [step, hop]
      | some pair => simp [step, hop]

/-- **Provenance of reserves.** In every state of a run in which removals
meet snapshots of their own pool, the reserves of a V2 pool are a pair that
an insert or a `Sync` log of the run brought for that pool. -/
theorem supplied_of_ownSnapshot {ops pre : List BookOp}
    (hown : Run.Along (step u256FromDecimal) OwnSnapshot start ops) (hpre : pre <+: ops)
    {key : String} {pool : V2PoolState}
    (hpool : (Run.final (step u256FromDecimal) start pre).book.pools.lookup key
      = some (.v2 pool)) :
    ∃ op ∈ pre, op.supplies = some (key, pool.reserve0, pool.reserve1) := by
  have hsupplied : Supplied (Run.final (step u256FromDecimal) start pre) :=
    Run.inv_of_prefix (fun _ _ h hP => h.step hP) supplied_start hown hpre
  have hmem := hsupplied.pools key pool hpool
  rw [supplied_final] at hmem
  exact List.mem_filterMap.mp hmem

/-- A `Sync` of one of the two pools, always the first log of one
transaction. -/
def syncOf (address : String) (reserve0 reserve1 : Nat) (removed : Bool) : BookOp :=
  .applyLog (syncLogOf address reserve0 reserve1 1 removed)

/-- The transaction syncs one pool, is taken back and syncs it again. -/
def resynced : List BookOp :=
  [.insertV2Pool V2PoolState.samplePool, syncOf "0xpool" 77 88 false,
    syncOf "0xpool" 77 88 true, syncOf "0xpool" 99 111 false]

theorem resynced_supplied : ∃ op ∈ resynced, op.supplies = some ("0xpool", 99, 111) := by
  have hpool : (Run.final (step fun _ => none) start resynced).book.pools.lookup "0xpool"
      = some (.v2 (V2PoolState.samplePool.restore ⟨99, 111, some 123⟩)) := by decide
  have hown : Run.Along (step fun _ => none) OwnSnapshot start resynced := by
    refine ⟨trivial, ?_, ?_, ?_, trivial⟩
    · intro _ hremoved
      cases hremoved
    · intro _ _ id hid _
      obtain rfl := Except.ok.inj hid
      rfl
    · intro _ hremoved
      cases hremoved
  exact supplied_of_ownSnapshot hown (List.prefix_refl resynced) hpool

/-- After a reorganisation the transaction syncs another pool, and the
removal of its first log arrives only then. -/
def lateRemoval : List BookOp :=
  [.insertV2Pool V2PoolState.samplePool, .insertV2Pool otherPool,
    syncOf "0xpool" 77 88 false, syncOf "0xother" 1000 2000 false, syncOf "0xpool" 77 88 true]

/-- The pool is left with reserves nobody brought for it, the initial ones
of the other pool. -/
theorem lateRemoval_not_supplied :
    ∃ pool, (Run.final (step fun _ => none) start lateRemoval).book.pools.lookup "0xpool"
        = some (.v2 pool)
      ∧ (pool.reserve0, pool.reserve1) = (otherPool.reserve0, otherPool.reserve1)
      ∧ ∀ op ∈ lateRemoval, op.supplies ≠ some ("0xpool", pool.reserve0, pool.reserve1) := by
  refine ⟨V2PoolState.samplePool.restore otherPool.snapshot, ?_, rfl, ?_⟩
  · decide
  · decide

end Traced

end BaseEngine
