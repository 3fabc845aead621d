import BaseEngine.FactoryScan
import BaseEngine.Hydration

/-!
# The book after discovery

Discovery runs over the factories of a file and writes what it finds into
one book; a factory that fails is skipped. Whatever the node answers, it
changes the book only by inserting pools that their constructor has accepted
(`Grown`): one step for a pool (`ingest_grown`), one for a factory
(`runFactory_grown`), and the run over all factories (`runFactories_grown`).

What was proved of every reachable book therefore holds of the one that
discovery hands over (`runFactories_wellFormed`).

`runFactory_returns` says when a factory does not stop discovery: its scan
fits `u64`, and Multicall3 has a result for every call.
-/

namespace BaseEngine.Discovery

open Faulting Fallible

variable {codec : DiscoveryCodec} {provider : DiscoveryProvider} {multicall3 : EvmAddress}
  {pinnedHead : Option Nat} {turns : Nat} {factory : FactoryConfig} {book book' : PoolBook}

/-- One book is the other after `n` insertions of constructed pools. -/
def Grown (n : Nat) (book book' : PoolBook) : Prop :=
  ∃ ops : List BookOp, (∀ op ∈ ops, op.Built) ∧ ops.length = n
    ∧ ∀ u256FromDecimal, book' = Run.final (PoolBook.step u256FromDecimal) book ops

namespace Grown

variable {book'' : PoolBook} {n m : Nat}

theorem refl (book : PoolBook) : Grown 0 book book := ⟨[], by simp, rfl, fun _ => rfl⟩

theorem trans (h : Grown n book book') (h' : Grown m book' book'') : Grown (n + m) book book'' := by
  obtain ⟨ops, hbuilt, hlength, hrun⟩ := h
  obtain ⟨ops', hbuilt', hlength', hrun'⟩ := h'
  refine ⟨ops ++ ops', ?_, by rw [List.length_append, hlength, hlength'], fun u256 => ?_⟩
  · intro op hop
    rcases List.mem_append.mp hop with hop | hop
    · exact hbuilt op hop
    · exact hbuilt' op hop
  · rw [Run.final_append, ← hrun u256, ← hrun' u256]

theorem insertV2Pool {pool : V2PoolState} (h : pool.Built) :
    Grown 1 book (book.insertV2Pool pool) :=
  ⟨[.insertV2Pool pool], by simpa [BookOp.Built] using h, rfl, fun _ => rfl⟩

theorem insertV3Pool {pool : V3PoolState} (h : pool.Built) :
    Grown 1 book (book.insertV3Pool pool) :=
  ⟨[.insertV3Pool pool], by simpa [BookOp.Built] using h, rfl, fun _ => rfl⟩

theorem wellFormed (h : Grown n book book') (hbook : book.WellFormed) : book'.WellFormed := by
  obtain ⟨ops, hbuilt, -, hrun⟩ := h
  rw [hrun fun _ => none]
  exact Run.inv_final (fun _ op h hop => h.step op hop) hbook (Run.along_of_forall hbuilt)

end Grown

/-! ## One factory -/

/-- One pool adds at most one entry, and is counted if it does. -/
def AddsOne {Pool : Type} (step : Pool → PoolBook → Nat → PoolBook × Nat) : Prop :=
  ∀ pool book inserted, ∃ k ≤ 1, Grown k book (step pool book inserted).1
    ∧ (step pool book inserted).2 = inserted + k

theorem addsOne_ingestV2Pool : AddsOne (ingestV2Pool factory) := by
  intro pool book inserted
  unfold ingestV2Pool
  split_ifs with hzero
  · exact ⟨0, Nat.zero_le 1, .refl book, rfl⟩
  · cases hnew : V2PoolState.new pool.address factory.protocol factory.exchange pool.token0
        pool.token1 pool.reserve0 pool.reserve1 pool.feeBps with
    | error e => exact ⟨0, Nat.zero_le 1, .refl book, rfl⟩
    | ok state =>
        obtain ⟨-, rfl⟩ := check_bind_eq_ok hnew
        exact ⟨1, le_rfl, .insertV2Pool hnew, rfl⟩

theorem addsOne_ingestV3Pool : AddsOne (ingestV3Pool factory) := by
  intro pool book inserted
  unfold ingestV3Pool
  split_ifs with hzero
  · exact ⟨0, Nat.zero_le 1, .refl book, rfl⟩
  · cases hnew : V3PoolState.new pool.address factory.protocol factory.exchange pool.token0
        pool.token1 pool.feePips pool.tickSpacing pool.sqrtPriceX96 pool.liquidity pool.tick with
    | error e => exact ⟨0, Nat.zero_le 1, .refl book, rfl⟩
    | ok state =>
        obtain ⟨-, rfl⟩ := check_bind_eq_ok hnew
        exact ⟨1, le_rfl, .insertV3Pool hnew, rfl⟩

theorem ingest_grown {Pool : Type} {step : Pool → PoolBook → Nat → PoolBook × Nat}
    (hstep : AddsOne step) (book : PoolBook) (pools : List Pool) :
    Grown (ingest step book pools).2 book (ingest step book pools).1
      ∧ (ingest step book pools).2 ≤ pools.length := by
  have hfold : ∀ (pools : List Pool) (book : PoolBook) (inserted : Nat), ∃ k ≤ pools.length,
      Grown k book (pools.foldl (fun acc pool => step pool acc.1 acc.2) (book, inserted)).1
        ∧ (pools.foldl (fun acc pool => step pool acc.1 acc.2) (book, inserted)).2
          = inserted + k := by
    intro pools
    induction pools with
    | nil => exact fun book _ => ⟨0, le_rfl, .refl book, rfl⟩
    | cons pool pools ih =>
        intro book inserted
        obtain ⟨k, hk, hgrown, hcount⟩ := hstep pool book inserted
        obtain ⟨m, hm, hgrown', hcount'⟩ :=
          ih (step pool book inserted).1 (step pool book inserted).2
        refine ⟨k + m, ?_, hgrown.trans hgrown', ?_⟩
        · rw [List.length_cons]; omega
        · rw [List.foldl_cons, hcount', hcount, Nat.add_assoc]
  obtain ⟨k, hk, hgrown, hcount⟩ := hfold pools book 0
  unfold ingest
  rw [hcount, Nat.zero_add]
  exact ⟨hgrown, hk⟩

theorem length_readV2Pools (pools : List DiscoveredV2Pool) (results : List MulticallResult) :
    (readV2Pools codec pools results).length = pools.length := by
  fun_induction readV2Pools codec pools results with
  | case1 pool pools result results ih => rw [List.length_cons, ih, List.length_cons]
  | case2 => rfl

theorem length_hydrateV2Reserves {pools hydrated : List DiscoveredV2Pool}
    (h : hydrateV2Reserves codec provider multicall3 pools = .ok hydrated) :
    hydrated.length = pools.length := by
  unfold hydrateV2Reserves at h
  split_ifs at h with hempty
  · cases h; rfl
  · obtain ⟨results, -, h⟩ := bind_eq_ok_iff.mp h
    cases h
    exact length_readV2Pools pools results

theorem length_readV3Pools {results : List MulticallResult} {k : Nat}
    {pools hydrated : List DiscoveredV3Pool}
    (h : readV3Pools codec results k pools = .ok hydrated) : hydrated.length = pools.length := by
  induction pools generalizing k hydrated with
  | nil => cases h; rfl
  | cons pool pools ih =>
      unfold readV3Pools at h
      split at h
      · obtain ⟨rest, hrest, h⟩ := Outcome.bind_eq_ok_iff.mp h
        cases h
        rw [List.length_cons, List.length_cons, ih hrest]
      · cases h

theorem length_hydrateV3State {pools hydrated : List DiscoveredV3Pool}
    (h : hydrateV3State codec provider multicall3 pools = .ok hydrated) :
    hydrated.length = pools.length := by
  unfold hydrateV3State at h
  split_ifs at h with hempty
  · cases h; rfl
  · obtain ⟨results, -, h⟩ := Outcome.bind_eq_ok_iff.mp h
    exact length_readV3Pools h

theorem scanFactory_grown {head : Nat} {report : DiscoveryReport}
    (h : scanFactory codec provider multicall3 head turns factory book = .ok (book', report)) :
    Grown report.poolsInserted book book' ∧ report.poolsInserted ≤ report.poolsScanned := by
  unfold scanFactory at h
  by_cases hbehind : head < factory.deploymentBlock
  · simp only [if_pos hbehind] at h
    cases h
    exact ⟨.refl book, le_rfl⟩
  · simp only [if_neg hbehind] at h
    cases hkind : factory.kind with
    | uniswapV2 =>
        rw [hkind] at h
        obtain ⟨pools, -, h⟩ := Outcome.bind_eq_ok_iff.mp h
        obtain ⟨hydrated, hhydrate, h⟩ := Outcome.bind_eq_ok_iff.mp h
        have hlength := length_hydrateV2Reserves
          (Outcome.ofExcept_eq_ok_iff.mp (Outcome.mapError_eq_ok_iff.mp hhydrate))
        obtain ⟨hgrown, hle⟩ := ingest_grown (@addsOne_ingestV2Pool factory) book hydrated
        cases h
        exact ⟨hgrown, hle.trans hlength.le⟩
    | uniswapV3 =>
        rw [hkind] at h
        obtain ⟨pools, -, h⟩ := Outcome.bind_eq_ok_iff.mp h
        obtain ⟨hydrated, hhydrate, h⟩ := Outcome.bind_eq_ok_iff.mp h
        have hlength := length_hydrateV3State (Outcome.mapError_eq_ok_iff.mp hhydrate)
        obtain ⟨hgrown, hle⟩ := ingest_grown (@addsOne_ingestV3Pool factory) book hydrated
        cases h
        exact ⟨hgrown, hle.trans hlength.le⟩

/-- **A factory adds pools to the book, and reports how many.** -/
theorem runFactory_grown {report : DiscoveryReport}
    (h : runFactory codec provider multicall3 pinnedHead turns factory book
      = .ok (book', report)) :
    Grown report.poolsInserted book book' ∧ report.poolsInserted ≤ report.poolsScanned := by
  obtain ⟨-, -, h⟩ := Outcome.bind_eq_ok_iff.mp h
  obtain ⟨head, -, h⟩ := Outcome.bind_eq_ok_iff.mp h
  exact scanFactory_grown h

/-! ## Termination -/

theorem ScanTiles.returns {Pool : Type} {chunk first last : Nat}
    {scan : List (Nat × Nat) × Outcome ErrorChain (List Pool)}
    (h : ScanTiles chunk first last scan) : scan.2.Returns := by
  rcases h with ⟨pools, hpools, -⟩ | ⟨error, rest, herror, -⟩
  · exact hpools ▸ .ok pools
  · exact herror ▸ .error error

section Fetch

variable {fromBlock toBlock : Nat}

theorem fetchV2PairCreated_returns (hle : fromBlock ≤ toBlock)
    (hend : scanEnd factory.logChunkSizeOrDefault fromBlock toBlock < 2 ^ 64) :
    ∃ turns, (fetchV2PairCreated codec provider factory fromBlock toBlock turns).Returns := by
  unfold fetchV2PairCreated
  cases withContext "v2 factory address must be valid hex" (parseAddress codec factory.address) with
  | error e => exact ⟨0, .error e⟩
  | ok address =>
      obtain ⟨turns, hturns⟩ := scanLoop_tiles factory.logChunkSizeOrDefault_pos
        (Nat.le_succ_of_le hle) fun _ => hend
      exact ⟨turns, hturns.returns⟩

theorem fetchV3PoolCreated_returns (hle : fromBlock ≤ toBlock)
    (hend : scanEnd factory.logChunkSizeOrDefault fromBlock toBlock < 2 ^ 64) :
    ∃ turns, (fetchV3PoolCreated codec provider factory fromBlock toBlock turns).Returns := by
  unfold fetchV3PoolCreated
  cases withContext "v3 factory address must be valid hex" (parseAddress codec factory.address) with
  | error e => exact ⟨0, .error e⟩
  | ok address =>
      obtain ⟨turns, hturns⟩ := scanLoop_tiles factory.logChunkSizeOrDefault_pos
        (Nat.le_succ_of_le hle) fun _ => hend
      exact ⟨turns, hturns.returns⟩

end Fetch

/-- Multicall3 has a result for every call. -/
def AnswersAll (codec : DiscoveryCodec) (provider : DiscoveryProvider) (multicall3 : EvmAddress) :
    Prop :=
  ∀ calls results, multicallAggregate3 codec provider multicall3 calls = .ok results →
    results.length = calls.length

theorem hydrateV3State_returns (hall : AnswersAll codec provider multicall3)
    (pools : List DiscoveredV3Pool) :
    (hydrateV3State codec provider multicall3 pools).Returns := by
  cases hanswer : multicallAggregate3 codec provider multicall3 (v3Calls codec pools) with
  | ok results =>
      have hlength : results.length = 2 * pools.length :=
        (hall _ _ hanswer).trans (Interleave.length_calls ..)
      rw [hydrateV3State_eq (fun _ => hanswer) hlength]
      exact .ok _
  | error e =>
      unfold hydrateV3State
      split_ifs with hempty
      · exact .ok pools
      · rw [hanswer]
        exact .error _

theorem scanFactory_returns (hall : AnswersAll codec provider multicall3) {head : Nat}
    (hend : factory.deploymentBlock ≤ head →
      scanEnd factory.logChunkSizeOrDefault factory.deploymentBlock head < 2 ^ 64) :
    ∃ turns, (scanFactory codec provider multicall3 head turns factory book).Returns := by
  unfold scanFactory
  by_cases hbehind : head < factory.deploymentBlock
  · simp only [if_pos hbehind]
    exact ⟨0, .ok _⟩
  · simp only [if_neg hbehind]
    have hle := Nat.le_of_not_lt hbehind
    cases factory.kind with
    | uniswapV2 =>
        obtain ⟨turns, hfetch⟩ := @fetchV2PairCreated_returns codec provider factory _ _ hle
          (hend hle)
        refine ⟨turns, (hfetch.mapError _).bind fun pools _ => ?_⟩
        exact ((Outcome.returns_ofExcept _).mapError _).bind fun hydrated _ => .ok _
    | uniswapV3 =>
        obtain ⟨turns, hfetch⟩ := @fetchV3PoolCreated_returns codec provider factory _ _ hle
          (hend hle)
        refine ⟨turns, (hfetch.mapError _).bind fun pools _ => ?_⟩
        exact ((hydrateV3State_returns hall pools).mapError _).bind fun hydrated _ => .ok _

theorem headBlock_returns (provider : DiscoveryProvider) (pinnedHead : Option Nat) :
    (headBlock provider pinnedHead).Returns := by
  unfold headBlock
  cases pinnedHead with
  | some head => exact .ok head
  | none => exact (Outcome.returns_ofExcept _).mapError _

/-- **A factory does not stop discovery** when its scan fits `u64` and every call
of its batch has a result: with enough turns it ends, with a report or an
error. -/
theorem runFactory_returns (hall : AnswersAll codec provider multicall3)
    (hend : ∀ head, headBlock provider pinnedHead = .ok head → factory.deploymentBlock ≤ head →
      scanEnd factory.logChunkSizeOrDefault factory.deploymentBlock head < 2 ^ 64) :
    ∃ turns, (runFactory codec provider multicall3 pinnedHead turns factory book).Returns := by
  cases hhead : headBlock provider pinnedHead with
  | ok head =>
      obtain ⟨turns, hscan⟩ := @scanFactory_returns codec provider multicall3 factory book hall
        head (hend head hhead)
      refine ⟨turns, ((Outcome.returns_ofExcept _).mapError _).bind fun _ _ => ?_⟩
      rw [hhead]
      exact hscan
  | error e =>
      refine ⟨0, ((Outcome.returns_ofExcept _).mapError _).bind fun _ _ => ?_⟩
      rw [hhead]
      exact .error e
  | panic p => exact absurd (hhead ▸ headBlock_returns provider pinnedHead) nofun
  | running => exact absurd (hhead ▸ headBlock_returns provider pinnedHead) nofun

/-! ## All factories -/

theorem runFactories_grown {runs : List (DiscoveryProvider × FactoryConfig)}
    (h : runFactories codec multicall3 pinnedHead turns runs book = .ok book') :
    ∃ n, Grown n book book' := by
  induction runs generalizing book with
  | nil => cases h; exact ⟨0, .refl _⟩
  | cons run runs ih =>
      unfold runFactories at h
      split at h
      next result hresult =>
          obtain ⟨hgrown, -⟩ := runFactory_grown hresult
          obtain ⟨n, hrest⟩ := ih h
          exact ⟨_, hgrown.trans hrest⟩
      next => exact ih h
      next => cases h
      next => cases h

/-- **The book that discovery hands over.** Whatever the node answers, every
entry sits under its own address and is a pool that its constructor accepts, so
that its quotes return without a fault. -/
theorem runFactories_wellFormed {runs : List (DiscoveryProvider × FactoryConfig)}
    (hbook : book.WellFormed)
    (h : runFactories codec multicall3 pinnedHead turns runs book = .ok book') :
    book'.WellFormed
      ∧ ∀ key entry, book'.pools.lookup key = some entry → ∀ tokenIn amountIn,
        entry.quoteExactInFaulting tokenIn amountIn
          = returns (entry.quoteExactIn tokenIn amountIn) := by
  obtain ⟨n, hgrown⟩ := runFactories_grown h
  have hwell := hgrown.wellFormed hbook
  refine ⟨hwell, fun key entry hlookup tokenIn amountIn => ?_⟩
  exact PoolState.quoteExactInFaulting_of_inRange (hwell.sound key entry hlookup).inRange
    tokenIn amountIn

end BaseEngine.Discovery
