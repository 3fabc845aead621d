import BaseEngine.Lib.Abi
import BaseEngine.Lib.HexText
import BaseEngine.Lib.Interleave
import BaseEngine.BookInvariant
import BaseEngine.Discovery
import BaseEngine.Submit

/-!
# Hydrating V3 pools

The two calls of a pool stand next to each other in the batch, and their
results are found again by position. `readV3Pools_eq` says that for one result
a call the pools are read off the results in step (`align`), and
`mem_align_iff` that these are the results of the pool's own calls.

A pool whose results do not both decode keeps a zero price or liquidity and is
not ingested (`poolState_readV3Pool`). `hydration_aligned` puts this together
with the book, which holds the pools that were ingested (`lookup_ingestV3`).
-/

namespace BaseEngine.Discovery

open Fallible Interleave Text

/-! ## Addresses as they are printed -/

theorem trim_formatAddress (address : EvmAddress) :
    trim (formatAddress address) = formatAddress address := by
  refine trim_of_digits fun c hc => ?_
  rw [lowerHex, String.toList_ofList] at hc
  exact isSome_digitIn_of_mem (ofDigits_hexDigits 40 address.toNat) hc

theorem fixedHex_formatAddress (address : EvmAddress) :
    fixedHex 40 (formatAddress address) = some address.toNat := by
  have hlt : address.toNat < 16 ^ 40 := Nat.lt_of_lt_of_eq address.isLt (by decide)
  have hmem : formatAddress address ∈ hexSpellings 40 address.toNat := by
    simp [formatAddress, hexSpellings]
  exact fixedHex_of_mem_hexSpellings hlt hmem

/-- What is assumed of the address parser: it reads a printed address back. -/
def ReadsAddresses (codec : DiscoveryCodec) : Prop :=
  ∀ address, codec.parseAddress (formatAddress address) = .ok address

theorem callTarget_formatAddress {codec : DiscoveryCodec} (hreads : ReadsAddresses codec)
    (address : EvmAddress) : callTarget codec (formatAddress address) = address := by
  unfold callTarget parseAddress
  rw [trim_formatAddress, hreads address]
  rfl

/-- The key of a printed address is the address itself. -/
theorem normalizeAddressKey_formatAddress (address : EvmAddress) :
    normalizeAddressKey (formatAddress address) = formatAddress address := by
  have hlower : toAsciiLowercase (lowerHex 40 address.toNat) = lowerHex 40 address.toNat :=
    toAsciiLowercase_of_mem_hexSpellings List.mem_cons_self
  rw [normalizeAddressKey, trim_formatAddress, formatAddress, stripPrefix_append,
    Option.getD_some, hlower]

/-! ## Results in step with their pools -/

/-- Calls at different targets, or for different functions, differ. -/
theorem nodup_calls {pools : List DiscoveredV3Pool} (target : DiscoveredV3Pool → EvmAddress)
    (h : pools.Pairwise fun pool pool' => target pool ≠ target pool') :
    (calls (fun pool => (⟨target pool, true, .slot0⟩ : Call3))
      (fun pool => ⟨target pool, true, .liquidity⟩) pools).Nodup := by
  rw [calls, List.nodup_flatMap]
  refine ⟨fun pool _ => by simp, h.imp ?_⟩
  intro pool pool' hne
  simp [Function.onFun, hne.symm]

variable (codec : DiscoveryCodec)

/-- A pool as its two results leave it. -/
def readAligned (aligned : DiscoveredV3Pool × MulticallResult × MulticallResult) :
    DiscoveredV3Pool :=
  readV3Pool codec aligned.1 aligned.2.1 aligned.2.2

/-- With one result a call the indices never leave the list, and the pool at
`k` is read from the results `2 k` and `2 k + 1`. -/
theorem readV3Pools_eq {results rest : List MulticallResult} {pools : List DiscoveredV3Pool}
    {k : Nat} (hdrop : results.drop (2 * k) = rest) (h : rest.length = 2 * pools.length) :
    readV3Pools codec results k pools
      = .ok ((align pools rest).map (readAligned codec)) := by
  induction pools generalizing k rest with
  | nil => rfl
  | cons pool pools ih =>
      obtain ⟨slot0Res, liqRes, rest, rfl, hrest⟩ := eq_cons_of_length h
      have hslot0 : results[2 * k]? = some slot0Res := by
        rw [← List.head?_drop, hdrop, List.head?_cons]
      have hliq : results[2 * k + 1]? = some liqRes := by
        rw [← List.getElem?_drop, hdrop]
        rfl
      have hnext : results.drop (2 * (k + 1)) = rest := by
        rw [Nat.mul_add, ← List.drop_drop, hdrop]
        rfl
      rw [readV3Pools, hslot0, hliq, ih hnext hrest]
      rfl

/-! ## Ingestion -/

variable (factory : FactoryConfig)

/-- The state that a pool is ingested as. -/
def poolState (pool : DiscoveredV3Pool) : Option V3PoolState :=
  if pool.liquidity = 0 ∨ pool.sqrtPriceX96 = 0 then none
  else (V3PoolState.new pool.address factory.protocol factory.exchange pool.token0 pool.token1
    pool.feePips pool.tickSpacing pool.sqrtPriceX96 pool.liquidity pool.tick).toOption

variable {codec factory}

/-- A price of zero is below the protocol's range. -/
theorem price_ne_zero_of_new {address token0 token1 : Address} {protocol : Protocol}
    {exchange : Option Exchange} {feePips price liquidity : Nat} {tickSpacing tick : Int}
    {state : V3PoolState}
    (h : V3PoolState.new address protocol exchange token0 token1 feePips tickSpacing price
      liquidity tick = .ok state) : price ≠ 0 := by
  obtain ⟨hvalid, -⟩ := check_bind_eq_ok h
  obtain ⟨-, -, -, hprice, -⟩ := V3PoolState.validate_ok hvalid
  have hmin : 0 < minSqrtPrice := by decide
  exact Nat.ne_of_gt (Nat.lt_of_lt_of_le hmin hprice)

/-- The constructor turns down what the check of the price does. -/
theorem poolState_eq_some_iff {pool : DiscoveredV3Pool} {state : V3PoolState} :
    poolState factory pool = some state
      ↔ pool.liquidity ≠ 0 ∧ V3PoolState.new pool.address factory.protocol factory.exchange
          pool.token0 pool.token1 pool.feePips pool.tickSpacing pool.sqrtPriceX96 pool.liquidity
          pool.tick = .ok state := by
  unfold poolState
  constructor
  · intro h
    split_ifs at h with hzero
    exact ⟨fun hliquidity => hzero (.inl hliquidity), toOption_eq_some h⟩
  · rintro ⟨hliquidity, hnew⟩
    rw [if_neg (not_or.mpr ⟨hliquidity, price_ne_zero_of_new hnew⟩), hnew]
    rfl

/-- The constructor keeps the values it takes. -/
theorem fields_of_new {address token0 token1 : Address} {protocol : Protocol}
    {exchange : Option Exchange} {feePips price liquidity : Nat} {tickSpacing tick : Int}
    {state : V3PoolState}
    (h : V3PoolState.new address protocol exchange token0 token1 feePips tickSpacing price
      liquidity tick = .ok state) :
    state.address = address ∧ state.sqrtPriceX96 = price ∧ state.tick = tick
      ∧ state.liquidity = liquidity := by
  obtain ⟨-, rfl⟩ := check_bind_eq_ok h
  exact ⟨rfl, rfl, rfl, rfl⟩

theorem address_of_poolState {pool : DiscoveredV3Pool} {state : V3PoolState}
    (h : poolState factory pool = some state) : state.address = pool.address := by
  obtain ⟨-, hnew⟩ := poolState_eq_some_iff.mp h
  exact (fields_of_new hnew).1

theorem ingestV3Pool_eq (pool : DiscoveredV3Pool) (book : PoolBook) (inserted : Nat) :
    ingestV3Pool factory pool book inserted
      = (poolState factory pool).elim (book, inserted)
          fun state => (book.insertV3Pool state, inserted + 1) := by
  unfold ingestV3Pool poolState
  split_ifs with hzero
  · rfl
  · cases V3PoolState.new pool.address factory.protocol factory.exchange pool.token0 pool.token1
      pool.feePips pool.tickSpacing pool.sqrtPriceX96 pool.liquidity pool.tick <;> rfl

/-- Ingestion inserts the states of the pools that have one, and counts
them. -/
theorem ingestV3_eq (book : PoolBook) (pools : List DiscoveredV3Pool) :
    ingestV3 book factory pools
      = ((pools.filterMap (poolState factory)).foldl PoolBook.insertV3Pool book,
        (pools.filterMap (poolState factory)).length) := by
  have hfold : ∀ (pools : List DiscoveredV3Pool) (book : PoolBook) (inserted : Nat),
      pools.foldl (fun acc pool => ingestV3Pool factory pool acc.1 acc.2) (book, inserted)
        = ((pools.filterMap (poolState factory)).foldl PoolBook.insertV3Pool book,
          inserted + (pools.filterMap (poolState factory)).length) := by
    intro pools
    induction pools with
    | nil => exact fun _ _ => rfl
    | cons pool pools ih =>
        intro book inserted
        rw [List.foldl_cons, ingestV3Pool_eq]
        cases hstate : poolState factory pool with
        | none => rw [Option.elim_none, ih, List.filterMap_cons_none hstate]
        | some state =>
            rw [Option.elim_some, ih, List.filterMap_cons_some hstate, List.foldl_cons,
              List.length_cons, Nat.add_assoc, Nat.add_comm 1]
  rw [ingestV3, ingest, hfold, Nat.zero_add]

/-- A book that states under different keys were inserted into. -/
theorem lookup_foldl_insertV3Pool {states : List V3PoolState}
    (hkeys : states.Pairwise fun state state' =>
      normalizeAddressKey state.address ≠ normalizeAddressKey state'.address)
    (book : PoolBook) {key : String} {entry : PoolState} :
    (states.foldl PoolBook.insertV3Pool book).pools.lookup key = some entry
      ↔ (∃ state ∈ states, normalizeAddressKey state.address = key ∧ entry = .v3 state)
        ∨ (book.pools.lookup key = some entry
          ∧ ∀ state ∈ states, normalizeAddressKey state.address ≠ key) := by
  induction states generalizing book with
  | nil => simp
  | cons state states ih =>
      rw [List.pairwise_cons] at hkeys
      obtain ⟨hfresh, hkeys⟩ := hkeys
      rw [List.foldl_cons, ih hkeys]
      by_cases hkey : normalizeAddressKey state.address = key
      · have hnone : ∀ state' ∈ states, normalizeAddressKey state'.address ≠ key :=
          fun state' hmem heq => hfresh state' hmem (hkey.trans heq.symm)
        have hlookup : (book.insertV3Pool state).pools.lookup key = some (.v3 state) := by
          rw [← hkey]
          exact Finmap.lookup_insert _
        rw [hlookup]
        constructor
        · rintro (⟨state', hmem, heq, -⟩ | ⟨heq, -⟩)
          · exact absurd heq (hnone state' hmem)
          · exact .inl ⟨state, List.mem_cons_self, hkey, (Option.some.inj heq).symm⟩
        · rintro (⟨state', hmem, heq, rfl⟩ | ⟨-, hno⟩)
          · rcases List.mem_cons.mp hmem with rfl | hmem
            · exact .inr ⟨rfl, hnone⟩
            · exact absurd heq (hnone state' hmem)
          · exact absurd hkey (hno state List.mem_cons_self)
      · have hlookup : (book.insertV3Pool state).pools.lookup key = book.pools.lookup key :=
          Finmap.lookup_insert_of_ne _ (Ne.symm hkey)
        rw [hlookup]
        simp [hkey]

/-! ## A pool and its results -/

/-- Both results came back and decode, the liquidity is not zero, and the
constructor takes the values and keeps their price, tick and liquidity. -/
def Hydrates (codec : DiscoveryCodec) (factory : FactoryConfig) (pool : DiscoveredV3Pool)
    (slot0Res liqRes : MulticallResult) (state : V3PoolState) : Prop :=
  slot0Res.success = true ∧ liqRes.success = true
    ∧ ∃ slot0 liquidity, codec.slot0 slot0Res.returnData = some slot0
      ∧ codec.liquidity liqRes.returnData = some liquidity ∧ liquidity.toNat ≠ 0
      ∧ V3PoolState.new pool.address factory.protocol factory.exchange pool.token0 pool.token1
          pool.feePips pool.tickSpacing slot0.sqrtPriceX96.toNat liquidity.toNat slot0.tick.toInt
        = .ok state
      ∧ state.sqrtPriceX96 = slot0.sqrtPriceX96.toNat ∧ state.tick = slot0.tick.toInt
      ∧ state.liquidity = liquidity.toNat

/-- The pool is as the log of its creation announces it. -/
def Announced (codec : DiscoveryCodec) (pool : DiscoveredV3Pool) : Prop :=
  ∃ log, decodeV3PoolCreated codec log = some pool

theorem Announced.fields {pool : DiscoveredV3Pool} (h : Announced codec pool) :
    (∃ address, pool.address = formatAddress address) ∧ pool.sqrtPriceX96 = 0
      ∧ pool.liquidity = 0 := by
  obtain ⟨log, hlog⟩ := h
  obtain ⟨event, -, hpool⟩ := Option.bind_eq_some_iff.mp hlog
  obtain rfl := Option.some.inj hpool
  exact ⟨⟨event.pool, rfl⟩, rfl, rfl⟩

theorem readV3Pool_of_failed {pool : DiscoveredV3Pool} {slot0Res liqRes : MulticallResult}
    (h : ¬ (slot0Res.success = true ∧ liqRes.success = true)) :
    readV3Pool codec pool slot0Res liqRes = pool := by
  refine if_pos ?_
  rw [Bool.or_eq_true, Bool.not_eq_true', Bool.not_eq_true']
  by_cases hslot0 : slot0Res.success = true
  · exact .inr (Bool.eq_false_of_not_eq_true fun hliq => h ⟨hslot0, hliq⟩)
  · exact .inl (Bool.eq_false_of_not_eq_true hslot0)

theorem sqrtPriceX96_readV3Pool {pool : DiscoveredV3Pool} {slot0Res liqRes : MulticallResult}
    (h : codec.slot0 slot0Res.returnData = none) :
    (readV3Pool codec pool slot0Res liqRes).sqrtPriceX96 = pool.sqrtPriceX96 := by
  unfold readV3Pool
  rw [h]
  split_ifs
  · rfl
  · cases codec.liquidity liqRes.returnData <;> rfl

theorem liquidity_readV3Pool {pool : DiscoveredV3Pool} {slot0Res liqRes : MulticallResult}
    (h : codec.liquidity liqRes.returnData = none) :
    (readV3Pool codec pool slot0Res liqRes).liquidity = pool.liquidity := by
  unfold readV3Pool
  rw [h]
  split_ifs
  · rfl
  · cases codec.slot0 slot0Res.returnData <;> rfl

theorem readV3Pool_of_decoded {pool : DiscoveredV3Pool} {slot0Res liqRes : MulticallResult}
    (hsuccess : slot0Res.success = true ∧ liqRes.success = true) {slot0 : Slot0}
    {liquidity : BitVec 128} (hslot0 : codec.slot0 slot0Res.returnData = some slot0)
    (hliq : codec.liquidity liqRes.returnData = some liquidity) :
    readV3Pool codec pool slot0Res liqRes
      = { pool with sqrtPriceX96 := slot0.sqrtPriceX96.toNat, tick := slot0.tick.toInt,
                    liquidity := liquidity.toNat } := by
  unfold readV3Pool
  rw [if_neg (by simp [hsuccess]), hslot0, hliq]

/-- **Fail-closed.** A fresh pool is ingested exactly when both results
hydrate it. -/
theorem poolState_readV3Pool {pool : DiscoveredV3Pool} (hpool : Announced codec pool)
    {slot0Res liqRes : MulticallResult} {state : V3PoolState} :
    poolState factory (readV3Pool codec pool slot0Res liqRes) = some state
      ↔ Hydrates codec factory pool slot0Res liqRes state := by
  obtain ⟨-, hprice, hliquidity⟩ := hpool.fields
  rw [poolState_eq_some_iff]
  constructor
  · rintro ⟨hne, hnew⟩
    have hsuccess : slot0Res.success = true ∧ liqRes.success = true := by
      by_contra hfailed
      rw [readV3Pool_of_failed hfailed] at hne
      exact hne hliquidity
    cases hslot0 : codec.slot0 slot0Res.returnData with
    | none =>
        have hzero : (readV3Pool codec pool slot0Res liqRes).sqrtPriceX96 = 0 :=
          (sqrtPriceX96_readV3Pool hslot0).trans hprice
        exact absurd hzero (price_ne_zero_of_new hnew)
    | some slot0 =>
        cases hliq : codec.liquidity liqRes.returnData with
        | none => exact absurd ((liquidity_readV3Pool hliq).trans hliquidity) hne
        | some liquidity =>
            rw [readV3Pool_of_decoded hsuccess hslot0 hliq] at hne hnew
            exact ⟨hsuccess.1, hsuccess.2, slot0, liquidity, hslot0, hliq, hne, hnew,
              (fields_of_new hnew).2⟩
  · rintro ⟨hslot0Res, hliqRes, slot0, liquidity, hslot0, hliq, hne, hnew, -⟩
    rw [readV3Pool_of_decoded ⟨hslot0Res, hliqRes⟩ hslot0 hliq]
    exact ⟨hne, hnew⟩

/-! ## The book after hydration -/

section Book

variable {hydrated : List DiscoveredV3Pool}

/-- The book holds the states of the pools that have one, and nothing else. -/
theorem lookup_ingestV3
    (hkeys : (hydrated.map fun pool => normalizeAddressKey pool.address).Nodup)
    {key : String} {entry : PoolState} :
    (ingestV3 PoolBook.new factory hydrated).1.pools.lookup key = some entry
      ↔ ∃ pool ∈ hydrated, ∃ state, poolState factory pool = some state
        ∧ normalizeAddressKey pool.address = key ∧ entry = .v3 state := by
  have hstates : (hydrated.filterMap (poolState factory)).Pairwise fun state state' =>
      normalizeAddressKey state.address ≠ normalizeAddressKey state'.address := by
    rw [List.pairwise_filterMap]
    refine (List.pairwise_map.mp hkeys).imp ?_
    intro pool pool' hne state hstate state' hstate'
    rwa [address_of_poolState hstate, address_of_poolState hstate']
  have hempty : PoolBook.new.pools.lookup key = none := Finmap.lookup_empty key
  rw [ingestV3_eq, lookup_foldl_insertV3Pool hstates, hempty]
  simp only [reduceCtorEq, false_and, or_false, List.mem_filterMap]
  constructor
  · rintro ⟨state, ⟨pool, hpool, hstate⟩, hkey, rfl⟩
    rw [address_of_poolState hstate] at hkey
    exact ⟨pool, hpool, state, hstate, hkey, rfl⟩
  · rintro ⟨pool, hpool, state, hstate, hkey, rfl⟩
    rw [← address_of_poolState hstate] at hkey
    exact ⟨state, ⟨pool, hpool, hstate⟩, hkey, rfl⟩

/-- The entry of a pool is its own state. -/
theorem pool_ingestV3
    (hkeys : (hydrated.map fun pool => normalizeAddressKey pool.address).Nodup)
    {pool : DiscoveredV3Pool} (hpool : pool ∈ hydrated) {entry : PoolState} :
    (ingestV3 PoolBook.new factory hydrated).1.pool pool.address = some entry
      ↔ ∃ state, poolState factory pool = some state ∧ entry = .v3 state := by
  rw [PoolBook.pool, lookup_ingestV3 hkeys]
  constructor
  · rintro ⟨pool', hpool', state, hstate, hkey, rfl⟩
    obtain rfl := List.inj_on_of_nodup_map hkeys hpool' hpool hkey
    exact ⟨state, hstate, rfl⟩
  · rintro ⟨state, hstate, rfl⟩
    exact ⟨pool, hpool, state, hstate, rfl, rfl⟩

theorem count_ingestV3 : (ingestV3 PoolBook.new factory hydrated).2
    = hydrated.countP fun pool => (poolState factory pool).isSome := by
  rw [ingestV3_eq, List.length_filterMap_eq_countP]

end Book

theorem address_readV3Pool (pool : DiscoveredV3Pool) (slot0Res liqRes : MulticallResult) :
    (readV3Pool codec pool slot0Res liqRes).address = pool.address := by
  unfold readV3Pool
  split_ifs
  · rfl
  · cases codec.slot0 slot0Res.returnData <;> cases codec.liquidity liqRes.returnData <;> rfl

variable (codec) in
/-- The results that the batch gave to the two calls at the pool. -/
def OwnResults (pools : List DiscoveredV3Pool) (results : List MulticallResult)
    (pool : DiscoveredV3Pool) (slot0Res liqRes : MulticallResult) : Prop :=
  (⟨callTarget codec pool.address, true, .slot0⟩, slot0Res) ∈ (v3Calls codec pools).zip results
    ∧ (⟨callTarget codec pool.address, true, .liquidity⟩, liqRes)
        ∈ (v3Calls codec pools).zip results

section Aligned

variable {pools : List DiscoveredV3Pool} {results : List MulticallResult}
  (hpools : ∀ pool ∈ pools, Announced codec pool)
  (hdistinct : (pools.map fun pool => pool.address).Nodup)

include hpools hdistinct

theorem pairwise_callTarget (hreads : ReadsAddresses codec) :
    pools.Pairwise fun pool pool' =>
      callTarget codec pool.address ≠ callTarget codec pool'.address := by
  refine (List.pairwise_map.mp hdistinct).imp_of_mem ?_
  intro pool pool' hpool hpool' hne htarget
  obtain ⟨⟨address, haddress⟩, -⟩ := (hpools pool hpool).fields
  obtain ⟨⟨address', haddress'⟩, -⟩ := (hpools pool' hpool').fields
  rw [haddress, haddress', callTarget_formatAddress hreads, callTarget_formatAddress hreads]
    at htarget
  rw [haddress, haddress', htarget] at hne
  exact hne rfl

/-- The keys of the pools are their addresses. -/
theorem nodup_keys_readAligned (hlength : results.length = 2 * pools.length) :
    (((align pools results).map (readAligned codec)).map fun pool =>
      normalizeAddressKey pool.address).Nodup := by
  have hkey : ∀ aligned ∈ align pools results,
      normalizeAddressKey (readAligned codec aligned).address = aligned.1.address := by
    intro aligned hmem
    obtain ⟨⟨address, haddress⟩, -⟩ := (hpools aligned.1 (mem_of_mem_align hlength hmem)).fields
    rw [readAligned, address_readV3Pool, haddress, normalizeAddressKey_formatAddress]
  have hmap : ((align pools results).map (readAligned codec)).map
      (fun pool => normalizeAddressKey pool.address) = pools.map fun pool => pool.address := by
    conv_rhs => rw [← map_fst_align hlength]
    rw [List.map_map, List.map_map]
    exact List.map_congr_left hkey
  rw [hmap]
  exact hdistinct

/-- The entry of a pool at its position in the batch. -/
theorem pool_ingestV3_aligned (hlength : results.length = 2 * pools.length)
    {pool : DiscoveredV3Pool} {slot0Res liqRes : MulticallResult}
    (haligned : (pool, slot0Res, liqRes) ∈ align pools results) (entry : PoolState) :
    (ingestV3 PoolBook.new factory ((align pools results).map (readAligned codec))).1.pool
        pool.address = some entry
      ↔ ∃ state, Hydrates codec factory pool slot0Res liqRes state ∧ entry = .v3 state := by
  have hpool : pool ∈ pools := mem_of_mem_align hlength haligned
  have hentry := @pool_ingestV3 factory _ (nodup_keys_readAligned hpools hdistinct hlength) _
    (List.mem_map_of_mem haligned) entry
  rw [readAligned, address_readV3Pool] at hentry
  simp only [hentry, poolState_readV3Pool (hpools pool hpool)]

theorem count_ingestV3_aligned (hlength : results.length = 2 * pools.length) :
    (ingestV3 PoolBook.new factory ((align pools results).map (readAligned codec))).2
      = pools.countP fun pool => ((ingestV3 PoolBook.new factory
          ((align pools results).map (readAligned codec))).1.pool pool.address).isSome := by
  have hentry : ∀ aligned ∈ align pools results,
      (poolState factory (readAligned codec aligned)).isSome = true
        ↔ ((ingestV3 PoolBook.new factory ((align pools results).map (readAligned codec))).1.pool
            aligned.1.address).isSome = true := by
    intro aligned haligned
    have hpool : aligned.1 ∈ pools := mem_of_mem_align hlength haligned
    simp only [Option.isSome_iff_exists, readAligned, poolState_readV3Pool (hpools _ hpool),
      pool_ingestV3_aligned hpools hdistinct hlength haligned]
    constructor
    · rintro ⟨state, hstate⟩
      exact ⟨.v3 state, state, hstate, rfl⟩
    · rintro ⟨-, state, hstate, -⟩
      exact ⟨state, hstate⟩
  rw [count_ingestV3, List.countP_map]
  refine (List.countP_congr hentry).trans ?_
  generalize (ingestV3 PoolBook.new factory ((align pools results).map (readAligned codec))).1
    = book
  conv_rhs => rw [← map_fst_align hlength, List.countP_map]
  rfl

end Aligned

theorem hydrateV3State_eq {provider : DiscoveryProvider} {multicall3 : EvmAddress}
    {pools : List DiscoveredV3Pool} {results : List MulticallResult}
    (hanswer : pools ≠ [] →
      multicallAggregate3 codec provider multicall3 (v3Calls codec pools) = .ok results)
    (hlength : results.length = 2 * pools.length) :
    hydrateV3State codec provider multicall3 pools
      = .ok ((align pools results).map (readAligned codec)) := by
  unfold hydrateV3State
  by_cases hempty : pools = []
  · rw [if_pos hempty, hempty]
    rfl
  · rw [if_neg hempty, hanswer hempty]
    exact readV3Pools_eq codec rfl hlength

variable (factory) (provider : DiscoveryProvider) (multicall3 : EvmAddress)

/-- **Hydration is aligned and fail-closed.** For announced pools with
different addresses, which the parser reads back as they are printed, and an
answer with one result a call, the book holds a pool exactly when its own two
results hydrate it, with the price, tick and liquidity of these results; it
holds nothing else, and as many pools are counted. -/
theorem hydration_aligned (hreads : ReadsAddresses codec) {pools : List DiscoveredV3Pool}
    {results : List MulticallResult} (hpools : ∀ pool ∈ pools, Announced codec pool)
    (hdistinct : (pools.map fun pool => pool.address).Nodup)
    (hanswer : pools ≠ [] →
      multicallAggregate3 codec provider multicall3 (v3Calls codec pools) = .ok results)
    (hlength : results.length = (v3Calls codec pools).length) :
    ∃ hydrated, hydrateV3State codec provider multicall3 pools = .ok hydrated
      ∧ (∀ pool ∈ pools, ∃ slot0Res liqRes, OwnResults codec pools results pool slot0Res liqRes)
      ∧ (∀ pool ∈ pools, ∀ slot0Res liqRes, OwnResults codec pools results pool slot0Res liqRes →
          ∀ entry, (ingestV3 PoolBook.new factory hydrated).1.pool pool.address = some entry
            ↔ ∃ state, Hydrates codec factory pool slot0Res liqRes state ∧ entry = .v3 state)
      ∧ (∀ key entry,
          (ingestV3 PoolBook.new factory hydrated).1.pools.lookup key = some entry →
          ∃ pool ∈ pools, key = normalizeAddressKey pool.address)
      ∧ (ingestV3 PoolBook.new factory hydrated).2
        = pools.countP fun pool =>
            ((ingestV3 PoolBook.new factory hydrated).1.pool pool.address).isSome := by
  have hlen : results.length = 2 * pools.length := hlength.trans (length_calls ..)
  have hcalls := nodup_calls (fun pool => callTarget codec pool.address)
    (pairwise_callTarget hpools hdistinct hreads)
  have hkeys := nodup_keys_readAligned hpools hdistinct hlen
  refine ⟨_, hydrateV3State_eq hanswer hlen, ?_, ?_, ?_, ?_⟩
  · intro pool hpool
    obtain ⟨slot0Res, liqRes, haligned⟩ := exists_mem_align hlen hpool
    exact ⟨slot0Res, liqRes, (mem_align_iff hcalls hlen hpool).mp haligned⟩
  · intro pool hpool slot0Res liqRes hown
    have haligned := (mem_align_iff hcalls hlen hpool).mpr hown
    exact pool_ingestV3_aligned hpools hdistinct hlen haligned
  · intro key entry hlookup
    obtain ⟨pool, hpool, -, -, hkey, -⟩ := (lookup_ingestV3 hkeys).mp hlookup
    obtain ⟨aligned, haligned, rfl⟩ := List.mem_map.mp hpool
    refine ⟨aligned.1, mem_of_mem_align hlen haligned, ?_⟩
    rw [← hkey, readAligned, address_readV3Pool]
  · exact count_ingestV3_aligned hpools hdistinct hlen

/-! ## A pool with one result -/

open Abi

def poolCreatedLayout : EventLayout PoolCreated where
  signature := "PoolCreated(address,address,uint24,int24,address)"
  indexed e := [ofUint e.token0, ofUint e.token1, ofUint e.fee]
  unindexed e := [ofInt e.tickSpacing, ofUint e.pool]
  rebuild
    | [token0, token1, fee], [tickSpacing, pool] => do
        let token0 ← toUint 160 token0
        let token1 ← toUint 160 token1
        let fee ← toUint 24 fee
        let tickSpacing ← toInt 24 tickSpacing
        let pool ← toUint 160 pool
        return { token0, token1, fee, tickSpacing, pool }
    | _, _ => none
  rebuild_eq e := by simp [toUint_ofUint, toInt_ofInt]

def decodeSlot0 (data : List UInt8) : Option Slot0 := do
  match ← decodeWords data with
  | [sqrtPriceX96, tick, observationIndex, cardinality, cardinalityNext, feeProtocol, unlocked] =>
      let sqrtPriceX96 ← toUint 160 sqrtPriceX96
      let tick ← toInt 24 tick
      let _ ← [observationIndex, cardinality, cardinalityNext].mapM (toUint 16)
      let _ ← toUint 8 feeProtocol
      let _ ← toUint 1 unlocked
      return { sqrtPriceX96, tick }
  | _ => none

def decodeLiquidity (data : List UInt8) : Option (BitVec 128) := do
  match ← decodeWords data with
  | [liquidity] => toUint 128 liquidity
  | _ => none

/-- The word at an offset, as a number. -/
def wordAt (data : List UInt8) (offset : Nat) : Option Nat :=
  if offset + 32 ≤ data.length then some (ofBeBytes ((data.drop offset).take 32)) else none

/-- A `Result` that begins at an offset: its flag, and its bytes where the
second word points to. -/
def decodeResult (data : List UInt8) (start : Nat) : Option MulticallResult := do
  let success ← wordAt data start
  let offset ← wordAt data (start + 32)
  let length ← wordAt data (start + offset)
  let returnData := (data.drop (start + offset + 32)).take length
  if success ≤ 1 ∧ returnData.length = length then some ⟨decide (success = 1), returnData⟩
  else none

/-- The `Result[]` that `aggregate3` returns: the offsets of its members are
counted from behind its length. -/
def decodeAggregate3 (data : List UInt8) : Option (List MulticallResult) := do
  let start ← wordAt data 0
  let count ← wordAt data start
  (List.range count).mapM fun i => do
    let offset ← wordAt data (start + 32 + 32 * i)
    decodeResult data (start + 32 + offset)

/-- What the parameters stand for, as far as V3 pools need them. -/
def abiCodec : DiscoveryCodec :=
  { parseAddress := hexAddress, pairCreated := fun _ => none,
    poolCreated := fun log => poolCreatedLayout.decode log.topics log.data,
    getReserves := fun _ => none, slot0 := decodeSlot0, liquidity := decodeLiquidity,
    aggregate3 := fun data =>
      match decodeAggregate3 data with
      | some results => .ok results
      | none => .error ["type check failed"] }

theorem abiCodec_readsAddresses : ReadsAddresses abiCodec := by
  intro address
  unfold abiCodec hexAddress
  dsimp only
  rw [fixedHex_formatAddress]
  simp

/-- WETH and USDC at a fee of 0.05%, and at one of 0.01%. -/
def lowFeePool : PoolCreated :=
  { token0 := 0x4200000000000000000000000000000000000006,
    token1 := 0x833589fcd6edb6e08f4c7c32d4f71b54bda02913, fee := 500, tickSpacing := 10,
    pool := 0xd0b53d9277642d899df5c87a3966a349a798f224 }

def lowestFeePool : PoolCreated :=
  { lowFeePool with
    fee := 100, tickSpacing := 1, pool := 0xb4cb800910b228ed3d0834cf79d697127bbb00e5 }

/-- A pool as its log announces it. -/
def announcedPool (event : PoolCreated) : DiscoveredV3Pool :=
  { address := formatAddress event.pool, token0 := formatAddress event.token0,
    token1 := formatAddress event.token1, feePips := event.fee.toNat,
    tickSpacing := event.tickSpacing.toInt, sqrtPriceX96 := 0, tick := 0, liquidity := 0 }

theorem announced_announcedPool (event : PoolCreated) :
    Announced abiCodec (announcedPool event) := by
  have hlog : abiCodec.poolCreated
      ⟨poolCreatedLayout.topics event, poolCreatedLayout.data event⟩ = some event := by
    unfold abiCodec
    dsimp only
    rw [EventLayout.decode_encode]
  exact ⟨_, by rw [decodeV3PoolCreated, hlog]; rfl⟩

/-- The slot and the liquidity of the first pool; of the second, a call of
`slot0` that failed and the liquidity. -/
def multicallAnswer : List UInt8 :=
  encodeWords
    [ 0x20, 4, 128, 448, 576, 672,
      1, 0x40, 224, 4339505179874779489431521, ofInt (BitVec.ofInt 24 (-196257)), 17, 3000, 3000, 0,
      1,
      1, 0x40, 32, 2918374011952631104,
      0, 0x40, 0,
      1, 0x40, 32, 51007312846624411 ]

def multicallResults : List MulticallResult :=
  [ ⟨true, encodeWords
      [4339505179874779489431521, ofInt (BitVec.ofInt 24 (-196257)), 17, 3000, 3000, 0, 1]⟩,
    ⟨true, encodeWords [2918374011952631104]⟩,
    ⟨false, []⟩,
    ⟨true, encodeWords [51007312846624411]⟩ ]

def multicallProvider : DiscoveryProvider :=
  { blockNumber := .ok 0, getLogs := fun _ _ _ _ => .ok [],
    aggregate3 := fun _ _ => .ok multicallAnswer }

theorem decodeAggregate3_multicallAnswer :
    decodeAggregate3 multicallAnswer = some multicallResults := by
  decide +kernel

def uniswapV3Factory : FactoryConfig :=
  { address := "0x33128a8fC17869897dcE68Ed026d694621f6FDfD", kind := .uniswapV3,
    protocol := .uniswapV3, exchange := none, deploymentBlock := 1371680,
    defaultV2FeeBps := none, logChunkSize := none }

/-- The first pool as it is stored. -/
def lowFeeState : V3PoolState :=
  { address := "0xd0b53d9277642d899df5c87a3966a349a798f224", protocol := .uniswapV3,
    exchange := none, token0 := "0x4200000000000000000000000000000000000006",
    token1 := "0x833589fcd6edb6e08f4c7c32d4f71b54bda02913", feePips := 500, tickSpacing := 10,
    sqrtPriceX96 := 4339505179874779489431521, liquidity := 2918374011952631104,
    tick := -196257, lastUpdatedBlock := none }

theorem multicallAggregate3_multicallAnswer {multicall3 : EvmAddress} {calls : List Call3} :
    multicallAggregate3 abiCodec multicallProvider multicall3 calls = .ok multicallResults := by
  have hanswer : abiCodec.aggregate3 multicallAnswer = .ok multicallResults := by
    unfold abiCodec
    dsimp only
    rw [decodeAggregate3_multicallAnswer]
  have hraw : multicallProvider.aggregate3 multicall3 calls = .ok multicallAnswer := rfl
  unfold multicallAggregate3
  rw [hraw]
  generalize multicallAnswer = raw at hanswer
  show withContext _ (abiCodec.aggregate3 raw) = _
  rw [hanswer]
  rfl

theorem ownResults_lowFeePool :
    OwnResults abiCodec [announcedPool lowFeePool, announcedPool lowestFeePool] multicallResults
      (announcedPool lowFeePool) (multicallResults[0]) (multicallResults[1]) :=
  ⟨List.mem_cons_self, List.mem_cons_of_mem _ List.mem_cons_self⟩

theorem ownResults_lowestFeePool :
    OwnResults abiCodec [announcedPool lowFeePool, announcedPool lowestFeePool] multicallResults
      (announcedPool lowestFeePool) (multicallResults[2]) (multicallResults[3]) :=
  ⟨List.mem_cons_of_mem _ (List.mem_cons_of_mem _ List.mem_cons_self),
    List.mem_cons_of_mem _ (List.mem_cons_of_mem _ (List.mem_cons_of_mem _ List.mem_cons_self))⟩

theorem hydrates_lowFeePool :
    Hydrates abiCodec uniswapV3Factory (announcedPool lowFeePool) (multicallResults[0])
      (multicallResults[1]) lowFeeState := by
  refine ⟨rfl, rfl, ⟨4339505179874779489431521, BitVec.ofInt 24 (-196257)⟩, 2918374011952631104,
    ?_, ?_, by decide, ?_, rfl, rfl, rfl⟩
  · show decodeSlot0 (encodeWords _) = _
    unfold decodeSlot0
    rw [decodeWords_encodeWords]
    decide +kernel
  · show decodeLiquidity (encodeWords _) = _
    unfold decodeLiquidity
    rw [decodeWords_encodeWords]
    decide +kernel
  · decide +kernel

/-- The book holds the first pool with the price, tick and liquidity of its
results, and not the second. -/
theorem announcedPools_hydrated :
    ∃ hydrated, hydrateV3State abiCodec multicallProvider 0xca11bde05977b3631167028862be2a173976ca11
        [announcedPool lowFeePool, announcedPool lowestFeePool] = .ok hydrated
      ∧ (ingestV3 PoolBook.new uniswapV3Factory hydrated).1.pool (formatAddress lowFeePool.pool)
        = some (.v3 lowFeeState)
      ∧ (ingestV3 PoolBook.new uniswapV3Factory hydrated).1.pool
          (formatAddress lowestFeePool.pool) = none
      ∧ (ingestV3 PoolBook.new uniswapV3Factory hydrated).2 = 1 := by
  have hpools : ∀ pool ∈ [announcedPool lowFeePool, announcedPool lowestFeePool],
      Announced abiCodec pool := by
    intro pool hpool
    rcases List.mem_pair.mp hpool with rfl | rfl
    · exact announced_announcedPool lowFeePool
    · exact announced_announcedPool lowestFeePool
  obtain ⟨hydrated, hhydrated, -, hentry, -, hcount⟩ := hydration_aligned uniswapV3Factory
    multicallProvider 0xca11bde05977b3631167028862be2a173976ca11 abiCodec_readsAddresses hpools
    (by decide +kernel) (fun _ => multicallAggregate3_multicallAnswer) rfl
  refine ⟨hydrated, hhydrated, ?_⟩
  rw [hcount]
  generalize (ingestV3 PoolBook.new uniswapV3Factory hydrated).1 = book at hentry ⊢
  have hfirst : book.pool (formatAddress lowFeePool.pool) = some (.v3 lowFeeState) := by
    refine (hentry (announcedPool lowFeePool) List.mem_cons_self _ _ ownResults_lowFeePool _).mpr ?_
    exact ⟨lowFeeState, hydrates_lowFeePool, rfl⟩
  have hsecond : book.pool (formatAddress lowestFeePool.pool) = none := by
    refine Option.eq_none_iff_forall_ne_some.mpr fun entry hsome => ?_
    obtain ⟨state, hhydrates, -⟩ := (hentry (announcedPool lowestFeePool) (by simp) _ _
      ownResults_lowestFeePool entry).mp hsome
    exact absurd hhydrates.1 Bool.false_ne_true
  refine ⟨hfirst, hsecond, ?_⟩
  simp [announcedPool, hfirst, hsecond]

end BaseEngine.Discovery
