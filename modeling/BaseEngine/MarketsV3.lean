import BaseEngine.Markets

/-!
# Concentrated-liquidity pools

The state of a Uniswap V3 / Slipstream pool, its validation and the
application of V3 `Swap` logs (`crates/markets/src/v3.rs`). A log adopts
the price, liquidity and tick the chain has already computed.

`U256::from_str_radix(_, 10)` belongs to the integer crate; it is the
parameter `u256FromDecimal`.
-/

namespace BaseEngine

open Fallible Text

def feePipsDenominator : Nat := 1000000

/-- Largest sqrt price of the V3 protocol. -/
def maxSqrtPrice : Nat := 1461446703485210103287273052203988822378723970342

def minSqrtPrice : Nat := 4295128739

structure V3PoolState where
  address : Address
  protocol : Protocol
  exchange : Option Exchange
  token0 : Address
  token1 : Address
  feePips : Nat
  tickSpacing : Int
  sqrtPriceX96 : Nat
  liquidity : Nat
  tick : Int
  lastUpdatedBlock : Option Nat
deriving Repr, DecidableEq

namespace V3PoolState

def validate (pool : V3PoolState) : Except MarketError Unit :=
  if pool.token0 = pool.token1 then
    .error (.invalidPool "v3 pool tokens must be distinct addresses")
  else if feePipsDenominator ≤ pool.feePips then
    .error (.invalidPool "v3 fee_pips must be lower than 1_000_000")
  else if pool.tickSpacing ≤ 0 then
    .error (.invalidPool "v3 tick_spacing must be positive")
  else if pool.sqrtPriceX96 < minSqrtPrice ∨ maxSqrtPrice < pool.sqrtPriceX96 then
    .error (.invalidPool "v3 sqrt_price_x96 outside the protocol-defined range")
  else if pool.liquidity = 0 then .error .insufficientLiquidity
  else .ok ()

def new (address : Address) (protocol : Protocol) (exchange : Option Exchange)
    (token0 token1 : Address) (feePips : Nat) (tickSpacing : Int)
    (sqrtPriceX96 liquidity : Nat) (tick : Int) : Except MarketError V3PoolState := do
  let state : V3PoolState :=
    { address, protocol, exchange, token0, token1, feePips, tickSpacing,
      sqrtPriceX96, liquidity, tick, lastUpdatedBlock := none }
  state.validate
  return state

def containsToken (pool : V3PoolState) (token : String) : Bool :=
  eqIgnoreAsciiCase pool.token0 token || eqIgnoreAsciiCase pool.token1 token

def otherToken (pool : V3PoolState) (token : String) : Option Address :=
  if eqIgnoreAsciiCase pool.token0 token then some pool.token1
  else if eqIgnoreAsciiCase pool.token1 token then some pool.token0
  else none

variable (u256FromDecimal : String → Option Nat)

/-- Every field is checked before the first one is written, so that an
error leaves the pool as it was. -/
def applyV3SwapEvent (pool : V3PoolState) (decoded : DecodedLogEvent) :
    Except MarketError V3PoolState := do
  let rawSqrtPrice ← okOr decoded.sqrtPriceX96 (.missingDecodedField "sqrt_price_x96")
  let newSqrtPrice ←
    okOr (u256FromDecimal rawSqrtPrice) (.missingDecodedField "sqrt_price_x96")
  let newLiquidity ← okOr decoded.liquidity (.missingDecodedField "liquidity")
  let newTick ← okOr decoded.tick (.missingDecodedField "tick")
  if newSqrtPrice < minSqrtPrice ∨ maxSqrtPrice < newSqrtPrice then
    .error (.invalidPool "v3 swap event sqrt_price_x96 outside the protocol-defined range")
  else
    .ok { pool with sqrtPriceX96 := newSqrtPrice, liquidity := newLiquidity, tick := newTick }

/-- The `removed` flag of the log is not consulted. -/
def applyLog (pool : V3PoolState) (log : Log) :
    Except MarketError (MarketEventOutcome × V3PoolState) :=
  match log.address with
  | none => .ok (.ignored, pool)
  | some address =>
      if eqIgnoreAsciiCase address pool.address then
        match log.decodedEvent with
        | none => .ok (.ignored, pool)
        | some decoded =>
            match decoded.kind with
            | .v3Swap => do
                let updated ← pool.applyV3SwapEvent u256FromDecimal decoded
                return (.applied, { updated with
                  lastUpdatedBlock := blockNumber log.metadata.blockContext })
            | _ => .ok (.ignored, pool)
      else .ok (.ignored, pool)

/-! ## When a swap event is adopted -/

/-- The event carries everything a V3 update reads, and its price is one
the protocol allows. -/
def SwapComplete (decoded : DecodedLogEvent) : Prop :=
  ∃ raw price liquidity tick, decoded.sqrtPriceX96 = some raw
    ∧ u256FromDecimal raw = some price ∧ decoded.liquidity = some liquidity
    ∧ decoded.tick = some tick ∧ minSqrtPrice ≤ price ∧ price ≤ maxSqrtPrice

theorem applyV3SwapEvent_ok_iff {pool : V3PoolState} {decoded : DecodedLogEvent} :
    (∃ updated, pool.applyV3SwapEvent u256FromDecimal decoded = .ok updated)
      ↔ SwapComplete u256FromDecimal decoded := by
  constructor
  · rintro ⟨updated, h⟩
    obtain ⟨raw, hraw, h⟩ := okOr_bind_eq_ok_iff.mp h
    obtain ⟨price, hprice, h⟩ := okOr_bind_eq_ok_iff.mp h
    obtain ⟨liquidity, hliq, h⟩ := okOr_bind_eq_ok_iff.mp h
    obtain ⟨tick, htick, h⟩ := okOr_bind_eq_ok_iff.mp h
    by_cases hrange : price < minSqrtPrice ∨ maxSqrtPrice < price
    · rw [if_pos hrange] at h; cases h
    · exact ⟨raw, price, liquidity, tick, hraw, hprice, hliq, htick, by omega, by omega⟩
  · rintro ⟨raw, price, liquidity, tick, hraw, hprice, hliq, htick, hmin, hmax⟩
    unfold applyV3SwapEvent
    simp only [hraw, hprice, hliq, htick, okOr_some, ok_bind]
    rw [if_neg (by omega)]
    exact ⟨_, rfl⟩

/-! ## What a swap event carries -/

/-- The part of the state a swap replaces. -/
structure SwapValues where
  sqrtPriceX96 : Nat
  liquidity : Nat
  tick : Int
deriving Repr, DecidableEq

def swapValues (pool : V3PoolState) : SwapValues :=
  { sqrtPriceX96 := pool.sqrtPriceX96, liquidity := pool.liquidity, tick := pool.tick }

/-- The pool with the values of a swap and the block of its log. -/
def swapped (pool : V3PoolState) (values : SwapValues) (log : Log) : V3PoolState :=
  { pool with sqrtPriceX96 := values.sqrtPriceX96, liquidity := values.liquidity,
              tick := values.tick, lastUpdatedBlock := blockNumber log.metadata.blockContext }

/-- The values an event carries, when it is complete and its price is one
the protocol allows. -/
def carriedValues (decoded : DecodedLogEvent) : Option SwapValues := do
  let raw ← decoded.sqrtPriceX96
  let sqrtPriceX96 ← u256FromDecimal raw
  let liquidity ← decoded.liquidity
  let tick ← decoded.tick
  if minSqrtPrice ≤ sqrtPriceX96 ∧ sqrtPriceX96 ≤ maxSqrtPrice then
    some { sqrtPriceX96, liquidity, tick }
  else none

variable {u256FromDecimal} {pool : V3PoolState} {decoded : DecodedLogEvent} {log : Log}

theorem carriedValues_range {values : SwapValues}
    (h : carriedValues u256FromDecimal decoded = some values) :
    minSqrtPrice ≤ values.sqrtPriceX96 ∧ values.sqrtPriceX96 ≤ maxSqrtPrice := by
  obtain ⟨raw, -, h⟩ := Option.bind_eq_some_iff.mp h
  obtain ⟨price, -, h⟩ := Option.bind_eq_some_iff.mp h
  obtain ⟨liquidity, -, h⟩ := Option.bind_eq_some_iff.mp h
  obtain ⟨tick, -, h⟩ := Option.bind_eq_some_iff.mp h
  by_cases hrange : minSqrtPrice ≤ price ∧ price ≤ maxSqrtPrice
  · rw [if_pos hrange] at h
    obtain rfl := Option.some.inj h
    exact hrange
  · rw [if_neg hrange] at h
    cases h

theorem swapComplete_iff :
    SwapComplete u256FromDecimal decoded
      ↔ ∃ values, carriedValues u256FromDecimal decoded = some values := by
  constructor
  · rintro ⟨raw, price, liquidity, tick, hraw, hprice, hliq, htick, hmin, hmax⟩
    refine ⟨⟨price, liquidity, tick⟩, ?_⟩
    simp [carriedValues, hraw, hprice, hliq, htick, hmin, hmax]
  · rintro ⟨values, h⟩
    have hrange := carriedValues_range h
    obtain ⟨raw, hraw, h⟩ := Option.bind_eq_some_iff.mp h
    obtain ⟨price, hprice, h⟩ := Option.bind_eq_some_iff.mp h
    obtain ⟨liquidity, hliq, h⟩ := Option.bind_eq_some_iff.mp h
    obtain ⟨tick, htick, h⟩ := Option.bind_eq_some_iff.mp h
    split_ifs at h with hin
    exact ⟨raw, price, liquidity, tick, hraw, hprice, hliq, htick, hin.1, hin.2⟩

/-- A `Swap` log on the pool it names: its values are adopted when it
carries them all, and the call fails otherwise. The `removed` flag of the
log plays no part. -/
theorem applyLog_swap {address : String} (haddr : log.address = some address)
    (hmatch : eqIgnoreAsciiCase address pool.address = true)
    (hdec : log.decodedEvent = some decoded) (hkind : decoded.kind = .v3Swap) :
    (∃ values, carriedValues u256FromDecimal decoded = some values
        ∧ pool.applyLog u256FromDecimal log = .ok (.applied, pool.swapped values log))
      ∨ (¬ SwapComplete u256FromDecimal decoded
        ∧ ∃ e, pool.applyLog u256FromDecimal log = .error e) := by
  have heq : pool.applyLog u256FromDecimal log = (do
      let updated ← pool.applyV3SwapEvent u256FromDecimal decoded
      return (.applied, { updated with
        lastUpdatedBlock := blockNumber log.metadata.blockContext })) := by
    unfold applyLog
    simp only [haddr, hmatch, hdec, hkind, if_true]
  rw [heq]
  cases hup : pool.applyV3SwapEvent u256FromDecimal decoded with
  | error e =>
      refine Or.inr ⟨fun h => ?_, e, rfl⟩
      obtain ⟨updated, hok⟩ := (applyV3SwapEvent_ok_iff u256FromDecimal).mpr h
      rw [hup] at hok
      cases hok
  | ok updated =>
      have hcomplete := (applyV3SwapEvent_ok_iff u256FromDecimal).mp ⟨updated, hup⟩
      obtain ⟨raw, price, liquidity, tick, hraw, hprice, hliq, htick, hmin, hmax⟩ := hcomplete
      refine Or.inl ⟨⟨price, liquidity, tick⟩, ?_, ?_⟩
      · simp [carriedValues, hraw, hprice, hliq, htick, hmin, hmax]
      · unfold applyV3SwapEvent at hup
        simp only [hraw, hprice, hliq, htick, okOr_some, ok_bind] at hup
        rw [if_neg (by omega)] at hup
        obtain rfl := Except.ok.inj hup
        rfl

end V3PoolState

end BaseEngine
