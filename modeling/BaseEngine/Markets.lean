import BaseEngine.Lib.ConstantProduct
import BaseEngine.Lib.Fallible
import BaseEngine.Lib.Machine
import BaseEngine.Lib.Text
import BaseEngine.Types

/-!
# Constant-product pools and their quotes

The V2 half of `crates/markets/src/lib.rs`: the pool state, its
validation, the exact-input quote with its price-impact estimate, and
the application of `Sync` logs. Every arithmetic step is the checked
`u128` operation the source performs, so that a quote says where it
overflows.

`quoteExactIn_ok` inverts a successful quote once and for all, and the
decision layer reads quotes through it. `quotesExactly_iff` compares the
code with the closed form `ConstantProduct.out` over the whole range of
on-chain reserves: the two agree exactly where the `u128` intermediates
fit (`QuoteFits`).
-/

namespace BaseEngine

open Fallible Machine Text

def bpsDenominator : Nat := 10000

/-- `u32::MAX`. -/
def u32Max : Nat := 2 ^ 32 - 1

inductive MarketError where
  | invalidPool (message : String)
  | unknownToken (poolAddress token : Address)
  | insufficientInput
  | insufficientLiquidity
  | arithmeticOverflow
  | missingDecodedField (field : String)
  | missingLogIdentity
  | missingRevertSnapshot (txHash : TxHash) (logIndex : Nat)
deriving Repr, DecidableEq

inductive MarketEventOutcome where
  | applied
  | ignored
  | reverted
deriving Repr, DecidableEq

structure PoolQuote where
  poolAddress : Address
  tokenIn : Address
  tokenOut : Address
  amountIn : Nat
  amountOut : Nat
  feeBps : Nat
  priceImpactBps : Nat
deriving Repr, DecidableEq

structure V2PoolState where
  address : Address
  protocol : Protocol
  exchange : Option Exchange
  token0 : Address
  token1 : Address
  reserve0 : Nat
  reserve1 : Nat
  feeBps : Nat
  lastUpdatedBlock : Option Nat
deriving Repr, DecidableEq

/-- The block a log belongs to; a pre-confirmed log has none. -/
def blockNumber : BlockContext → Option Nat
  | .pending => none
  | .block number _ => some number

/-! ## Quotes -/

/-- The source would panic on an input reserve of zero, which `validate`
and `applySync` keep out; here the quotient is zero. -/
def estimatePriceImpactBps (reserveIn reserveOut amountIn amountOut : Nat) :
    Except MarketError Nat := do
  let quotedPriceNumerator ←
    okOr (checkedMul 128 reserveOut bpsDenominator) .arithmeticOverflow
  let quotedPrice := quotedPriceNumerator / reserveIn
  let realizedPriceNumerator ←
    okOr (checkedMul 128 amountOut bpsDenominator) .arithmeticOverflow
  let realizedPrice := realizedPriceNumerator / max amountIn 1
  if quotedPrice = 0 ∨ quotedPrice ≤ realizedPrice then
    return 0
  else
    let delta := quotedPrice - realizedPrice
    let scaled ← okOr (checkedMul 128 delta bpsDenominator) .arithmeticOverflow
    return min (scaled / quotedPrice) u32Max

namespace V2PoolState

/-- Input reserve, output reserve and output token for `tokenIn`; the
first token wins when both are spelled alike up to case. -/
def direction (pool : V2PoolState) (tokenIn : String) :
    Option (Nat × Nat × Address) :=
  if eqIgnoreAsciiCase tokenIn pool.token0 then
    some (pool.reserve0, pool.reserve1, pool.token1)
  else if eqIgnoreAsciiCase tokenIn pool.token1 then
    some (pool.reserve1, pool.reserve0, pool.token0)
  else none

def validate (pool : V2PoolState) : Except MarketError Unit :=
  if pool.token0 = pool.token1 then
    .error (.invalidPool "pool tokens must be distinct addresses")
  else if pool.reserve0 = 0 ∨ pool.reserve1 = 0 then
    .error (.invalidPool "pool reserves must be greater than zero")
  else if bpsDenominator ≤ pool.feeBps then
    .error (.invalidPool "fee_bps must be lower than 10_000")
  else .ok ()

def new (address : Address) (protocol : Protocol) (exchange : Option Exchange)
    (token0 token1 : Address) (reserve0 reserve1 : Nat) (feeBps : Nat) :
    Except MarketError V2PoolState := do
  let state : V2PoolState :=
    { address, protocol, exchange, token0, token1, reserve0, reserve1, feeBps,
      lastUpdatedBlock := none }
  state.validate
  return state

def quoteExactIn (pool : V2PoolState) (tokenIn : String) (amountIn : Nat) :
    Except MarketError PoolQuote :=
  if amountIn = 0 then .error .insufficientInput
  else do
    let (reserveIn, reserveOut, tokenOut) ←
      okOr (pool.direction tokenIn) (.unknownToken pool.address tokenIn)
    let feeMultiplier ←
      okOr (checkedSub bpsDenominator pool.feeBps) .arithmeticOverflow
    let amountInWithFee ←
      okOr (checkedMul 128 amountIn feeMultiplier) .arithmeticOverflow
    let numerator ←
      okOr (checkedMul 128 amountInWithFee reserveOut) .arithmeticOverflow
    let denominator ←
      okOr ((checkedMul 128 reserveIn bpsDenominator).bind
        (checkedAdd 128 · amountInWithFee)) .arithmeticOverflow
    let amountOut := numerator / denominator
    if amountOut = 0 then .error .insufficientLiquidity
    else do
      let priceImpactBps ←
        estimatePriceImpactBps reserveIn reserveOut amountIn amountOut
      return { poolAddress := pool.address, tokenIn, tokenOut, amountIn,
               amountOut, feeBps := pool.feeBps, priceImpactBps }

def containsToken (pool : V2PoolState) (token : String) : Bool :=
  eqIgnoreAsciiCase pool.token0 token || eqIgnoreAsciiCase pool.token1 token

def otherToken (pool : V2PoolState) (token : String) : Option Address :=
  if eqIgnoreAsciiCase pool.token0 token then some pool.token1
  else if eqIgnoreAsciiCase pool.token1 token then some pool.token0
  else none

/-! ## Logs -/

/-- A rejected `Sync` leaves the pool as it was. -/
def applySync (pool : V2PoolState) (reserve0 reserve1 : Nat)
    (block : Option Nat) : Except MarketError V2PoolState :=
  if reserve0 = 0 ∨ reserve1 = 0 then
    .error (.invalidPool "sync reserves must be greater than zero")
  else .ok { pool with reserve0, reserve1, lastUpdatedBlock := block }

/-- The pool after the log with what the call returns; on an error the
pool has not been touched. -/
def applyLog (pool : V2PoolState) (log : Log) :
    Except MarketError (MarketEventOutcome × V2PoolState) :=
  match log.address with
  | none => .ok (.ignored, pool)
  | some address =>
      if eqIgnoreAsciiCase address pool.address then
        match log.decodedEvent with
        | none => .ok (.ignored, pool)
        | some decoded =>
            match decoded.kind with
            | .v2Sync => do
                let reserve0 ← okOr decoded.reserve0 (.missingDecodedField "reserve0")
                let reserve1 ← okOr decoded.reserve1 (.missingDecodedField "reserve1")
                let updated ← pool.applySync reserve0 reserve1
                  (blockNumber log.metadata.blockContext)
                return (.applied, updated)
            | _ => .ok (.ignored, pool)
      else .ok (.ignored, pool)

/-! ## What a successful quote says -/

/-- Input and output reserve for `tokenIn`, the first token taken first. -/
def reserveIn (pool : V2PoolState) (tokenIn : String) : Nat :=
  if eqIgnoreAsciiCase tokenIn pool.token0 then pool.reserve0 else pool.reserve1

def reserveOut (pool : V2PoolState) (tokenIn : String) : Nat :=
  if eqIgnoreAsciiCase tokenIn pool.token0 then pool.reserve1 else pool.reserve0

def tokenOut (pool : V2PoolState) (tokenIn : String) : Address :=
  if eqIgnoreAsciiCase tokenIn pool.token0 then pool.token1 else pool.token0

/-- The constant-product output of the pool, in unbounded integers. -/
def exactOut (pool : V2PoolState) (tokenIn : String) (amountIn : Nat) : Nat :=
  ConstantProduct.out bpsDenominator (bpsDenominator - pool.feeBps)
    (pool.reserveIn tokenIn) (pool.reserveOut tokenIn) amountIn

theorem direction_of_containsToken {pool : V2PoolState} {tokenIn : String}
    (h : pool.containsToken tokenIn = true) :
    pool.direction tokenIn
      = some (pool.reserveIn tokenIn, pool.reserveOut tokenIn, pool.tokenOut tokenIn) := by
  simp only [containsToken, eqIgnoreAsciiCase_comm pool.token0,
    eqIgnoreAsciiCase_comm pool.token1, Bool.or_eq_true] at h
  unfold direction reserveIn reserveOut tokenOut
  by_cases h0 : eqIgnoreAsciiCase tokenIn pool.token0 = true
  · simp only [h0, if_true]
  · have h1 : eqIgnoreAsciiCase tokenIn pool.token1 = true := h.resolve_left h0
    simp only [h0, h1, if_true, if_false, Bool.false_eq_true]

theorem direction_eq_some {pool : V2PoolState} {tokenIn : String}
    {d : Nat × Nat × Address} (h : pool.direction tokenIn = some d) :
    pool.containsToken tokenIn = true
      ∧ d = (pool.reserveIn tokenIn, pool.reserveOut tokenIn, pool.tokenOut tokenIn) := by
  have hc : pool.containsToken tokenIn = true := by
    simp only [containsToken, eqIgnoreAsciiCase_comm pool.token0,
      eqIgnoreAsciiCase_comm pool.token1, Bool.or_eq_true]
    unfold direction at h
    by_cases h0 : eqIgnoreAsciiCase tokenIn pool.token0 = true
    · exact Or.inl h0
    · rw [if_neg h0] at h
      by_cases h1 : eqIgnoreAsciiCase tokenIn pool.token1 = true
      · exact Or.inr h1
      · rw [if_neg h1] at h
        cases h
  exact ⟨hc, Option.some.inj (h.symm.trans (direction_of_containsToken hc))⟩

/-- The impact estimate scales the output in `u128`. -/
theorem amountOut_of_estimatePriceImpactBps {reserveIn reserveOut amountIn amountOut impact : Nat}
    (h : estimatePriceImpactBps reserveIn reserveOut amountIn amountOut = .ok impact) :
    amountOut * bpsDenominator < 2 ^ 128 := by
  obtain ⟨quoted, -, h⟩ := okOr_bind_eq_ok_iff.mp h
  obtain ⟨realized, hrealized, -⟩ := okOr_bind_eq_ok_iff.mp h
  exact (checkedMul_eq_some_iff.mp hrealized).1

/-- What an accepted quote went through. The token only matters up to case:
it selects the two reserves. -/
structure QuoteStep (pool : V2PoolState) (tokenIn : String) (amountIn impact : Nat) : Prop where
  token : pool.containsToken tokenIn = true
  input : 0 < amountIn
  fee : pool.feeBps ≤ bpsDenominator
  withFee : amountIn * (bpsDenominator - pool.feeBps) < 2 ^ 128
  numerator : amountIn * (bpsDenominator - pool.feeBps) * pool.reserveOut tokenIn < 2 ^ 128
  scaled : pool.reserveIn tokenIn * bpsDenominator < 2 ^ 128
  denominator : pool.reserveIn tokenIn * bpsDenominator
    + amountIn * (bpsDenominator - pool.feeBps) < 2 ^ 128
  paid : 0 < pool.exactOut tokenIn amountIn
  impact : estimatePriceImpactBps (pool.reserveIn tokenIn) (pool.reserveOut tokenIn) amountIn
    (pool.exactOut tokenIn amountIn) = .ok impact

def quoteOf (pool : V2PoolState) (tokenIn : String) (amountIn impact : Nat) : PoolQuote :=
  { poolAddress := pool.address, tokenIn, tokenOut := pool.tokenOut tokenIn, amountIn,
    amountOut := pool.exactOut tokenIn amountIn, feeBps := pool.feeBps, priceImpactBps := impact }

@[simp] theorem quoteOf_tokenOut (pool : V2PoolState) (tokenIn : String) (amountIn impact : Nat) :
    (pool.quoteOf tokenIn amountIn impact).tokenOut = pool.tokenOut tokenIn := rfl

@[simp] theorem quoteOf_amountOut (pool : V2PoolState) (tokenIn : String) (amountIn impact : Nat) :
    (pool.quoteOf tokenIn amountIn impact).amountOut = pool.exactOut tokenIn amountIn := rfl

/-- **Inversion of a quote.** -/
theorem quoteExactIn_ok {pool : V2PoolState} {tokenIn : String} {amountIn : Nat}
    {q : PoolQuote} (h : pool.quoteExactIn tokenIn amountIn = .ok q) :
    ∃ impact, pool.QuoteStep tokenIn amountIn impact
      ∧ q = pool.quoteOf tokenIn amountIn impact := by
  unfold quoteExactIn at h
  by_cases ha : amountIn = 0
  · rw [if_pos ha] at h; cases h
  · rw [if_neg ha] at h
    obtain ⟨⟨ri, ro, tOut⟩, hdir, h⟩ := okOr_bind_eq_ok_iff.mp h
    obtain ⟨hc, hd⟩ := direction_eq_some hdir
    obtain ⟨rfl, rfl, rfl⟩ : ri = pool.reserveIn tokenIn ∧ ro = pool.reserveOut tokenIn
        ∧ tOut = pool.tokenOut tokenIn := by simpa using hd
    obtain ⟨fee, hfee, h⟩ := okOr_bind_eq_ok_iff.mp h
    obtain ⟨hle, rfl⟩ := checkedSub_eq_some_iff.mp hfee
    obtain ⟨withFee, hwf, h⟩ := okOr_bind_eq_ok_iff.mp h
    obtain ⟨hwithFee, rfl⟩ := checkedMul_eq_some_iff.mp hwf
    obtain ⟨num, hnum, h⟩ := okOr_bind_eq_ok_iff.mp h
    obtain ⟨hnumerator, rfl⟩ := checkedMul_eq_some_iff.mp hnum
    obtain ⟨den, hden, h⟩ := okOr_bind_eq_ok_iff.mp h
    obtain ⟨rd, hrd, hadd⟩ := Option.bind_eq_some_iff.mp hden
    obtain ⟨hscaled, rfl⟩ := checkedMul_eq_some_iff.mp hrd
    obtain ⟨hdenominator, rfl⟩ := checkedAdd_eq_some_iff.mp hadd
    by_cases hz : amountIn * (bpsDenominator - pool.feeBps) * pool.reserveOut tokenIn
        / (pool.reserveIn tokenIn * bpsDenominator
          + amountIn * (bpsDenominator - pool.feeBps)) = 0
    · rw [if_pos hz] at h; cases h
    · rw [if_neg hz] at h
      obtain ⟨impact, himpact, h⟩ := bind_eq_ok_iff.mp h
      exact ⟨impact, ⟨hc, Nat.pos_of_ne_zero ha, hle, hwithFee, hnumerator, hscaled, hdenominator,
        Nat.pos_of_ne_zero hz, himpact⟩, (Except.ok.inj h).symm⟩

/-- The output is far below `u128` itself, since the impact estimate scales
it. -/
theorem QuoteStep.exactOut_lt {pool : V2PoolState} {tokenIn : String} {amountIn impact : Nat}
    (h : pool.QuoteStep tokenIn amountIn impact) :
    pool.exactOut tokenIn amountIn * bpsDenominator < 2 ^ 128 :=
  amountOut_of_estimatePriceImpactBps h.impact

theorem QuoteStep.quoteExactIn_eq {pool : V2PoolState} {tokenIn : String} {amountIn impact : Nat}
    (h : pool.QuoteStep tokenIn amountIn impact) :
    pool.quoteExactIn tokenIn amountIn = .ok (pool.quoteOf tokenIn amountIn impact) := by
  have hpaid : amountIn * (bpsDenominator - pool.feeBps) * pool.reserveOut tokenIn
      / (pool.reserveIn tokenIn * bpsDenominator
        + amountIn * (bpsDenominator - pool.feeBps)) ≠ 0 := h.paid.ne'
  have himpact := h.impact
  unfold exactOut ConstantProduct.out at himpact
  unfold quoteExactIn
  rw [if_neg h.input.ne', direction_of_containsToken h.token, okOr_some, ok_bind]
  dsimp only
  rw [checkedSub_eq_some_iff.mpr ⟨h.fee, rfl⟩, okOr_some, ok_bind,
    checkedMul_eq_some_iff.mpr ⟨h.withFee, rfl⟩, okOr_some, ok_bind,
    checkedMul_eq_some_iff.mpr ⟨h.numerator, rfl⟩, okOr_some, ok_bind,
    checkedMul_eq_some_iff.mpr ⟨h.scaled, rfl⟩, Option.bind_some,
    checkedAdd_eq_some_iff.mpr ⟨h.denominator, rfl⟩, okOr_some, ok_bind, if_neg hpaid, himpact,
    ok_bind]
  rfl

/-! ## Quotes over the whole on-chain range

A pair contract reports its reserves as `uint112`. For reserves and an
input in that range only two of the quote's steps can leave `u128`: the
product of the numerator and the last scaling of the impact estimate. -/

/-- The two `u128` steps of a quote that can overflow on `uint112`
inputs, in unbounded integers: the numerator, and the price drop in bps
of bps that the impact estimate scales when there is an output at all. -/
def QuoteFits (pool : V2PoolState) (tokenIn : String) (amountIn : Nat) : Prop :=
  amountIn * (bpsDenominator - pool.feeBps) * pool.reserveOut tokenIn < 2 ^ 128
    ∧ (1 ≤ pool.exactOut tokenIn amountIn →
        (pool.reserveOut tokenIn * bpsDenominator / pool.reserveIn tokenIn
          - pool.exactOut tokenIn amountIn * bpsDenominator / amountIn)
          * bpsDenominator < 2 ^ 128)

/-- The quote is the closed form: its value when that is at least one,
and `InsufficientLiquidity` otherwise. -/
def QuotesExactly (pool : V2PoolState) (tokenIn : String) (amountIn : Nat) : Prop :=
  if 1 ≤ pool.exactOut tokenIn amountIn then
    ∃ q, pool.quoteExactIn tokenIn amountIn = .ok q
      ∧ q.amountOut = pool.exactOut tokenIn amountIn
  else pool.quoteExactIn tokenIn amountIn = .error .insufficientLiquidity

end V2PoolState

/-- On `uint112` reserves the impact estimate fails in its last scaling or
not at all. -/
theorem estimatePriceImpactBps_range (ri : Nat) {ro a out : Nat} (hro : ro < 2 ^ 112)
    (hout : out ≤ ro) (ha : 0 < a) :
    ((ro * bpsDenominator / ri - out * bpsDenominator / a) * bpsDenominator < 2 ^ 128 →
        ∃ impact, estimatePriceImpactBps ri ro a out = .ok impact)
      ∧ (2 ^ 128 ≤ (ro * bpsDenominator / ri - out * bpsDenominator / a) * bpsDenominator →
        estimatePriceImpactBps ri ro a out = .error .arithmeticOverflow) := by
  have hq : checkedMul 128 ro bpsDenominator = some (ro * bpsDenominator) :=
    checkedMul_eq_some_iff.mpr ⟨by unfold bpsDenominator; omega, rfl⟩
  have hr : checkedMul 128 out bpsDenominator = some (out * bpsDenominator) :=
    checkedMul_eq_some_iff.mpr ⟨by unfold bpsDenominator; omega, rfl⟩
  have hmax : max a 1 = a := by omega
  unfold estimatePriceImpactBps
  simp only [hq, hr, okOr_some, ok_bind, hmax]
  generalize hQ : ro * bpsDenominator / ri = quoted
  generalize hR : out * bpsDenominator / a = realized
  by_cases hflat : quoted = 0 ∨ quoted ≤ realized
  · -- no price drop: the estimate is zero, and so is the scaled difference
    rw [if_pos hflat]
    have h0 : quoted - realized = 0 := by omega
    exact ⟨fun _ => ⟨0, rfl⟩, fun h => absurd h (by rw [h0]; norm_num)⟩
  · rw [if_neg hflat]
    constructor
    · intro hfit
      rw [checkedMul_eq_some_iff.mpr ⟨hfit, rfl⟩]
      exact ⟨_, rfl⟩
    · intro hover
      rw [checkedMul_eq_none_iff.mpr hover]
      rfl

namespace V2PoolState

/-- The quote on a valid pool with `uint112` reserves and input, with only
the steps left that can fail there. -/
theorem quoteExactIn_range {pool : V2PoolState} {tokenIn : String} {amountIn : Nat}
    (hfee : pool.feeBps < bpsDenominator) (hri : pool.reserveIn tokenIn < 2 ^ 112)
    (ht : pool.containsToken tokenIn = true)
    (ha : 1 ≤ amountIn) (ha' : amountIn < 2 ^ 112) :
    (2 ^ 128 ≤ amountIn * (bpsDenominator - pool.feeBps) * pool.reserveOut tokenIn →
        pool.quoteExactIn tokenIn amountIn = .error .arithmeticOverflow)
      ∧ (amountIn * (bpsDenominator - pool.feeBps) * pool.reserveOut tokenIn < 2 ^ 128 →
        pool.quoteExactIn tokenIn amountIn =
          if pool.exactOut tokenIn amountIn = 0 then .error .insufficientLiquidity
          else do
            let priceImpactBps ← estimatePriceImpactBps (pool.reserveIn tokenIn)
              (pool.reserveOut tokenIn) amountIn (pool.exactOut tokenIn amountIn)
            return { poolAddress := pool.address, tokenIn,
                     tokenOut := pool.tokenOut tokenIn, amountIn,
                     amountOut := pool.exactOut tokenIn amountIn,
                     feeBps := pool.feeBps, priceImpactBps }) := by
  have hsub : checkedSub bpsDenominator pool.feeBps = some (bpsDenominator - pool.feeBps) :=
    checkedSub_eq_some_iff.mpr ⟨hfee.le, rfl⟩
  have hwithFee : amountIn * (bpsDenominator - pool.feeBps) < 2 ^ 126 := by
    have : amountIn * (bpsDenominator - pool.feeBps) ≤ amountIn * bpsDenominator :=
      Nat.mul_le_mul_left _ (Nat.sub_le _ _)
    unfold bpsDenominator at *
    omega
  have hmul : checkedMul 128 amountIn (bpsDenominator - pool.feeBps)
      = some (amountIn * (bpsDenominator - pool.feeBps)) :=
    checkedMul_eq_some_iff.mpr ⟨by omega, rfl⟩
  have hden : (checkedMul 128 (pool.reserveIn tokenIn) bpsDenominator).bind
        (checkedAdd 128 · (amountIn * (bpsDenominator - pool.feeBps)))
      = some (pool.reserveIn tokenIn * bpsDenominator
          + amountIn * (bpsDenominator - pool.feeBps)) := by
    have hrd : pool.reserveIn tokenIn * bpsDenominator < 2 ^ 126 := by
      unfold bpsDenominator; omega
    rw [checkedMul_eq_some_iff.mpr ⟨by omega, rfl⟩]
    exact checkedAdd_eq_some_iff.mpr ⟨by omega, rfl⟩
  unfold quoteExactIn
  rw [if_neg (by omega), direction_of_containsToken ht]
  simp only [okOr_some, ok_bind, hsub, hmul]
  constructor
  · intro hover
    rw [checkedMul_eq_none_iff.mpr hover]
    rfl
  · intro hfit
    rw [checkedMul_eq_some_iff.mpr ⟨hfit, rfl⟩]
    simp only [okOr_some, ok_bind, hden]
    rfl

/-- What holds of both reserves holds of the input reserve. -/
theorem reserveIn_of {pool : V2PoolState} (tokenIn : String) {P : Nat → Prop}
    (h0 : P pool.reserve0) (h1 : P pool.reserve1) : P (pool.reserveIn tokenIn) := by
  unfold reserveIn
  split <;> assumption

theorem reserveOut_of {pool : V2PoolState} (tokenIn : String) {P : Nat → Prop}
    (h0 : P pool.reserve0) (h1 : P pool.reserve1) : P (pool.reserveOut tokenIn) := by
  unfold reserveOut
  split <;> assumption

theorem validate_ok_iff {pool : V2PoolState} :
    pool.validate = .ok () ↔ pool.token0 ≠ pool.token1 ∧ 0 < pool.reserve0
      ∧ 0 < pool.reserve1 ∧ pool.feeBps < bpsDenominator := by
  unfold validate
  split_ifs <;> simp_all <;> omega

theorem reserveIn_pos {pool : V2PoolState} (hvalid : pool.validate = .ok ()) (token : String) :
    0 < pool.reserveIn token := by
  obtain ⟨-, h0, h1, -⟩ := validate_ok_iff.mp hvalid
  exact reserveIn_of (P := (0 < ·)) token h0 h1

theorem reserveOut_pos {pool : V2PoolState} (hvalid : pool.validate = .ok ()) (token : String) :
    0 < pool.reserveOut token := by
  obtain ⟨-, h0, h1, -⟩ := validate_ok_iff.mp hvalid
  exact reserveOut_of (P := (0 < ·)) token h0 h1

/-- **Where V2 quotes cover the on-chain range.** On a valid pool with
`uint112` reserves and input, the quote is the closed form exactly when
the two `u128` intermediates fit; everywhere else it is an
`ArithmeticOverflow`. -/
theorem quotesExactly_iff {pool : V2PoolState} {tokenIn : String} {amountIn : Nat}
    (hv : pool.validate = .ok ()) (h0 : pool.reserve0 < 2 ^ 112)
    (h1 : pool.reserve1 < 2 ^ 112) (ht : pool.containsToken tokenIn = true)
    (ha : 1 ≤ amountIn) (ha' : amountIn < 2 ^ 112) :
    pool.QuotesExactly tokenIn amountIn ↔ pool.QuoteFits tokenIn amountIn := by
  obtain ⟨-, -, -, hfee⟩ := validate_ok_iff.mp hv
  obtain ⟨hover, hfits⟩ :=
    quoteExactIn_range hfee (reserveIn_of (P := (· < 2 ^ 112)) tokenIn h0 h1) ht ha ha'
  have hout : pool.exactOut tokenIn amountIn ≤ pool.reserveOut tokenIn :=
    ConstantProduct.out_le_reserve ..
  obtain ⟨himpact, himpact'⟩ := estimatePriceImpactBps_range (pool.reserveIn tokenIn)
    (reserveOut_of (P := (· < 2 ^ 112)) tokenIn h0 h1) hout ha
  unfold QuotesExactly QuoteFits
  by_cases hnum : amountIn * (bpsDenominator - pool.feeBps) * pool.reserveOut tokenIn < 2 ^ 128
  · rw [hfits hnum]
    by_cases hz : pool.exactOut tokenIn amountIn = 0
    · -- nothing to pay out: the impact estimate is never reached
      simpa [hz] using hnum
    · have hpos : 1 ≤ pool.exactOut tokenIn amountIn := by omega
      simp only [hz, hpos, if_true, if_false, hnum, true_and, true_implies]
      constructor
      · rintro ⟨q, hq, -⟩
        by_contra hbig
        rw [himpact' (by omega)] at hq
        cases hq
      · intro hfit
        obtain ⟨impact, hi⟩ := himpact hfit
        rw [hi]
        exact ⟨_, rfl, rfl⟩
  · rw [hover (by omega)]
    constructor
    · intro h
      split at h
      · obtain ⟨q, hq, -⟩ := h
        cases hq
      · cases h
    · exact fun h => absurd h.1 hnum

/-- The pair of the unit tests, 10 WETH against 25 000 USDC. -/
def samplePool : V2PoolState :=
  { address := "0xpool", protocol := .uniswapV2, exchange := some .aerodrome,
    token0 := "0xweth", token1 := "0xusdc",
    reserve0 := 10000000000000000000, reserve1 := 25000000000, feeBps := 30,
    lastUpdatedBlock := none }

theorem samplePool_quotesExactly :
    samplePool.validate = .ok () ∧ samplePool.containsToken "0xweth" = true
      ∧ samplePool.QuotesExactly "0xweth" 1000000000000000000 := by
  have hvalid : samplePool.validate = .ok () := by decide
  have htoken : samplePool.containsToken "0xweth" = true := by decide
  have hfits : samplePool.QuoteFits "0xweth" 1000000000000000000 := ⟨by decide, by decide⟩
  refine ⟨hvalid, htoken, ?_⟩
  exact (quotesExactly_iff hvalid (by decide) (by decide) htoken (by decide)
    (by decide)).mpr hfits

/-- **A quote is the largest output the pair accepts.** Whatever the quote
pays passes the pair's check with the fee on the input, and one unit more
fails it; so the whole reserve is never paid out, and the plain product of
the reserves does not shrink. -/
theorem quoteExactIn_largest {pool : V2PoolState} {tokenIn : String} {amountIn : Nat}
    {q : PoolQuote} (hv : pool.validate = .ok ())
    (hq : pool.quoteExactIn tokenIn amountIn = .ok q) :
    (∀ o ≤ pool.reserveOut tokenIn,
        (10000 * pool.reserveIn tokenIn * pool.reserveOut tokenIn
            ≤ (10000 * pool.reserveIn tokenIn + amountIn * (10000 - pool.feeBps))
              * (pool.reserveOut tokenIn - o)
          ↔ o ≤ q.amountOut))
      ∧ 0 < q.amountOut ∧ q.amountOut < pool.reserveOut tokenIn
      ∧ pool.reserveIn tokenIn * pool.reserveOut tokenIn
          ≤ (pool.reserveIn tokenIn + amountIn) * (pool.reserveOut tokenIn - q.amountOut) := by
  obtain ⟨impact, hstep, rfl⟩ := quoteExactIn_ok hq
  have hin : 0 < pool.reserveIn tokenIn * bpsDenominator :=
    Nat.mul_pos (reserveIn_pos hv tokenIn) (by decide)
  refine ⟨fun o ho => ConstantProduct.product_le_iff_le_out hin ho, hstep.paid, ?_, ?_⟩
  · exact ConstantProduct.out_lt_reserve hin (reserveOut_pos hv tokenIn)
  · exact ConstantProduct.product_le_of_out hin (Nat.sub_le _ _)

/-- One WETH into the sample pool pays 2 266.527234 USDC, and not a unit
more would pass the pair's check. -/
theorem samplePool_quote_largest :
    samplePool.quoteExactIn "0xweth" 1000000000000000000
        = .ok ⟨"0xpool", "0xweth", "0xusdc", 1000000000000000000, 2266527234, 30, 0⟩
      ∧ ∀ o ≤ samplePool.reserveOut "0xweth",
          (10000 * samplePool.reserveIn "0xweth" * samplePool.reserveOut "0xweth"
              ≤ (10000 * samplePool.reserveIn "0xweth"
                  + 1000000000000000000 * (10000 - samplePool.feeBps))
                * (samplePool.reserveOut "0xweth" - o)
            ↔ o ≤ 2266527234) := by
  have hvalid : samplePool.validate = .ok () := by decide
  have hquote : samplePool.quoteExactIn "0xweth" 1000000000000000000
      = .ok ⟨"0xpool", "0xweth", "0xusdc", 1000000000000000000, 2266527234, 30, 0⟩ := by
    decide
  exact ⟨hquote, (quoteExactIn_largest hvalid hquote).1⟩

/-- The first pool of `config/v2-pool-bootstrap.example.json`, 100 WETH
against 250 000 DEGEN, both with 18 decimals. -/
def bootstrapPool : V2PoolState :=
  { address := "0x1111111111111111111111111111111111111111",
    protocol := .uniswapV2, exchange := some .aerodrome,
    token0 := "0x4200000000000000000000000000000000000006",
    token1 := "0x4ed4e862860bed51a9570b96d89af5e1b0efefed",
    reserve0 := 100000000000000000000, reserve1 := 250000000000000000000000,
    feeBps := 30, lastUpdatedBlock := none }

/-- One WETH into the bootstrap pool: the closed form pays about 2 468
DEGEN, the code answers `ArithmeticOverflow`. -/
theorem bootstrapPool_not_quotesExactly :
    bootstrapPool.validate = .ok ()
      ∧ bootstrapPool.reserve0 < 2 ^ 112 ∧ bootstrapPool.reserve1 < 2 ^ 112
      ∧ bootstrapPool.containsToken "0x4200000000000000000000000000000000000006" = true
      ∧ bootstrapPool.quoteExactIn "0x4200000000000000000000000000000000000006"
          1000000000000000000 = .error .arithmeticOverflow
      ∧ ¬ bootstrapPool.QuotesExactly "0x4200000000000000000000000000000000000006"
          1000000000000000000 := by
  have hquote : bootstrapPool.quoteExactIn "0x4200000000000000000000000000000000000006"
      1000000000000000000 = .error .arithmeticOverflow := by decide
  refine ⟨by decide, by decide, by decide, by decide, hquote, fun h => ?_⟩
  unfold QuotesExactly at h
  rw [hquote] at h
  split at h
  · obtain ⟨q, hq, -⟩ := h
    cases hq
  · cases h

end V2PoolState

end BaseEngine
