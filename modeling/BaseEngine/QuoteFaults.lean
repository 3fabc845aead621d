import BaseEngine.Lib.Faulting
import BaseEngine.PoolBook
import BaseEngine.V3Quote

/-!
# Unchecked arithmetic in quotes

The quotes of both pool families divide, and here and there subtract,
without a check. `quoteExactInFaulting` is each of the two programs with
these operations as the machine has them: a division by zero and a
difference below zero stop the program. The V3 quote is written over `Words`,
since `PriceStep` reads the same program in another way.

On a pool in range (`V2PoolState.InRange`, `V3PoolState.InRange`) nothing
of this happens: the program returns what `quoteExactIn` says, for every
token and amount (`PoolState.quoteExactInFaulting_of_inRange`). The proofs
walk down the two programs side by side; every unchecked operation leaves
one obligation on its operands.
-/

namespace BaseEngine

open Fallible Machine Faulting
open Words (checked plain)

/-! ## Constant product -/

def estimatePriceImpactBpsFaulting (reserveIn reserveOut amountIn amountOut : Nat) :
    Program MarketError Nat := do
  let quotedPriceNumerator ←
    returns (okOr (checkedMul 128 reserveOut bpsDenominator) .arithmeticOverflow)
  let quotedPrice ← div quotedPriceNumerator reserveIn
  let realizedPriceNumerator ←
    returns (okOr (checkedMul 128 amountOut bpsDenominator) .arithmeticOverflow)
  let realizedPrice ← div realizedPriceNumerator (max amountIn 1)
  if quotedPrice = 0 ∨ quotedPrice ≤ realizedPrice then
    returns (.ok 0)
  else
    let delta ← sub quotedPrice realizedPrice
    let scaled ← returns (okOr (checkedMul 128 delta bpsDenominator) .arithmeticOverflow)
    let impact ← div scaled quotedPrice
    returns (.ok (min impact u32Max))

theorem estimatePriceImpactBpsFaulting_of_pos {reserveIn : Nat} (h : 0 < reserveIn)
    (reserveOut amountIn amountOut : Nat) :
    estimatePriceImpactBpsFaulting reserveIn reserveOut amountIn amountOut
      = returns (estimatePriceImpactBps reserveIn reserveOut amountIn amountOut) := by
  unfold estimatePriceImpactBpsFaulting estimatePriceImpactBps
  refine bind_returns fun quoted _ => ?_
  rw [div_eq_returns h, returns_ok_bind]
  refine bind_returns fun realized _ => ?_
  have hamount : 0 < max amountIn 1 := by omega
  rw [div_eq_returns hamount, returns_ok_bind]
  generalize quoted / reserveIn = quotedPrice
  generalize realized / max amountIn 1 = realizedPrice
  by_cases hflat : quotedPrice = 0 ∨ quotedPrice ≤ realizedPrice
  · rw [if_pos hflat, if_pos hflat]
    rfl
  · have hle : realizedPrice ≤ quotedPrice := by omega
    have hquoted : 0 < quotedPrice := by omega
    rw [if_neg hflat, if_neg hflat, sub_eq_returns hle, returns_ok_bind]
    refine bind_returns fun scaled _ => ?_
    rw [div_eq_returns hquoted, returns_ok_bind]
    rfl

namespace V2PoolState

/-- What a quote relies on. -/
structure InRange (pool : V2PoolState) : Prop where
  reserve0 : 0 < pool.reserve0
  reserve1 : 0 < pool.reserve1

def quoteExactInFaulting (pool : V2PoolState) (tokenIn : String) (amountIn : Nat) :
    Program MarketError PoolQuote :=
  if amountIn = 0 then returns (.error .insufficientInput)
  else do
    let (reserveIn, reserveOut, tokenOut) ←
      returns (okOr (pool.direction tokenIn) (.unknownToken pool.address tokenIn))
    let feeMultiplier ←
      returns (okOr (checkedSub bpsDenominator pool.feeBps) .arithmeticOverflow)
    let amountInWithFee ←
      returns (okOr (checkedMul 128 amountIn feeMultiplier) .arithmeticOverflow)
    let numerator ←
      returns (okOr (checkedMul 128 amountInWithFee reserveOut) .arithmeticOverflow)
    let denominator ←
      returns (okOr ((checkedMul 128 reserveIn bpsDenominator).bind
        (checkedAdd 128 · amountInWithFee)) .arithmeticOverflow)
    let amountOut ← div numerator denominator
    if amountOut = 0 then returns (.error .insufficientLiquidity)
    else do
      let priceImpactBps ←
        estimatePriceImpactBpsFaulting reserveIn reserveOut amountIn amountOut
      returns (.ok { poolAddress := pool.address, tokenIn, tokenOut, amountIn,
                     amountOut, feeBps := pool.feeBps, priceImpactBps })

theorem InRange.direction_pos {pool : V2PoolState} (h : pool.InRange) {tokenIn : String}
    {d : Nat × Nat × Address} (hd : pool.direction tokenIn = some d) : 0 < d.1 := by
  unfold direction at hd
  split_ifs at hd with h0 h1
  · obtain rfl := Option.some.inj hd
    exact h.reserve0
  · obtain rfl := Option.some.inj hd
    exact h.reserve1

theorem quoteExactInFaulting_of_inRange {pool : V2PoolState} (h : pool.InRange)
    (tokenIn : String) (amountIn : Nat) :
    pool.quoteExactInFaulting tokenIn amountIn = returns (pool.quoteExactIn tokenIn amountIn) := by
  unfold quoteExactInFaulting quoteExactIn
  by_cases hamount : amountIn = 0
  · rw [if_pos hamount, if_pos hamount]
  · rw [if_neg hamount, if_neg hamount]
    refine bind_returns fun d hd => ?_
    obtain ⟨reserveIn, reserveOut, tokenOut⟩ := d
    have hreserve : 0 < reserveIn := h.direction_pos (okOr_eq_ok hd)
    refine bind_returns fun fee _ => ?_
    refine bind_returns fun withFee _ => ?_
    refine bind_returns fun numerator _ => ?_
    refine bind_returns fun denominator hden => ?_
    obtain ⟨scaled, hscaled, hadd⟩ := Option.bind_eq_some_iff.mp (okOr_eq_ok hden)
    obtain ⟨-, rfl⟩ := checkedMul_eq_some_iff.mp hscaled
    obtain ⟨-, rfl⟩ := checkedAdd_eq_some_iff.mp hadd
    have hpos : 0 < reserveIn * bpsDenominator + withFee := by
      unfold bpsDenominator
      omega
    rw [div_eq_returns hpos, returns_ok_bind]
    by_cases hout : numerator / (reserveIn * bpsDenominator + withFee) = 0
    · rw [if_pos hout, if_pos hout]
    · rw [if_neg hout, if_neg hout, estimatePriceImpactBpsFaulting_of_pos hreserve]
      exact bind_returns fun impact _ => rfl

end V2PoolState

/-! ## Concentrated liquidity -/

namespace V3PoolState

/-- What a quote relies on; a pool may run out of liquidity. -/
structure InRange (pool : V3PoolState) : Prop where
  fee : pool.feePips < feePipsDenominator
  price : minSqrtPrice ≤ pool.sqrtPriceX96

section Program

variable {m : Type → Type} [Monad m] [Words MarketError m]

def impactOfWords (num sqrtBefore : Nat) : m Nat := do
  let scaled ← plain .mul 256 num 20000
  let bps ← plain .div 256 scaled sqrtBefore
  return if u32Max < bps then u32Max else bps % 2 ^ 64 % 2 ^ 32

def priceImpactBpsWords (sqrtBefore sqrtAfter : Nat) (zeroForOne : Bool) : m Nat :=
  if zeroForOne then
    if sqrtBefore ≤ sqrtAfter then return 0
    else do
      let num ← plain .sub 256 sqrtBefore sqrtAfter
      impactOfWords num sqrtBefore
  else if sqrtAfter ≤ sqrtBefore then return 0
  else do
    let num ← plain .sub 256 sqrtAfter sqrtBefore
    impactOfWords num sqrtBefore

def divRoundUpWords (numerator denominator : Nat) : m Nat :=
  if denominator = 0 then checked (.error .arithmeticOverflow)
  else do
    let q ← plain .div 256 numerator denominator
    let r ← plain .rem 256 numerator denominator
    if r = 0 then return q
    else checked (okOr (checkedAdd 256 q 1) .arithmeticOverflow)

def sqrtPriceNextWords (pool : V3PoolState) (zeroForOne : Bool) (amount : Nat) : m Nat := do
  let numerator1 ← checked (mulU256 pool.liquidity q96)
  if zeroForOne then
    let quotient ← plain .div 256 numerator1 pool.sqrtPriceX96
    let divisor ← checked (okOr (checkedAdd 256 quotient amount) .arithmeticOverflow)
    divRoundUpWords numerator1 divisor
  else
    let scaled ← checked (mulU256 amount q96)
    let delta ← plain .div 256 scaled pool.liquidity
    checked (okOr (checkedAdd 256 pool.sqrtPriceX96 delta) .arithmeticOverflow)

def amountOutOfWords (pool : V3PoolState) (zeroForOne : Bool) (next : Nat) : m Nat := do
  if zeroForOne then
    let diff ← checked (okOr (checkedSub pool.sqrtPriceX96 next) .arithmeticOverflow)
    let scaled ← checked (mulU256 pool.liquidity diff)
    plain .div 256 scaled q96
  else
    let diff ← checked (okOr (checkedSub next pool.sqrtPriceX96) .arithmeticOverflow)
    let scaled ← checked (mulU256 pool.liquidity diff)
    let numerator ← checked (mulU256 scaled q96)
    let denominator ← checked (mulU256 pool.sqrtPriceX96 next)
    plain .div 256 numerator denominator

/-- The quote with its plain operations. The fee is taken in `u128`, everything
after it is `U256`, and the impact is estimated twice. -/
def quoteExactInWords (pool : V3PoolState) (tokenIn : String) (amountIn : Nat) : m PoolQuote :=
  if amountIn = 0 then checked (.error .insufficientInput)
  else if pool.liquidity = 0 then checked (.error .insufficientLiquidity)
  else do
    let zeroForOne ←
      checked (okOr (pool.zeroForOne tokenIn) (.unknownToken pool.address tokenIn))
    let feeMultiplier ← plain .sub 128 feePipsDenominator pool.feePips
    let withFee ← checked (okOr (checkedMul 128 amountIn feeMultiplier) .arithmeticOverflow)
    let amountInLessFee ← plain .div 128 withFee feePipsDenominator
    if amountInLessFee = 0 then checked (.error .insufficientInput)
    else do
      let next ← pool.sqrtPriceNextWords zeroForOne amountInLessFee
      let provisionalImpact ← priceImpactBpsWords pool.sqrtPriceX96 next zeroForOne
      if maxInRangeImpactBps < provisionalImpact then checked (.error .insufficientLiquidity)
      else do
        let out ← pool.amountOutOfWords zeroForOne next
        let amountOut ← checked (u256ToU128 out)
        if amountOut = 0 then checked (.error .insufficientLiquidity)
        else do
          let priceImpactBps ← priceImpactBpsWords pool.sqrtPriceX96 next zeroForOne
          return { poolAddress := pool.address, tokenIn,
                   tokenOut := if zeroForOne then pool.token1 else pool.token0,
                   amountIn, amountOut, feeBps := (pool.feePips + 99) / 100,
                   priceImpactBps }

end Program

/-- The quote on a machine that stops. -/
def quoteExactInFaulting (pool : V3PoolState) (tokenIn : String) (amountIn : Nat) :
    Program MarketError PoolQuote :=
  pool.quoteExactInWords tokenIn amountIn

theorem priceImpactBpsWords_of_pos {sqrtBefore : Nat} (h : 0 < sqrtBefore)
    (sqrtAfter : Nat) (zeroForOne : Bool) :
    (priceImpactBpsWords sqrtBefore sqrtAfter zeroForOne : Program MarketError Nat)
      = returns (.ok (priceImpactBps sqrtBefore sqrtAfter zeroForOne)) := by
  have himpact : ∀ num, (impactOfWords num sqrtBefore : Program MarketError Nat)
      = returns (.ok (impactOf num sqrtBefore)) := by
    intro num
    unfold impactOfWords
    rw [plain_mul, returns_ok_bind, plain_div h, returns_ok_bind]
    rfl
  unfold priceImpactBpsWords priceImpactBps
  cases zeroForOne with
  | true =>
      simp only [if_true]
      by_cases hle : sqrtBefore ≤ sqrtAfter
      · rw [if_pos hle, if_pos hle]
        rfl
      · rw [if_neg hle, if_neg hle, plain_sub (Nat.le_of_not_le hle), returns_ok_bind,
          himpact]
  | false =>
      simp only [Bool.false_eq_true, if_false]
      by_cases hle : sqrtAfter ≤ sqrtBefore
      · rw [if_pos hle, if_pos hle]
        rfl
      · rw [if_neg hle, if_neg hle, plain_sub (Nat.le_of_not_le hle), returns_ok_bind,
          himpact]

theorem divRoundUpWords_eq (numerator denominator : Nat) :
    (divRoundUpWords numerator denominator : Program MarketError Nat)
      = returns (divRoundUp numerator denominator) := by
  unfold divRoundUpWords divRoundUp
  by_cases hzero : denominator = 0
  · rw [if_pos hzero, if_pos hzero]
    rfl
  · have hpos : 0 < denominator := Nat.pos_of_ne_zero hzero
    rw [if_neg hzero, if_neg hzero, plain_div hpos, returns_ok_bind, plain_rem hpos,
      returns_ok_bind]
    by_cases hrem : numerator % denominator = 0
    · rw [if_pos hrem, if_pos hrem]
      rfl
    · rw [if_neg hrem, if_neg hrem]
      rfl

variable {pool : V3PoolState}

theorem sqrtPriceNextWords_of_pos (hprice : 0 < pool.sqrtPriceX96)
    (hliquidity : 0 < pool.liquidity) (zeroForOne : Bool) (amount : Nat) :
    (pool.sqrtPriceNextWords zeroForOne amount : Program MarketError Nat)
      = returns (pool.sqrtPriceNext zeroForOne amount) := by
  unfold sqrtPriceNextWords sqrtPriceNext
  refine bind_returns fun numerator1 _ => ?_
  cases zeroForOne with
  | true =>
      simp only [if_true, plain_div hprice, returns_ok_bind]
      exact bind_returns fun divisor _ => divRoundUpWords_eq numerator1 divisor
  | false =>
      simp only [Bool.false_eq_true, if_false]
      refine bind_returns fun scaled _ => ?_
      rw [plain_div hliquidity, returns_ok_bind]
      rfl

/-- The next price only matters when it divides, and then it has risen. -/
theorem amountOutOfWords_of_pos (hprice : 0 < pool.sqrtPriceX96) (zeroForOne : Bool)
    (next : Nat) :
    (pool.amountOutOfWords zeroForOne next : Program MarketError Nat)
      = returns (pool.amountOutOf zeroForOne next) := by
  unfold amountOutOfWords amountOutOf
  cases zeroForOne with
  | true =>
      simp only [if_true]
      refine bind_returns fun diff _ => ?_
      refine bind_returns fun scaled _ => ?_
      exact plain_div (by unfold q96; omega)
  | false =>
      simp only [Bool.false_eq_true, if_false]
      refine bind_returns fun diff hdiff => ?_
      obtain ⟨hle, -⟩ := checkedSub_eq_some_iff.mp (okOr_eq_ok hdiff)
      refine bind_returns fun scaled _ => ?_
      refine bind_returns fun numerator _ => ?_
      refine bind_returns fun denominator hden => ?_
      obtain ⟨-, rfl⟩ := checkedMul_eq_some_iff.mp (okOr_eq_ok hden)
      exact plain_div (Nat.mul_pos hprice (Nat.lt_of_lt_of_le hprice hle))

theorem quoteExactInFaulting_of_inRange (h : pool.InRange) (tokenIn : String) (amountIn : Nat) :
    pool.quoteExactInFaulting tokenIn amountIn = returns (pool.quoteExactIn tokenIn amountIn) := by
  have hprice : 0 < pool.sqrtPriceX96 := by
    have hmin := h.price
    unfold minSqrtPrice at hmin
    omega
  unfold quoteExactInFaulting quoteExactInWords quoteExactIn
  by_cases hamount : amountIn = 0
  · rw [if_pos hamount, if_pos hamount]
    rfl
  · rw [if_neg hamount, if_neg hamount]
    by_cases hliquidity : pool.liquidity = 0
    · rw [if_pos hliquidity, if_pos hliquidity]
      rfl
    · rw [if_neg hliquidity, if_neg hliquidity]
      refine bind_returns fun zeroForOne _ => ?_
      rw [plain_sub h.fee.le, returns_ok_bind]
      refine bind_returns fun withFee _ => ?_
      have hdenominator : 0 < feePipsDenominator := by decide
      rw [plain_div hdenominator, returns_ok_bind]
      by_cases hless : withFee / feePipsDenominator = 0
      · rw [if_pos hless, if_pos hless]
        rfl
      · rw [if_neg hless, if_neg hless,
          sqrtPriceNextWords_of_pos hprice (Nat.pos_of_ne_zero hliquidity)]
        refine bind_returns fun next _ => ?_
        have himpact := priceImpactBpsWords_of_pos hprice next zeroForOne
        rw [himpact, returns_ok_bind]
        by_cases hcap : maxInRangeImpactBps < priceImpactBps pool.sqrtPriceX96 next zeroForOne
        · rw [if_pos hcap, if_pos hcap]
          rfl
        · rw [if_neg hcap, if_neg hcap, amountOutOfWords_of_pos hprice]
          refine bind_returns fun out _ => ?_
          refine bind_returns fun amountOut _ => ?_
          by_cases hout : amountOut = 0
          · rw [if_pos hout, if_pos hout]
            rfl
          · rw [if_neg hout, if_neg hout]
            rfl

end V3PoolState

/-! ## Entries of a book -/

namespace PoolState

def quoteExactIn : PoolState → String → Nat → Except MarketError PoolQuote
  | .v2 pool => pool.quoteExactIn
  | .v3 pool => pool.quoteExactIn

def quoteExactInFaulting : PoolState → String → Nat → Program MarketError PoolQuote
  | .v2 pool => pool.quoteExactInFaulting
  | .v3 pool => pool.quoteExactInFaulting

def InRange : PoolState → Prop
  | .v2 pool => pool.InRange
  | .v3 pool => pool.InRange

/-- No unchecked operation of a quote faults on an entry in range. -/
theorem quoteExactInFaulting_of_inRange {entry : PoolState} (h : entry.InRange)
    (tokenIn : String) (amountIn : Nat) :
    entry.quoteExactInFaulting tokenIn amountIn
      = returns (entry.quoteExactIn tokenIn amountIn) := by
  cases entry with
  | v2 pool => exact V2PoolState.quoteExactInFaulting_of_inRange h tokenIn amountIn
  | v3 pool => exact V3PoolState.quoteExactInFaulting_of_inRange h tokenIn amountIn

end PoolState

end BaseEngine
