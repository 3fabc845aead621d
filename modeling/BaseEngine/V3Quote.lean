import BaseEngine.Lib.RangeSwap
import BaseEngine.MarketsV3

/-!
# Quotes of concentrated-liquidity pools

`quote_exact_in` of `crates/markets/src/v3.rs`: the exact-input swap inside
the current price range, in one closed-form step. Prices and liquidity are
`U256` in the source; a multiplication that leaves 256 bits is an error
where the source checks it and wraps in the impact estimate, where it does
not.

`quoteExactIn_eq_ok_iff` says what an accepted quote went through
(`InRangeStep`): the amounts are those of the library's step in unbounded
integers, and every intermediate product fits its word.
-/

namespace BaseEngine

open Fallible Machine Text

namespace V3PoolState

def maxInRangeImpactBps : Nat := 500

def q96 : Nat := 2 ^ 96

def mulU256 (a b : Nat) : Except MarketError Nat :=
  okOr (checkedMul 256 a b) .arithmeticOverflow

def divRoundUp (numerator denominator : Nat) : Except MarketError Nat :=
  if denominator = 0 then .error .arithmeticOverflow
  else if numerator % denominator = 0 then .ok (numerator / denominator)
  else okOr (checkedAdd 256 (numerator / denominator) 1) .arithmeticOverflow

/-- The two upper limbs must be empty. -/
def u256ToU128 (value : Nat) : Except MarketError Nat :=
  if value / 2 ^ 128 ≠ 0 then .error .arithmeticOverflow else .ok value

/-- Impact of a move of `num` away from the price, in bps. -/
def impactOf (num sqrtBefore : Nat) : Nat :=
  let bps := num * 20000 % 2 ^ 256 / sqrtBefore
  if u32Max < bps then u32Max else bps % 2 ^ 64 % 2 ^ 32

def priceImpactBps (sqrtBefore sqrtAfter : Nat) (zeroForOne : Bool) : Nat :=
  if zeroForOne then
    if sqrtBefore ≤ sqrtAfter then 0 else impactOf (sqrtBefore - sqrtAfter) sqrtBefore
  else if sqrtAfter ≤ sqrtBefore then 0 else impactOf (sqrtAfter - sqrtBefore) sqrtBefore

/-- Whether `tokenIn` is the first token, the first one taken first. -/
def zeroForOne (pool : V3PoolState) (tokenIn : String) : Option Bool :=
  if eqIgnoreAsciiCase tokenIn pool.token0 then some true
  else if eqIgnoreAsciiCase tokenIn pool.token1 then some false
  else none

/-- The price after the swap: rounded up when it falls, down when it
rises. -/
def sqrtPriceNext (pool : V3PoolState) (zeroForOne : Bool) (amount : Nat) :
    Except MarketError Nat := do
  let numerator1 ← mulU256 pool.liquidity q96
  if zeroForOne then
    let divisor ← okOr (checkedAdd 256 (numerator1 / pool.sqrtPriceX96) amount)
      .arithmeticOverflow
    divRoundUp numerator1 divisor
  else
    let scaled ← mulU256 amount q96
    okOr (checkedAdd 256 pool.sqrtPriceX96 (scaled / pool.liquidity)) .arithmeticOverflow

/-- The output of the price move, rounded down. -/
def amountOutOf (pool : V3PoolState) (zeroForOne : Bool) (next : Nat) :
    Except MarketError Nat := do
  if zeroForOne then
    let diff ← okOr (checkedSub pool.sqrtPriceX96 next) .arithmeticOverflow
    let scaled ← mulU256 pool.liquidity diff
    return scaled / q96
  else
    let diff ← okOr (checkedSub next pool.sqrtPriceX96) .arithmeticOverflow
    let scaled ← mulU256 pool.liquidity diff
    let numerator ← mulU256 scaled q96
    let denominator ← mulU256 pool.sqrtPriceX96 next
    return numerator / denominator

def quoteExactIn (pool : V3PoolState) (tokenIn : String) (amountIn : Nat) :
    Except MarketError PoolQuote :=
  if amountIn = 0 then .error .insufficientInput
  else if pool.liquidity = 0 then .error .insufficientLiquidity
  else do
    let zeroForOne ← okOr (pool.zeroForOne tokenIn) (.unknownToken pool.address tokenIn)
    let withFee ← okOr (checkedMul 128 amountIn (feePipsDenominator - pool.feePips))
      .arithmeticOverflow
    let amountInLessFee := withFee / feePipsDenominator
    if amountInLessFee = 0 then .error .insufficientInput
    else do
      let next ← pool.sqrtPriceNext zeroForOne amountInLessFee
      let impact := priceImpactBps pool.sqrtPriceX96 next zeroForOne
      if maxInRangeImpactBps < impact then .error .insufficientLiquidity
      else do
        let out ← pool.amountOutOf zeroForOne next
        let amountOut ← u256ToU128 out
        if amountOut = 0 then .error .insufficientLiquidity
        else
          return { poolAddress := pool.address, tokenIn,
                   tokenOut := if zeroForOne then pool.token1 else pool.token0,
                   amountIn, amountOut, feeBps := (pool.feePips + 99) / 100,
                   priceImpactBps := impact }

/-! ## The step in unbounded integers -/

/-- The input that moves the price. -/
def lessFee (pool : V3PoolState) (amountIn : Nat) : Nat :=
  amountIn * (feePipsDenominator - pool.feePips) / feePipsDenominator

/-- The price after the swap, in one of the library's two directions. The
equations below are no `rfl` lemmas: unfolding a product by `2 ^ 96` is
unary in the kernel. -/
def nextPrice (pool : V3PoolState) (zeroForOne : Bool) (amount : Nat) : Nat :=
  if zeroForOne then RangeSwap.fall q96 pool.liquidity pool.sqrtPriceX96 amount
  else RangeSwap.rise q96 pool.liquidity pool.sqrtPriceX96 amount

def outAt (pool : V3PoolState) (zeroForOne : Bool) (next : Nat) : Nat :=
  if zeroForOne then RangeSwap.outFall q96 pool.liquidity pool.sqrtPriceX96 next
  else RangeSwap.outRise q96 pool.liquidity pool.sqrtPriceX96 next

@[simp] theorem nextPrice_true (pool : V3PoolState) (amount : Nat) :
    pool.nextPrice true amount
      = RangeSwap.fall q96 pool.liquidity pool.sqrtPriceX96 amount := by
  rw [nextPrice, if_pos rfl]

@[simp] theorem nextPrice_false (pool : V3PoolState) (amount : Nat) :
    pool.nextPrice false amount
      = RangeSwap.rise q96 pool.liquidity pool.sqrtPriceX96 amount := by
  rw [nextPrice, if_neg Bool.false_ne_true]

@[simp] theorem outAt_true (pool : V3PoolState) (next : Nat) :
    pool.outAt true next
      = RangeSwap.outFall q96 pool.liquidity pool.sqrtPriceX96 next := by
  rw [outAt, if_pos rfl]

@[simp] theorem outAt_false (pool : V3PoolState) (next : Nat) :
    pool.outAt false next
      = RangeSwap.outRise q96 pool.liquidity pool.sqrtPriceX96 next := by
  rw [outAt, if_neg Bool.false_ne_true]

/-- What the computation of the next price needs to fit. -/
def PriceFits (pool : V3PoolState) (zeroForOne : Bool) (amount : Nat) : Prop :=
  pool.liquidity * q96 < 2 ^ 256 ∧
    if zeroForOne then
      0 < pool.liquidity * q96 / pool.sqrtPriceX96 + amount
        ∧ pool.liquidity * q96 / pool.sqrtPriceX96 + amount < 2 ^ 256
    else amount * q96 < 2 ^ 256 ∧ pool.nextPrice false amount < 2 ^ 256

/-- What the computation of the output needs to fit. -/
def OutFits (pool : V3PoolState) (zeroForOne : Bool) (next : Nat) : Prop :=
  if zeroForOne then
    next ≤ pool.sqrtPriceX96 ∧ pool.liquidity * (pool.sqrtPriceX96 - next) < 2 ^ 256
  else
    pool.sqrtPriceX96 ≤ next
      ∧ pool.liquidity * (next - pool.sqrtPriceX96) * q96 < 2 ^ 256
      ∧ pool.sqrtPriceX96 * next < 2 ^ 256

theorem mulU256_eq_ok_iff {a b c : Nat} : mulU256 a b = .ok c ↔ a * b < 2 ^ 256 ∧ a * b = c := by
  unfold mulU256
  rw [okOr_eq_ok_iff, checkedMul_eq_some_iff]

theorem divRoundUp_eq {numerator denominator : Nat} (hpos : 0 < denominator)
    (hfit : numerator < 2 ^ 256) :
    divRoundUp numerator denominator = .ok (numerator ⌈/⌉ denominator) := by
  unfold divRoundUp
  rw [Rounding.ceilDiv_eq_ite hpos, if_neg hpos.ne']
  by_cases hmod : numerator % denominator = 0
  · rw [if_pos hmod, if_pos hmod]
  · have hlt : numerator / denominator + 1 < 2 ^ 256 := by
      -- a remainder needs a divisor above one
      have hdenominator : 2 ≤ denominator := by
        by_contra hone
        have : denominator = 1 := by omega
        exact hmod (by rw [this, Nat.mod_one])
      have hhalf : numerator / denominator ≤ numerator / 2 :=
        Nat.div_le_div_left hdenominator Nat.two_pos
      omega
    rw [if_neg hmod, if_neg hmod, checkedAdd_eq_some_iff.mpr ⟨hlt, rfl⟩, okOr_some]

theorem sqrtPriceNext_eq_ok_iff {pool : V3PoolState} {zeroForOne : Bool} {amount next : Nat} :
    pool.sqrtPriceNext zeroForOne amount = .ok next
      ↔ pool.PriceFits zeroForOne amount ∧ pool.nextPrice zeroForOne amount = next := by
  unfold sqrtPriceNext PriceFits
  simp only [bind_eq_ok_iff, mulU256_eq_ok_iff]
  cases zeroForOne with
  | true =>
      simp only [if_true, bind_eq_ok_iff, okOr_eq_ok_iff, checkedAdd_eq_some_iff,
        nextPrice_true, RangeSwap.fall]
      constructor
      · rintro ⟨numerator, ⟨hnumerator, rfl⟩, divisor, ⟨hdivisor, rfl⟩, hnext⟩
        have hpos : 0 < pool.liquidity * q96 / pool.sqrtPriceX96 + amount := by
          refine Nat.pos_of_ne_zero fun hzero => ?_
          rw [divRoundUp, if_pos hzero] at hnext
          cases hnext
        rw [divRoundUp_eq hpos hnumerator] at hnext
        exact ⟨⟨hnumerator, hpos, hdivisor⟩, Except.ok.inj hnext⟩
      · rintro ⟨⟨hnumerator, hpos, hdivisor⟩, rfl⟩
        exact ⟨_, ⟨hnumerator, rfl⟩, _, ⟨hdivisor, rfl⟩, divRoundUp_eq hpos hnumerator⟩
  | false =>
      simp only [Bool.false_eq_true, if_false, bind_eq_ok_iff, mulU256_eq_ok_iff,
        okOr_eq_ok_iff, checkedAdd_eq_some_iff, nextPrice_false, RangeSwap.rise]
      constructor
      · rintro ⟨numerator, ⟨hnumerator, rfl⟩, scaled, ⟨hscaled, rfl⟩, hnext, rfl⟩
        exact ⟨⟨hnumerator, hscaled, hnext⟩, rfl⟩
      · rintro ⟨⟨hnumerator, hscaled, hnext⟩, rfl⟩
        exact ⟨_, ⟨hnumerator, rfl⟩, _, ⟨hscaled, rfl⟩, hnext, rfl⟩

theorem amountOutOf_eq_ok_iff {pool : V3PoolState} {zeroForOne : Bool} {next out : Nat} :
    pool.amountOutOf zeroForOne next = .ok out
      ↔ pool.OutFits zeroForOne next ∧ pool.outAt zeroForOne next = out := by
  unfold amountOutOf OutFits
  cases zeroForOne with
  | true =>
      simp only [if_true, bind_eq_ok_iff, okOr_eq_ok_iff, checkedSub_eq_some_iff,
        mulU256_eq_ok_iff, outAt_true, RangeSwap.outFall]
      constructor
      · rintro ⟨diff, ⟨hdiff, rfl⟩, scaled, ⟨hscaled, rfl⟩, hout⟩
        exact ⟨⟨hdiff, hscaled⟩, Except.ok.inj hout⟩
      · rintro ⟨⟨hdiff, hscaled⟩, rfl⟩
        exact ⟨_, ⟨hdiff, rfl⟩, _, ⟨hscaled, rfl⟩, rfl⟩
  | false =>
      simp only [Bool.false_eq_true, if_false, bind_eq_ok_iff, okOr_eq_ok_iff,
        checkedSub_eq_some_iff, mulU256_eq_ok_iff, outAt_false, RangeSwap.outRise]
      constructor
      · rintro ⟨diff, ⟨hdiff, rfl⟩, scaled, ⟨-, rfl⟩, numerator, ⟨hnumerator, rfl⟩,
          denominator, ⟨hdenominator, rfl⟩, hout⟩
        exact ⟨⟨hdiff, hnumerator, hdenominator⟩, Except.ok.inj hout⟩
      · rintro ⟨⟨hdiff, hnumerator, hdenominator⟩, rfl⟩
        have hscaled : pool.liquidity * (next - pool.sqrtPriceX96) < 2 ^ 256 :=
          lt_of_le_of_lt (Nat.le_mul_of_pos_right _ (by decide)) hnumerator
        exact ⟨_, ⟨hdiff, rfl⟩, _, ⟨hscaled, rfl⟩, _, ⟨hnumerator, rfl⟩, _,
          ⟨hdenominator, rfl⟩, rfl⟩

theorem u256ToU128_eq_ok_iff {value word : Nat} :
    u256ToU128 value = .ok word ↔ value < 2 ^ 128 ∧ value = word := by
  unfold u256ToU128
  by_cases hlarge : value / 2 ^ 128 = 0
  · rw [if_neg (not_not.mpr hlarge), Except.ok.injEq]
    have hlt : value < 2 ^ 128 := by omega
    simp only [hlt, true_and]
  · rw [if_pos hlarge]
    have hle : ¬ value < 2 ^ 128 := by omega
    simp only [hle, false_and, reduceCtorEq]

/-- What an accepted quote went through. -/
structure InRangeStep (pool : V3PoolState) (tokenIn : String) (amountIn : Nat)
    (zeroForOne : Bool) : Prop where
  direction : pool.zeroForOne tokenIn = some zeroForOne
  liquid : 0 < pool.liquidity
  feeFits : amountIn * (feePipsDenominator - pool.feePips) < 2 ^ 128
  charged : 0 < pool.lessFee amountIn
  priceFits : pool.PriceFits zeroForOne (pool.lessFee amountIn)
  capped : priceImpactBps pool.sqrtPriceX96 (pool.nextPrice zeroForOne (pool.lessFee amountIn))
    zeroForOne ≤ maxInRangeImpactBps
  outFits : pool.OutFits zeroForOne (pool.nextPrice zeroForOne (pool.lessFee amountIn))
  paid : 0 < pool.outAt zeroForOne (pool.nextPrice zeroForOne (pool.lessFee amountIn))
  word : pool.outAt zeroForOne (pool.nextPrice zeroForOne (pool.lessFee amountIn)) < 2 ^ 128

def quoteOf (pool : V3PoolState) (tokenIn : String) (amountIn : Nat) (zeroForOne : Bool) :
    PoolQuote :=
  { poolAddress := pool.address, tokenIn,
    tokenOut := if zeroForOne then pool.token1 else pool.token0,
    amountIn,
    amountOut := pool.outAt zeroForOne (pool.nextPrice zeroForOne (pool.lessFee amountIn)),
    feeBps := (pool.feePips + 99) / 100,
    priceImpactBps := priceImpactBps pool.sqrtPriceX96
      (pool.nextPrice zeroForOne (pool.lessFee amountIn)) zeroForOne }

theorem quoteExactIn_ok {pool : V3PoolState} {tokenIn : String} {amountIn : Nat}
    {quote : PoolQuote} (h : pool.quoteExactIn tokenIn amountIn = .ok quote) :
    ∃ zeroForOne, pool.InRangeStep tokenIn amountIn zeroForOne
      ∧ quote = pool.quoteOf tokenIn amountIn zeroForOne := by
  unfold quoteExactIn at h
  by_cases hamount : amountIn = 0
  · rw [if_pos hamount] at h; cases h
  by_cases hliquid : pool.liquidity = 0
  · rw [if_neg hamount, if_pos hliquid] at h; cases h
  rw [if_neg hamount, if_neg hliquid] at h
  obtain ⟨zeroForOne, hdirection, h⟩ := okOr_bind_eq_ok_iff.mp h
  obtain ⟨withFee, hwithFee, h⟩ := okOr_bind_eq_ok_iff.mp h
  obtain ⟨hfee, rfl⟩ := checkedMul_eq_some_iff.mp hwithFee
  dsimp only at h
  rw [← lessFee] at h
  by_cases hless : pool.lessFee amountIn = 0
  · rw [if_pos hless] at h; cases h
  rw [if_neg hless] at h
  obtain ⟨next, hnext, h⟩ := bind_eq_ok_iff.mp h
  obtain ⟨hprice, rfl⟩ := sqrtPriceNext_eq_ok_iff.mp hnext
  by_cases hcap : maxInRangeImpactBps < priceImpactBps pool.sqrtPriceX96
      (pool.nextPrice zeroForOne (pool.lessFee amountIn)) zeroForOne
  · rw [if_pos hcap] at h; cases h
  rw [if_neg hcap] at h
  obtain ⟨out, hout, h⟩ := bind_eq_ok_iff.mp h
  obtain ⟨houtFits, rfl⟩ := amountOutOf_eq_ok_iff.mp hout
  obtain ⟨word, hword, h⟩ := bind_eq_ok_iff.mp h
  obtain ⟨hlt, rfl⟩ := u256ToU128_eq_ok_iff.mp hword
  by_cases hzero : pool.outAt zeroForOne (pool.nextPrice zeroForOne (pool.lessFee amountIn)) = 0
  · rw [if_pos hzero] at h; cases h
  rw [if_neg hzero] at h
  exact ⟨zeroForOne, ⟨hdirection, Nat.pos_of_ne_zero hliquid, hfee, Nat.pos_of_ne_zero hless,
    hprice, Nat.le_of_not_lt hcap, houtFits, Nat.pos_of_ne_zero hzero, hlt⟩,
    (Except.ok.inj h).symm⟩

theorem InRangeStep.quoteExactIn_eq {pool : V3PoolState} {tokenIn : String} {amountIn : Nat}
    {zeroForOne : Bool} (h : pool.InRangeStep tokenIn amountIn zeroForOne) :
    pool.quoteExactIn tokenIn amountIn = .ok (pool.quoteOf tokenIn amountIn zeroForOne) := by
  have hamount : amountIn ≠ 0 := by
    rintro rfl
    have hcharged := h.charged
    rw [lessFee, Nat.zero_mul, Nat.zero_div] at hcharged
    exact hcharged.false
  have hnext := sqrtPriceNext_eq_ok_iff.mpr ⟨h.priceFits, rfl⟩
  have hout := amountOutOf_eq_ok_iff.mpr ⟨h.outFits, rfl⟩
  have hword := u256ToU128_eq_ok_iff.mpr ⟨h.word, rfl⟩
  unfold quoteExactIn
  rw [if_neg hamount, if_neg h.liquid.ne', h.direction, okOr_some, ok_bind,
    checkedMul_eq_some_iff.mpr ⟨h.feeFits, rfl⟩, okOr_some, ok_bind]
  dsimp only
  rw [← lessFee, if_neg h.charged.ne', hnext, ok_bind, if_neg (Nat.not_lt.mpr h.capped), hout,
    ok_bind, hword, ok_bind, if_neg h.paid.ne', quoteOf]
  rfl

theorem quoteExactIn_eq_ok_iff {pool : V3PoolState} {tokenIn : String} {amountIn : Nat}
    {zeroForOne : Bool} (hdirection : pool.zeroForOne tokenIn = some zeroForOne)
    {quote : PoolQuote} :
    pool.quoteExactIn tokenIn amountIn = .ok quote
      ↔ pool.InRangeStep tokenIn amountIn zeroForOne
          ∧ quote = pool.quoteOf tokenIn amountIn zeroForOne := by
  constructor
  · intro h
    obtain ⟨zeroForOne', hstep, hquote⟩ := quoteExactIn_ok h
    obtain rfl := Option.some.inj (hdirection.symm.trans hstep.direction)
    exact ⟨hstep, hquote⟩
  · rintro ⟨hstep, rfl⟩
    exact hstep.quoteExactIn_eq

end V3PoolState

end BaseEngine
