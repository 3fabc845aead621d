import BaseEngine.Lib.BinaryPower
import BaseEngine.QuoteAccuracy

/-!
# Ticks and the boundaries of a quote

`get_sqrt_ratio_at_tick` of `crates/markets/src/v3.rs`, the sqrt price of a
tick as a fixed-point power over the bits of the tick. It rises strictly with
the tick (`getSqrtRatioAtTick_strictMono`).

A quote refuses a swap by its price impact, which looks neither at the tick
nor at the spacing. `next_within_spacing_iff` says which accepted quotes stay
between the two boundaries around the current tick.
-/

namespace BaseEngine

open BinaryPower Fallible Machine RangeSwap

def minTick : Int := -887272

def maxTick : Int := 887272

/-- The factors in units of `2 ^ -128`, one for each bit of the tick. -/
def tickConstants : List Nat :=
  [0xfffcb933bd6fad37aa2d162d1a594001, 0xfff97272373d413259a46990580e213a,
    0xfff2e50f5f656932ef12357cf3c7fdcc, 0xffe5caca7e10e4e61c3624eaa0941cd0,
    0xffcb9843d60f6159c9db58835c926644, 0xff973b41fa98c081472e6896dfb254c0,
    0xff2ea16466c96a3843ec78b326b52861, 0xfe5dee046a99a2a811c461f1969c3053,
    0xfcbe86c7900a88aedcffc83b479aa3a4, 0xf987a7253ac413176f2b074cf7815e54,
    0xf3392b0822b70005940c7a398e4b70f3, 0xe7159475a2c29b7443b29c7fa6e889d9,
    0xd097f3bdfd2022b8845ad8f792aa5825, 0xa9f746462d870fdf8a65dc1f90e061e5,
    0x70d869a156d2a1b890bb3df62baf32f7, 0x31be135f97d08fd981231505542fcfa6,
    0x9aa508b5b7a84e1c677de54f3e99bc9, 0x5d6af8dedb81196699c329225ee604,
    0x2216e584f5fa1ea926041bedfe98, 0x48a170391f7dc42444e8fa2]

/-- Bit zero has its own branch in the source; the loop skips its entry. -/
def tickRatio (absTick : Nat) : Nat :=
  let ratio := if absTick &&& 0x1 ≠ 0 then 0xfffcb933bd6fad37aa2d162d1a594001 else 2 ^ 128
  loop 256 (2 ^ 128) absTick 1 (tickConstants.drop 1) ratio

/-- The sqrt price of a tick, with the last 32 bits rounded up. -/
def getSqrtRatioAtTick (tick : Int) : Except MarketError Nat :=
  if minTick ≤ tick ∧ tick ≤ maxTick then
    let ratio := tickRatio tick.natAbs
    let ratio := if 0 < tick then (2 ^ 256 - 1) / ratio else ratio
    .ok (if ratio % 2 ^ 32 = 0 then ratio / 2 ^ 32 else ratio / 2 ^ 32 + 1)
  else .error (.invalidPool "v3 tick outside protocol bounds")

/-! ## The ratio rises with the tick -/

theorem tickConstants_lt : ∀ c ∈ tickConstants.drop 1, c < 2 ^ 128 := by decide

theorem tickStart_le (absTick : Nat) :
    (if absTick &&& 0x1 ≠ 0 then 0xfffcb933bd6fad37aa2d162d1a594001 else 2 ^ 128) ≤ 2 ^ 128 := by
  split <;> decide

theorem tickRatio_eq_run (absTick : Nat) :
    tickRatio absTick = run (2 ^ 128) tickConstants absTick (2 ^ 128) := by
  have hbit := and_shiftLeft_ne_zero_iff absTick 0
  simp only [Nat.shiftLeft_zero, pow_zero, Nat.div_one] at hbit
  unfold tickRatio
  dsimp only
  rw [loop_eq_run tickConstants_lt (by decide) (tickStart_le absTick), pow_one]
  simp only [hbit]
  rfl

theorem tickConstants_descends : Descends (2 ^ 128) tickConstants (2 ^ 128) := by
  decide

theorem tickRatio_anti {n m : Nat} (hnm : n ≤ m) (hm : m ≤ 887272) : tickRatio m ≤ tickRatio n := by
  rw [tickRatio_eq_run, tickRatio_eq_run]
  have hbits : m < 2 ^ tickConstants.length := lt_of_le_of_lt hm (by decide)
  exact run_anti (by decide) tickConstants_descends hnm hbits

theorem tickRatio_pos {n : Nat} (hn : n ≤ 887272) : 0 < tickRatio n :=
  lt_of_lt_of_le (by decide) (tickRatio_anti hn le_rfl)

theorem tickRatio_le {n : Nat} (hn : n ≤ 887272) : tickRatio n ≤ 2 ^ 128 :=
  (tickRatio_anti (Nat.zero_le n) hn).trans (by decide)

/-- The ratio before the last rounding. -/
def signedRatio (tick : Int) : Nat :=
  if 0 < tick then (2 ^ 256 - 1) / tickRatio tick.natAbs else tickRatio tick.natAbs

theorem signedRatio_mono {t t' : Int} (hmin : minTick ≤ t) (htt' : t ≤ t') (hmax : t' ≤ maxTick) :
    signedRatio t ≤ signedRatio t' := by
  unfold minTick at hmin
  unfold maxTick at hmax
  unfold signedRatio
  by_cases ht : 0 < t
  · have ht' : 0 < t' := by omega
    rw [if_pos ht, if_pos ht']
    exact Nat.div_le_div_left (tickRatio_anti (by omega) (by omega)) (tickRatio_pos (by omega))
  · rw [if_neg ht]
    by_cases ht' : 0 < t'
    · -- below one on the left, above one on the right
      rw [if_pos ht', Nat.le_div_iff_mul_le (tickRatio_pos (by omega))]
      have hone : tickRatio t'.natAbs ≤ tickRatio 1 := tickRatio_anti (by omega) (by omega)
      calc tickRatio t.natAbs * tickRatio t'.natAbs ≤ 2 ^ 128 * tickRatio 1 :=
            Nat.mul_le_mul (tickRatio_le (by omega)) hone
        _ ≤ 2 ^ 256 - 1 := by decide
    · rw [if_neg ht']
      exact tickRatio_anti (by omega) (by omega)

theorem getSqrtRatioAtTick_eq_ok_iff {tick : Int} {ratio : Nat} :
    getSqrtRatioAtTick tick = .ok ratio
      ↔ (minTick ≤ tick ∧ tick ≤ maxTick) ∧ signedRatio tick ⌈/⌉ 2 ^ 32 = ratio := by
  rw [Rounding.ceilDiv_eq_ite (by decide)]
  unfold getSqrtRatioAtTick signedRatio
  by_cases hbounds : minTick ≤ tick ∧ tick ≤ maxTick
  · rw [if_pos hbounds]
    simp only [hbounds, true_and, Except.ok.injEq, and_self]
  · rw [if_neg hbounds]
    simp only [hbounds, false_and, reduceCtorEq]

theorem getSqrtRatioAtTick_pos {tick : Int} {ratio : Nat}
    (h : getSqrtRatioAtTick tick = .ok ratio) : 0 < ratio := by
  obtain ⟨⟨hmin, hmax⟩, rfl⟩ := getSqrtRatioAtTick_eq_ok_iff.mp h
  rw [Rounding.lt_ceilDiv_iff (by decide), Nat.mul_zero]
  -- the smallest tick has the smallest ratio
  have hlow : 0 < signedRatio minTick := by decide
  exact hlow.trans_le (signedRatio_mono le_rfl hmin hmax)

/-- **The sqrt price rises with the tick.** -/
theorem getSqrtRatioAtTick_mono {t t' : Int} {ratio ratio' : Nat} (htt' : t ≤ t')
    (h : getSqrtRatioAtTick t = .ok ratio) (h' : getSqrtRatioAtTick t' = .ok ratio') :
    ratio ≤ ratio' := by
  obtain ⟨⟨hmin, -⟩, rfl⟩ := getSqrtRatioAtTick_eq_ok_iff.mp h
  obtain ⟨⟨-, hmax⟩, rfl⟩ := getSqrtRatioAtTick_eq_ok_iff.mp h'
  refine (ceilDiv_le_iff_le_mul (by decide)).mpr ?_
  exact (signedRatio_mono hmin htt' hmax).trans (Rounding.le_mul_ceilDiv (by decide))

/-! ## And strictly so

Neighbouring ratios differ by about a twenty-thousandth, which is far more
than the last 32 bits of the smallest one. -/

theorem tickConstants_drops :
    Drops (2 ^ 128) 999960000 1000000000 tickConstants (2 ^ 128) := by
  decide

theorem tickRatio_succ_mul_le {n : Nat} (hn : n + 1 ≤ 887272) :
    tickRatio (n + 1) * 1000000000 ≤ tickRatio n * 999960020 := by
  have hle : ∀ c ∈ tickConstants, c ≤ 2 ^ 128 := by decide
  have hbits : n + 1 < 2 ^ tickConstants.length := lt_of_le_of_lt hn (by decide)
  have hlarge : 999960000 + tickConstants.length ≤ tickRatio n :=
    le_trans (by decide) (tickRatio_anti (Nat.le_of_succ_le hn) le_rfl)
  rw [tickRatio_eq_run] at hlarge
  rw [tickRatio_eq_run, tickRatio_eq_run]
  exact run_succ_mul_le (by decide) hle tickConstants_drops hbits hlarge

theorem signedRatio_succ {t : Int} (hmin : minTick ≤ t) (hmax : t + 1 ≤ maxTick) :
    signedRatio t + 2 ^ 32 ≤ signedRatio (t + 1) := by
  unfold minTick at hmin
  unfold maxTick at hmax
  rcases lt_trichotomy t 0 with hneg | rfl | hpos
  · have habs : t.natAbs = (t + 1).natAbs + 1 := by omega
    have hdrop := @tickRatio_succ_mul_le (t + 1).natAbs (by omega)
    have hlarge : 2 ^ 63 ≤ tickRatio (t + 1).natAbs :=
      le_trans (by decide) (@tickRatio_anti (t + 1).natAbs _ (by omega) le_rfl)
    have hgap : ∀ {r r' : Nat}, r' * 1000000000 ≤ r * 999960020 → 2 ^ 63 ≤ r →
        r' + 2 ^ 32 ≤ r := by
      intro r r' h hr
      omega
    rw [signedRatio, signedRatio, if_neg (by omega), if_neg (by omega), habs]
    exact hgap hdrop hlarge
  · decide
  · have habs : (t + 1).natAbs = t.natAbs + 1 := by omega
    have hdrop := @tickRatio_succ_mul_le t.natAbs (by omega)
    have hone := @tickRatio_le t.natAbs (by omega)
    rw [signedRatio, signedRatio, if_pos hpos, if_pos (by omega), habs]
    refine Rounding.div_add_le_div (tickRatio_pos (by omega)) (by decide) hdrop ?_
    calc (2 ^ 256 - 1) * 999960020 + 2 ^ 32 * (tickRatio t.natAbs * 999960020)
        ≤ (2 ^ 256 - 1) * 999960020 + 2 ^ 32 * (2 ^ 128 * 999960020) := by gcongr
      _ ≤ (2 ^ 256 - 1) * 1000000000 := by decide

/-! ## In 256 bits -/

/-- The ratio, if no product on the way leaves 256 bits. -/
def checkedTickRatio (absTick : Nat) : Option Nat :=
  let ratio := if absTick &&& 0x1 ≠ 0 then 0xfffcb933bd6fad37aa2d162d1a594001 else 2 ^ 128
  checkedLoop 256 (2 ^ 128) absTick 1 (tickConstants.drop 1) ratio

/-- The sqrt price of a tick, if no product or sum on the way leaves 256
bits. -/
def checkedSqrtRatioAtTick (tick : Int) : Option (Except MarketError Nat) :=
  if minTick ≤ tick ∧ tick ≤ maxTick then do
    let ratio ← checkedTickRatio tick.natAbs
    let ratio := if 0 < tick then (2 ^ 256 - 1) / ratio else ratio
    let shifted := ratio / 2 ^ 32
    if ratio % 2 ^ 32 = 0 then some (.ok shifted)
    else (checkedAdd 256 shifted 1).map .ok
  else some (.error (.invalidPool "v3 tick outside protocol bounds"))

theorem checkedTickRatio_eq (absTick : Nat) :
    checkedTickRatio absTick = some (tickRatio absTick) := by
  have hloop := @checkedLoop_eq_run (2 ^ 128) 256 absTick 1 _ _ tickConstants_lt (by decide)
    (tickStart_le absTick)
  unfold checkedTickRatio tickRatio
  dsimp only
  rw [hloop, loop_of_checkedLoop hloop]

theorem signedRatio_lt {tick : Int} (hmin : minTick ≤ tick) (hmax : tick ≤ maxTick) :
    signedRatio tick < 2 ^ 256 := by
  unfold minTick at hmin
  unfold maxTick at hmax
  unfold signedRatio
  split
  · exact lt_of_le_of_lt (Nat.div_le_self ..) (by decide)
  · exact lt_of_le_of_lt (tickRatio_le (by omega)) (by decide)

theorem checkedSqrtRatioAtTick_eq (tick : Int) :
    checkedSqrtRatioAtTick tick = some (getSqrtRatioAtTick tick) := by
  unfold checkedSqrtRatioAtTick getSqrtRatioAtTick
  by_cases hbounds : minTick ≤ tick ∧ tick ≤ maxTick
  · have hsum : signedRatio tick / 2 ^ 32 + 1 < 2 ^ 256 := by
      have hshift : ∀ x : Nat, x < 2 ^ 256 → x / 2 ^ 32 + 1 < 2 ^ 256 := by
        intro x hx
        omega
      exact hshift _ (signedRatio_lt hbounds.1 hbounds.2)
    rw [if_pos hbounds, if_pos hbounds, checkedTickRatio_eq]
    show (if signedRatio tick % 2 ^ 32 = 0 then _ else _) = some (Except.ok (if _ then _ else _))
    rw [← signedRatio]
    split
    · rfl
    · rw [checkedAdd_eq_some_iff.mpr ⟨hsum, rfl⟩]
      rfl
  · rw [if_neg hbounds, if_neg hbounds]

/-- **The sqrt price rises strictly with the tick.** Two ticks within the
bounds of the protocol have prices in the order of the ticks and within the
bounds of the price, and no product or sum on the way to either leaves 256
bits. -/
theorem getSqrtRatioAtTick_strictMono {t u : Int} (hmin : minTick ≤ t) (htu : t < u)
    (hmax : u ≤ maxTick) :
    ∃ ratio ratio', getSqrtRatioAtTick t = .ok ratio ∧ getSqrtRatioAtTick u = .ok ratio'
      ∧ ratio < ratio' ∧ minSqrtPrice ≤ ratio ∧ ratio' ≤ maxSqrtPrice
      ∧ checkedSqrtRatioAtTick t = some (.ok ratio)
      ∧ checkedSqrtRatioAtTick u = some (.ok ratio') := by
  obtain ⟨ratio, hratio⟩ : ∃ ratio, getSqrtRatioAtTick t = .ok ratio :=
    ⟨_, getSqrtRatioAtTick_eq_ok_iff.mpr ⟨⟨hmin, by omega⟩, rfl⟩⟩
  obtain ⟨next, hnext⟩ : ∃ next, getSqrtRatioAtTick (t + 1) = .ok next :=
    ⟨_, getSqrtRatioAtTick_eq_ok_iff.mpr ⟨⟨by omega, by omega⟩, rfl⟩⟩
  obtain ⟨ratio', hratio'⟩ : ∃ ratio', getSqrtRatioAtTick u = .ok ratio' :=
    ⟨_, getSqrtRatioAtTick_eq_ok_iff.mpr ⟨⟨by omega, hmax⟩, rfl⟩⟩
  have hlow : getSqrtRatioAtTick minTick = .ok minSqrtPrice := by decide
  have hhigh : getSqrtRatioAtTick maxTick = .ok maxSqrtPrice := by decide
  have hstep : ratio < next := by
    obtain ⟨-, rfl⟩ := getSqrtRatioAtTick_eq_ok_iff.mp hratio
    obtain ⟨-, rfl⟩ := getSqrtRatioAtTick_eq_ok_iff.mp hnext
    rw [Rounding.lt_ceilDiv_iff (by decide)]
    exact (Rounding.mul_ceilDiv_lt (by decide)).trans_le (signedRatio_succ hmin (by omega))
  refine ⟨ratio, ratio', hratio, hratio', ?_, ?_, ?_, ?_, ?_⟩
  · exact hstep.trans_le (getSqrtRatioAtTick_mono (by omega) hnext hratio')
  · exact getSqrtRatioAtTick_mono hmin hlow hratio
  · exact getSqrtRatioAtTick_mono hmax hratio' hhigh
  · rw [checkedSqrtRatioAtTick_eq, hratio]
  · rw [checkedSqrtRatioAtTick_eq, hratio']

/-- The ticks at the two ends of the range. -/
theorem extremeTicks_ordered :
    minTick < maxTick
      ∧ ∃ ratio ratio', getSqrtRatioAtTick minTick = .ok ratio
        ∧ getSqrtRatioAtTick maxTick = .ok ratio' ∧ ratio < ratio' ∧ minSqrtPrice ≤ ratio
        ∧ ratio' ≤ maxSqrtPrice ∧ checkedSqrtRatioAtTick minTick = some (.ok ratio)
        ∧ checkedSqrtRatioAtTick maxTick = some (.ok ratio') :=
  ⟨by decide, getSqrtRatioAtTick_strictMono le_rfl (by decide) le_rfl⟩

/-! ## The boundaries around the current tick -/

namespace V3PoolState

variable {pool : V3PoolState} {tokenIn : String} {amountIn : Nat} {quote : PoolQuote}

/-- The largest multiple of the spacing that is not above the tick. -/
def lowerTick (pool : V3PoolState) : Int := pool.tickSpacing * (pool.tick / pool.tickSpacing)

theorem lowerTick_le (hspacing : 0 < pool.tickSpacing) : pool.lowerTick ≤ pool.tick :=
  Int.mul_ediv_self_le hspacing.ne'

theorem tick_lt_upperTick (hspacing : 0 < pool.tickSpacing) :
    pool.tick + 1 ≤ pool.lowerTick + pool.tickSpacing :=
  Int.lt_mul_ediv_self_add hspacing

/-- The input, after the fee, does not carry the price past the boundary in
its direction. -/
def StopsBefore (pool : V3PoolState) (zeroForOne : Bool) (low high amount : Nat) : Prop :=
  if zeroForOne then
    (pool.liquidity * q96 / pool.sqrtPriceX96 + amount) * (low - 1) < pool.liquidity * q96
  else amount * q96 < pool.liquidity * (high - pool.sqrtPriceX96 + 1)

theorem low_le_fall_iff {low high a : Nat} (hlow : 0 < low) (ha : 0 < a) :
    low ≤ pool.nextPrice true a ↔ pool.StopsBefore true low high a := by
  rw [nextPrice_true, fall, StopsBefore, if_pos rfl,
    ← Rounding.lt_ceilDiv_iff (Nat.add_pos_right _ ha)]
  omega

theorem rise_le_high_iff {low high a : Nat} (hL : 0 < pool.liquidity)
    (hhigh : pool.sqrtPriceX96 ≤ high) :
    pool.nextPrice false a ≤ high ↔ pool.StopsBefore false low high a := by
  rw [nextPrice_false, rise, StopsBefore, if_neg Bool.false_ne_true, Nat.mul_comm pool.liquidity,
    ← Nat.div_lt_iff_lt_mul hL]
  omega

/-- **Which quotes stay inside the spacing.** With the price between its tick
and the next one, the price after an accepted quote lies between the two
spacing boundaries around the tick exactly when the input does not reach the
one it moves towards. -/
theorem next_within_spacing_iff (hvalid : pool.validate = .ok ())
    (hquote : pool.quoteExactIn tokenIn amountIn = .ok quote) {ratio ratio' low high : Nat}
    (htick : getSqrtRatioAtTick pool.tick = .ok ratio) (hle : ratio ≤ pool.sqrtPriceX96)
    (htick' : getSqrtRatioAtTick (pool.tick + 1) = .ok ratio') (hlt : pool.sqrtPriceX96 < ratio')
    (hlow : getSqrtRatioAtTick pool.lowerTick = .ok low)
    (hhigh : getSqrtRatioAtTick (pool.lowerTick + pool.tickSpacing) = .ok high) :
    ∃ zeroForOne next, pool.zeroForOne tokenIn = some zeroForOne
      ∧ pool.sqrtPriceNext zeroForOne (pool.lessFee amountIn) = .ok next
      ∧ (low ≤ next ∧ next ≤ high
        ↔ pool.StopsBefore zeroForOne low high (pool.lessFee amountIn)) := by
  obtain ⟨zeroForOne, hstep, -⟩ := quoteExactIn_ok hquote
  obtain ⟨-, -, hspacing, -, -⟩ := validate_ok hvalid
  refine ⟨zeroForOne, _, hstep.direction, sqrtPriceNext_eq_ok_iff.mpr ⟨hstep.priceFits, rfl⟩, ?_⟩
  have hlowPrice : low ≤ pool.sqrtPriceX96 :=
    (getSqrtRatioAtTick_mono (lowerTick_le hspacing) hlow htick).trans hle
  have hhighPrice : pool.sqrtPriceX96 < high :=
    hlt.trans_le (getSqrtRatioAtTick_mono (tick_lt_upperTick hspacing) htick' hhigh)
  cases zeroForOne with
  | true =>
      have hnext := nextPrice_true_le (sqrtPrice_pos_of_validate hvalid) hstep.charged
      rw [and_iff_left (hnext.trans hhighPrice.le)]
      exact low_le_fall_iff (getSqrtRatioAtTick_pos hlow) hstep.charged
  | false =>
      have hnext := pool.le_nextPrice_false (pool.lessFee amountIn)
      rw [and_iff_right (hlowPrice.trans hnext)]
      exact rise_le_high_iff hstep.liquid hhighPrice.le

/-- A thousandth of the liquidity moves the price by about twenty ticks, under
the impact cap and past the boundary ten ticks away. -/
theorem samplePool_crosses :
    SwapReplay.samplePool.validate = .ok ()
      ∧ getSqrtRatioAtTick SwapReplay.samplePool.tick = .ok SwapReplay.samplePool.sqrtPriceX96
      ∧ getSqrtRatioAtTick (SwapReplay.samplePool.tick + 1) = .ok 79232123823359799118286999568
      ∧ SwapReplay.samplePool.sqrtPriceX96 < 79232123823359799118286999568
      ∧ getSqrtRatioAtTick (SwapReplay.samplePool.lowerTick + SwapReplay.samplePool.tickSpacing)
        = .ok 79267784519130042428790663799
      ∧ SwapReplay.samplePool.quoteExactIn "0xtoken1" 100000000000000000
        = .ok (SwapReplay.samplePool.quoteOf "0xtoken1" 100000000000000000 false)
      ∧ ∃ next, SwapReplay.samplePool.sqrtPriceNext false
          (SwapReplay.samplePool.lessFee 100000000000000000) = .ok next
        ∧ 79267784519130042428790663799 < next := by
  refine ⟨by decide, by decide, by decide, by decide, by decide,
    by decide, 79307351062697344798968697514, ?_⟩
  decide

theorem samplePool_stays :
    SwapReplay.samplePool.validate = .ok ()
      ∧ ∃ zeroForOne next, SwapReplay.samplePool.zeroForOne "0xtoken1" = some zeroForOne
        ∧ SwapReplay.samplePool.sqrtPriceNext zeroForOne
          (SwapReplay.samplePool.lessFee 1000000000000000) = .ok next
        ∧ (79228162514264337593543950336 ≤ next ∧ next ≤ 79267784519130042428790663799
          ↔ SwapReplay.samplePool.StopsBefore zeroForOne 79228162514264337593543950336
            79267784519130042428790663799 (SwapReplay.samplePool.lessFee 1000000000000000)) := by
  have hvalid : SwapReplay.samplePool.validate = .ok () := by decide
  have hquote : SwapReplay.samplePool.quoteExactIn "0xtoken1" 1000000000000000
      = .ok (SwapReplay.samplePool.quoteOf "0xtoken1" 1000000000000000 false) := by
    decide
  have htick : getSqrtRatioAtTick SwapReplay.samplePool.tick
      = .ok SwapReplay.samplePool.sqrtPriceX96 := by decide
  have htick' : getSqrtRatioAtTick (SwapReplay.samplePool.tick + 1)
      = .ok 79232123823359799118286999568 := by decide
  exact ⟨hvalid, next_within_spacing_iff hvalid hquote htick le_rfl htick' (by decide)
    (by decide) (by decide)⟩

end V3PoolState

end BaseEngine
