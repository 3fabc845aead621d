import BaseEngine.Markets

/-!
# Detection, simulation and the execution request

The pipeline of `crates/decision/src/lib.rs` for one pair of pools: a
two-leg loop is detected from two quotes, its costs are subtracted, and an
accepted opportunity becomes an execution request.

Each stage has one inversion (`detectTwoLegLoop_eq_some_iff`,
`simulateTwoLegOpportunity_some`, `buildExecutionRequest_some`); the
results about whole plans chain these and look at no definition again.
-/

namespace BaseEngine

open Fallible Machine

structure TwoLegLoopInput where
  blockContext : BlockContext
  settlementToken : Address
  amountIn : Nat
  firstPool : V2PoolState
  secondPool : V2PoolState
  triggerTxHash : Option String
deriving Repr, DecidableEq

structure SimulationConfig where
  gasEstimate : Nat
  gasCostWei : Nat
  l1DataFeeWei : Nat
deriving Repr, DecidableEq

/-- One leg of the route, over the pool its quote was asked of. -/
def quoteLeg (pool : V2PoolState) (tokenIn tokenOut : Address) (quote : PoolQuote) :
    RouteLeg :=
  { venue := pool.exchange, protocol := some pool.protocol, target := pool.address,
    poolAddress := some pool.address, tokenIn, tokenOut,
    amountIn := some quote.amountIn, minAmountOut := some quote.amountOut }

/-- The identifier of a loop over two addresses. -/
def loopId (settlementToken : Address) (amountIn : Nat) (first second : Address) : String :=
  "loop:" ++ settlementToken ++ ":" ++ first ++ ":" ++ second ++ ":" ++ toString amountIn

/-- The tokens are compared as they are spelled when the loop closes,
although the quotes ignore letter case. -/
def detectTwoLegLoop (input : TwoLegLoopInput) : Option Opportunity :=
  if input.amountIn = 0 then none
  else do
    let firstQuote ←
      (input.firstPool.quoteExactIn input.settlementToken input.amountIn).toOption
    let secondQuote ←
      (input.secondPool.quoteExactIn firstQuote.tokenOut firstQuote.amountOut).toOption
    if secondQuote.tokenOut ≠ input.settlementToken then none
    else do
      let expectedNetProfit ← checkedSub secondQuote.amountOut input.amountIn
      if expectedNetProfit = 0 then none
      else
        return {
          id := loopId input.settlementToken input.amountIn input.firstPool.address
            input.secondPool.address,
          kind := .twoLegLoop, blockContext := input.blockContext,
          settlementToken := input.settlementToken, inputAmount := input.amountIn,
          expectedOutputAmount := secondQuote.amountOut, expectedNetProfit,
          route := [
            quoteLeg input.firstPool firstQuote.tokenIn firstQuote.tokenOut firstQuote,
            quoteLeg input.secondPool firstQuote.tokenOut secondQuote.tokenOut secondQuote],
          triggerTxHash := input.triggerTxHash }

def simulateTwoLegOpportunity (opportunity : Opportunity) (simulation : SimulationConfig) :
    Option SimulationResult :=
  if opportunity.kind ≠ .twoLegLoop ∨ opportunity.route.length ≠ 2 then none
  else do
    let expectedGrossProfit ←
      checkedSub opportunity.expectedOutputAmount opportunity.inputAmount
    let afterGas ← checkedSub expectedGrossProfit simulation.gasCostWei
    let expectedNetProfit ← checkedSub afterGas simulation.l1DataFeeWei
    return {
      opportunityId := opportunity.id, accepted := decide (0 < expectedNetProfit),
      expectedGrossProfit, expectedNetProfit, gasEstimate := simulation.gasEstimate,
      gasCostWei := simulation.gasCostWei, l1DataFee := simulation.l1DataFeeWei,
      notes := ["simulation path uses deterministic local V2 quotes",
        "gas and L1 data fee are config-driven cost baselines"] }

/-- A leg without a minimum output has no step. -/
def executionStep (leg : RouteLeg) : Option ExecutionStep := do
  let minAmountOut ← leg.minAmountOut
  return {
    venue := leg.venue, protocol := leg.protocol, target := leg.target,
    tokenIn := leg.tokenIn, tokenOut := leg.tokenOut, poolFee := none,
    amountIn := leg.amountIn, minAmountOut, calldataHint := some "v2_exact_input",
    auxAddress := none }

def buildExecutionRequest (opportunity : Opportunity) (risk : RiskDecision) :
    Option ExecutionRequest :=
  if risk.accepted = false then none
  else do
    let steps ← opportunity.route.mapM executionStep
    return {
      opportunityId := opportunity.id, steps, minRepay := opportunity.inputAmount,
      minSurplus := risk.minSurplus,
      flashloanAsset := some opportunity.settlementToken,
      flashloanAmount := some opportunity.inputAmount, riskHash := risk.riskHash }

/-! ## What each stage says -/

/-- The step of a quoted leg. -/
def quoteStep (pool : V2PoolState) (tokenIn tokenOut : Address) (quote : PoolQuote) :
    ExecutionStep :=
  { venue := pool.exchange, protocol := some pool.protocol, target := pool.address,
    tokenIn, tokenOut, poolFee := none, amountIn := some quote.amountIn,
    minAmountOut := quote.amountOut, calldataHint := some "v2_exact_input",
    auxAddress := none }

theorem executionStep_quoteLeg (pool : V2PoolState) (tokenIn tokenOut : Address)
    (quote : PoolQuote) :
    executionStep (quoteLeg pool tokenIn tokenOut quote)
      = some (quoteStep pool tokenIn tokenOut quote) := rfl

/-- The opportunity of two quotes. -/
def loopOf (input : TwoLegLoopInput) (first second : PoolQuote) : Opportunity :=
  { id := loopId input.settlementToken input.amountIn input.firstPool.address
      input.secondPool.address,
    kind := .twoLegLoop, blockContext := input.blockContext,
    settlementToken := input.settlementToken, inputAmount := input.amountIn,
    expectedOutputAmount := second.amountOut,
    expectedNetProfit := second.amountOut - input.amountIn,
    route := [quoteLeg input.firstPool first.tokenIn first.tokenOut first,
      quoteLeg input.secondPool first.tokenOut second.tokenOut second],
    triggerTxHash := input.triggerTxHash }

/-- Two quotes, the second on the output of the first, with a gain. -/
structure Gains (input : TwoLegLoopInput) (first second : PoolQuote) : Prop where
  there : input.firstPool.quoteExactIn input.settlementToken input.amountIn = .ok first
  back : input.secondPool.quoteExactIn first.tokenOut first.amountOut = .ok second
  gain : input.amountIn < second.amountOut

/-- **What is detected.** Two quotes with a gain, in the settlement token as
it is spelled. -/
theorem detectTwoLegLoop_eq_some_iff {input : TwoLegLoopInput} {opp : Opportunity} :
    detectTwoLegLoop input = some opp
      ↔ ∃ first second, Gains input first second ∧ second.tokenOut = input.settlementToken
          ∧ opp = loopOf input first second := by
  unfold detectTwoLegLoop
  constructor
  · intro h
    by_cases ha : input.amountIn = 0
    · rw [if_pos ha] at h; cases h
    rw [if_neg ha] at h
    obtain ⟨first, hfirst, h⟩ := Option.bind_eq_some_iff.mp h
    obtain ⟨second, hsecond, h⟩ := Option.bind_eq_some_iff.mp h
    by_cases hclose : second.tokenOut = input.settlementToken
    · rw [if_neg (not_not.mpr hclose)] at h
      obtain ⟨profit, hprofit, h⟩ := Option.bind_eq_some_iff.mp h
      obtain ⟨hle, rfl⟩ := checkedSub_eq_some_iff.mp hprofit
      by_cases hzero : second.amountOut - input.amountIn = 0
      · rw [if_pos hzero] at h; cases h
      · rw [if_neg hzero] at h
        exact ⟨first, second, ⟨toOption_eq_some hfirst, toOption_eq_some hsecond, by omega⟩,
          hclose, (Option.some.inj h).symm⟩
    · rw [if_pos hclose] at h; cases h
  · rintro ⟨first, second, hgains, hclose, rfl⟩
    have hgain := hgains.gain
    obtain ⟨impact, hstep, -⟩ := V2PoolState.quoteExactIn_ok hgains.there
    have hprofit := checkedSub_eq_some_iff.mpr ⟨hgain.le, rfl⟩
    rw [if_neg hstep.input.ne', hgains.there]
    show (input.secondPool.quoteExactIn first.tokenOut first.amountOut).toOption.bind _ = _
    rw [hgains.back]
    show (if second.tokenOut ≠ input.settlementToken then none else _) = _
    rw [if_neg (not_not.mpr hclose), hprofit]
    show (if second.amountOut - input.amountIn = 0 then none else _) = _
    rw [if_neg (by omega)]
    rfl

theorem detectTwoLegLoop_some {input : TwoLegLoopInput} {opp : Opportunity}
    (h : detectTwoLegLoop input = some opp) :
    ∃ first second,
      input.firstPool.quoteExactIn input.settlementToken input.amountIn = .ok first
      ∧ input.secondPool.quoteExactIn first.tokenOut first.amountOut = .ok second
      ∧ first.tokenIn = input.settlementToken ∧ second.tokenOut = input.settlementToken
      ∧ input.amountIn < second.amountOut
      ∧ opp.kind = .twoLegLoop
      ∧ opp.settlementToken = input.settlementToken ∧ opp.inputAmount = input.amountIn
      ∧ opp.expectedOutputAmount = second.amountOut
      ∧ opp.route = [quoteLeg input.firstPool input.settlementToken first.tokenOut first,
          quoteLeg input.secondPool first.tokenOut input.settlementToken second] := by
  obtain ⟨first, second, hgains, hclose, rfl⟩ := detectTwoLegLoop_eq_some_iff.mp h
  have hin : first.tokenIn = input.settlementToken := by
    obtain ⟨impact, -, rfl⟩ := V2PoolState.quoteExactIn_ok hgains.there
    rfl
  refine ⟨first, second, hgains.there, hgains.back, hin, hclose, hgains.gain, rfl, rfl, rfl,
    rfl, ?_⟩
  rw [loopOf, hin, hclose]

/-- The simulated costs come out of the gross profit, with nothing lost to
rounding or to a clamped subtraction. -/
theorem simulateTwoLegOpportunity_some {opp : Opportunity} {config : SimulationConfig}
    {sim : SimulationResult} (h : simulateTwoLegOpportunity opp config = some sim) :
    opp.inputAmount + config.gasCostWei + config.l1DataFeeWei + sim.expectedNetProfit
        = opp.expectedOutputAmount
      ∧ (sim.accepted = true ↔ 0 < sim.expectedNetProfit)
      ∧ sim.gasEstimate = config.gasEstimate
      ∧ sim.gasCostWei = config.gasCostWei ∧ sim.l1DataFee = config.l1DataFeeWei := by
  unfold simulateTwoLegOpportunity at h
  split at h
  · cases h
  · obtain ⟨gross, hgross, h⟩ := Option.bind_eq_some_iff.mp h
    obtain ⟨afterGas, hgas, h⟩ := Option.bind_eq_some_iff.mp h
    obtain ⟨net, hnet, h⟩ := Option.bind_eq_some_iff.mp h
    obtain rfl := Option.some.inj h
    obtain ⟨h1, h1'⟩ := checkedSub_eq_some_iff.mp hgross
    obtain ⟨h2, h2'⟩ := checkedSub_eq_some_iff.mp hgas
    obtain ⟨h3, h3'⟩ := checkedSub_eq_some_iff.mp hnet
    refine ⟨?_, by simp, rfl, rfl, rfl⟩
    show opp.inputAmount + config.gasCostWei + config.l1DataFeeWei + net
      = opp.expectedOutputAmount
    omega

/-- A request asks back what was put in, for an accepted opportunity. -/
theorem buildExecutionRequest_fields {opp : Opportunity} {risk : RiskDecision}
    {req : ExecutionRequest} (h : buildExecutionRequest opp risk = some req) :
    risk.accepted = true ∧ opp.route.mapM executionStep = some req.steps
      ∧ req.minRepay = opp.inputAmount ∧ req.minSurplus = risk.minSurplus
      ∧ req.flashloanAsset = some opp.settlementToken
      ∧ req.flashloanAmount = some opp.inputAmount ∧ req.riskHash = risk.riskHash := by
  unfold buildExecutionRequest at h
  by_cases hacc : risk.accepted = false
  · rw [if_pos hacc] at h; cases h
  · rw [if_neg hacc] at h
    obtain ⟨steps, hsteps, h⟩ := Option.bind_eq_some_iff.mp h
    obtain rfl := Option.some.inj h
    exact ⟨by simpa using hacc, hsteps, rfl, rfl, rfl, rfl, rfl⟩

/-- The request of a detected loop keeps the two quoted legs as its steps. -/
theorem buildExecutionRequest_some {opp : Opportunity} {risk : RiskDecision}
    {req : ExecutionRequest} {firstPool secondPool : V2PoolState} {token mid : Address}
    {first second : PoolQuote}
    (hroute : opp.route = [quoteLeg firstPool token mid first,
      quoteLeg secondPool mid token second])
    (h : buildExecutionRequest opp risk = some req) :
    risk.accepted = true
      ∧ req.steps = [quoteStep firstPool token mid first, quoteStep secondPool mid token second]
      ∧ req.minRepay = opp.inputAmount ∧ req.minSurplus = risk.minSurplus
      ∧ req.flashloanAsset = some opp.settlementToken
      ∧ req.flashloanAmount = some opp.inputAmount ∧ req.riskHash = risk.riskHash := by
  obtain ⟨hacc, hsteps, hrest⟩ := buildExecutionRequest_fields h
  rw [hroute] at hsteps
  exact ⟨hacc, by simpa [executionStep_quoteLeg] using hsteps.symm, hrest⟩

end BaseEngine
