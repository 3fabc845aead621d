import BaseEngine.Lib.Sha256
import BaseEngine.Payload
import BaseEngine.Risk

/-!
# From two pools to the settled plan

The engine decides off chain and the router enforces on chain. This file
follows one opportunity through all of it: `Accepted` collects what the
engine has done with it, `Accepted.request` what this makes of the request.

Two results come out. `profitFloor`: whatever the venues return, a
flash-loan callback that completes has earned the simulated costs and the
policy's floor on top of the loan. `payload_passes_route_check`: the plan
the engine encodes gives the router's own checks nothing to object to, as
long as the venues return at least the minimums.
-/

namespace BaseEngine

open Fallible Machine

/-- A loop that was detected, simulated and accepted, with its request. -/
structure Accepted (sha256 : List UInt8 → String) (input : TwoLegLoopInput)
    (config : SimulationConfig) (policy : RiskPolicy) (reading : Reading) (state : RiskState)
    (opp : Opportunity) (sim : SimulationResult) (req : ExecutionRequest) : Prop where
  detected : detectTwoLegLoop input = some opp
  simulated : simulateTwoLegOpportunity opp config = some sim
  accepted : (policy.assess sha256 reading opp sim state).1.accepted = true
  requested :
    buildExecutionRequest opp (policy.assess sha256 reading opp sim state).1 = some req

variable {sha256 : List UInt8 → String} {input : TwoLegLoopInput} {config : SimulationConfig}
  {policy : RiskPolicy} {reading : Reading} {state : RiskState} {opp : Opportunity}
  {sim : SimulationResult} {req : ExecutionRequest}

/-- **The request of an accepted loop.** Two steps that lead from the
settlement token over one other token and back, and a last minimum that
covers the input, the costs and the floor. -/
theorem Accepted.request
    (h : Accepted sha256 input config policy reading state opp sim req) :
    ∃ mid first second,
      req.steps = [quoteStep input.firstPool input.settlementToken mid first,
        quoteStep input.secondPool mid input.settlementToken second]
      ∧ req.flashloanAsset = some input.settlementToken
      ∧ req.flashloanAmount = some input.amountIn ∧ req.minRepay = input.amountIn
      ∧ req.minSurplus = policy.minNetProfitWei
      ∧ input.amountIn + config.gasCostWei + config.l1DataFeeWei + policy.minNetProfitWei
          ≤ second.amountOut
      ∧ second.amountOut < 2 ^ 128 := by
  obtain ⟨first, second, -, hsecond, -, -, -, -, htoken, hinput, hout, hroute⟩ :=
    detectTwoLegLoop_some h.detected
  obtain ⟨hcosts, -, -, -⟩ := simulateTwoLegOpportunity_some h.simulated
  obtain ⟨-, hfloor, hsurplus⟩ := RiskPolicy.assess_accepted sha256 h.accepted
  obtain ⟨-, hsteps, hrepay, hreqSurplus, hasset, hamount, -⟩ :=
    buildExecutionRequest_some hroute h.requested
  obtain ⟨impact, hstep, rfl⟩ := V2PoolState.quoteExactIn_ok hsecond
  refine ⟨first.tokenOut, first, _, hsteps, ?_, ?_, ?_, ?_, ?_, ?_⟩
  · rw [hasset, htoken]
  · rw [hamount, hinput]
  · rw [hrepay, hinput]
  · rw [hreqSurplus, hsurplus]
  · rw [hinput, hout] at hcosts
    omega
  · exact Nat.lt_of_le_of_lt (Nat.le_mul_of_pos_right _ (by decide)) hstep.exactOut_lt

/-! ## A sample loop -/

def weth : Address := "0x4200000000000000000000000000000000000006"

def asset : Address := "0x3333333333333333333333333333333333333333"

def pool1 : Address := "0x1111111111111111111111111111111111111111"

def pool2 : Address := "0x2222222222222222222222222222222222222222"

/-- The profitable loop of the unit tests, at 20-byte addresses. -/
def profitableLoop : TwoLegLoopInput :=
  { blockContext := .pending, settlementToken := weth, amountIn := 1000000,
    firstPool :=
      { address := pool1, protocol := .uniswapV2, exchange := some .aerodrome,
        token0 := weth, token1 := asset, reserve0 := 1000000000,
        reserve1 := 2500000000, feeBps := 30, lastUpdatedBlock := none },
    secondPool :=
      { address := pool2, protocol := .uniswapV2, exchange := some .alienBase,
        token0 := asset, token1 := weth, reserve0 := 2000000000,
        reserve1 := 1200000000, feeBps := 30, lastUpdatedBlock := none },
    triggerTxHash := some "0xtrigger" }

def sampleCosts : SimulationConfig :=
  { gasEstimate := 180000, gasCostWei := 5, l1DataFeeWei := 2 }

/-- A policy with a profit floor of 10 wei and no other gate. -/
def floorPolicy : RiskPolicy :=
  { minNetProfitWei := 10, minProfitBps := 0, maxTradeNotionalWei := none,
    maxPerBlockNotionalWei := none, maxDailyNotionalWei := none, maxSlippageBps := 10000,
    tokenAllowlist := ∅, tokenDenylist := ∅, maxConsecutiveReverts := 0,
    killSwitchPath := none }

def sampleOpportunity : Opportunity :=
  { id := "loop:" ++ weth ++ ":" ++ pool1 ++ ":" ++ pool2 ++ ":1000000", kind := .twoLegLoop,
    blockContext := .pending, settlementToken := weth, inputAmount := 1000000,
    expectedOutputAmount := 1487681, expectedNetProfit := 487681,
    route :=
      [ { venue := some .aerodrome, protocol := some .uniswapV2, target := pool1,
          poolAddress := some pool1, tokenIn := weth, tokenOut := asset,
          amountIn := some 1000000, minAmountOut := some 2490017 },
        { venue := some .alienBase, protocol := some .uniswapV2, target := pool2,
          poolAddress := some pool2, tokenIn := asset, tokenOut := weth,
          amountIn := some 2490017, minAmountOut := some 1487681 } ],
    triggerTxHash := some "0xtrigger" }

def sampleSimulation : SimulationResult :=
  { opportunityId := sampleOpportunity.id, accepted := true, expectedGrossProfit := 487681,
    expectedNetProfit := 487674, gasEstimate := 180000, gasCostWei := 5, l1DataFee := 2,
    notes := ["simulation path uses deterministic local V2 quotes",
      "gas and L1 data fee are config-driven cost baselines"] }

def sampleRequest : ExecutionRequest :=
  { opportunityId := sampleOpportunity.id,
    steps :=
      [ { venue := some .aerodrome, protocol := some .uniswapV2, target := pool1,
          tokenIn := weth, tokenOut := asset, poolFee := none, amountIn := some 1000000,
          minAmountOut := 2490017, calldataHint := some "v2_exact_input", auxAddress := none },
        { venue := some .alienBase, protocol := some .uniswapV2, target := pool2,
          tokenIn := asset, tokenOut := weth, poolFee := none, amountIn := some 2490017,
          minAmountOut := 1487681, calldataHint := some "v2_exact_input", auxAddress := none } ],
    minRepay := 1000000, minSurplus := 10, flashloanAsset := some weth,
    flashloanAmount := some 1000000,
    riskHash := "ba5ad3898107568b684a0f07719f8964e919a65587f0a3a1e304774c1ca7296f" }

theorem sampleRequest_accepted :
    Accepted Sha256.hexDigest profitableLoop sampleCosts floorPolicy ⟨0, false⟩
      RiskState.default sampleOpportunity sampleSimulation sampleRequest where
  detected := by decide +kernel
  simulated := by decide +kernel
  accepted := by decide +kernel
  requested := by decide +kernel

/-- Addresses and hashes in hexadecimal. The printer leaves out the mixed
case of the checksum, which an address of decimal digits does not have. -/
def sampleCodec : AlloyCodec :=
  { parseAddress := hexAddress,
    formatAddress := fun address => "0x" ++ Text.lowerHex 40 address.toNat,
    parseBytes32 := fun value =>
      match Text.fixedHex 64 value with
      | some hash => .ok (BitVec.ofNat 256 hash)
      | none => .error "invalid string length" }

def sampleExecution : ExecutionConfig :=
  { routerAddress := some "0x5555555555555555555555555555555555555555",
    planDeadlineSecs := 30, useFlashloan := true }

def samplePayload : SubmissionPayload RouterCall :=
  { routerAddress := "0x5555555555555555555555555555555555555555",
    calldata := .executePlanWithFlashLoan
      { settlementToken := 0x4200000000000000000000000000000000000006,
        fundingAmount := 1000000, minRepayAmount := 1000000, minSurplus := 10,
        deadline := 1700000030,
        steps :=
          [ { venueKind := 1, target := 0x1111111111111111111111111111111111111111,
              tokenIn := 0x4200000000000000000000000000000000000006,
              tokenOut := 0x3333333333333333333333333333333333333333, fee := 0,
              minAmountOut := 2490017, extraData := [] },
            { venueKind := 1, target := 0x2222222222222222222222222222222222222222,
              tokenIn := 0x3333333333333333333333333333333333333333,
              tokenOut := 0x4200000000000000000000000000000000000006, fee := 0,
              minAmountOut := 1487681, extraData := [] } ],
        riskHash := 0xba5ad3898107568b684a0f07719f8964e919a65587f0a3a1e304774c1ca7296f },
    value := 0 }

theorem samplePayload_built :
    buildSubmissionPayloadAt sampleCodec sampleExecution sampleRequest 1700000000
      = .ok samplePayload := by
  decide +kernel

def samplePlan : ExecutionPlan := samplePayload.calldata.plan.decode.get (by decide)

def sampleContract : RouterContract :=
  { self := 0x5555555555555555555555555555555555555555,
    balancerVault := 0xba12222222228d8ba445958a75a0704d566bf2c8,
    inherited := sampleGuards }

def sampleExecutor : EvmAddress := 0x8888888888888888888888888888888888888888

/-- Keccak-256 of `abi.encode(sampleExecutor, samplePlan)`. -/
def sampleFingerprint : Bytes32 :=
  0xc09cd622f4748ec5a67144015e1a29f15e23e3810effbc508ab1854eb673ad3f

/-- A chain on which every call succeeds and every venue returns exactly
the minimum it is asked for. It hashes the one user data of the sample. -/
def exactChain : Chain Unit (EvmAddress × ExecutionPlan) :=
  { forceApprove := fun _ _ _ w => .ok (w, ()),
    safeTransfer := fun _ _ _ w => .ok (w, ()),
    safeTransferFrom := fun _ _ _ _ w => .ok (w, ()),
    exactInputSingle := fun _ params w => .ok (w, params.amountOutMinimum),
    swapExactTokensForTokens := fun _ amountIn minimum _ _ _ w => .ok (w, [amountIn, minimum]),
    swapAerodrome := fun _ amountIn minimum _ _ _ w => .ok (w, [amountIn, minimum]),
    flashLoan := fun _ _ _ _ _ w => .ok (w, ()),
    encodeUserData := Prod.mk, decodeUserData := some, keccak256 := fun _ => sampleFingerprint }

/-- The router in the middle of the sample loan. -/
def loanWorld : World Unit :=
  { storage :=
      { owner := 7, paused := false, entered := true,
        executors := fun account => decide (account = sampleExecutor),
        activeLoanFingerprint := sampleFingerprint },
    rest := () }

/-! ## The plan the contract reads -/

/-- The plan encoded for an accepted loop decodes to two steps for the V2
adapter, from the settlement token over one other token and back. -/
theorem Accepted.decoded
    (h : Accepted sha256 input config policy reading state opp sim req) {codec : AlloyCodec}
    {execution : ExecutionConfig} {nowSecs : Nat} {payload : SubmissionPayload RouterCall}
    (hpayload : buildSubmissionPayloadAt codec execution req nowSecs = .ok payload) :
    ∃ plan step₁ step₂, payload.calldata.plan.decode = some plan
      ∧ plan.steps = [step₁, step₂]
      ∧ step₁.venueKind = .uniswapV2 ∧ step₂.venueKind = .uniswapV2
      ∧ Connected plan.settlementToken plan.steps plan.settlementToken
      ∧ plan.fundingAmount = input.amountIn
      ∧ plan.minRepayAmount + plan.minSurplus ≤ step₂.minAmountOut
      ∧ step₂.minAmountOut < 2 ^ 128 := by
  obtain ⟨mid, first, second, hsteps, hasset, hamount, hrepay, hsurplus, hcovers, hlt⟩ :=
    h.request
  obtain ⟨⟨asset, hasset', hsettle⟩, hfunding, hplanRepay, hplanSurplus, hbuild⟩ :=
    buildSubmissionPayloadAt_ok hpayload
  obtain rfl : input.settlementToken = asset := Option.some.inj (hasset.symm.trans hasset')
  rw [hsteps] at hbuild
  obtain ⟨r₁, r₂, hr₁, hr₂, hplanSteps⟩ := buildRouteSteps_pair_iff.mp hbuild
  obtain ⟨-, hin₁, hout₁, hkind₁, -⟩ := buildRouteStep_quoteStep hr₁
  obtain ⟨-, hin₂, hout₂, hkind₂, hmin₂⟩ := buildRouteStep_quoteStep hr₂
  generalize payload.calldata.plan = encoded at *
  let route (r : RouterRouteStep) : RouteStep :=
    { venueKind := .uniswapV2, target := r.target, tokenIn := r.tokenIn,
      tokenOut := r.tokenOut, fee := r.fee, minAmountOut := r.minAmountOut,
      extraData := r.extraData }
  have hdecode : ∀ r : RouterRouteStep, r.venueKind = RouterVenueKind.uniswapV2.toNat →
      r.decode = some (route r) := by
    intro r hr
    unfold RouterRouteStep.decode
    rw [hr]
    rfl
  refine ⟨⟨encoded.settlementToken, encoded.fundingAmount, encoded.minRepayAmount,
    encoded.minSurplus, encoded.deadline, [route r₁, route r₂], encoded.riskHash⟩,
    route r₁, route r₂, ?_, rfl, rfl, rfl, ⟨?_, ?_, ?_⟩, ?_, ?_, ?_⟩
  · unfold RouterExecutionPlan.decode
    simp [hplanSteps, hdecode r₁ hkind₁, hdecode r₂ hkind₂]
  · exact Except.ok.inj (hin₁.symm.trans hsettle)
  · exact Except.ok.inj (hin₂.symm.trans hout₁)
  · exact Except.ok.inj (hout₂.symm.trans hsettle)
  · exact Option.some.inj (hfunding.symm.trans hamount)
  · show encoded.minRepayAmount + encoded.minSurplus ≤ r₂.minAmountOut
    rw [hplanRepay, hplanSurplus, hrepay, hsurplus, hmin₂]
    omega
  · show r₂.minAmountOut < 2 ^ 128
    rw [hmin₂]
    exact hlt

/-- **Engine plans pass the router's checks.** The plan encoded for an
accepted loop decodes, and on every chain whose steps return at least their
minimums the route is rejected by none of the contract's own errors, and
the settlement check on its output neither overflows nor fails. -/
theorem payload_passes_route_check
    (h : Accepted sha256 input config policy reading state opp sim req) {codec : AlloyCodec}
    {execution : ExecutionConfig} {nowSecs : Nat} {payload : SubmissionPayload RouterCall}
    (hpayload : buildSubmissionPayloadAt codec execution req nowSecs = .ok payload) :
    ∃ plan, payload.calldata.plan.decode = some plan
      ∧ ∀ (ω UserData : Type) (chain : Chain ω UserData) (contract : RouterContract)
          (w : World ω),
          MeetsMinimums chain contract plan.deadline plan.steps plan.fundingAmount w →
          (∀ e, runRoute chain contract plan plan.fundingAmount w = .error e →
              e.isRouteError = false)
            ∧ ∀ w' amountOut,
                runRoute chain contract plan plan.fundingAmount w = .ok (w', amountOut) →
                ∃ minimum, addUint plan.minRepayAmount plan.minSurplus = .ok minimum
                  ∧ minimum ≤ amountOut := by
  obtain ⟨plan, step₁, step₂, hdecode, hsteps, hkind₁, hkind₂, hconn, -, hcovers, hlt⟩ :=
    h.decoded hpayload
  refine ⟨plan, hdecode, fun ω UserData chain contract w hmin => ⟨fun e he => ?_, ?_⟩⟩
  · refine runRoute_of_connected (by simp [hsteps]) hconn ?_ hmin he
    intro step hmem
    rw [hsteps] at hmem
    rcases List.mem_pair.mp hmem with rfl | rfl
    · rw [hkind₁]; decide
    · rw [hkind₂]; decide
  · intro w' amountOut hok
    obtain ⟨last, hlast, hge, -⟩ := runRoute_ok hok
    rw [hsteps] at hlast
    obtain rfl : step₂ = last := Option.some.inj hlast
    have hfits : plan.minRepayAmount + plan.minSurplus < 2 ^ 256 := by omega
    refine ⟨plan.minRepayAmount + plan.minSurplus, ?_, by omega⟩
    unfold addUint
    rw [checkedAdd_eq_some_iff.mpr ⟨hfits, rfl⟩]
    rfl

/-- The payload of the sample loop on the exact chain: the route completes
and its output passes the settlement check. -/
theorem samplePayload_passes_route_check :
    ∃ w' amountOut minimum, samplePayload.calldata.plan.decode = some samplePlan
      ∧ runRoute exactChain sampleContract samplePlan samplePlan.fundingAmount loanWorld
        = .ok (w', amountOut)
      ∧ addUint samplePlan.minRepayAmount samplePlan.minSurplus = .ok minimum
      ∧ minimum ≤ amountOut := by
  obtain ⟨plan, hdecode, hroute⟩ :=
    payload_passes_route_check sampleRequest_accepted samplePayload_built
  obtain rfl : samplePlan = plan := Option.some.inj ((Option.some_get _).trans hdecode)
  have hmin : MeetsMinimums exactChain sampleContract samplePlan.deadline samplePlan.steps
      samplePlan.fundingAmount loanWorld := by
    intro w₁ out₁ h₁
    cases h₁
    refine ⟨Nat.le_refl _, fun w₂ out₂ h₂ => ?_⟩
    cases h₂
    exact ⟨Nat.le_refl _, trivial⟩
  obtain ⟨w', amountOut, hok⟩ : ∃ w' amountOut, runRoute exactChain sampleContract samplePlan
      samplePlan.fundingAmount loanWorld = .ok (w', amountOut) := ⟨_, _, rfl⟩
  obtain ⟨minimum, hadd, hle⟩ :=
    (hroute Unit _ exactChain sampleContract loanWorld hmin).2 w' amountOut hok
  exact ⟨w', amountOut, minimum, hdecode, hok, hadd, hle⟩

/-! ## The profit floor -/

/-- The router plan of a request: the same steps, as far as their minimums
go, and the same amounts. -/
structure PlanOf (req : ExecutionRequest) (plan : ExecutionPlan) : Prop where
  steps : plan.steps.map RouteStep.minAmountOut = req.steps.map ExecutionStep.minAmountOut
  funding : req.flashloanAmount = some plan.fundingAmount
  minRepay : plan.minRepayAmount = req.minRepay
  minSurplus : plan.minSurplus = req.minSurplus

variable {ω UserData : Type} {chain : Chain ω UserData} {contract : RouterContract}

theorem PlanOf.last_min {plan : ExecutionPlan} (h : PlanOf req plan) {s₁ s₂ : ExecutionStep}
    (hsteps : req.steps = [s₁, s₂]) {last : RouteStep}
    (hlast : plan.steps.getLast? = some last) : last.minAmountOut = s₂.minAmountOut := by
  have hmap := congrArg List.getLast? h.steps
  rw [List.getLast?_map, hlast, hsteps] at hmap
  exact Option.some.inj hmap

/-- **End-to-end profit floor.** For every behaviour of the chain, a
callback that completes on the plan of an accepted loop has an output that
exceeds the funding amount by the gas cost, the L1 data fee and the
policy's minimum profit. -/
theorem profitFloor (h : Accepted sha256 input config policy reading state opp sim req)
    {plan : ExecutionPlan} (hplan : PlanOf req plan) {msg : Msg} {tokens : List EvmAddress}
    {amounts fees : List Nat} {userData : UserData} {caller : EvmAddress} {w w' : World ω}
    {event : PlanExecuted} (hdec : chain.decodeUserData userData = some (caller, plan))
    (hcall : receiveFlashLoan chain contract msg tokens amounts fees userData w
      = .ok (w', event)) :
    (config.gasCostWei + config.l1DataFeeWei + policy.minNetProfitWei : Int)
      ≤ event.amountOut - plan.fundingAmount := by
  obtain ⟨mid, first, second, hsteps, -, hamount, -, -, hcovers, -⟩ := h.request
  obtain ⟨⟨w₁, w₂, hchecked⟩, -, -, -⟩ := receiveFlashLoan_ok hdec hcall
  obtain ⟨⟨w₃, hroute⟩, -⟩ := runRouteChecked_ok hchecked
  obtain ⟨last, hlast, hmin, -⟩ := runRoute_ok hroute
  have hlastMin : last.minAmountOut = second.amountOut := hplan.last_min hsteps hlast
  have hfunding : plan.fundingAmount = input.amountIn :=
    Option.some.inj (hplan.funding.symm.trans hamount)
  omega

/-- The callback on the sample plan completes and has earned the 7 wei of
costs and the floor of 10. -/
theorem samplePlan_profitFloor :
    ∃ w' event, receiveFlashLoan exactChain sampleContract
        ⟨sampleContract.balancerVault, 1700000010⟩ [samplePlan.settlementToken] [1000000] [0]
        (sampleExecutor, samplePlan) loanWorld = .ok (w', event)
      ∧ ((5 + 2 + 10 : Nat) : Int) ≤ event.amountOut - samplePlan.fundingAmount := by
  obtain ⟨w', event, hcall⟩ : ∃ w' event, receiveFlashLoan exactChain sampleContract
      ⟨sampleContract.balancerVault, 1700000010⟩ [samplePlan.settlementToken] [1000000] [0]
      (sampleExecutor, samplePlan) loanWorld = .ok (w', event) := ⟨_, _, rfl⟩
  have hplan : PlanOf sampleRequest samplePlan :=
    ⟨by decide, by decide, by decide, by decide⟩
  exact ⟨w', event, hcall, profitFloor sampleRequest_accepted hplan rfl hcall⟩

end BaseEngine
