import BaseEngine.Config
import BaseEngine.Decision
import BaseEngine.Router
import BaseEngine.Submit

/-!
# From an execution request to calldata

`build_submission_payload_at` and `build_route_step` of
`crates/execution/src/lib.rs`. The address, hash and ABI coders of the
source's Ethereum library are the parameters of an `AlloyCodec`; calldata is
the call it encodes (`RouterCall`), and `RouterExecutionPlan.decode` is what
the contract reads out of it, under the assumption that the ABI coding is
undone by the contract's decoder.
-/

namespace BaseEngine

open Abi Fallible Machine Text

/-- Parsers and printer of addresses and hashes. -/
structure AlloyCodec where
  parseAddress : String → Except String EvmAddress
  formatAddress : EvmAddress → String
  parseBytes32 : String → Except String Bytes32

inductive RouterVenueKind where
  | uniswapV2
  | uniswapV3Single
  | aerodromeV2
deriving Repr, DecidableEq

/-- The numeric value of a kind is part of the contract's ABI. -/
def RouterVenueKind.toNat : RouterVenueKind → Nat
  | .uniswapV2 => 1
  | .uniswapV3Single => 2
  | .aerodromeV2 => 3

structure RouterRouteStep where
  venueKind : Nat
  target : EvmAddress
  tokenIn : EvmAddress
  tokenOut : EvmAddress
  fee : Nat
  minAmountOut : Nat
  extraData : List UInt8
deriving Repr, DecidableEq

structure RouterExecutionPlan where
  settlementToken : EvmAddress
  fundingAmount : Nat
  minRepayAmount : Nat
  minSurplus : Nat
  deadline : Nat
  steps : List RouterRouteStep
  riskHash : Bytes32
deriving Repr, DecidableEq

inductive RouterCall where
  | executePlan (plan : RouterExecutionPlan)
  | executePlanWithFlashLoan (plan : RouterExecutionPlan)
deriving Repr, DecidableEq

def RouterCall.plan : RouterCall → RouterExecutionPlan
  | .executePlan plan => plan
  | .executePlanWithFlashLoan plan => plan

/-! ## What the contract decodes -/

/-- A number as the contract's enumeration; larger ones do not decode. -/
def VenueKind.fromAbi : Nat → Option VenueKind
  | 0 => some .unsupported
  | 1 => some .uniswapV2
  | 2 => some .uniswapV3Single
  | 3 => some .aerodromeV2
  | _ => none

def RouterRouteStep.decode (step : RouterRouteStep) : Option RouteStep := do
  let venueKind ← VenueKind.fromAbi step.venueKind
  return { venueKind, target := step.target, tokenIn := step.tokenIn,
           tokenOut := step.tokenOut, fee := step.fee, minAmountOut := step.minAmountOut,
           extraData := step.extraData }

def RouterExecutionPlan.decode (plan : RouterExecutionPlan) : Option ExecutionPlan := do
  let steps ← plan.steps.mapM RouterRouteStep.decode
  return { settlementToken := plan.settlementToken, fundingAmount := plan.fundingAmount,
           minRepayAmount := plan.minRepayAmount, minSurplus := plan.minSurplus,
           deadline := plan.deadline, steps, riskHash := plan.riskHash }

/-! ## Building the call -/

variable (codec : AlloyCodec)

def parseAddress (value context : String) : Except ErrorChain EvmAddress :=
  (codec.parseAddress value).mapError fun e =>
    ["failed to parse " ++ context ++ " `" ++ value ++ "` as an address", e]

def parseRiskHash (value : String) : Except ErrorChain Bytes32 :=
  let normalized := if "0x".toList.isPrefixOf value.toList then value else "0x" ++ value
  (codec.parseBytes32 normalized).mapError fun e =>
    ["failed to parse risk hash `" ++ value ++ "` as bytes32", e]

/-- `abi.encode(stable, factory)` as the source spells it out. -/
def encodeBoolAddress (stable : Bool) (factory : EvmAddress) : List UInt8 :=
  List.replicate 31 0 ++ [if stable then 1 else 0] ++ List.replicate 12 0
    ++ toBeBytes 20 factory.toNat

def buildRouteStep (step : ExecutionStep) (index : Nat) :
    Except ErrorChain RouterRouteStep := do
  let hint ← okOr step.calldataHint [s!"execution step {index} is missing calldata_hint"]
  let target ← parseAddress codec step.target "execution step target"
  let tokenIn ← parseAddress codec step.tokenIn "execution step token_in"
  let tokenOut ← parseAddress codec step.tokenOut "execution step token_out"
  let routeStep (kind : RouterVenueKind) (fee : Nat) (extraData : List UInt8) :
      RouterRouteStep :=
    { venueKind := kind.toNat, target, tokenIn, tokenOut, fee,
      minAmountOut := step.minAmountOut, extraData }
  if hint = "uniswap_v3_exact_input_single" ∨ hint = "v3_exact_input_single" then do
    let fee ← okOr step.poolFee [s!"execution step {index} v3 swap is missing pool_fee"]
    if fee ≤ 1000000 then return routeStep .uniswapV3Single fee []
    else .error [s!"execution step {index} has an invalid v3 pool fee `{fee}`"]
  else if hint = "v2_exact_input" ∨ hint = "uniswap_v2_exact_input" then
    return routeStep .uniswapV2 0 []
  else if hint = "aerodrome_v2_volatile" ∨ hint = "aerodrome_v2_stable" then do
    let factoryStr ← okOr step.auxAddress
      [s!"execution step {index} aerodrome swap is missing aux_address (factory)"]
    let factory ← parseAddress codec factoryStr "execution step aerodrome factory"
    return routeStep .aerodromeV2 0
      (encodeBoolAddress (decide (hint = "aerodrome_v2_stable")) factory)
  else .error [s!"execution step {index} uses unsupported calldata hint `{hint}`"]

/-- The steps with their positions, from `index` on. -/
def buildRouteSteps : Nat → List ExecutionStep → Except ErrorChain (List RouterRouteStep)
  | _, [] => .ok []
  | index, step :: rest => do
      let first ← buildRouteStep codec step index
      let others ← buildRouteSteps (index + 1) rest
      return first :: others

def buildSubmissionPayloadAt (config : ExecutionConfig) (request : ExecutionRequest)
    (nowSecs : Nat) : Except ErrorChain (SubmissionPayload RouterCall) := do
  let routerAddress ← okOr config.routerAddress
    ["EXECUTION_ROUTER_ADDRESS is required to build calldata"]
  let routerAddress ← parseAddress codec routerAddress "EXECUTION_ROUTER_ADDRESS"
  let flashloanAsset ← okOr request.flashloanAsset
    ["execution request is missing flashloan_asset"]
  let settlementToken ← parseAddress codec flashloanAsset "execution request flashloan_asset"
  let riskHash ← parseRiskHash codec request.riskHash
  let fundingAmount ← okOr request.flashloanAmount
    ["execution request is missing flashloan_amount"]
  let steps ← buildRouteSteps codec 0 request.steps
  let deadline ← okOr (checkedAdd 64 nowSecs config.planDeadlineSecs)
    ["plan deadline overflow"]
  let plan : RouterExecutionPlan :=
    { settlementToken, fundingAmount, minRepayAmount := request.minRepay,
      minSurplus := request.minSurplus, deadline, steps, riskHash }
  return { routerAddress := codec.formatAddress routerAddress,
           calldata := if config.useFlashloan then .executePlanWithFlashLoan plan
             else .executePlan plan,
           value := 0 }

/-! ## What a payload says -/

variable {codec}

theorem parseAddress_ok {value context : String} {address : EvmAddress}
    (h : parseAddress codec value context = .ok address) :
    codec.parseAddress value = .ok address := by
  unfold parseAddress at h
  cases hparse : codec.parseAddress value with
  | error e => rw [hparse] at h; cases h
  | ok a => rw [hparse] at h; cases h; rfl

/-- The step of a quoted leg goes to the V2 adapter, with the pool and the
leg's tokens as addresses and the quote as its minimum. -/
theorem buildRouteStep_quoteStep {pool : V2PoolState} {tokenIn tokenOut : Address}
    {quote : PoolQuote} {index : Nat} {step : RouterRouteStep}
    (h : buildRouteStep codec (quoteStep pool tokenIn tokenOut quote) index = .ok step) :
    codec.parseAddress pool.address = .ok step.target
      ∧ codec.parseAddress tokenIn = .ok step.tokenIn
      ∧ codec.parseAddress tokenOut = .ok step.tokenOut
      ∧ step.venueKind = RouterVenueKind.uniswapV2.toNat
      ∧ step.minAmountOut = quote.amountOut := by
  obtain ⟨hint, hhint, h⟩ := okOr_bind_eq_ok_iff.mp h
  obtain rfl : "v2_exact_input" = hint := Option.some.inj hhint
  obtain ⟨target, htarget, h⟩ := bind_eq_ok_iff.mp h
  obtain ⟨tin, htin, h⟩ := bind_eq_ok_iff.mp h
  obtain ⟨tout, htout, h⟩ := bind_eq_ok_iff.mp h
  simp only [show ¬ ("v2_exact_input" = "uniswap_v3_exact_input_single"
      ∨ "v2_exact_input" = "v3_exact_input_single") by decide, if_false, true_or, if_true] at h
  cases h
  exact ⟨parseAddress_ok htarget, parseAddress_ok htin, parseAddress_ok htout, rfl, rfl⟩

/-- The addresses of a leg parse, so that it has an encoding. -/
def Encodable (codec : AlloyCodec) (leg : RouteLeg) : Prop :=
  (codec.parseAddress leg.target).isOk = true ∧ (codec.parseAddress leg.tokenIn).isOk = true
    ∧ (codec.parseAddress leg.tokenOut).isOk = true

instance (codec : AlloyCodec) (leg : RouteLeg) : Decidable (Encodable codec leg) :=
  inferInstanceAs (Decidable (_ ∧ _ ∧ _))

/-- A leg with addresses is encoded. -/
theorem exists_buildRouteStep {pool : V2PoolState} {tokenIn tokenOut : Address}
    {quote : PoolQuote} (index : Nat)
    (h : Encodable codec (quoteLeg pool tokenIn tokenOut quote)) :
    ∃ step, buildRouteStep codec (quoteStep pool tokenIn tokenOut quote) index = .ok step := by
  obtain ⟨htarget, hin, hout⟩ := h
  obtain ⟨target, htarget⟩ := isOk_iff.mp htarget
  obtain ⟨tin, hin⟩ := isOk_iff.mp hin
  obtain ⟨tout, hout⟩ := isOk_iff.mp hout
  simp only [quoteLeg] at htarget hin hout
  unfold buildRouteStep quoteStep parseAddress
  simp only [htarget, hin, hout, okOr_some, ok_bind, Except.mapError]
  exact ⟨_, rfl⟩

theorem encodable_of_buildRouteStep {pool : V2PoolState} {tokenIn tokenOut : Address}
    {quote : PoolQuote} {index : Nat} {step : RouterRouteStep}
    (h : buildRouteStep codec (quoteStep pool tokenIn tokenOut quote) index = .ok step) :
    Encodable codec (quoteLeg pool tokenIn tokenOut quote) := by
  obtain ⟨htarget, hin, hout, -⟩ := buildRouteStep_quoteStep h
  exact ⟨isOk_iff.mpr ⟨_, htarget⟩, isOk_iff.mpr ⟨_, hin⟩, isOk_iff.mpr ⟨_, hout⟩⟩

theorem buildRouteSteps_pair_iff {s₁ s₂ : ExecutionStep} {steps : List RouterRouteStep} :
    buildRouteSteps codec 0 [s₁, s₂] = .ok steps
      ↔ ∃ r₁ r₂, buildRouteStep codec s₁ 0 = .ok r₁ ∧ buildRouteStep codec s₂ 1 = .ok r₂
        ∧ steps = [r₁, r₂] := by
  constructor
  · intro h
    obtain ⟨r₁, h₁, h⟩ := bind_eq_ok_iff.mp h
    obtain ⟨others, hothers, h⟩ := bind_eq_ok_iff.mp h
    obtain ⟨r₂, h₂, hothers⟩ := bind_eq_ok_iff.mp hothers
    cases h
    cases hothers
    exact ⟨r₁, r₂, h₁, h₂, rfl⟩
  · rintro ⟨r₁, r₂, h₁, h₂, rfl⟩
    unfold buildRouteSteps buildRouteSteps buildRouteSteps
    rw [h₁, ok_bind, h₂]
    rfl

/-- **Inversion of a payload.** The encoded plan carries the request's
amounts, the address of its asset and its steps in order. -/
theorem buildSubmissionPayloadAt_ok {config : ExecutionConfig} {request : ExecutionRequest}
    {nowSecs : Nat} {payload : SubmissionPayload RouterCall}
    (h : buildSubmissionPayloadAt codec config request nowSecs = .ok payload) :
    (∃ asset, request.flashloanAsset = some asset
        ∧ codec.parseAddress asset = .ok payload.calldata.plan.settlementToken)
      ∧ request.flashloanAmount = some payload.calldata.plan.fundingAmount
      ∧ payload.calldata.plan.minRepayAmount = request.minRepay
      ∧ payload.calldata.plan.minSurplus = request.minSurplus
      ∧ buildRouteSteps codec 0 request.steps = .ok payload.calldata.plan.steps := by
  obtain ⟨router, -, h⟩ := okOr_bind_eq_ok_iff.mp h
  obtain ⟨routerAddress, -, h⟩ := bind_eq_ok_iff.mp h
  obtain ⟨asset, hasset, h⟩ := okOr_bind_eq_ok_iff.mp h
  obtain ⟨settlement, hsettle, h⟩ := bind_eq_ok_iff.mp h
  obtain ⟨riskHash, -, h⟩ := bind_eq_ok_iff.mp h
  obtain ⟨funding, hfunding, h⟩ := okOr_bind_eq_ok_iff.mp h
  obtain ⟨steps, hsteps, h⟩ := bind_eq_ok_iff.mp h
  obtain ⟨deadline, -, h⟩ := okOr_bind_eq_ok_iff.mp h
  cases h
  cases config.useFlashloan with
  | true => exact ⟨⟨asset, hasset, parseAddress_ok hsettle⟩, hfunding, rfl, rfl, hsteps⟩
  | false => exact ⟨⟨asset, hasset, parseAddress_ok hsettle⟩, hfunding, rfl, rfl, hsteps⟩

end BaseEngine
