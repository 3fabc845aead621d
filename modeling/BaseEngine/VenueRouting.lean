import BaseEngine.Scan

/-!
# The venue of a leg, from the pool to the router

A pool's protocol is carried through the route of an opportunity and the
steps of its request; the router is told by the number of an enumeration
which adapter to run, and by extra data which kind of Aerodrome pool to use.
Between the two stands the calldata hint of a step, which
`build_execution_request` writes without a look at the protocol.

`legsRouted_iff`: the legs of a detected loop reach the adapter of their
protocol exactly when none of them is an Aerodrome leg.
-/

namespace BaseEngine

open Fallible

/-- The encoded step runs the adapter of the leg's protocol, an Aerodrome
step with extra data that the adapter can decode. -/
def RoutedToVenue (leg : RouteLeg) (step : RouterRouteStep) : Prop :=
  (leg.protocol = some .aerodrome →
      ∃ routeStep stable factory, step.decode = some routeStep
        ∧ routeStep.venueKind = .aerodromeV2
        ∧ abiDecodeBoolAddress routeStep.extraData = some (stable, factory)
        ∧ ∀ (ω UserData : Type) (chain : Chain ω UserData) (contract : RouterContract),
          executeStep chain contract routeStep = swapAerodromeV2 chain contract routeStep)
    ∧ (leg.protocol = some .uniswapV2 →
      ∃ routeStep, step.decode = some routeStep ∧ routeStep.venueKind = .uniswapV2
        ∧ ∀ (ω UserData : Type) (chain : Chain ω UserData) (contract : RouterContract),
          executeStep chain contract routeStep = swapUniswapV2 chain contract routeStep)

/-- Every leg whose step is encoded is routed to its venue. -/
def LegsRouted (codec : AlloyCodec) (opp : Opportunity) (req : ExecutionRequest) : Prop :=
  ∀ index leg step routerStep, opp.route[index]? = some leg → req.steps[index]? = some step →
    buildRouteStep codec step index = .ok routerStep → RoutedToVenue leg routerStep

variable {codec : AlloyCodec} {pool : V2PoolState} {tokenIn tokenOut : Address}
  {quote : PoolQuote} {index : Nat}

/-- Whatever its protocol, an encoded leg goes to the V2 adapter. -/
theorem venueKind_of_buildRouteStep {step : RouterRouteStep}
    (h : buildRouteStep codec (quoteStep pool tokenIn tokenOut quote) index = .ok step) :
    ∃ routeStep, step.decode = some routeStep ∧ routeStep.venueKind = .uniswapV2 := by
  obtain ⟨-, -, -, hkind, -⟩ := buildRouteStep_quoteStep h
  unfold RouterRouteStep.decode
  rw [hkind]
  exact ⟨_, rfl, rfl⟩

/-- An encoded leg is routed to its venue exactly when it is no Aerodrome
leg. -/
theorem routedToVenue_iff {step : RouterRouteStep}
    (h : buildRouteStep codec (quoteStep pool tokenIn tokenOut quote) index = .ok step) :
    RoutedToVenue (quoteLeg pool tokenIn tokenOut quote) step ↔ pool.protocol ≠ .aerodrome := by
  obtain ⟨routeStep, hdecode, hkind⟩ := venueKind_of_buildRouteStep h
  constructor
  · intro hrouted haerodrome
    obtain ⟨routeStep', _, _, hdecode', hkind', -⟩ := hrouted.1 (congrArg some haerodrome)
    obtain rfl := Option.some.inj (hdecode.symm.trans hdecode')
    rw [hkind] at hkind'
    cases hkind'
  · intro hne
    refine ⟨fun haerodrome => absurd (Option.some.inj haerodrome) hne, fun _ => ?_⟩
    refine ⟨routeStep, hdecode, hkind, fun ω UserData chain contract => ?_⟩
    funext amountIn deadline w
    unfold executeStep
    rw [hkind]

/-- The legs of a request made of two quoted legs. -/
theorem legsRouted_pair {opp : Opportunity} {req : ExecutionRequest}
    {firstPool secondPool : V2PoolState} {token mid : Address} {first second : PoolQuote}
    (hroute : opp.route = [quoteLeg firstPool token mid first,
      quoteLeg secondPool mid token second])
    (hsteps : req.steps = [quoteStep firstPool token mid first,
      quoteStep secondPool mid token second]) :
    LegsRouted codec opp req
      ↔ (∀ step, buildRouteStep codec (quoteStep firstPool token mid first) 0 = .ok step →
          RoutedToVenue (quoteLeg firstPool token mid first) step)
        ∧ ∀ step, buildRouteStep codec (quoteStep secondPool mid token second) 1 = .ok step →
          RoutedToVenue (quoteLeg secondPool mid token second) step := by
  unfold LegsRouted
  rw [hroute, hsteps]
  constructor
  · intro h
    exact ⟨fun step => h 0 _ _ step rfl rfl, fun step => h 1 _ _ step rfl rfl⟩
  · rintro ⟨h₀, h₁⟩ index leg step routerStep hleg hstep
    match index with
    | 0 => cases hleg; cases hstep; exact h₀ routerStep
    | 1 => cases hleg; cases hstep; exact h₁ routerStep
    | _ + 2 => cases hleg

/-- What is encoded of a leg is routed to its venue exactly when an
Aerodrome leg has no encoding. -/
theorem forall_routedToVenue_iff :
    (∀ step, buildRouteStep codec (quoteStep pool tokenIn tokenOut quote) index = .ok step →
        RoutedToVenue (quoteLeg pool tokenIn tokenOut quote) step)
      ↔ (Encodable codec (quoteLeg pool tokenIn tokenOut quote) →
          (quoteLeg pool tokenIn tokenOut quote).protocol ≠ some .aerodrome) := by
  constructor
  · intro h hencodable
    obtain ⟨step, hstep⟩ := exists_buildRouteStep index hencodable
    exact fun haerodrome =>
      (routedToVenue_iff hstep).mp (h step hstep) (Option.some.inj haerodrome)
  · intro h step hstep
    have hne := h (encodable_of_buildRouteStep hstep)
    exact (routedToVenue_iff hstep).mpr fun haerodrome => hne (congrArg some haerodrome)

/-- **Venue routing.** For a loop that the scan has detected and the risk
engine accepted, every encoded leg is dispatched to the adapter of its
protocol exactly when no leg that has an encoding is an Aerodrome leg. The
pools may be listed in any order. -/
theorem legsRouted_iff {sha256 : List UInt8 → String} {pools : List V2PoolState}
    {blockContext : BlockContext} {settlementToken : Address} {amountIn : Nat}
    {triggerTxHash : Option String} {policy : RiskPolicy} {reading : Reading}
    {state : RiskState} {opp : Opportunity} {sim : SimulationResult} {req : ExecutionRequest}
    (hdetected : opp ∈ detectTwoLegLoopsFromBook pools blockContext settlementToken amountIn
      triggerTxHash)
    (hrequested :
      buildExecutionRequest opp (policy.assess sha256 reading opp sim state).1 = some req) :
    LegsRouted codec opp req
      ↔ ∀ leg ∈ opp.route, Encodable codec leg → leg.protocol ≠ some .aerodrome := by
  obtain ⟨firstPool, -, secondPool, -, hloop⟩ := exists_pair_of_mem hdetected
  obtain ⟨first, second, -, -, -, -, -, -, -, -, -, hroute⟩ := detectTwoLegLoop_some hloop
  obtain ⟨-, hsteps, -⟩ := buildExecutionRequest_some hroute hrequested
  rw [legsRouted_pair hroute hsteps, forall_routedToVenue_iff, forall_routedToVenue_iff, hroute,
    List.forall_mem_cons, List.forall_mem_singleton]

/-- The loop between the two Uniswap V2 pools of the sample. -/
theorem sampleRequest_routed :
    LegsRouted sampleCodec sampleOpportunity sampleRequest := by
  have hprotocol : ∀ leg ∈ sampleOpportunity.route, leg.protocol ≠ some .aerodrome := by decide
  exact (legsRouted_iff sampleOpportunity_detected sampleRequest_accepted.requested).mpr
    fun leg hleg _ => hprotocol leg hleg

/-! ## An Aerodrome leg -/

/-- The first pool of the sample as one of Aerodrome's own factory. -/
def aerodromePool : V2PoolState := { profitableLoop.firstPool with protocol := .aerodrome }

def aerodromeBook : PoolBook :=
  (PoolBook.new.insertV2Pool aerodromePool).insertV2Pool profitableLoop.secondPool

def aerodromeOpportunity : Opportunity :=
  { sampleOpportunity with
    route := sampleOpportunity.route.modifyHead
      fun leg => { leg with protocol := some .aerodrome } }

def aerodromeRequest : ExecutionRequest :=
  { sampleRequest with
    steps := sampleRequest.steps.modifyHead
      fun step => { step with protocol := some .aerodrome } }

/-- The protocol of a step is not looked at: the encoding is that of the
sample's request. -/
theorem aerodromeRequest_steps :
    buildRouteSteps sampleCodec 0 aerodromeRequest.steps
      = .ok samplePayload.calldata.plan.steps :=
  (buildSubmissionPayloadAt_ok samplePayload_built).2.2.2.2

/-- A book with one Aerodrome pool: the loop through it is detected and
accepted, and its first leg is encoded for the Uniswap V2 adapter, without
extra data. -/
theorem aerodromePool_misrouted :
    aerodromeBook.Lists [aerodromePool, profitableLoop.secondPool]
      ∧ aerodromeOpportunity ∈ detectTwoLegLoopsFromBook
          [aerodromePool, profitableLoop.secondPool] .pending weth 1000000 (some "0xtrigger")
      ∧ simulateTwoLegOpportunity aerodromeOpportunity sampleCosts = some sampleSimulation
      ∧ buildExecutionRequest aerodromeOpportunity
          (floorPolicy.assess Sha256.hexDigest ⟨0, false⟩ aerodromeOpportunity sampleSimulation
            RiskState.default).1 = some aerodromeRequest
      ∧ buildRouteSteps sampleCodec 0 aerodromeRequest.steps
          = .ok samplePayload.calldata.plan.steps
      ∧ ¬ LegsRouted sampleCodec aerodromeOpportunity aerodromeRequest := by
  refine ⟨by decide, by decide +kernel, sampleRequest_accepted.simulated,
    by decide +kernel, aerodromeRequest_steps, fun h => ?_⟩
  obtain ⟨first, second, hfirst, -, hsteps⟩ := buildRouteSteps_pair_iff.mp aerodromeRequest_steps
  obtain ⟨rfl, -⟩ := List.cons.inj hsteps
  obtain ⟨routeStep, _, _, hdecode, hkind, -⟩ := (h 0 _ _ _ rfl rfl hfirst).1 rfl
  cases hdecode
  cases hkind

end BaseEngine
