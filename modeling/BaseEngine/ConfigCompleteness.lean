import BaseEngine.CanaryLimit
import BaseEngine.Scan
import BaseEngine.TokenGates

/-!
# What a validated configuration still gets wrong

`AppConfig::validate` runs when the engine starts. The fields it has let
through are parsed again, and calculated with, when the first opportunity is
to be executed, and an error there ends the main loop of
`crates/app/src/main.rs`.

`executes_iff`: the policy, the costs and the gas caps of a validated
configuration can always be built. An accepted opportunity can be prepared
and encoded exactly when the router's address is one, the padded gas limit
fits its type and the deadline does too.
-/

namespace BaseEngine

open Fallible Machine Text

/-! ## The parts read from a configuration -/

def SimulationConfig.fromConfig (config : DecisionConfig) : Except ErrorChain SimulationConfig := do
  let gasCostWei ← okOr (parseUnsigned 10 128 config.simulationGasCostWei)
    ["failed to parse DECISION_SIMULATION_GAS_COST_WEI"]
  let l1DataFeeWei ← okOr (parseUnsigned 10 128 config.simulationL1DataFeeWei)
    ["failed to parse DECISION_SIMULATION_L1_DATA_FEE_WEI"]
  return { gasEstimate := config.simulationGasEstimate, gasCostWei, l1DataFeeWei }

def GasCaps.fromConfig (config : ExecutionConfig) : Except ErrorChain GasCaps := do
  let maxFeeCap ← parseOptionalAmount "EXECUTION_MAX_FEE_PER_GAS_WEI" config.maxFeePerGasWei
  let maxPriorityFeeCap ← parseOptionalAmount "EXECUTION_MAX_PRIORITY_FEE_PER_GAS_WEI"
    config.maxPriorityFeePerGasWei
  return { maxFeeCap, maxPriorityFeeCap }

structure RuntimeScanConfig where
  settlementToken : String
  amountIn : Nat
  simulation : SimulationConfig
deriving Repr, DecidableEq

/-- Without a settlement token and an amount the book is not scanned. -/
def runtimeScanConfig (config : DecisionConfig) :
    Except ErrorChain (Option RuntimeScanConfig) :=
  match config.settlementToken, config.scanTradeAmountWei with
  | some settlementToken, some amount => do
      let amountIn ← (parseDecimal 128 amount).mapError fun e =>
        ["failed to parse DECISION_SCAN_TRADE_AMOUNT_WEI", e]
      let simulation ← SimulationConfig.fromConfig config
      return some { settlementToken, amountIn, simulation }
  | _, _ => .ok none

theorem SimulationConfig.exists_fromConfig {config : DecisionConfig}
    (h : config.validate = .ok ()) : ∃ costs, fromConfig config = .ok costs := by
  obtain ⟨_, -, h⟩ := bind_eq_ok_iff.mp h
  obtain ⟨_, -, h⟩ := bind_eq_ok_iff.mp h
  obtain ⟨_, -, h⟩ := bind_eq_ok_iff.mp h
  obtain ⟨_, -, h⟩ := bind_eq_ok_iff.mp h
  obtain ⟨gasCost, hgasCost, h⟩ := bind_eq_ok_iff.mp h
  obtain ⟨l1DataFee, hl1DataFee, -⟩ := bind_eq_ok_iff.mp h
  unfold fromConfig
  rw [okOr_eq_ok hgasCost, okOr_some, ok_bind, okOr_eq_ok hl1DataFee, okOr_some, ok_bind]
  exact ⟨_, rfl⟩

theorem exists_parseOptionalAmount {key : String} {value : Option String}
    (h : parseU128IfSome key value = .ok ()) :
    ∃ amount, parseOptionalAmount key value = .ok amount := by
  cases value with
  | none => exact ⟨none, rfl⟩
  | some raw =>
      obtain ⟨amount, hamount, -⟩ := bind_eq_ok_iff.mp h
      have hparse := parseDecimal_eq_ok_iff.mpr (okOr_eq_ok hamount)
      exact ⟨some amount, bind_eq_ok_iff.mpr ⟨amount, mapError_eq_ok_iff.mpr hparse, rfl⟩⟩

theorem GasCaps.exists_fromConfig {config : ExecutionConfig} (h : config.validate = .ok ()) :
    ∃ caps, fromConfig config = .ok caps := by
  obtain ⟨-, hfee, hpriority⟩ := ExecutionConfig.caps_of_validate h
  obtain ⟨maxFee, hfee⟩ := exists_parseOptionalAmount hfee
  obtain ⟨maxPriority, hpriority⟩ := exists_parseOptionalAmount hpriority
  exact ⟨_, bind_eq_ok_iff.mpr ⟨maxFee, hfee, bind_eq_ok_iff.mpr ⟨maxPriority, hpriority, rfl⟩⟩⟩

/-- The costs of a scan are those of the configuration. -/
theorem simulation_of_runtimeScanConfig {config : DecisionConfig} {scan : RuntimeScanConfig}
    (h : runtimeScanConfig config = .ok (some scan)) :
    scan.simulation.gasEstimate = config.simulationGasEstimate := by
  unfold runtimeScanConfig at h
  split at h
  · obtain ⟨amountIn, -, h⟩ := bind_eq_ok_iff.mp h
    obtain ⟨simulation, hsimulation, h⟩ := bind_eq_ok_iff.mp h
    obtain ⟨gasCost, -, hsimulation⟩ := okOr_bind_eq_ok_iff.mp hsimulation
    obtain ⟨l1DataFee, -, hsimulation⟩ := okOr_bind_eq_ok_iff.mp hsimulation
    cases h
    cases hsimulation
    rfl
  · cases h

/-! ## Preparation -/

/-- The padded limit fits its type exactly when it does so without the
rounding. -/
theorem paddedGasLimit_isOk_iff {gasEstimate multiplierBps : Nat} :
    (∃ limit, paddedGasLimit gasEstimate multiplierBps = .ok limit)
      ↔ gasEstimate * multiplierBps ≤ 10000 * (2 ^ 64 - 1) := by
  unfold paddedGasLimit
  constructor
  · rintro ⟨limit, h⟩
    obtain ⟨numerator, hnumerator, h⟩ := okOr_bind_eq_ok_iff.mp h
    obtain ⟨raised, hraised, h⟩ := okOr_bind_eq_ok_iff.mp h
    obtain ⟨-, rfl⟩ := checkedMul_eq_some_iff.mp hnumerator
    obtain ⟨-, rfl⟩ := checkedAdd_eq_some_iff.mp hraised
    dsimp only at h
    split_ifs at h with hfits
    omega
  · intro h
    rw [checkedMul_eq_some_iff.mpr ⟨by omega, rfl⟩, okOr_some, ok_bind,
      checkedAdd_eq_some_iff.mpr ⟨by omega, rfl⟩, okOr_some, ok_bind]
    exact ⟨_, if_pos (by omega)⟩

/-- A validated configuration has an answer to every notional whose daily
total fits. -/
theorem exists_submissionPolicy {config : ExecutionConfig} (h : config.validate = .ok ())
    {notional current : Nat} (hfits : current + notional < 2 ^ 128) :
    ∃ policy, submissionPolicy config notional current = .ok policy := by
  unfold submissionPolicy
  cases hmode : config.mode with
  | shadow => exact ⟨_, rfl⟩
  | live => exact ⟨_, rfl⟩
  | canary =>
      obtain ⟨maxTrade, maxDaily, htrade, hdaily⟩ := ExecutionConfig.limits_of_validate h hmode
      rw [parseRequiredAmount_eq_ok_iff.mpr htrade, ok_bind,
        parseRequiredAmount_eq_ok_iff.mpr hdaily, ok_bind]
      by_cases hlimit : maxTrade < notional
      · rw [if_pos hlimit]
        exact ⟨_, rfl⟩
      · rw [if_neg hlimit, checkedAdd_eq_some_iff.mpr ⟨hfits, rfl⟩, okOr_some, ok_bind]
        by_cases hover : maxDaily < current + notional
        · rw [if_pos hover]
          exact ⟨_, rfl⟩
        · rw [if_neg hover]
          exact ⟨_, rfl⟩

/-- Of what preparation calculates only the gas limit can fail. -/
theorem prepareExecution_isOk_iff {config : ExecutionConfig} {request : ExecutionRequest}
    {simulation : SimulationResult} {current : Nat} (h : config.validate = .ok ())
    (hsteps : request.steps ≠ []) (hnotional : request.flashloanAmount.getD request.minRepay ≠ 0)
    (hfits : current + request.flashloanAmount.getD request.minRepay < 2 ^ 128) :
    (∃ prepared, prepareExecution config request simulation current = .ok prepared)
      ↔ simulation.gasEstimate * config.gasLimitMultiplierBps ≤ 10000 * (2 ^ 64 - 1) := by
  obtain ⟨-, hfee, hpriority⟩ := ExecutionConfig.caps_of_validate h
  obtain ⟨maxFee, hfee⟩ := exists_parseOptionalAmount hfee
  obtain ⟨maxPriority, hpriority⟩ := exists_parseOptionalAmount hpriority
  obtain ⟨policy, hpolicy⟩ := exists_submissionPolicy h hfits
  unfold prepareExecution
  dsimp only
  rw [if_neg hsteps, if_neg hnotional, hfee, hpriority, hpolicy, ← paddedGasLimit_isOk_iff]
  constructor
  · rintro ⟨prepared, hprepared⟩
    obtain ⟨limit, hlimit, -⟩ := bind_eq_ok_iff.mp hprepared
    exact ⟨limit, hlimit⟩
  · rintro ⟨limit, hlimit⟩
    rw [hlimit]
    exact ⟨_, rfl⟩

/-! ## Encoding -/

/-- Addresses and hashes are read from hexadecimal digits, and a digest is
printed in them. -/
structure HexCodec (codec : AlloyCodec) (sha256 : List UInt8 → String) : Prop where
  addresses : HexAddresses codec.parseAddress
  hashes : ∀ text n, fixedHex 64 text = some n → ∃ hash, codec.parseBytes32 text = .ok hash
  digests : ∀ message, ∃ n < 16 ^ 64, sha256 message = lowerHex 64 n

variable {codec : AlloyCodec} {sha256 : List UInt8 → String}

theorem HexCodec.exists_parseAddress_iff (h : HexCodec codec sha256) {text : String}
    (context : String) :
    (∃ address, parseAddress codec text context = .ok address) ↔ isValidAddress text = true := by
  unfold parseAddress
  simp only [mapError_eq_ok_iff, h.addresses _ _]
  constructor
  · rintro ⟨address, haddress⟩
    have hfixed := fixedHex_of_hexAddress haddress
    unfold fixedHex at hfixed
    dsimp only at hfixed
    split_ifs at hfixed with hlength
    unfold isValidAddress
    simp only [hlength, decide_true, Bool.true_and, List.all_eq_true]
    exact fun c hc => isSome_digitIn_of_mem hfixed hc
  · exact hexAddress_of_isValidAddress

/-- A digest is read as a hash. -/
theorem HexCodec.exists_parseRiskHash (h : HexCodec codec sha256) (message : List UInt8) :
    ∃ hash, parseRiskHash codec (sha256 message) = .ok hash := by
  obtain ⟨n, hn, hdigest⟩ := h.digests message
  obtain ⟨hash, hhash⟩ := h.hashes ("0x" ++ lowerHex 64 n) n
    (fixedHex_of_mem_hexSpellings hn (by simp [hexSpellings]))
  have hstrip := stripPrefix_hexDigits 64 n
  unfold stripPrefix at hstrip
  unfold parseRiskHash
  rw [hdigest]
  dsimp only
  split_ifs at hstrip with hprefix
  rw [if_neg hprefix, hhash]
  exact ⟨hash, rfl⟩

theorem HexCodec.encodable (h : HexCodec codec sha256) {leg : RouteLeg}
    (htarget : isValidAddress leg.target = true) (hin : isValidAddress leg.tokenIn = true)
    (hout : isValidAddress leg.tokenOut = true) : Encodable codec leg := by
  have hparse : ∀ text, isValidAddress text = true → (codec.parseAddress text).isOk = true := by
    intro text htext
    obtain ⟨address, haddress⟩ := (h.exists_parseAddress_iff "").mpr htext
    exact isOk_iff.mpr ⟨address, parseAddress_ok haddress⟩
  exact ⟨hparse _ htarget, hparse _ hin, hparse _ hout⟩

/-- A request whose asset, hash and steps have an encoding is encoded
exactly when the router's address is one and the deadline fits. -/
theorem buildSubmissionPayloadAt_isOk_iff (h : HexCodec codec sha256) {config : ExecutionConfig}
    {request : ExecutionRequest} {router asset : String} {funding nowSecs : Nat}
    (hrouter : config.routerAddress = some router)
    (hasset : request.flashloanAsset = some asset) (haddress : isValidAddress asset = true)
    (hhash : ∃ hash, parseRiskHash codec request.riskHash = .ok hash)
    (hfunding : request.flashloanAmount = some funding)
    (hsteps : ∃ steps, buildRouteSteps codec 0 request.steps = .ok steps) :
    (∃ payload, buildSubmissionPayloadAt codec config request nowSecs = .ok payload)
      ↔ isValidAddress router = true ∧ nowSecs + config.planDeadlineSecs < 2 ^ 64 := by
  obtain ⟨settlementToken, hsettlement⟩ :=
    (h.exists_parseAddress_iff "execution request flashloan_asset").mpr haddress
  obtain ⟨hash, hhash⟩ := hhash
  obtain ⟨steps, hsteps⟩ := hsteps
  rw [← h.exists_parseAddress_iff "EXECUTION_ROUTER_ADDRESS"]
  unfold buildSubmissionPayloadAt
  rw [hrouter, hasset, hfunding, hhash, hsteps]
  simp only [okOr_some, ok_bind, hsettlement]
  constructor
  · rintro ⟨payload, hpayload⟩
    obtain ⟨routerAddress, hparse, hpayload⟩ := bind_eq_ok_iff.mp hpayload
    obtain ⟨deadline, hdeadline, -⟩ := okOr_bind_eq_ok_iff.mp hpayload
    exact ⟨⟨routerAddress, hparse⟩, (checkedAdd_eq_some_iff.mp hdeadline).1⟩
  · rintro ⟨⟨routerAddress, hparse⟩, hfits⟩
    rw [hparse, ok_bind, checkedAdd_eq_some_iff.mpr ⟨hfits, rfl⟩]
    exact ⟨_, rfl⟩

/-! ## The opportunities of a configuration -/

/-- An opportunity that the configured scan finds in the pools, with the
configured costs, and that the configured engine accepts. -/
structure Selected (sha256 : List UInt8 → String) (config : AppConfig) (scan : RuntimeScanConfig)
    (policy : RiskPolicy) (pools : List V2PoolState) (opp : Opportunity) (sim : SimulationResult)
    (req : ExecutionRequest) : Prop where
  scanned : runtimeScanConfig config.decision = .ok (some scan)
  governed : RiskPolicy.fromConfig config.risk = .ok policy
  detected : ∃ blockContext triggerTxHash, opp ∈ detectTwoLegLoopsFromBook pools blockContext
    scan.settlementToken scan.amountIn triggerTxHash
  simulated : simulateTwoLegOpportunity opp scan.simulation = some sim
  accepted : ∃ reading state,
    buildExecutionRequest opp (policy.assess sha256 reading opp sim state).1 = some req

/-- The pool and its tokens have 20-byte addresses. -/
def V2PoolState.Addressed (pool : V2PoolState) : Prop :=
  isValidAddress pool.address = true ∧ isValidAddress pool.token0 = true
    ∧ isValidAddress pool.token1 = true

theorem V2PoolState.Addressed.tokenOut {pool : V2PoolState} (h : pool.Addressed)
    (tokenIn : String) : isValidAddress (pool.tokenOut tokenIn) = true := by
  unfold V2PoolState.tokenOut
  split
  · exact h.2.2
  · exact h.2.1

/-- What the two calls need of a request. -/
structure Encoded (codec : AlloyCodec) (req : ExecutionRequest) (notional : Nat) : Prop where
  steps_ne_nil : req.steps ≠ []
  steps : ∃ steps, buildRouteSteps codec 0 req.steps = .ok steps
  asset : ∃ asset, req.flashloanAsset = some asset ∧ isValidAddress asset = true
  funding : req.flashloanAmount = some notional
  riskHash : ∃ hash, parseRiskHash codec req.riskHash = .ok hash
  positive : notional ≠ 0
  bounded : notional < 2 ^ 127

theorem Selected.encoded {config : AppConfig} {scan : RuntimeScanConfig} {policy : RiskPolicy}
    {pools : List V2PoolState} {opp : Opportunity} {sim : SimulationResult}
    {req : ExecutionRequest} (h : Selected sha256 config scan policy pools opp sim req)
    (hcodec : HexCodec codec sha256) (hpools : ∀ pool ∈ pools, pool.Addressed) :
    Encoded codec req scan.amountIn := by
  obtain ⟨blockContext, triggerTxHash, hdetected⟩ := h.detected
  obtain ⟨reading, state, hrequested⟩ := h.accepted
  obtain ⟨firstPool, hfirst, secondPool, hsecond, hloop⟩ := exists_pair_of_mem hdetected
  obtain ⟨first, second, hquote₁, hquote₂, -, hback, hgain, -, hsettlement, hinput, -, hroute⟩ :=
    detectTwoLegLoop_some hloop
  obtain ⟨impact₁, hthere, hfirstQuote⟩ := V2PoolState.quoteExactIn_ok hquote₁
  obtain ⟨impact₂, hreturn, hsecondQuote⟩ := V2PoolState.quoteExactIn_ok hquote₂
  have hpos := hthere.input
  have hfit : second.amountOut * bpsDenominator < 2 ^ 128 := by
    rw [hsecondQuote]
    exact hreturn.exactOut_lt
  obtain ⟨-, hsteps, -, -, hasset, hamount, hhash⟩ := buildExecutionRequest_some hroute hrequested
  dsimp only at hback hgain hsettlement hinput hpos hroute
  have hmidValid : isValidAddress first.tokenOut = true := by
    rw [hfirstQuote]
    exact (hpools _ hfirst).tokenOut _
  have htokenValid : isValidAddress scan.settlementToken = true := by
    rw [← hback, hsecondQuote]
    exact (hpools _ hsecond).tokenOut _
  have hleg₁ : Encodable codec
      (quoteLeg firstPool scan.settlementToken first.tokenOut first) :=
    hcodec.encodable (hpools _ hfirst).1 htokenValid hmidValid
  have hleg₂ : Encodable codec
      (quoteLeg secondPool first.tokenOut scan.settlementToken second) :=
    hcodec.encodable (hpools _ hsecond).1 hmidValid htokenValid
  obtain ⟨step₁, hstep₁⟩ := exists_buildRouteStep 0 hleg₁
  obtain ⟨step₂, hstep₂⟩ := exists_buildRouteStep 1 hleg₂
  refine ⟨?_, ⟨[step₁, step₂], ?_⟩, ⟨scan.settlementToken, ?_, htokenValid⟩, ?_, ?_, ?_, ?_⟩
  · simp [hsteps]
  · rw [hsteps]
    exact buildRouteSteps_pair_iff.mpr ⟨step₁, step₂, hstep₁, hstep₂, rfl⟩
  · rw [hasset, hsettlement]
  · rw [hamount, hinput]
  · rw [hhash, RiskPolicy.riskHash_assess]
    exact hcodec.exists_parseRiskHash _
  · omega
  · unfold bpsDenominator at hfit
    omega

/-- What an opportunity of the configuration needs beyond validation: an
address for the router, and a gas limit and a deadline below `2 ^ 64`. -/
def AppConfig.Executable (config : AppConfig) (nowSecs : Nat) : Prop :=
  (∃ router, config.execution.routerAddress = some router ∧ isValidAddress router = true)
    ∧ config.decision.simulationGasEstimate * config.execution.gasLimitMultiplierBps
      ≤ 10000 * (2 ^ 64 - 1)
    ∧ nowSecs + config.execution.planDeadlineSecs < 2 ^ 64

/-- **Completeness of validation.** From a validated configuration for
canary or live mode the policy, the costs and the gas caps are built. An
accepted opportunity of it can then be prepared and encoded exactly when
the configuration is executable at the time. -/
theorem executes_iff (hcodec : HexCodec codec sha256) {config : AppConfig}
    (hvalid : config.validate = .ok ()) (hmode : config.execution.mode ≠ .shadow) :
    (RiskPolicy.fromConfig config.risk).isOk = true
      ∧ (SimulationConfig.fromConfig config.decision).isOk = true
      ∧ (GasCaps.fromConfig config.execution).isOk = true
      ∧ ∀ scan policy pools opp sim req,
          Selected sha256 config scan policy pools opp sim req →
          (∀ pool ∈ pools, pool.Addressed) → ∀ currentDaily < 2 ^ 127, ∀ nowSecs < 2 ^ 63,
            ((prepareExecution config.execution req sim currentDaily).isOk = true
                ∧ (buildSubmissionPayloadAt codec config.execution req nowSecs).isOk = true
              ↔ config.Executable nowSecs) := by
  obtain ⟨hdecision, hrisk, hexecution⟩ := AppConfig.sections_of_validate hvalid
  refine ⟨isOk_iff.mpr (RiskPolicy.exists_fromConfig hrisk),
    isOk_iff.mpr (SimulationConfig.exists_fromConfig hdecision),
    isOk_iff.mpr (GasCaps.exists_fromConfig hexecution), ?_⟩
  intro scan policy pools opp sim req hselected hpools currentDaily hdaily nowSecs _
  have hreq := hselected.encoded hcodec hpools
  obtain ⟨asset, hasset, haddress⟩ := hreq.asset
  have hgas : sim.gasEstimate = config.decision.simulationGasEstimate := by
    rw [← simulation_of_runtimeScanConfig hselected.scanned]
    exact (simulateTwoLegOpportunity_some hselected.simulated).2.2.1
  have hnotional : req.flashloanAmount.getD req.minRepay = scan.amountIn := by
    rw [hreq.funding, Option.getD_some]
  obtain ⟨router, hrouter⟩ :=
    Option.ne_none_iff_exists'.mp ((ExecutionConfig.caps_of_validate hexecution).1 hmode)
  have hbounded := hreq.bounded
  rw [isOk_iff, isOk_iff,
    prepareExecution_isOk_iff hexecution hreq.steps_ne_nil (hnotional ▸ hreq.positive)
      (by omega),
    buildSubmissionPayloadAt_isOk_iff hcodec hrouter hasset haddress hreq.riskHash hreq.funding
      hreq.steps, hgas]
  unfold AppConfig.Executable
  simp only [hrouter, Option.some.injEq, exists_eq_left']
  exact and_left_comm

/-! ## A router without an address -/

theorem sampleCodec_hexCodec : HexCodec sampleCodec Sha256.hexDigest where
  addresses := fun _ _ => Iff.rfl
  hashes := by
    intro text n hn
    exact ⟨BitVec.ofNat 256 n, by simp [sampleCodec, hn]⟩
  digests := fun message =>
    ⟨(Sha256.digest message).toNat, Nat.lt_of_lt_of_eq (BitVec.isLt _) (by norm_num), rfl⟩

/-- A canary configuration that scans for the sample loop. -/
def scanningConfig (routerAddress : Option String) : AppConfig :=
  let config := CanaryRun.canaryConfig none
  { config with
    decision := { settlementToken := some weth, scanTradeAmountWei := some "1000000" }
    execution := { config.execution with routerAddress } }

def scanningSetup : RuntimeScanConfig :=
  { settlementToken := weth, amountIn := 1000000,
    simulation := { gasEstimate := 180000, gasCostWei := 0, l1DataFeeWei := 0 } }

/-- The sample loop without costs. -/
def scanningSimulation : SimulationResult :=
  { sampleSimulation with expectedNetProfit := 487681, gasCostWei := 0, l1DataFee := 0 }

def scanningRequest : ExecutionRequest :=
  { sampleRequest with
    minSurplus := 0
    riskHash := "6c0fb6dc3fe21fcd9ec765d27cbcfd4fe6e79dc35417ed612d577462dc1ad548" }

/-- Neither the scan nor the policy looks at the router. -/
theorem scanningRequest_selected (routerAddress : Option String) :
    Selected Sha256.hexDigest (scanningConfig routerAddress) scanningSetup
      CanaryRun.canaryPolicy samplePools sampleOpportunity scanningSimulation
      scanningRequest where
  scanned := by
    show runtimeScanConfig (scanningConfig none).decision = _
    decide +kernel
  governed := by
    show RiskPolicy.fromConfig (scanningConfig none).risk = _
    decide +kernel
  detected := ⟨_, _, sampleOpportunity_detected⟩
  simulated := by decide +kernel
  accepted := ⟨⟨1700000000, false⟩, RiskState.default, by decide +kernel⟩

theorem samplePools_addressed : ∀ pool ∈ samplePools, pool.Addressed := by
  unfold V2PoolState.Addressed
  decide

/-- With a router the sample loop is prepared and encoded. -/
theorem scanningRequest_executes :
    (prepareExecution (scanningConfig sampleExecution.routerAddress).execution scanningRequest
        scanningSimulation 0).isOk = true
      ∧ (buildSubmissionPayloadAt sampleCodec
          (scanningConfig sampleExecution.routerAddress).execution scanningRequest
          1700000000).isOk = true :=
  ((executes_iff sampleCodec_hexCodec (by decide) (by decide)).2.2.2 _ _ _ _ _ _
    (scanningRequest_selected _) samplePools_addressed 0 (by norm_num) 1700000000
    (by norm_num)).mpr
      ⟨⟨"0x5555555555555555555555555555555555555555", rfl, by decide⟩, by decide,
        by decide⟩

/-- The two-byte router address passes validation, and the loop found with
it cannot be encoded. -/
theorem scanningRequest_not_encoded :
    (scanningConfig (some "0x5555")).validate = .ok ()
      ∧ sampleBook.Lists samplePools
      ∧ (∀ pool ∈ samplePools, pool.Addressed)
      ∧ Selected Sha256.hexDigest (scanningConfig (some "0x5555")) scanningSetup
          CanaryRun.canaryPolicy samplePools sampleOpportunity scanningSimulation scanningRequest
      ∧ (prepareExecution (scanningConfig (some "0x5555")).execution scanningRequest
          scanningSimulation 0).isOk = true
      ∧ buildSubmissionPayloadAt sampleCodec (scanningConfig (some "0x5555")).execution
          scanningRequest 1700000000
        = .error ["failed to parse EXECUTION_ROUTER_ADDRESS `0x5555` as an address",
            "invalid string length or character"] :=
  ⟨by decide, sampleBook_lists, samplePools_addressed, scanningRequest_selected _,
    by decide, by decide⟩

end BaseEngine
