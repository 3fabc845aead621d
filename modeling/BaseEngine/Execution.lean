import BaseEngine.Config
import BaseEngine.Lib.Machine

/-!
# The life of an execution attempt

`prepare_execution` and the transitions of an attempt in
`crates/execution/src/lib.rs`: what is built, whether it may be submitted,
and how a transaction hash, a receipt or the lack of one moves it on.

`prepareExecution_ok` says what a prepared attempt is, and
`canary_of_submissionPolicy` what the daily canary limit has been checked
against when it may be submitted.
-/

namespace BaseEngine

open Fallible Machine Text

structure ExecutionReceipt where
  requestId : String
  txHash : String
  blockNumber : Option Nat
  success : Bool
  gasUsed : Option Nat
  effectiveGasPrice : Option Nat
  l1FeePaid : Option Nat
  revertReason : Option String
deriving Repr, DecidableEq

structure ExecutionOutcome where
  requestId : String
  finalStatus : ExecutionStatus
  txHash : String
  blockNumber : Option Nat
  totalFeePaid : Option Nat
  realizedSurplus : Option Nat
  reason : Option String
deriving Repr, DecidableEq

structure PreparedExecution where
  attempt : ExecutionAttempt
  shouldSubmit : Bool
deriving Repr, DecidableEq

structure FinalizedExecution where
  attempt : ExecutionAttempt
  outcome : ExecutionOutcome
deriving Repr, DecidableEq

/-- The context a caller adds to an error. -/
def withContext {α : Type} (context : String) (x : Except ErrorChain α) : Except ErrorChain α :=
  x.mapError (context :: ·)

/-! ## Preparation -/

def paddedGasLimit (gasEstimate multiplierBps : Nat) : Except ErrorChain Nat := do
  let numerator ← okOr (checkedMul 128 gasEstimate multiplierBps) ["gas limit padding overflow"]
  let raised ← okOr (checkedAdd 128 numerator 9999) ["gas limit padding overflow"]
  let padded := raised / 10000
  if padded < 2 ^ 64 then .ok padded
  else .error ["padded gas limit does not fit into u64",
    "out of range integral type conversion attempted"]

def parseOptionalAmount (key : String) : Option String → Except ErrorChain (Option Nat)
  | none => .ok none
  | some raw => do
      let amount ← (parseDecimal 128 raw).mapError fun e => [s!"failed to parse {key}", e]
      return some amount

def parseRequiredAmount (key : String) (value : Option String) : Except ErrorChain Nat := do
  let raw ← okOr value [s!"{key} is required for this execution mode"]
  (parseDecimal 128 raw).mapError fun e => [s!"failed to parse {key}", e]

def executionModeLabel : ExecutionMode → String
  | .shadow => "shadow"
  | .canary => "canary"
  | .live => "live"

/-- Whether the attempt may be submitted, and the reason when it may not. -/
def submissionPolicy (config : ExecutionConfig) (requestedNotional currentDailyRequestedWei : Nat) :
    Except ErrorChain (Bool × Option String) :=
  match config.mode with
  | .shadow => .ok (false, some "execution mode is configured for build-only operation")
  | .canary => do
      let maxTrade ← parseRequiredAmount "EXECUTION_CANARY_MAX_TRADE_WEI" config.canaryMaxTradeWei
      let maxDaily ← parseRequiredAmount "EXECUTION_CANARY_MAX_DAILY_WEI" config.canaryMaxDailyWei
      if maxTrade < requestedNotional then
        return (false, some "request exceeds canary per-trade notional limit")
      else
        let projectedDaily ← okOr (checkedAdd 128 currentDailyRequestedWei requestedNotional)
          ["canary daily requested notional overflow"]
        if maxDaily < projectedDaily then
          return (false, some "request exceeds canary daily notional limit")
        else return (true, none)
  | .live => .ok (true, none)

def prepareExecution (config : ExecutionConfig) (request : ExecutionRequest)
    (simulation : SimulationResult) (currentDailyRequestedWei : Nat) :
    Except ErrorChain PreparedExecution :=
  let requestedNotional := request.flashloanAmount.getD request.minRepay
  if request.steps = [] then .error ["execution request must contain at least one step"]
  else if requestedNotional = 0 then
    .error ["execution request notional must be greater than zero"]
  else do
    let gasLimit ← paddedGasLimit simulation.gasEstimate config.gasLimitMultiplierBps
    let maxFeePerGas ← parseOptionalAmount "EXECUTION_MAX_FEE_PER_GAS_WEI" config.maxFeePerGasWei
    let maxPriorityFeePerGas ← parseOptionalAmount "EXECUTION_MAX_PRIORITY_FEE_PER_GAS_WEI"
      config.maxPriorityFeePerGasWei
    let policy ← submissionPolicy config requestedNotional currentDailyRequestedWei
    return {
      attempt := {
        requestId := request.opportunityId, txHash := none, status := .built,
        executionMode := executionModeLabel config.mode, submissionAllowed := policy.1,
        blockedReason := policy.2, requestedNotional, gasLimit := some gasLimit, maxFeePerGas,
        maxPriorityFeePerGas },
      shouldSubmit := policy.1 }

/-! ## Transitions -/

def markSubmitted (attempt : ExecutionAttempt) (txHash : String) :
    Except ErrorChain ExecutionAttempt :=
  if attempt.status ≠ .built then
    .error ["only built execution attempts can transition to submitted"]
  else if attempt.submissionAllowed = false then
    .error ["execution attempt is blocked and cannot transition to submitted"]
  else if trim txHash = "" then .error ["submitted transaction hash must not be empty"]
  else .ok { attempt with status := .submitted, txHash := some txHash }

def totalFeePaid (receipt : ExecutionReceipt) : Except ErrorChain (Option Nat) :=
  match receipt.gasUsed, receipt.effectiveGasPrice with
  | some gasUsed, some effectiveGasPrice => do
      let executionFee ← okOr (checkedMul 128 gasUsed effectiveGasPrice) ["execution fee overflow"]
      let total ← okOr (checkedAdd 128 executionFee (receipt.l1FeePaid.getD 0))
        ["total fee overflow"]
      return some total
  | _, _ => .ok receipt.l1FeePaid

def classifySuccess (realizedSurplus : Option Nat) (minSurplus : Nat) :
    ExecutionStatus × Option String :=
  match realizedSurplus with
  | some realized =>
      if minSurplus ≤ realized then (.profitRealized, none)
      else (.included, some (s!"transaction included but realized surplus {realized}"
        ++ s!" is below minimum required {minSurplus}"))
  | none => (.included, some "transaction included but realized surplus is not yet known")

def finalizeFromReceipt (attempt : ExecutionAttempt) (receipt : ExecutionReceipt)
    (realizedSurplus : Option Nat) (minSurplus : Nat) : Except ErrorChain FinalizedExecution :=
  if attempt.status ≠ .submitted ∧ attempt.status ≠ .included then
    .error ["only submitted or included attempts can be finalized from a receipt"]
  else if attempt.txHash ≠ none ∧ attempt.txHash ≠ some receipt.txHash then
    .error ["receipt transaction hash does not match the attempt"]
  else do
    let totalFeePaid ← totalFeePaid receipt
    let final := if receipt.success then classifySuccess realizedSurplus minSurplus
      else (.reverted, receipt.revertReason.or (some "transaction reverted on-chain"))
    return {
      attempt := { attempt with txHash := some receipt.txHash, status := final.1 },
      outcome := {
        requestId := attempt.requestId, finalStatus := final.1, txHash := receipt.txHash,
        blockNumber := receipt.blockNumber, totalFeePaid, realizedSurplus, reason := final.2 } }

def markDropped (attempt : ExecutionAttempt) (reason : String) :
    Except ErrorChain FinalizedExecution :=
  if attempt.status ≠ .submitted then
    .error ["only submitted execution attempts can transition to dropped"]
  else if trim reason = "" then .error ["dropped execution attempts must record a reason"]
  else do
    let txHash ← okOr attempt.txHash
      ["submitted execution attempt is missing its transaction hash"]
    return {
      attempt := { attempt with status := .dropped },
      outcome := {
        requestId := attempt.requestId, finalStatus := .dropped, txHash, blockNumber := none,
        totalFeePaid := none, realizedSurplus := none, reason := some reason } }

/-! ## What a prepared attempt is -/

/-- What preparation puts into an attempt. -/
structure Prepared (config : ExecutionConfig) (request : ExecutionRequest)
    (currentDailyRequestedWei : Nat) (prepared : PreparedExecution) : Prop where
  built : prepared.attempt.status = .built
  notional : prepared.attempt.requestedNotional = request.flashloanAmount.getD request.minRepay
  shouldSubmit : prepared.shouldSubmit = prepared.attempt.submissionAllowed
  policy : submissionPolicy config prepared.attempt.requestedNotional currentDailyRequestedWei
    = .ok (prepared.attempt.submissionAllowed, prepared.attempt.blockedReason)

/-- **Inversion of a preparation.** The attempt is built from the request,
the mode and the answer of the policy. -/
theorem exists_policy_of_prepareExecution {config : ExecutionConfig} {request : ExecutionRequest}
    {simulation : SimulationResult} {currentDailyRequestedWei : Nat} {prepared : PreparedExecution}
    (h : prepareExecution config request simulation currentDailyRequestedWei = .ok prepared) :
    ∃ gasLimit maxFeePerGas maxPriorityFeePerGas policy,
      submissionPolicy config (request.flashloanAmount.getD request.minRepay)
          currentDailyRequestedWei = .ok policy
        ∧ prepared = {
          attempt := {
            requestId := request.opportunityId, txHash := none, status := .built,
            executionMode := executionModeLabel config.mode, submissionAllowed := policy.1,
            blockedReason := policy.2,
            requestedNotional := request.flashloanAmount.getD request.minRepay,
            gasLimit := some gasLimit, maxFeePerGas, maxPriorityFeePerGas },
          shouldSubmit := policy.1 } := by
  unfold prepareExecution at h
  dsimp only at h
  split_ifs at h with hsteps hzero
  obtain ⟨gasLimit, -, h⟩ := bind_eq_ok_iff.mp h
  obtain ⟨maxFee, -, h⟩ := bind_eq_ok_iff.mp h
  obtain ⟨maxPriority, -, h⟩ := bind_eq_ok_iff.mp h
  obtain ⟨policy, hpolicy, h⟩ := bind_eq_ok_iff.mp h
  exact ⟨gasLimit, maxFee, maxPriority, policy, hpolicy, (Except.ok.inj h).symm⟩

theorem prepareExecution_ok {config : ExecutionConfig} {request : ExecutionRequest}
    {simulation : SimulationResult} {currentDailyRequestedWei : Nat} {prepared : PreparedExecution}
    (h : prepareExecution config request simulation currentDailyRequestedWei = .ok prepared) :
    Prepared config request currentDailyRequestedWei prepared := by
  obtain ⟨gasLimit, maxFee, maxPriority, policy, hpolicy, rfl⟩ :=
    exists_policy_of_prepareExecution h
  exact ⟨rfl, rfl, rfl, hpolicy⟩

theorem txHash_of_prepareExecution {config : ExecutionConfig} {request : ExecutionRequest}
    {simulation : SimulationResult} {currentDailyRequestedWei : Nat} {prepared : PreparedExecution}
    (h : prepareExecution config request simulation currentDailyRequestedWei = .ok prepared) :
    prepared.attempt.txHash = none := by
  obtain ⟨gasLimit, maxFee, maxPriority, policy, -, rfl⟩ := exists_policy_of_prepareExecution h
  rfl

theorem parseRequiredAmount_eq_ok_iff {key : String} {value : Option String} {amount : Nat} :
    parseRequiredAmount key value = .ok amount
      ↔ value.bind (parseUnsigned 10 128) = some amount := by
  unfold parseRequiredAmount
  cases value with
  | none => simp
  | some raw =>
      rw [okOr_some, ok_bind, mapError_eq_ok_iff, parseDecimal_eq_ok_iff, Option.bind_some]

/-- In canary mode only requests under both limits may be submitted, the
daily one together with what was requested on the day before. -/
theorem canary_of_submissionPolicy {config : ExecutionConfig} (hmode : config.mode = .canary)
    {maxDaily notional current : Nat} {reason : Option String}
    (hdaily : config.canaryMaxDailyWei.bind (parseUnsigned 10 128) = some maxDaily)
    (h : submissionPolicy config notional current = .ok (true, reason)) :
    current + notional ≤ maxDaily := by
  unfold submissionPolicy at h
  simp only [hmode] at h
  obtain ⟨maxTrade, -, h⟩ := bind_eq_ok_iff.mp h
  obtain ⟨maxDaily', hdaily', h⟩ := bind_eq_ok_iff.mp h
  rw [parseRequiredAmount_eq_ok_iff, hdaily] at hdaily'
  obtain rfl := Option.some.inj hdaily'
  split_ifs at h with htrade
  · cases h
  · obtain ⟨projected, hprojected, h⟩ := okOr_bind_eq_ok_iff.mp h
    obtain ⟨-, rfl⟩ := checkedAdd_eq_some_iff.mp hprojected
    split_ifs at h with hover
    · cases h
    · exact Nat.not_lt.mp hover

end BaseEngine
