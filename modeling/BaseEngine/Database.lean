import BaseEngine.Lib.Table
import BaseEngine.ObservedLogs
import BaseEngine.Pipeline

/-!
# The database

The three tables of `migration/00000000-00-init.sql` and the statements of
`crates/storage/src/lib.rs` on them: logs are observed, a decision run points to
the log that led to it, an execution attempt to its decision run. An attempt's
row is inserted as built and updated as the attempt moves on.

A JSON column holds the value it was serialised from; `Serde` says what the
serialiser refuses. A statement comes with the reply of the database driver and
with the time of the database, which a new row or an update takes. One that fails
changes nothing, and an update that meets no row is an error of the storage
layer.
-/

namespace BaseEngine

open Fallible Json

/-! ## Columns -/

def ExecutionStatus.json : ExecutionStatus → Value
  | .built => .string "built"
  | .submitted => .string "submitted"
  | .included => .string "included"
  | .reverted => .string "reverted"
  | .dropped => .string "dropped"
  | .replaced => .string "replaced"
  | .profitRealized => .string "profit_realized"

/-- The text of the status column is JSON, quotes included. -/
def ExecutionStatus.text (status : ExecutionStatus) : String := String.ofList status.json.text

/-- A number for a `BIGINT` column; one that does not fit is dropped. -/
def bigint (value : Option Nat) : Option Nat := value.filter fun n => n < 2 ^ 63

/-- The text of a column as a `numeric`. The columns hold decimal digits. -/
def numeric (text : String) : Option Nat :=
  if text = "" then none else Text.ofDigits 10 0 text.toList

/-- A row of `decision_runs`. -/
structure DecisionRunRow where
  observedAt : Nat
  observedLogId : Option Nat
  opportunityId : String
  triggerTxHash : Option String
  blockContext : String
  settlementToken : String
  inputAmountWei : String
  expectedOutputAmountWei : String
  expectedNetProfitWei : String
  simulatedGrossProfitWei : String
  simulatedNetProfitWei : String
  gasEstimate : Nat
  gasCostWei : String
  l1DataFeeWei : String
  riskAccepted : Bool
  riskHash : String
  minSurplusWei : String
  opportunityJson : Opportunity
  simulationJson : SimulationResult
  riskJson : RiskDecision
  executionRequestJson : Option ExecutionRequest
deriving Repr, DecidableEq

def DecisionRunRecord.row (record : DecisionRunRecord) (now : Nat) : DecisionRunRow :=
  { observedAt := now, observedLogId := record.observedLogId,
    opportunityId := record.opportunity.id, triggerTxHash := record.triggerTxHash,
    blockContext := String.ofList record.opportunity.blockContext.json.text,
    settlementToken := record.opportunity.settlementToken,
    inputAmountWei := toString record.opportunity.inputAmount,
    expectedOutputAmountWei := toString record.opportunity.expectedOutputAmount,
    expectedNetProfitWei := toString record.opportunity.expectedNetProfit,
    simulatedGrossProfitWei := toString record.simulation.expectedGrossProfit,
    simulatedNetProfitWei := toString record.simulation.expectedNetProfit,
    gasEstimate := record.simulation.gasEstimate,
    gasCostWei := toString record.simulation.gasCostWei,
    l1DataFeeWei := toString record.simulation.l1DataFee, riskAccepted := record.risk.accepted,
    riskHash := record.risk.riskHash, minSurplusWei := toString record.risk.minSurplus,
    opportunityJson := record.opportunity, simulationJson := record.simulation,
    riskJson := record.risk, executionRequestJson := record.executionRequest }

/-- A row of `execution_attempts`. -/
structure ExecutionAttemptRow where
  observedAt : Nat
  decisionRunId : Option Nat
  requestId : String
  status : String
  executionMode : String
  submissionAllowed : Bool
  blockedReason : Option String
  requestedNotionalWei : String
  txHash : Option String
  submittedAt : Option Nat
  finalizedAt : Option Nat
  inclusionBlockNumber : Option Nat
  gasLimit : Option Nat
  gasUsed : Option Nat
  maxFeePerGasWei : Option String
  maxPriorityFeePerGasWei : Option String
  effectiveGasPriceWei : Option String
  l1FeePaidWei : Option String
  totalFeePaidWei : Option String
  realizedSurplusWei : Option String
  outcomeReason : Option String
  lastErrorStage : Option String
  lastError : Option String
  executionRequestJson : ExecutionRequest
  attemptJson : ExecutionAttempt
  receiptJson : Option ExecutionReceipt
  outcomeJson : Option ExecutionOutcome
deriving Repr, DecidableEq

namespace ExecutionAttemptRow

/-- The row that `persist_execution_attempt` inserts. -/
def inserted (now : Nat) (decisionRunId : Option Nat) (attempt : ExecutionAttempt)
    (request : ExecutionRequest) : ExecutionAttemptRow :=
  { observedAt := now, decisionRunId, requestId := attempt.requestId,
    status := attempt.status.text, executionMode := attempt.executionMode,
    submissionAllowed := attempt.submissionAllowed, blockedReason := attempt.blockedReason,
    requestedNotionalWei := toString attempt.requestedNotional, txHash := attempt.txHash,
    submittedAt := none, finalizedAt := none, inclusionBlockNumber := none,
    gasLimit := bigint attempt.gasLimit, gasUsed := none,
    maxFeePerGasWei := attempt.maxFeePerGas.map toString,
    maxPriorityFeePerGasWei := attempt.maxPriorityFeePerGas.map toString,
    effectiveGasPriceWei := none, l1FeePaidWei := none, totalFeePaidWei := none,
    realizedSurplusWei := none, outcomeReason := none, lastErrorStage := none, lastError := none,
    executionRequestJson := request, attemptJson := attempt, receiptJson := none,
    outcomeJson := none }

def submitted (now : Nat) (attempt : ExecutionAttempt) (row : ExecutionAttemptRow) :
    ExecutionAttemptRow :=
  { row with
    status := attempt.status.text, txHash := attempt.txHash, submittedAt := some now,
    attemptJson := attempt }

def finalized (now : Nat) (attempt : ExecutionAttempt) (receipt : ExecutionReceipt)
    (outcome : ExecutionOutcome) (row : ExecutionAttemptRow) : ExecutionAttemptRow :=
  { row with
    status := attempt.status.text, txHash := attempt.txHash, finalizedAt := some now,
    inclusionBlockNumber := bigint receipt.blockNumber, gasUsed := bigint receipt.gasUsed,
    effectiveGasPriceWei := receipt.effectiveGasPrice.map toString,
    l1FeePaidWei := receipt.l1FeePaid.map toString,
    totalFeePaidWei := outcome.totalFeePaid.map toString,
    realizedSurplusWei := outcome.realizedSurplus.map toString, outcomeReason := outcome.reason,
    lastErrorStage := none, lastError := none, attemptJson := attempt,
    receiptJson := some receipt, outcomeJson := some outcome }

def finalizedWithoutReceipt (now : Nat) (attempt : ExecutionAttempt) (outcome : ExecutionOutcome)
    (row : ExecutionAttemptRow) : ExecutionAttemptRow :=
  { row with
    status := attempt.status.text, txHash := attempt.txHash, finalizedAt := some now,
    totalFeePaidWei := outcome.totalFeePaid.map toString,
    realizedSurplusWei := outcome.realizedSurplus.map toString, outcomeReason := outcome.reason,
    lastErrorStage := none, lastError := none, attemptJson := attempt,
    outcomeJson := some outcome }

def failed (stage error : String) (row : ExecutionAttemptRow) : ExecutionAttemptRow :=
  { row with lastErrorStage := some stage, lastError := some error }

end ExecutionAttemptRow

/-! ## Statements -/

structure Database where
  observedLogs : ObservedLogs
  decisionRuns : Table DecisionRunRow
  executionAttempts : Table ExecutionAttemptRow

/-- What is serialised for a JSON column, apart from logs. -/
inductive Document where
  | opportunity (opportunity : Opportunity)
  | simulation (simulation : SimulationResult)
  | risk (risk : RiskDecision)
  | executionRequest (request : Option ExecutionRequest)
  | attempt (attempt : ExecutionAttempt)
  | receipt (receipt : ExecutionReceipt)
  | outcome (outcome : ExecutionOutcome)

/-- `serde_json::to_value`, which refuses some numbers. -/
structure Serde where
  toValue : Value → Except ErrorChain Value
  document : Document → Except ErrorChain Unit

/-! ### What is bound to a statement, with the reply to it -/

section Send

variable (serde : Serde) (reply : Except ErrorChain Unit)

def sendDecisionRun (record : DecisionRunRecord) : Except ErrorChain Unit := do
  withContext "failed to serialize execution request"
    (serde.document (.executionRequest record.executionRequest))
  withContext "failed to serialize opportunity" (serde.document (.opportunity record.opportunity))
  withContext "failed to serialize simulation" (serde.document (.simulation record.simulation))
  withContext "failed to serialize risk" (serde.document (.risk record.risk))
  if 2 ^ 63 ≤ record.simulation.gasEstimate then
    .error ["gas estimate does not fit into i64", "out of range integral type conversion attempted"]
  else withContext "failed to persist decision run" reply

def sendExecutionAttempt (attempt : ExecutionAttempt) (request : ExecutionRequest) :
    Except ErrorChain Unit := do
  withContext "failed to serialize execution attempt" (serde.document (.attempt attempt))
  withContext "failed to serialize execution request"
    (serde.document (.executionRequest (some request)))
  withContext "failed to persist execution attempt" reply

def sendSubmitted (attempt : ExecutionAttempt) : Except ErrorChain Unit := do
  withContext "failed to serialize submitted attempt" (serde.document (.attempt attempt))
  withContext "failed to mark execution attempt as submitted" reply

def sendFinalized (attempt : ExecutionAttempt) (receipt : ExecutionReceipt)
    (outcome : ExecutionOutcome) : Except ErrorChain Unit := do
  withContext "failed to serialize finalized attempt" (serde.document (.attempt attempt))
  withContext "failed to serialize execution receipt" (serde.document (.receipt receipt))
  withContext "failed to serialize execution outcome" (serde.document (.outcome outcome))
  withContext "failed to finalize execution attempt" reply

def sendFinalizedWithoutReceipt (attempt : ExecutionAttempt) (outcome : ExecutionOutcome) :
    Except ErrorChain Unit := do
  withContext "failed to serialize finalized attempt without receipt"
    (serde.document (.attempt attempt))
  withContext "failed to serialize execution outcome" (serde.document (.outcome outcome))
  withContext "failed to finalize execution attempt without receipt" reply

def sendError : Except ErrorChain Unit :=
  withContext "failed to record execution attempt error" reply

end Send

namespace Database

/-- `persist_observed_log` on the whole database. -/
def observe (serde : Serde) (sha256 : List UInt8 → String) (pool : Option Database)
    (call : PersistCall) : Except ErrorChain (Option Database × Option Nat) :=
  match pool with
  | none => .ok (none, none)
  | some db => do
      let written ← persistObservedLog sha256 serde.toValue (some db.observedLogs) call
      return (written.1.map fun observedLogs => { db with observedLogs }, written.2)

variable (serde : Serde)

def persistDecisionRun (pool : Option Database) (now : Nat) (reply : Except ErrorChain Unit)
    (record : DecisionRunRecord) : Except ErrorChain (Option Database × Option Nat) :=
  match pool with
  | none => .ok (none, none)
  | some db => do
      sendDecisionRun serde reply record
      let inserted := db.decisionRuns.insert (record.row now)
      return (some { db with decisionRuns := inserted.1 }, some inserted.2)

def persistExecutionAttempt (pool : Option Database) (now : Nat) (reply : Except ErrorChain Unit)
    (decisionRunId : Option Nat) (attempt : ExecutionAttempt) (request : ExecutionRequest) :
    Except ErrorChain (Option Database × Option Nat) :=
  match pool with
  | none => .ok (none, none)
  | some db => do
      sendExecutionAttempt serde reply attempt request
      let inserted := db.executionAttempts.insert
        (.inserted now decisionRunId attempt request)
      return (some { db with executionAttempts := inserted.1 }, some inserted.2)

/-- An update of one attempt, with the error for the case that there is none. -/
def updateAttempt (db : Database) (id : Nat) (missing : String)
    (change : ExecutionAttemptRow → ExecutionAttemptRow) : Except ErrorChain (Option Database) :=
  let updated := db.executionAttempts.update id change
  if updated.2 = 0 then .error [missing]
  else .ok (some { db with executionAttempts := updated.1 })

def markExecutionSubmitted (pool : Option Database) (now : Nat) (reply : Except ErrorChain Unit)
    (id : Nat) (attempt : ExecutionAttempt) : Except ErrorChain (Option Database) :=
  match pool with
  | none => .ok none
  | some db => do
      sendSubmitted serde reply attempt
      db.updateAttempt id "no execution attempt row found for submission update"
        (.submitted now attempt)

def finalizeExecutionAttempt (pool : Option Database) (now : Nat) (reply : Except ErrorChain Unit)
    (id : Nat) (attempt : ExecutionAttempt) (receipt : ExecutionReceipt)
    (outcome : ExecutionOutcome) : Except ErrorChain (Option Database) :=
  match pool with
  | none => .ok none
  | some db => do
      sendFinalized serde reply attempt receipt outcome
      db.updateAttempt id "no execution attempt row found for finalization update"
        (.finalized now attempt receipt outcome)

def finalizeExecutionAttemptWithoutReceipt (pool : Option Database) (now : Nat)
    (reply : Except ErrorChain Unit) (id : Nat) (attempt : ExecutionAttempt)
    (outcome : ExecutionOutcome) : Except ErrorChain (Option Database) :=
  match pool with
  | none => .ok none
  | some db => do
      sendFinalizedWithoutReceipt serde reply attempt outcome
      db.updateAttempt id "no execution attempt row found for finalization update without receipt"
        (.finalizedWithoutReceipt now attempt outcome)

def recordExecutionAttemptError (pool : Option Database) (reply : Except ErrorChain Unit)
    (id : Nat) (stage error : String) : Except ErrorChain (Option Database) :=
  match pool with
  | none => .ok none
  | some db => do
      sendError reply
      db.updateAttempt id "no execution attempt row found for error update" (.failed stage error)

/-- The notional of the rows of today whose submission was allowed. -/
def exposure (db : Database) (now : Nat) : Except ErrorChain Nat :=
  let counted := db.executionAttempts.values.filter fun row =>
    row.submissionAllowed && decide (dayStart now ≤ row.observedAt)
  match counted.mapM fun row => numeric row.requestedNotionalWei with
  | some amounts => .ok amounts.sum
  | none => .error ["invalid input syntax for type numeric"]

def todaysSubmittableNotionalWei (pool : Option Database) (now : Nat)
    (reply : Except ErrorChain Unit) : Except ErrorChain Nat :=
  match pool with
  | none => .ok 0
  | some db => do
      let total ← withContext "failed to load current daily requested notional"
        (reply.bind fun _ => db.exposure now)
      if total < 2 ^ 128 then return total
      else .error [s!"failed to parse current daily requested notional `{total}` into u128",
        "number too large to fit in target type"]

end Database

end BaseEngine
