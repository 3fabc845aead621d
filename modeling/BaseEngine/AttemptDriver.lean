import BaseEngine.Execution
import BaseEngine.Payload

/-!
# Driving an attempt

`drive_execution_attempt` of `crates/app/src/main.rs`, written once over the
statements that it makes on a storage (`Statements`), so that it can be run on
the tables of the database as well as on what another part of the development
needs of them.

`Course` says what can become of an attempt: what is written to its row, whether
it is handed to the transport, and what the circuit breaker is told.
`runs_driveExecutionAttempt` says that nothing else can happen, whatever the
storage.
-/

namespace BaseEngine

open Fallible

/-! ## Statements -/

structure DecisionRunRecord where
  observedLogId : Option Nat
  triggerTxHash : Option String
  opportunity : Opportunity
  simulation : SimulationResult
  risk : RiskDecision
  executionRequest : Option ExecutionRequest
deriving Repr, DecidableEq

/-- What is written to the row of an attempt while it is driven. -/
inductive AttemptUpdate where
  | submitted (attempt : ExecutionAttempt)
  | finalized (attempt : ExecutionAttempt) (receipt : ExecutionReceipt)
      (outcome : ExecutionOutcome)
  | finalizedWithoutReceipt (attempt : ExecutionAttempt) (outcome : ExecutionOutcome)
  | failed (stage message : String)
deriving Repr, DecidableEq

/-- The statements on a storage while an output is handled. The identifier of a
row is `none` without a database. -/
structure Statements (σ : Type) where
  todaysSubmittableNotionalWei : σ → Except ErrorChain Nat
  persistDecisionRun : DecisionRunRecord → σ → Except ErrorChain (σ × Option Nat)
  persistExecutionAttempt : Option Nat → ExecutionAttempt → ExecutionRequest → σ →
    Except ErrorChain (σ × Option Nat)
  updateAttempt : Nat → AttemptUpdate → σ → Except ErrorChain σ

/-- A statement on the row of the attempt, if it has one. -/
def Statements.onRow {σ : Type} (sql : Statements σ) (attemptId : Option Nat)
    (update : AttemptUpdate) (storage : σ) : σ × Except ErrorChain Unit :=
  match attemptId with
  | none => (storage, .ok ())
  | some id =>
      match sql.updateAttempt id update storage with
      | .ok storage => (storage, .ok ())
      | .error e => (storage, .error e)

/-! ## Driving an attempt -/

/-- A transport. `none` is a submission that has not answered in time. -/
structure ExecutionTransport where
  submit : (timeoutSecs : Nat) → SubmissionPayload RouterCall → ExecutionAttempt →
    Option (Except ErrorChain String)
  awaitReceipt : ExecutionRequest → ExecutionAttempt → (timeoutSecs : Nat) →
    Except ErrorChain (Option ExecutionReceipt)

def receiptTimedOut : String := "timed out while waiting for execution receipt"

/-- What an error prints: its outermost message. -/
def errorText (e : ErrorChain) : String := e.headD ""

/-- The message of a timeout that has run out. -/
def deadlineElapsed : String := "deadline has elapsed"

/-- A failure that the driver logs and, where the attempt has a row, records
there. -/
structure AttemptFailure where
  stage : String
  message : String
deriving Repr, DecidableEq

/-- What the driver leaves behind: the storage, the attempt and its outcome, the
failure it reports, what it tells the circuit breaker, what it hands to the
transport, and its result. -/
structure DriveReport (σ : Type) where
  storage : σ
  attempt : ExecutionAttempt
  outcome : Option ExecutionOutcome
  failure : Option AttemptFailure
  recorded : Option Bool
  handed : List ExecutionAttempt
  result : Except ErrorChain Unit

section Driver

variable {σ : Type} (sql : Statements σ) (codec : AlloyCodec) (transport : ExecutionTransport)
  (config : ExecutionConfig) (request : ExecutionRequest) (attemptId : Option Nat)

/-- `clock` is the reading the payload's deadline is taken from. -/
def buildSubmissionPayload (clock : Except ErrorChain Nat) :
    Except ErrorChain (SubmissionPayload RouterCall) :=
  clock.bind (buildSubmissionPayloadAt codec config request)

/-- The attempt that could not be submitted stays as it was built. -/
def unsubmitted (builtAttempt : ExecutionAttempt) (failure : AttemptFailure)
    (recorded : Option Bool) (handed : List ExecutionAttempt) (storage : σ) : DriveReport σ :=
  let written := sql.onRow attemptId (.failed failure.stage failure.message) storage
  { storage := written.1, attempt := builtAttempt, outcome := none, failure := some failure,
    recorded, handed, result := written.2 }

/-- The attempt after an error that ends the driver. -/
def interrupted (builtAttempt attempt : ExecutionAttempt) (storage : σ) (e : ErrorChain) :
    DriveReport σ :=
  { storage, attempt, outcome := none, failure := none, recorded := none,
    handed := [builtAttempt], result := .error e }

/-- The attempt that has come to its end. -/
def settled (builtAttempt : ExecutionAttempt) (finalized : FinalizedExecution) (success : Bool)
    (update : AttemptUpdate) (storage : σ) : DriveReport σ :=
  let written := sql.onRow attemptId update storage
  { storage := written.1, attempt := finalized.attempt, outcome := some finalized.outcome,
    failure := none, recorded := some success, handed := [builtAttempt], result := written.2 }

/-- The three ways the receipt of a submitted attempt can come back. -/
def settleSubmitted (builtAttempt attempt : ExecutionAttempt) (storage : σ) : DriveReport σ :=
  match transport.awaitReceipt request attempt config.receiptTimeoutSecs with
  | .ok (some receipt) =>
      match withContext "failed to finalize execution receipt"
          (finalizeFromReceipt attempt receipt none request.minSurplus) with
      | .error e => interrupted builtAttempt attempt storage e
      | .ok finalized =>
          settled sql attemptId builtAttempt finalized
            (decide (finalized.outcome.finalStatus = .included
              ∨ finalized.outcome.finalStatus = .profitRealized))
            (.finalized finalized.attempt receipt finalized.outcome) storage
  | .ok none =>
      match withContext "failed to mark execution attempt as dropped"
          (markDropped attempt receiptTimedOut) with
      | .error e => interrupted builtAttempt attempt storage e
      | .ok dropped =>
          settled sql attemptId builtAttempt dropped false
            (.finalizedWithoutReceipt dropped.attempt dropped.outcome) storage
  -- the transaction stays pending, and the breaker does not count it
  | .error e =>
      let failure := { stage := "receipt_wait", message := errorText e : AttemptFailure }
      let written := sql.onRow attemptId (.failed failure.stage failure.message) storage
      { storage := written.1, attempt, outcome := none, failure := some failure, recorded := none,
        handed := [builtAttempt], result := written.2 }

/-- The attempt after the node has answered its submission. -/
def followSubmitted (builtAttempt : ExecutionAttempt) (txHash : String) (storage : σ) :
    DriveReport σ :=
  match withContext "invalid submitted attempt" (markSubmitted builtAttempt txHash) with
  | .error e => interrupted builtAttempt builtAttempt storage e
  | .ok attempt =>
      match sql.onRow attemptId (.submitted attempt) storage with
      | (storage, .error e) => interrupted builtAttempt attempt storage e
      | (storage, .ok ()) =>
          settleSubmitted sql transport config request attemptId builtAttempt attempt storage

def driveExecutionAttempt (builtAttempt : ExecutionAttempt) (clock : Except ErrorChain Nat)
    (storage : σ) : DriveReport σ :=
  match buildSubmissionPayload codec config request clock with
  | .error e =>
      unsubmitted sql attemptId builtAttempt { stage := "build", message := errorText e } none []
        storage
  | .ok payload =>
      match transport.submit config.submitTimeoutSecs payload builtAttempt with
      | some (.ok txHash) =>
          followSubmitted sql transport config request attemptId builtAttempt txHash storage
      -- refused or timed out: the transaction may be out all the same
      | some (.error e) =>
          unsubmitted sql attemptId builtAttempt { stage := "submit", message := errorText e }
            (some false) [builtAttempt] storage
      | none =>
          unsubmitted sql attemptId builtAttempt
            { stage := "submit_timeout", message := deadlineElapsed } (some false) [builtAttempt]
            storage

end Driver

/-! ## The course of an attempt -/

/-- The stages at which an attempt can fail before it has a transaction, with
what was handed to the transport by then and what the breaker is told. -/
inductive Unsubmitted (built : ExecutionAttempt) :
    String → List ExecutionAttempt → Option Bool → Prop
  | simulated : Unsubmitted built "ethcall_simulate" [] (some false)
  | unbuilt : Unsubmitted built "build" [] none
  | refused : Unsubmitted built "submit" [built] (some false)
  | timedOut : Unsubmitted built "submit_timeout" [built] (some false)

theorem Unsubmitted.handed {built : ExecutionAttempt} {stage : String}
    {handed : List ExecutionAttempt} {told : Option Bool}
    (h : Unsubmitted built stage handed told) : handed = [] ∨ handed = [built] := by
  cases h with
  | simulated => exact .inl rfl
  | unbuilt => exact .inl rfl
  | refused => exact .inr rfl
  | timedOut => exact .inr rfl

/-- What can become of a persisted attempt: what is written to its row, what is
handed over, what the breaker is told, and the result. An error ends the engine,
with the row as it was when the error came. -/
inductive Course (request : ExecutionRequest) (built : ExecutionAttempt) :
    List AttemptUpdate → List ExecutionAttempt → Option Bool → Except ErrorChain Unit → Prop
  | blocked (hallowed : built.submissionAllowed = false) : Course request built [] [] none (.ok ())
  | interrupted {handed : List ExecutionAttempt} {told : Option Bool} {e : ErrorChain}
      (hallowed : built.submissionAllowed = true) (hhanded : handed = [] ∨ handed = [built]) :
      Course request built [] handed told (.error e)
  | failed {stage message : String} {handed : List ExecutionAttempt} {told : Option Bool}
      (hallowed : built.submissionAllowed = true)
      (hstage : Unsubmitted built stage handed told) :
      Course request built [.failed stage message] handed told (.ok ())
  | lost {submitted : ExecutionAttempt} {txHash : String} {told : Option Bool} {e : ErrorChain}
      (hsubmitted : markSubmitted built txHash = .ok submitted) :
      Course request built [.submitted submitted] [built] told (.error e)
  | pending {submitted : ExecutionAttempt} {txHash message : String}
      (hsubmitted : markSubmitted built txHash = .ok submitted) :
      Course request built [.submitted submitted, .failed "receipt_wait" message] [built] none
        (.ok ())
  | finalized {submitted : ExecutionAttempt} {txHash : String} {receipt : ExecutionReceipt}
      {execution : FinalizedExecution} (hsubmitted : markSubmitted built txHash = .ok submitted)
      (hfinal : finalizeFromReceipt submitted receipt none request.minSurplus = .ok execution) :
      Course request built
        [.submitted submitted, .finalized execution.attempt receipt execution.outcome] [built]
        (some (decide (execution.outcome.finalStatus = .included
          ∨ execution.outcome.finalStatus = .profitRealized))) (.ok ())
  | dropped {submitted : ExecutionAttempt} {txHash : String} {execution : FinalizedExecution}
      (hsubmitted : markSubmitted built txHash = .ok submitted)
      (hfinal : markDropped submitted receiptTimedOut = .ok execution) :
      Course request built
        [.submitted submitted, .finalizedWithoutReceipt execution.attempt execution.outcome]
        [built] (some false) (.ok ())

theorem Course.handed_cases {request : ExecutionRequest} {built : ExecutionAttempt}
    {updates : List AttemptUpdate} {handed : List ExecutionAttempt} {told : Option Bool}
    {result : Except ErrorChain Unit} (h : Course request built updates handed told result) :
    handed = [] ∨ handed = [built] ∧ built.submissionAllowed = true := by
  have hmarked : ∀ {txHash submitted}, markSubmitted built txHash = .ok submitted →
      built.submissionAllowed = true := by
    intro txHash submitted hsubmitted
    unfold markSubmitted at hsubmitted
    split_ifs at hsubmitted with hstatus hallowed hblank
    exact Bool.eq_true_of_not_eq_false hallowed
  cases h with
  | blocked _ => exact .inl rfl
  | interrupted hallowed hhanded => exact hhanded.imp_right fun h => ⟨h, hallowed⟩
  | failed hallowed hstage => exact hstage.handed.imp_right fun h => ⟨h, hallowed⟩
  | lost hsubmitted => exact .inr ⟨rfl, hmarked hsubmitted⟩
  | pending hsubmitted => exact .inr ⟨rfl, hmarked hsubmitted⟩
  | finalized hsubmitted _ => exact .inr ⟨rfl, hmarked hsubmitted⟩
  | dropped hsubmitted _ => exact .inr ⟨rfl, hmarked hsubmitted⟩

section Inversion

variable {σ : Type} {sql : Statements σ} {attemptId : Option Nat}

/-- The updates go through, in their order. -/
inductive Statements.Writes (sql : Statements σ) (attemptId : Option Nat) :
    List AttemptUpdate → σ → σ → Prop
  | nil {storage : σ} : Writes sql attemptId [] storage storage
  | cons {update : AttemptUpdate} {updates : List AttemptUpdate} {storage storage' storage'' : σ}
      (hupdate : sql.onRow attemptId update storage = (storage', .ok ()))
      (hrest : Writes sql attemptId updates storage' storage'') :
      Writes sql attemptId (update :: updates) storage storage''

theorem Statements.onRow_cases (sql : Statements σ) (attemptId : Option Nat)
    (update : AttemptUpdate) (storage : σ) :
    (∃ storage', sql.onRow attemptId update storage = (storage', .ok ()))
      ∨ ∃ e, sql.onRow attemptId update storage = (storage, .error e) := by
  unfold onRow
  cases attemptId with
  | none => exact .inl ⟨storage, rfl⟩
  | some id =>
      dsimp only
      cases sql.updateAttempt id update storage with
      | ok storage' => exact .inl ⟨storage', rfl⟩
      | error e => exact .inr ⟨e, rfl⟩

variable {request : ExecutionRequest} {built : ExecutionAttempt} {storage : σ}

/-- What is left behind is a course of the attempt. -/
def Ran (sql : Statements σ) (request : ExecutionRequest) (attemptId : Option Nat)
    (built : ExecutionAttempt) (storage : σ) (recorded : Option Bool)
    (handed : List ExecutionAttempt) (storage' : σ) (result : Except ErrorChain Unit) : Prop :=
  ∃ updates, Course request built updates handed recorded result
    ∧ sql.Writes attemptId updates storage storage'

def DriveReport.Runs (report : DriveReport σ) (sql : Statements σ) (request : ExecutionRequest)
    (attemptId : Option Nat) (built : ExecutionAttempt) (storage : σ) : Prop :=
  Ran sql request attemptId built storage report.recorded report.handed report.storage
    report.result

/-- The last statement of a course: it goes through or the engine ends. -/
theorem ran_last {earlier : List AttemptUpdate} {update : AttemptUpdate} {current : σ}
    {handed : List ExecutionAttempt} {told : Option Bool}
    (hwritten : ∀ {updates storage'}, sql.Writes attemptId updates current storage' →
      sql.Writes attemptId (earlier ++ updates) storage storage')
    (hdone : Course request built (earlier ++ [update]) handed told (.ok ()))
    (herror : ∀ e, Course request built earlier handed told (.error e)) :
    Ran sql request attemptId built storage told handed (sql.onRow attemptId update current).1
      (sql.onRow attemptId update current).2 := by
  rcases sql.onRow_cases attemptId update current with ⟨storage', hok⟩ | ⟨e, hfailed⟩
  · rw [hok]
    exact ⟨_, hdone, hwritten (.cons hok .nil)⟩
  · rw [hfailed]
    exact ⟨_, herror e, List.append_nil earlier ▸ hwritten .nil⟩

variable {codec : AlloyCodec} {transport : ExecutionTransport} {config : ExecutionConfig}

theorem runs_settleSubmitted {submitted : ExecutionAttempt} {txHash : String} {current : σ}
    (hsubmitted : markSubmitted built txHash = .ok submitted)
    (hwritten : sql.onRow attemptId (.submitted submitted) storage = (current, .ok ())) :
    (settleSubmitted sql transport config request attemptId built submitted current).Runs sql
      request attemptId built storage := by
  have hfirst : ∀ {updates storage'}, sql.Writes attemptId updates current storage' →
      sql.Writes attemptId ([.submitted submitted] ++ updates) storage storage' :=
    fun hrest => .cons hwritten hrest
  have hends : ∀ e, (interrupted built submitted current e).Runs sql request attemptId built
      storage := fun e => ⟨_, .lost hsubmitted, hfirst .nil⟩
  unfold settleSubmitted
  cases transport.awaitReceipt request submitted config.receiptTimeoutSecs with
  | error e => exact ran_last hfirst (.pending hsubmitted) fun _ => .lost hsubmitted
  | ok found =>
      cases found with
      | none =>
          dsimp only
          cases hdropped : markDropped submitted receiptTimedOut with
          | error e => exact hends _
          | ok execution =>
              exact ran_last hfirst (.dropped hsubmitted hdropped) fun _ => .lost hsubmitted
      | some receipt =>
          dsimp only
          cases hfinal : finalizeFromReceipt submitted receipt none request.minSurplus with
          | error e => exact hends _
          | ok execution =>
              exact ran_last hfirst (.finalized hsubmitted hfinal) fun _ => .lost hsubmitted

/-- A failure before there is a transaction. -/
theorem runs_unsubmitted (hallowed : built.submissionAllowed = true) {failure : AttemptFailure}
    {handed : List ExecutionAttempt} {told : Option Bool}
    (hstage : Unsubmitted built failure.stage handed told) :
    (unsubmitted sql attemptId built failure told handed storage).Runs sql request attemptId built
      storage :=
  @ran_last _ sql attemptId request built storage [] (.failed failure.stage failure.message)
    storage handed told (fun hrest => hrest) (.failed hallowed hstage)
    fun _ => .interrupted hallowed hstage.handed

theorem runs_followSubmitted (hallowed : built.submissionAllowed = true) (txHash : String) :
    (followSubmitted sql transport config request attemptId built txHash storage).Runs sql request
      attemptId built storage := by
  have hends : ∀ attempt e, (interrupted built attempt storage e).Runs sql request attemptId built
      storage := fun attempt e => ⟨[], .interrupted hallowed (.inr rfl), .nil⟩
  unfold followSubmitted
  cases hsubmitted : markSubmitted built txHash with
  | error e => exact hends _ _
  | ok submitted =>
      rcases sql.onRow_cases attemptId (.submitted submitted) storage with
        ⟨current, hwritten⟩ | ⟨e, hfailed⟩
      · simp only [withContext, Except.mapError, hwritten]
        exact runs_settleSubmitted hsubmitted hwritten
      · simp only [withContext, Except.mapError, hfailed]
        exact hends _ _

theorem runs_driveExecutionAttempt (hallowed : built.submissionAllowed = true)
    (clock : Except ErrorChain Nat) :
    (driveExecutionAttempt sql codec transport config request attemptId built clock storage).Runs
      sql request attemptId built storage := by
  unfold driveExecutionAttempt
  cases buildSubmissionPayload codec config request clock with
  | error e => exact runs_unsubmitted hallowed .unbuilt
  | ok payload =>
      dsimp only
      cases transport.submit config.submitTimeoutSecs payload built with
      | none => exact runs_unsubmitted hallowed .timedOut
      | some answer =>
          cases answer with
          | error e => exact runs_unsubmitted hallowed .refused
          | ok txHash => exact runs_followSubmitted hallowed txHash

/-- A context is added to the error of a course. -/
theorem Course.withContext {updates : List AttemptUpdate} {handed : List ExecutionAttempt}
    {told : Option Bool} {result : Except ErrorChain Unit}
    (h : Course request built updates handed told result) (context : String) :
    Course request built updates handed told (BaseEngine.withContext context result) := by
  cases h with
  | blocked hallowed => exact .blocked hallowed
  | interrupted hallowed hhanded => exact .interrupted hallowed hhanded
  | failed hallowed hstage => exact .failed hallowed hstage
  | lost hsubmitted => exact .lost hsubmitted
  | pending hsubmitted => exact .pending hsubmitted
  | finalized hsubmitted hfinal => exact .finalized hsubmitted hfinal
  | dropped hsubmitted hfinal => exact .dropped hsubmitted hfinal

end Inversion

end BaseEngine
