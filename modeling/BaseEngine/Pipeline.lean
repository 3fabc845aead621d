import BaseEngine.AttemptDriver
import BaseEngine.TokenGates

/-!
# From a decision to a submitted transaction

`maybe_log_decision_output` of `crates/app/src/main.rs` over the statements that
it makes on a storage. `BaseEngine.Ledger` instantiates it with the tables of the
database; here it is instantiated with a storage that has of
`execution_attempts` what the daily exposure is summed from
(`Answers.statements`). Without a database URL there are no rows, every write is
skipped and the exposure is zero.

What the node answers and the clocks read while one output is handled is an
`Outside`. A call that returns early leaves behind the engine as it is at that
point (`Handled`). `Handling` says once what can happen, whatever the storage,
and `OutputStep` what that comes to on the rows.
-/

namespace BaseEngine

open Fallible Machine

/-! ## Handling an output -/

/-- What the node answers and the clocks read while one output is handled. The
exposure is summed and the attempt inserted by the clock of the database, which
does not go back in between. -/
structure Outside where
  reading : Reading
  exposureAt : Nat
  insertedAt : Nat
  ordered : exposureAt ≤ insertedAt
  handedAt : Nat
  simulationClock : Except ErrorChain Nat
  submissionClock : Except ErrorChain Nat
  simulate : Option (Except ErrorChain Unit)
  submit : Option (Except ErrorChain String)
  awaitReceipt : Except ErrorChain (Option ExecutionReceipt)

/-- An attempt handed to the transport: when it was decided by the clock of the
process, when its row was inserted by the clock of the database, and when it was
handed over. -/
structure Handover where
  decidedAt : Nat
  insertedAt : Nat
  handedAt : Nat
  attempt : ExecutionAttempt
deriving Repr, DecidableEq

def Handover.notional (handover : Handover) : Nat := handover.attempt.requestedNotional

def Outside.handover (outside : Outside) (attempt : ExecutionAttempt) : Handover :=
  { decidedAt := outside.reading.nowUnixSecs, insertedAt := outside.insertedAt,
    handedAt := outside.handedAt, attempt }

/-- The transport that gives the answers. -/
def Outside.transport (outside : Outside) : ExecutionTransport :=
  { submit := fun _ _ _ => outside.submit, awaitReceipt := fun _ _ _ => outside.awaitReceipt }

structure DecisionPipelineOutput where
  observedLogId : Option Nat
  opportunity : Opportunity
  simulation : SimulationResult
deriving Repr, DecidableEq

def DecisionPipelineOutput.record (output : DecisionPipelineOutput) (risk : RiskDecision)
    (executionRequest : Option ExecutionRequest) : DecisionRunRecord :=
  { observedLogId := output.observedLogId, triggerTxHash := output.opportunity.triggerTxHash,
    opportunity := output.opportunity, simulation := output.simulation, risk, executionRequest }

/-- The engine with what an output left behind: the risk state, the storage,
the attempts handed to the transport, what the circuit breaker was told, and
the result of the call. -/
structure Handled (σ : Type) where
  risk : RiskState
  storage : σ
  handed : List ExecutionAttempt
  recorded : Option Bool
  result : Except ErrorChain Unit

/-- Nothing was handed over or told. -/
def Handled.quiet {σ : Type} (risk : RiskState) (storage : σ) (result : Except ErrorChain Unit) :
    Handled σ :=
  { risk, storage, handed := [], recorded := none, result }

/-- The engine's state after an outcome that may have been recorded. -/
def RiskState.count (risk : RiskState) : Option Bool → RiskState
  | none => risk
  | some success => risk.recordOutcome success

def DriveReport.handled {σ : Type} (report : DriveReport σ) (risk : RiskState) : Handled σ :=
  { risk := risk.count report.recorded, storage := report.storage, handed := report.handed,
    recorded := report.recorded, result := report.result }

/-- `eth_call` with its time limit. -/
def runEthcallSimulation (config : ExecutionConfig) (outside : Outside) : Except ErrorChain Unit :=
  match outside.simulate with
  | some outcome => outcome
  | none =>
      let secs := config.ethcallTimeoutSecs
      .error [s!"eth_call simulation timed out after {secs}s"]

section Handler

variable {σ : Type} (sql : Statements σ) (sha256 : List UInt8 → String) (codec : AlloyCodec)

/-- The decision of the risk engine on an output. -/
def DecisionPipelineOutput.assessed (policy : RiskPolicy) (outside : Outside)
    (output : DecisionPipelineOutput) (risk : RiskState) : RiskDecision × RiskState :=
  policy.assess sha256 outside.reading output.opportunity output.simulation risk

/-- The request of an accepted opportunity with its prepared attempt. -/
def prepareOutput (config : ExecutionConfig) (output : DecisionPipelineOutput) (risk : RiskDecision)
    (storage : σ) : Except ErrorChain (Option (ExecutionRequest × PreparedExecution)) :=
  match buildExecutionRequest output.opportunity risk with
  | none => .ok none
  | some request => do
      let currentDailyRequestedWei ← withContext "failed to load current daily execution exposure"
        (sql.todaysSubmittableNotionalWei storage)
      let prepared ← withContext "failed to prepare execution attempt"
        (prepareExecution config request output.simulation currentDailyRequestedWei)
      return some (request, prepared)

/-- Submission of a persisted attempt, after the slow simulation. -/
def submitAttempt (config : ExecutionConfig) (outside : Outside) (request : ExecutionRequest)
    (attemptId : Option Nat) (attempt : ExecutionAttempt) (risk : RiskState) (storage : σ) :
    Handled σ :=
  match withContext "failed to build submission payload for eth_call simulation"
      (buildSubmissionPayload codec config request outside.simulationClock) with
  | .error e => .quiet risk storage (.error e)
  | .ok _ =>
      let drive :=
        let driven := (driveExecutionAttempt sql codec outside.transport config request attemptId
          attempt outside.submissionClock storage).handled risk
        { driven with
          result := withContext "failed to drive execution attempt lifecycle" driven.result }
      match runEthcallSimulation config outside with
      | .ok () => drive
      | .error e =>
          if config.ethcallPreflightRequired = true then
            (unsubmitted sql attemptId attempt
              { stage := "ethcall_simulate", message := errorText e } (some false) []
              storage).handled risk
          else drive

/-- The attempt is persisted before it is submitted. -/
def executePrepared (config : ExecutionConfig) (outside : Outside) (request : ExecutionRequest)
    (prepared : PreparedExecution) (decisionRunId : Option Nat) (risk : RiskState) (storage : σ) :
    Handled σ :=
  match sql.persistExecutionAttempt decisionRunId prepared.attempt request storage with
  | .error e => .quiet risk storage (.error e)
  | .ok (storage, attemptId) =>
      if prepared.shouldSubmit then
        submitAttempt sql codec config outside request attemptId prepared.attempt risk storage
      else .quiet risk storage (.ok ())

def maybeLogDecisionOutput (config : AppConfig) (policy : RiskPolicy) (outside : Outside)
    (output : Option DecisionPipelineOutput) (risk : RiskState) (storage : σ) : Handled σ :=
  match output with
  | none => .quiet risk storage (.ok ())
  | some output =>
      let assessed := output.assessed sha256 policy outside risk
      let risk := assessed.2
      match prepareOutput sql config.execution output assessed.1 storage with
      | .error e => .quiet risk storage (.error e)
      | .ok prepared =>
          match sql.persistDecisionRun (output.record assessed.1 (prepared.map Prod.fst))
              storage with
          | .error e => .quiet risk storage (.error e)
          | .ok (storage, decisionRunId) =>
              match prepared with
              | none => .quiet risk storage (.ok ())
              | some (request, prepared) =>
                  executePrepared sql codec config.execution outside request prepared decisionRunId
                    risk storage

end Handler

/-! ## What becomes of a prepared attempt -/

section Inversion

variable {σ : Type} {sql : Statements σ} {attemptId : Option Nat} {request : ExecutionRequest}
  {built : ExecutionAttempt} {storage : σ} {codec : AlloyCodec} {config : ExecutionConfig}
  {outside : Outside} {risk : RiskState}

/-- What an attempt that was persisted leaves behind. -/
structure Handled.Runs (handled : Handled σ) (sql : Statements σ) (request : ExecutionRequest)
    (attemptId : Option Nat) (built : ExecutionAttempt) (storage : σ) (risk : RiskState) :
    Prop where
  ran : Ran sql request attemptId built storage handled.recorded handled.handed handled.storage
    handled.result
  risk : handled.risk = risk.count handled.recorded

theorem runs_submitAttempt (hallowed : built.submissionAllowed = true) :
    (submitAttempt sql codec config outside request attemptId built risk storage).Runs sql request
      attemptId built storage risk := by
  have hdrive : Handled.Runs
      { (driveExecutionAttempt sql codec outside.transport config request attemptId built
          outside.submissionClock storage).handled risk with
        result := withContext "failed to drive execution attempt lifecycle"
          (driveExecutionAttempt sql codec outside.transport config request attemptId built
            outside.submissionClock storage).result } sql request attemptId built storage risk := by
    obtain ⟨updates, hcourse, hwrites⟩ := @runs_driveExecutionAttempt σ sql attemptId request built
      storage codec outside.transport config hallowed outside.submissionClock
    exact ⟨⟨updates, hcourse.withContext _, hwrites⟩, rfl⟩
  unfold submitAttempt
  cases withContext "failed to build submission payload for eth_call simulation"
      (buildSubmissionPayload codec config request outside.simulationClock) with
  | error e => exact ⟨⟨[], .interrupted hallowed (.inl rfl), .nil⟩, rfl⟩
  | ok payload =>
      dsimp only
      cases runEthcallSimulation config outside with
      | ok _ => exact hdrive
      | error e =>
          dsimp only
          split_ifs with hrequired
          · exact ⟨runs_unsubmitted hallowed .simulated, rfl⟩
          · exact hdrive

/-- **What can become of a prepared attempt**: it cannot be persisted and the
engine ends, or it takes a course. -/
theorem runs_executePrepared {prepared : PreparedExecution}
    (hsubmit : prepared.shouldSubmit = prepared.attempt.submissionAllowed)
    (decisionRunId : Option Nat) :
    (∃ e, executePrepared sql codec config outside request prepared decisionRunId risk storage
        = .quiet risk storage (.error e))
      ∨ ∃ persisted attemptId,
        sql.persistExecutionAttempt decisionRunId prepared.attempt request storage
            = .ok (persisted, attemptId)
          ∧ (executePrepared sql codec config outside request prepared decisionRunId risk
              storage).Runs sql request attemptId prepared.attempt persisted risk := by
  unfold executePrepared
  cases hpersist : sql.persistExecutionAttempt decisionRunId prepared.attempt request storage with
  | error e => exact .inl ⟨e, rfl⟩
  | ok inserted =>
      obtain ⟨persisted, attemptId⟩ := inserted
      refine .inr ⟨persisted, attemptId, rfl, ?_⟩
      dsimp only
      by_cases hallowed : prepared.attempt.submissionAllowed = true
      · rw [if_pos (hsubmit.trans hallowed)]
        exact runs_submitAttempt hallowed
      · rw [if_neg fun h => hallowed (hsubmit.symm.trans h)]
        exact ⟨⟨[], .blocked (Bool.eq_false_iff.mpr hallowed), .nil⟩, rfl⟩

end Inversion

/-! ## What handling an output can do -/

section Handling

variable {σ : Type} (sql : Statements σ) (sha256 : List UInt8 → String) (config : AppConfig)
  (policy : RiskPolicy) (outside : Outside)

/-- The ways an output is handled: there is none; nothing is written; only the
decision run; or the decision run and an attempt, which was prepared at the
exposure of the moment. -/
inductive Handling (output : Option DecisionPipelineOutput) (risk : RiskState) (storage : σ) :
    Handled σ → Prop
  | idle (hout : output = none) : Handling output risk storage (.quiet risk storage (.ok ()))
  | unrecorded {out : DecisionPipelineOutput} {e : ErrorChain} (hout : output = some out) :
      Handling output risk storage
        (.quiet (out.assessed sha256 policy outside risk).2 storage (.error e))
  | decided {out : DecisionPipelineOutput} {request : Option ExecutionRequest} {persisted : σ}
      {decisionRunId : Option Nat} {result : Except ErrorChain Unit} (hout : output = some out)
      (hrun : sql.persistDecisionRun
        (out.record (out.assessed sha256 policy outside risk).1 request) storage
          = .ok (persisted, decisionRunId)) :
      Handling output risk storage
        (.quiet (out.assessed sha256 policy outside risk).2 persisted result)
  | attempted {out : DecisionPipelineOutput} {request : ExecutionRequest}
      {prepared : PreparedExecution} {current : Nat} {decided persisted : σ}
      {decisionRunId attemptId : Option Nat} {handled : Handled σ} (hout : output = some out)
      (hrequest : buildExecutionRequest out.opportunity
        (out.assessed sha256 policy outside risk).1 = some request)
      (hcurrent : sql.todaysSubmittableNotionalWei storage = .ok current)
      (hprepared : prepareExecution config.execution request out.simulation current = .ok prepared)
      (hrun : sql.persistDecisionRun
        (out.record (out.assessed sha256 policy outside risk).1 (some request)) storage
          = .ok (decided, decisionRunId))
      (hattempt : sql.persistExecutionAttempt decisionRunId prepared.attempt request decided
        = .ok (persisted, attemptId))
      (hruns : handled.Runs sql request attemptId prepared.attempt persisted
        (out.assessed sha256 policy outside risk).2) :
      Handling output risk storage handled

variable {sql sha256 config policy outside} {codec : AlloyCodec}
  {output : Option DecisionPipelineOutput} {risk : RiskState} {storage : σ}

theorem prepareOutput_some {execution : ExecutionConfig} {out : DecisionPipelineOutput}
    {decision : RiskDecision} {request : ExecutionRequest} {prepared : PreparedExecution}
    (h : prepareOutput sql execution out decision storage = .ok (some (request, prepared))) :
    buildExecutionRequest out.opportunity decision = some request
      ∧ ∃ current, sql.todaysSubmittableNotionalWei storage = .ok current
        ∧ prepareExecution execution request out.simulation current = .ok prepared := by
  unfold prepareOutput at h
  cases hrequest : buildExecutionRequest out.opportunity decision with
  | none =>
      rw [hrequest] at h
      cases h
  | some built =>
      rw [hrequest] at h
      obtain ⟨current, hcurrent, h⟩ := bind_eq_ok_iff.mp h
      obtain ⟨prepared', hprepared, h⟩ := bind_eq_ok_iff.mp h
      obtain ⟨rfl, rfl⟩ := Prod.mk.inj (Option.some.inj (Except.ok.inj h))
      exact ⟨rfl, current, mapError_eq_ok_iff.mp hcurrent, mapError_eq_ok_iff.mp hprepared⟩

/-- **What handling an output can do**, whatever the storage. -/
theorem handling_maybeLogDecisionOutput :
    Handling sql sha256 config policy outside output risk storage
      (maybeLogDecisionOutput sql sha256 codec config policy outside output risk storage) := by
  cases output with
  | none => exact .idle rfl
  | some out =>
      unfold maybeLogDecisionOutput
      dsimp only
      cases hprepare : prepareOutput sql config.execution out
          (out.assessed sha256 policy outside risk).1 storage with
      | error e => exact .unrecorded rfl
      | ok found =>
          dsimp only
          cases hrun : sql.persistDecisionRun (out.record
              (out.assessed sha256 policy outside risk).1 (found.map Prod.fst)) storage with
          | error e => exact .unrecorded rfl
          | ok inserted =>
              obtain ⟨decided, decisionRunId⟩ := inserted
              cases found with
              | none => exact .decided rfl hrun
              | some pair =>
                  obtain ⟨request, prepared⟩ := pair
                  obtain ⟨hrequest, current, hcurrent, hprepared⟩ := prepareOutput_some hprepare
                  have hcases := @runs_executePrepared σ sql request decided codec config.execution
                    outside (out.assessed sha256 policy outside risk).2 prepared
                    (prepareExecution_ok hprepared).shouldSubmit decisionRunId
                  rcases hcases with ⟨e, hfailed⟩ | ⟨persisted, attemptId, hattempt, hruns⟩
                  · dsimp only
                    rw [hfailed]
                    exact .decided rfl hrun
                  · exact .attempted rfl hrequest hcurrent hprepared hrun hattempt hruns

/-- The risk state is the one after the assessment, with the outcome counted. -/
theorem Handling.risk_eq {out : DecisionPipelineOutput} {handled : Handled σ}
    (h : Handling sql sha256 config policy outside (some out) risk storage handled) :
    handled.risk = (out.assessed sha256 policy outside risk).2.count handled.recorded := by
  cases h with
  | idle hout => cases hout
  | unrecorded hout =>
      obtain rfl := Option.some.inj hout
      rfl
  | decided hout _ =>
      obtain rfl := Option.some.inj hout
      rfl
  | attempted hout _ _ _ _ _ hruns =>
      obtain rfl := Option.some.inj hout
      exact hruns.risk

/-- Nothing is handed over or told for an opportunity that is denied. -/
theorem Handling.of_denied {out : DecisionPipelineOutput} {handled : Handled σ}
    (h : Handling sql sha256 config policy outside (some out) risk storage handled)
    (hdenied : (out.assessed sha256 policy outside risk).1.accepted = false) :
    handled.recorded = none ∧ handled.handed = [] := by
  cases h with
  | idle hout => cases hout
  | unrecorded _ => exact ⟨rfl, rfl⟩
  | decided _ _ => exact ⟨rfl, rfl⟩
  | attempted hout hrequest _ _ _ _ _ =>
      obtain rfl := Option.some.inj hout
      obtain ⟨haccepted, -⟩ := buildExecutionRequest_fields hrequest
      rw [hdenied] at haccepted
      cases haccepted

end Handling

/-! ## A storage of what the exposure is summed from -/

/-- A row of `execution_attempts`. -/
structure AttemptRow where
  requestedNotionalWei : Nat
  submissionAllowed : Bool
  observedAt : Nat
deriving Repr, DecidableEq

/-- The rows, or `none` without a database. -/
abbrev Storage := Option (List AttemptRow)

/-- The second the UTC day of a time starts. -/
def dayStart (now : Nat) : Nat := now / secondsPerDay * secondsPerDay

/-- The notional of the rows of today whose submission was allowed. -/
def exposure (rows : List AttemptRow) (now : Nat) : Nat :=
  ((rows.filter fun row => row.submissionAllowed && decide (dayStart now ≤ row.observedAt)).map
    AttemptRow.requestedNotionalWei).sum

/-- What the database is asked to write. -/
inductive Write where
  | decisionRun (record : DecisionRunRecord)
  | attempt (attempt : ExecutionAttempt) (request : ExecutionRequest)
  | update (update : AttemptUpdate)
deriving Repr, DecidableEq

/-- What the outside world answers while one output is handled. An answer of the
database matters only when there is a database. -/
structure Answers extends Outside where
  loadExposure : Except ErrorChain Unit
  write : Write → Except ErrorChain Unit

/-- A query that is skipped without a database. -/
def query (storage : Storage) (answer : Except ErrorChain Unit) : Except ErrorChain Unit :=
  if storage.isSome then answer else .ok ()

def todaysSubmittableNotionalWei (storage : Storage) (answers : Answers) : Except ErrorChain Nat :=
  match storage with
  | none => .ok 0
  | some rows => do
      withContext "failed to load current daily requested notional" answers.loadExposure
      let total := exposure rows answers.exposureAt
      if total < 2 ^ 128 then return total
      else .error [s!"failed to parse current daily requested notional `{total}` into u128",
        "number too large to fit in target type"]

/-- The attempt as a row of the database. -/
def attemptRow (attempt : ExecutionAttempt) (answers : Answers) : AttemptRow :=
  { requestedNotionalWei := attempt.requestedNotional,
    submissionAllowed := attempt.submissionAllowed, observedAt := answers.insertedAt }

/-- The statements on the rows. Of decision runs nothing is kept, and an attempt
is found by its position. -/
def Answers.statements (answers : Answers) : Statements Storage where
  todaysSubmittableNotionalWei storage := todaysSubmittableNotionalWei storage answers
  persistDecisionRun record storage := do
    query storage (answers.write (.decisionRun record))
    return (storage, none)
  persistExecutionAttempt _ attempt request storage := do
    query storage (answers.write (.attempt attempt request))
    return (storage.map (· ++ [attemptRow attempt answers]), storage.map List.length)
  updateAttempt _ update storage := do
    query storage (answers.write (.update update))
    return storage

section Rows

variable (sha256 : List UInt8 → String)

/-- At most one outcome is recorded. -/
def RiskAfter (before after : RiskState) : Prop :=
  after = before ∨ ∃ success, after = before.recordOutcome success

theorem riskAfter_count (risk : RiskState) (recorded : Option Bool) :
    RiskAfter risk (risk.count recorded) := by
  cases recorded with
  | none => exact .inl rfl
  | some success => exact .inr ⟨success, rfl⟩

/-- The ways an output is handled on the rows: there is none; nothing reaches
the transport; or one attempt does, for the opportunity of the output, allowed
at the exposure of the moment and persisted before. -/
inductive OutputStep (config : AppConfig) (policy : RiskPolicy) (answers : Answers)
    (output : Option DecisionPipelineOutput) (risk : RiskState) (storage : Storage) :
    Handled Storage → Prop
  | idle (hout : output = none) :
      OutputStep config policy answers output risk storage (.quiet risk storage (.ok ()))
  | withheld {out : DecisionPipelineOutput} {handled : Handled Storage} (hout : output = some out)
      (hhanded : handled.handed = [])
      (hrisk : RiskAfter
        (policy.assess sha256 answers.reading out.opportunity out.simulation risk).2 handled.risk)
      (hstorage : handled.storage = storage
        ∨ ∃ row, handled.storage = storage.map (· ++ [row])) :
      OutputStep config policy answers output risk storage handled
  | handed {out : DecisionPipelineOutput} {attempt : ExecutionAttempt} {current : Nat}
      {reason : Option String} {handled : Handled Storage} (hout : output = some out)
      (hhanded : handled.handed = [attempt])
      (haccepted : (policy.assess sha256 answers.reading out.opportunity out.simulation
        risk).1.accepted = true)
      (hrequest : attempt.requestId = out.opportunity.id)
      (hnotional : attempt.requestedNotional = out.opportunity.inputAmount)
      (hallowed : attempt.submissionAllowed = true)
      (hcurrent : todaysSubmittableNotionalWei storage answers = .ok current)
      (hpolicy : submissionPolicy config.execution attempt.requestedNotional current
        = .ok (true, reason))
      (hrisk : RiskAfter
        (policy.assess sha256 answers.reading out.opportunity out.simulation risk).2 handled.risk)
      (hstorage : handled.storage = storage.map (· ++ [attemptRow attempt answers])) :
      OutputStep config policy answers output risk storage handled

variable {sha256} {config : AppConfig} {policy : RiskPolicy} {answers : Answers}
  {output : Option DecisionPipelineOutput} {risk : RiskState} {storage : Storage}

/-- An update leaves the rows alone. -/
theorem Answers.onRow_some (answers : Answers) (id : Nat) (update : AttemptUpdate)
    (storage : Storage) :
    answers.statements.onRow (some id) update storage
      = (storage, query storage (answers.write (.update update))) := by
  have hupdate : answers.statements.updateAttempt id update storage
      = (query storage (answers.write (.update update))).map fun _ => storage :=
    bind_ok_eq_map _ _
  unfold Statements.onRow
  dsimp only
  rw [hupdate]
  cases query storage (answers.write (.update update)) with
  | ok _ => rfl
  | error e => rfl

theorem Answers.onRow_storage (answers : Answers) (attemptId : Option Nat) (update : AttemptUpdate)
    (storage : Storage) : (answers.statements.onRow attemptId update storage).1 = storage := by
  cases attemptId with
  | none => rfl
  | some id => rw [answers.onRow_some]

theorem Statements.Writes.storage_eq {attemptId : Option Nat} {updates : List AttemptUpdate}
    {storage' : Storage} (h : answers.statements.Writes attemptId updates storage storage') :
    storage' = storage := by
  induction h with
  | nil => rfl
  | @cons update updates before between after hupdate _ ih =>
      have hkept := answers.onRow_storage attemptId update before
      rw [hupdate] at hkept
      exact ih.trans hkept

theorem Answers.persistDecisionRun_eq (answers : Answers) (record : DecisionRunRecord)
    (storage : Storage) :
    answers.statements.persistDecisionRun record storage
      = (query storage (answers.write (.decisionRun record))).map fun _ => (storage, none) :=
  bind_ok_eq_map _ _

theorem Answers.persistExecutionAttempt_eq (answers : Answers) (decisionRunId : Option Nat)
    (attempt : ExecutionAttempt) (request : ExecutionRequest) (storage : Storage) :
    answers.statements.persistExecutionAttempt decisionRunId attempt request storage
      = (query storage (answers.write (.attempt attempt request))).map fun _ =>
        (storage.map (· ++ [attemptRow attempt answers]), storage.map List.length) :=
  bind_ok_eq_map _ _

theorem Answers.persistDecisionRun_ok {record : DecisionRunRecord} {storage' : Storage}
    {decisionRunId : Option Nat}
    (h : answers.statements.persistDecisionRun record storage = .ok (storage', decisionRunId)) :
    storage' = storage := by
  obtain ⟨_, -, h⟩ := bind_eq_ok_iff.mp h
  exact (Prod.mk.inj (Except.ok.inj h)).1.symm

theorem Answers.persistExecutionAttempt_ok {decisionRunId attemptId : Option Nat}
    {attempt : ExecutionAttempt} {request : ExecutionRequest} {storage' : Storage}
    (h : answers.statements.persistExecutionAttempt decisionRunId attempt request storage
      = .ok (storage', attemptId)) :
    storage' = storage.map (· ++ [attemptRow attempt answers]) := by
  obtain ⟨_, -, h⟩ := bind_eq_ok_iff.mp h
  exact (Prod.mk.inj (Except.ok.inj h)).1.symm

theorem buildExecutionRequest_opportunityId {opp : Opportunity} {decision : RiskDecision}
    {request : ExecutionRequest} (h : buildExecutionRequest opp decision = some request) :
    request.opportunityId = opp.id := by
  unfold buildExecutionRequest at h
  split_ifs at h with haccepted
  obtain ⟨steps, -, h⟩ := Option.bind_eq_some_iff.mp h
  obtain rfl := Option.some.inj h
  rfl

theorem requestId_of_prepareExecution {execution : ExecutionConfig} {request : ExecutionRequest}
    {simulation : SimulationResult} {current : Nat} {prepared : PreparedExecution}
    (h : prepareExecution execution request simulation current = .ok prepared) :
    prepared.attempt.requestId = request.opportunityId := by
  obtain ⟨_, _, _, _, -, rfl⟩ := exists_policy_of_prepareExecution h
  rfl

/-- **What handling an output can do to the rows.** -/
theorem Handling.outputStep {handled : Handled Storage}
    (h : Handling answers.statements sha256 config policy answers.toOutside output risk storage
      handled) :
    OutputStep sha256 config policy answers output risk storage handled := by
  cases h with
  | idle hout => exact .idle hout
  | unrecorded hout => exact .withheld hout rfl (.inl rfl) (.inl rfl)
  | decided hout hrun =>
      exact .withheld hout rfl (.inl rfl) (.inl (Answers.persistDecisionRun_ok hrun))
  | @attempted out request prepared current decided persisted decisionRunId attemptId _ hout
      hrequest hcurrent hprepared hrun hattempt hruns =>
      obtain ⟨⟨updates, hcourse, hwrites⟩, hrisk⟩ := hruns
      have hspec := prepareExecution_ok hprepared
      have hstorage : handled.storage
          = storage.map (· ++ [attemptRow prepared.attempt answers]) := by
        rw [hwrites.storage_eq, Answers.persistExecutionAttempt_ok hattempt,
          Answers.persistDecisionRun_ok hrun]
      have hafter := hrisk ▸ riskAfter_count (out.assessed sha256 policy answers.toOutside risk).2
        handled.recorded
      rcases hcourse.handed_cases with hhanded | ⟨hhanded, hallowed⟩
      · exact .withheld hout hhanded hafter (.inr ⟨_, hstorage⟩)
      · obtain ⟨haccepted, -, -, -, -, hamount, -⟩ := buildExecutionRequest_fields hrequest
        have hpolicy := hspec.policy
        rw [hallowed] at hpolicy
        refine .handed hout hhanded haccepted ?_ ?_ hallowed hcurrent hpolicy hafter hstorage
        · rw [requestId_of_prepareExecution hprepared, buildExecutionRequest_opportunityId hrequest]
        · rw [hspec.notional, hamount, Option.getD_some]

end Rows

end BaseEngine
