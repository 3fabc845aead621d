import BaseEngine.AttemptDriver
import BaseEngine.Lifecycle

/-!
# The two drivers of an attempt

The life of an attempt is driven twice in the source:
`execute_with_transport` of `crates/execution/src/lib.rs` returns its first
error, `drive_execution_attempt` of `crates/app/src/main.rs` records errors
and goes on (`BaseEngine.AttemptDriver`).

`drivers_agree`: where the first driver succeeds the second ends with the
same attempt and outcome; where it fails before there is a transaction, the
second leaves the attempt as it was built and reports a failure.
-/

namespace BaseEngine

open Fallible

/-! ## The driver of the library -/

inductive ExecutionRunResult where
  | blocked (attempt : ExecutionAttempt)
  | submittedPending (attempt : ExecutionAttempt)
  | finalized (finalized : FinalizedExecution)
deriving Repr, DecidableEq

namespace ExecutionRunResult

def attempt : ExecutionRunResult → ExecutionAttempt
  | .blocked attempt => attempt
  | .submittedPending attempt => attempt
  | .finalized execution => execution.attempt

def outcome : ExecutionRunResult → Option ExecutionOutcome
  | .finalized execution => some execution.outcome
  | _ => none

end ExecutionRunResult

/-- The answer of a submission with its time limit. -/
def submitted (answer : Option (Except ErrorChain String)) : Except ErrorChain String :=
  match answer with
  | some result => result
  | none => .error ["timed out while submitting execution attempt", deadlineElapsed]

variable (codec : AlloyCodec) (transport : ExecutionTransport) (config : ExecutionConfig)
  (request : ExecutionRequest)

/-- What follows the submission: a receipt that cannot be looked up leaves
the transaction pending, one that does not come is a dropped transaction. -/
def awaitSubmitted (attempt : ExecutionAttempt) : Except ErrorChain ExecutionRunResult :=
  match transport.awaitReceipt request attempt config.receiptTimeoutSecs with
  | .error _ => .ok (.submittedPending attempt)
  | .ok none => do
      let dropped ← markDropped attempt receiptTimedOut
      return .finalized dropped
  | .ok (some receipt) => do
      let finalized ← finalizeFromReceipt attempt receipt none request.minSurplus
      return .finalized finalized

def executeWithTransport (simulation : SimulationResult) (currentDailyRequestedWei : Nat)
    (clock : Except ErrorChain Nat) : Except ErrorChain ExecutionRunResult := do
  let prepared ← prepareExecution config request simulation currentDailyRequestedWei
  if prepared.shouldSubmit = false then return .blocked prepared.attempt
  else
    let payload ← buildSubmissionPayload codec config request clock
    let txHash ← submitted (transport.submit config.submitTimeoutSecs payload prepared.attempt)
    let attempt ← markSubmitted prepared.attempt txHash
    awaitSubmitted transport config request attempt

/-! ## The driver of the application -/

/-- A database that gives a fixed answer to `mark_execution_submitted` and one to
the other updates of an attempt. -/
def scripted (updateAttempt recordResult : Except ErrorChain Unit) : Statements Unit where
  todaysSubmittableNotionalWei _ := .ok 0
  persistDecisionRun _ _ := .ok ((), none)
  persistExecutionAttempt _ _ _ _ := .ok ((), some 0)
  updateAttempt _ update _ :=
    match update with
    | .submitted _ => updateAttempt
    | _ => recordResult

/-- The path of the application: prepare, and drive what may be submitted. -/
def appPath (simulation : SimulationResult) (currentDailyRequestedWei : Nat)
    (clock : Except ErrorChain Nat) (updateAttempt recordResult : Except ErrorChain Unit) :
    Except ErrorChain (DriveReport Unit) := do
  let prepared ← prepareExecution config request simulation currentDailyRequestedWei
  if prepared.shouldSubmit = true then
    return driveExecutionAttempt (scripted updateAttempt recordResult) codec transport config
      request (some 0) prepared.attempt clock ()
  else
    return { storage := (), attempt := prepared.attempt, outcome := none, failure := none,
             recorded := none, handed := [], result := .ok () }

variable {codec transport config request}

/-! ## Agreement -/

variable {clock : Except ErrorChain Nat} {sql : Statements Unit}

/-- What the drivers make of a receipt, or of none. -/
theorem settleSubmitted_agrees {builtAttempt attempt : ExecutionAttempt}
    {result : ExecutionRunResult}
    (h : awaitSubmitted transport config request attempt = .ok result) (attemptId : Option Nat) :
    let report := settleSubmitted sql transport config request attemptId builtAttempt attempt ()
    report.attempt = result.attempt ∧ report.outcome = result.outcome := by
  unfold awaitSubmitted at h
  unfold settleSubmitted
  dsimp only
  cases hreceipt : transport.awaitReceipt request attempt config.receiptTimeoutSecs with
  | error e =>
      rw [hreceipt] at h
      obtain rfl := Except.ok.inj h
      exact ⟨rfl, rfl⟩
  | ok answer =>
      rw [hreceipt] at h
      cases answer with
      | none =>
          obtain ⟨dropped, hdropped, h⟩ := bind_eq_ok_iff.mp h
          obtain rfl := Except.ok.inj h
          simp only [withContext, hdropped]
          exact ⟨rfl, rfl⟩
      | some receipt =>
          obtain ⟨finalized, hfinalized, h⟩ := bind_eq_ok_iff.mp h
          obtain rfl := Except.ok.inj h
          simp only [withContext, hfinalized]
          exact ⟨rfl, rfl⟩

/-- Up to the submission the drivers do the same. -/
theorem driveExecutionAttempt_agrees {builtAttempt : ExecutionAttempt} {result : ExecutionRunResult}
    {recordResult : Except ErrorChain Unit}
    (h : (do
      let payload ← buildSubmissionPayload codec config request clock
      let txHash ← submitted (transport.submit config.submitTimeoutSecs payload builtAttempt)
      let attempt ← markSubmitted builtAttempt txHash
      awaitSubmitted transport config request attempt) = Except.ok result) :
    let report := driveExecutionAttempt (scripted (.ok ()) recordResult) codec transport config
      request (some 0) builtAttempt clock ()
    report.attempt = result.attempt ∧ report.outcome = result.outcome := by
  obtain ⟨payload, hbuild, h⟩ := bind_eq_ok_iff.mp h
  obtain ⟨txHash, hsubmit, h⟩ := bind_eq_ok_iff.mp h
  obtain ⟨attempt, hmark, h⟩ := bind_eq_ok_iff.mp h
  have hanswer : transport.submit config.submitTimeoutSecs payload builtAttempt
      = some (.ok txHash) := by
    unfold submitted at hsubmit
    split at hsubmit
    · next hsome => rw [hsome, hsubmit]
    · cases hsubmit
  unfold driveExecutionAttempt followSubmitted
  simp only [hbuild, hanswer, hmark, withContext]
  exact settleSubmitted_agrees h (some 0)

/-- A failure before the submission is reported, and the attempt stays. -/
theorem driveExecutionAttempt_unsubmitted {builtAttempt : ExecutionAttempt} {e : ErrorChain}
    (h : buildSubmissionPayload codec config request clock = .error e
      ∨ ∃ payload, buildSubmissionPayload codec config request clock = .ok payload
        ∧ submitted (transport.submit config.submitTimeoutSecs payload builtAttempt) = .error e) :
    let report := driveExecutionAttempt sql codec transport config request (some 0) builtAttempt
      clock ()
    report.attempt = builtAttempt ∧ report.outcome = none ∧ report.failure.isSome = true := by
  unfold driveExecutionAttempt
  rcases h with hbuild | ⟨payload, hbuild, hsubmit⟩
  · simp only [hbuild]
    exact ⟨rfl, rfl, rfl⟩
  · simp only [hbuild]
    unfold submitted at hsubmit
    cases hanswer : transport.submit config.submitTimeoutSecs payload builtAttempt with
    | none => exact ⟨rfl, rfl, rfl⟩
    | some answer =>
        rw [hanswer] at hsubmit
        obtain rfl : answer = .error e := hsubmit
        exact ⟨rfl, rfl, rfl⟩

/-- **The two drivers agree.** What the library's driver returns is the
attempt, and the outcome if there is one, that the application's path ends
with. Where the library's driver fails to build the payload or to submit it,
the application's path leaves the attempt built, with a failure reported. -/
theorem drivers_agree (codec : AlloyCodec) (transport : ExecutionTransport)
    (config : ExecutionConfig) (request : ExecutionRequest) (simulation : SimulationResult)
    (currentDailyRequestedWei : Nat) (clock : Except ErrorChain Nat)
    (recordResult : Except ErrorChain Unit) :
    (∀ result, executeWithTransport codec transport config request simulation
          currentDailyRequestedWei clock = .ok result →
        ∃ report, appPath codec transport config request simulation currentDailyRequestedWei clock
            (.ok ()) recordResult = .ok report
          ∧ report.attempt = result.attempt ∧ report.outcome = result.outcome)
      ∧ ∀ prepared e, prepareExecution config request simulation currentDailyRequestedWei
            = .ok prepared → prepared.shouldSubmit = true →
          (buildSubmissionPayload codec config request clock = .error e
            ∨ ∃ payload, buildSubmissionPayload codec config request clock = .ok payload
              ∧ submitted (transport.submit config.submitTimeoutSecs payload prepared.attempt)
                = .error e) →
          executeWithTransport codec transport config request simulation currentDailyRequestedWei
              clock = .error e
            ∧ ∃ report, appPath codec transport config request simulation currentDailyRequestedWei
                clock (.ok ()) recordResult = .ok report
              ∧ report.attempt = prepared.attempt ∧ report.attempt.status = .built
              ∧ report.outcome = none ∧ report.failure.isSome = true := by
  constructor
  · intro result h
    obtain ⟨prepared, hprepared, h⟩ := bind_eq_ok_iff.mp h
    unfold appPath
    rw [hprepared, ok_bind]
    by_cases hsubmit : prepared.shouldSubmit = true
    · rw [if_neg (by simp [hsubmit])] at h
      rw [if_pos hsubmit]
      exact ⟨_, rfl, driveExecutionAttempt_agrees h⟩
    · rw [if_pos (by simpa using hsubmit)] at h
      obtain rfl := Except.ok.inj h
      rw [if_neg hsubmit]
      exact ⟨_, rfl, rfl, rfl⟩
  · intro prepared e hprepared hsubmit hfails
    obtain ⟨hattempt, houtcome, hfailure⟩ := driveExecutionAttempt_unsubmitted hfails
    refine ⟨?_, _, ?_, hattempt, ?_, houtcome, hfailure⟩
    · unfold executeWithTransport
      rw [hprepared, ok_bind, if_neg (by simp [hsubmit])]
      rcases hfails with hbuild | ⟨payload, hbuild, hanswer⟩
      · rw [hbuild, error_bind]
      · rw [hbuild, ok_bind, hanswer, error_bind]
    · unfold appPath
      rw [hprepared, ok_bind, if_pos hsubmit]
      rfl
    · rw [hattempt]
      exact (prepareExecution_ok hprepared).built

/-- The payload does not depend on the mode. -/
theorem buildSubmissionPayload_mode (codec : AlloyCodec) (config : ExecutionConfig)
    (mode : ExecutionMode) (request : ExecutionRequest) (nowSecs : Nat) :
    buildSubmissionPayload codec { config with mode } request (.ok nowSecs)
      = buildSubmissionPayloadAt codec config request nowSecs := rfl

/-- A transport with a fixed answer to a submission; the receipt comes. -/
def answering (answer : Option (Except ErrorChain String)) : ExecutionTransport :=
  { submit := fun _ _ _ => answer, awaitReceipt := fun _ _ _ => .ok (some sampleReceipt) }

/-- The sample request in live mode: included when it is submitted, still
built when the submission does not answer in time. -/
theorem sampleRequest_drivers_agree :
    (∃ result report,
        executeWithTransport sampleCodec (answering (some (.ok "0xtx")))
            { sampleExecution with mode := .live } sampleRequest sampleSimulation 0 (.ok 1700000000)
          = .ok result
        ∧ appPath sampleCodec (answering (some (.ok "0xtx"))) { sampleExecution with mode := .live }
            sampleRequest sampleSimulation 0 (.ok 1700000000) (.ok ()) (.ok ()) = .ok report
        ∧ report.attempt = result.attempt ∧ report.outcome = result.outcome
        ∧ result.attempt.status = .included)
      ∧ ∃ report,
        appPath sampleCodec (answering none) { sampleExecution with mode := .live } sampleRequest
            sampleSimulation 0 (.ok 1700000000) (.ok ()) (.ok ()) = .ok report
        ∧ report.attempt = sampleBuilt ∧ report.failure.isSome = true := by
  have hprepared : prepareExecution { sampleExecution with mode := .live } sampleRequest
      sampleSimulation 0 = .ok { attempt := sampleBuilt, shouldSubmit := true } := by decide
  have hbuild : buildSubmissionPayload sampleCodec { sampleExecution with mode := .live }
      sampleRequest (.ok 1700000000) = .ok samplePayload :=
    (buildSubmissionPayload_mode sampleCodec sampleExecution .live sampleRequest
      1700000000).trans samplePayload_built
  constructor
  · obtain ⟨result, hresult, hincluded⟩ : ∃ result,
        executeWithTransport sampleCodec (answering (some (.ok "0xtx")))
            { sampleExecution with mode := .live } sampleRequest sampleSimulation 0
            (.ok 1700000000) = .ok result
          ∧ result.attempt.status = .included := by
      unfold executeWithTransport
      rw [hprepared, ok_bind, if_neg (by decide), hbuild, ok_bind]
      exact ⟨_, rfl, rfl⟩
    obtain ⟨report, hreport, hattempt, houtcome⟩ :=
      (drivers_agree sampleCodec (answering (some (.ok "0xtx")))
        { sampleExecution with mode := .live } sampleRequest sampleSimulation 0 (.ok 1700000000)
        (.ok ())).1 result hresult
    exact ⟨result, report, hresult, hreport, hattempt, houtcome, hincluded⟩
  · obtain ⟨-, report, hreport, hattempt, -, -, hfailure⟩ :=
      (drivers_agree sampleCodec (answering none) { sampleExecution with mode := .live }
        sampleRequest sampleSimulation 0 (.ok 1700000000) (.ok ())).2 _ _ hprepared rfl
        (Or.inr ⟨samplePayload, hbuild, rfl⟩)
    exact ⟨report, hreport, hattempt, hfailure⟩

end BaseEngine
