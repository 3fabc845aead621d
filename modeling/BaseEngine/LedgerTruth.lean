import BaseEngine.LedgerRows

/-!
# What a row says of its attempt

A row repeats in its columns what its JSON documents hold, and its status, times,
documents and last error fit together (`Coherent`). From the columns alone one can
read off whether the attempt was handed to the transport, as what it was handed
over, and what the circuit breaker was told (`handedOver`, `entry`, `told`). When
it was decided or handed over the row does not say: its time is the one at which
the database wrote it.

Every course of an attempt leaves a coherent row (`Course.coherent`), and one that
does not end the engine leaves a row that says what has happened (`Course.tells`).
-/

namespace BaseEngine

open Fallible Text

/-! ## The transitions, inverted -/

theorem markSubmitted_eq_ok {attempt submitted : ExecutionAttempt} {txHash : String}
    (h : markSubmitted attempt txHash = .ok submitted) :
    attempt.status = .built ∧ attempt.submissionAllowed = true ∧ trim txHash ≠ ""
      ∧ submitted = { attempt with status := .submitted, txHash := some txHash } := by
  unfold markSubmitted at h
  split_ifs at h with hstatus hallowed hblank
  exact ⟨not_not.mp hstatus, Bool.eq_true_of_not_eq_false hallowed, hblank,
    (Except.ok.inj h).symm⟩

/-- Without a known surplus a receipt leads to `Included` or `Reverted`. -/
theorem finalizeFromReceipt_eq_ok {attempt : ExecutionAttempt} {receipt : ExecutionReceipt}
    {minSurplus : Nat} {execution : FinalizedExecution} {txHash : String}
    (hhash : attempt.txHash = some txHash)
    (h : finalizeFromReceipt attempt receipt none minSurplus = .ok execution) :
    receipt.txHash = txHash
      ∧ execution.attempt = { attempt with
          status := if receipt.success then .included else .reverted }
      ∧ execution.outcome.finalStatus = (if receipt.success then .included else .reverted)
      ∧ execution.outcome.txHash = receipt.txHash
      ∧ execution.outcome.realizedSurplus = none
      ∧ totalFeePaid receipt = .ok execution.outcome.totalFeePaid := by
  unfold finalizeFromReceipt at h
  rw [hhash] at h
  by_cases hstatus : attempt.status ≠ .submitted ∧ attempt.status ≠ .included
  · rw [if_pos hstatus] at h
    cases h
  · rw [if_neg hstatus] at h
    by_cases hsame : some txHash ≠ none ∧ some txHash ≠ some receipt.txHash
    · rw [if_pos hsame] at h
      cases h
    · rw [if_neg hsame] at h
      obtain ⟨fee, hfee, h⟩ := bind_eq_ok_iff.mp h
      obtain rfl := Except.ok.inj h
      have htx : receipt.txHash = txHash := by
        by_contra hne
        exact hsame ⟨by simp, fun heq => hne (Option.some.inj heq).symm⟩
      cases hsuccess : receipt.success with
      | true =>
          exact ⟨htx, by simp [classifySuccess, htx, hhash], by simp [classifySuccess], rfl, rfl,
            hfee⟩
      | false => exact ⟨htx, by simp [htx, hhash], by simp, rfl, rfl, hfee⟩

theorem markDropped_eq_ok {attempt : ExecutionAttempt} {reason : String}
    {execution : FinalizedExecution} (h : markDropped attempt reason = .ok execution) :
    execution.attempt = { attempt with status := .dropped }
      ∧ execution.outcome.finalStatus = .dropped
      ∧ attempt.txHash = some execution.outcome.txHash
      ∧ execution.outcome.realizedSurplus = none ∧ execution.outcome.totalFeePaid = none := by
  unfold markDropped at h
  split_ifs at h with hstatus hreason
  obtain ⟨txHash, hhash, h⟩ := okOr_bind_eq_ok_iff.mp h
  obtain rfl := Except.ok.inj h
  exact ⟨rfl, rfl, hhash, rfl, rfl⟩

/-! ## Coherent rows -/

theorem ExecutionStatus.text_inj {status status' : ExecutionStatus} :
    status.text = status'.text ↔ status = status' := by
  constructor
  · cases status <;> cases status' <;> decide
  · rintro rfl
    rfl

namespace ExecutionAttemptRow

/-- The row with every column that repeats a document taken from that document. -/
def mirror (row : ExecutionAttemptRow) : ExecutionAttemptRow :=
  { row with
    requestId := row.attemptJson.requestId
    status := row.attemptJson.status.text
    executionMode := row.attemptJson.executionMode
    submissionAllowed := row.attemptJson.submissionAllowed
    blockedReason := row.attemptJson.blockedReason
    requestedNotionalWei := toString row.attemptJson.requestedNotional
    txHash := row.attemptJson.txHash
    inclusionBlockNumber := bigint (row.receiptJson.bind (·.blockNumber))
    gasLimit := bigint row.attemptJson.gasLimit
    gasUsed := bigint (row.receiptJson.bind (·.gasUsed))
    maxFeePerGasWei := row.attemptJson.maxFeePerGas.map toString
    maxPriorityFeePerGasWei := row.attemptJson.maxPriorityFeePerGas.map toString
    effectiveGasPriceWei := (row.receiptJson.bind (·.effectiveGasPrice)).map toString
    l1FeePaidWei := (row.receiptJson.bind (·.l1FeePaid)).map toString
    totalFeePaidWei := (row.outcomeJson.bind (·.totalFeePaid)).map toString
    realizedSurplusWei := (row.outcomeJson.bind (·.realizedSurplus)).map toString
    outcomeReason := row.outcomeJson.bind (·.reason) }

/-- No error, or one of the given stages with its message. -/
def FailedAt (row : ExecutionAttemptRow) (stages : List String) : Prop :=
  row.lastErrorStage = none ∧ row.lastError = none
    ∨ row.submissionAllowed = true ∧ row.lastError.isSome = true
      ∧ ∃ stage ∈ stages, row.lastErrorStage = some stage

/-- Where an attempt stands: its status with the times, documents and errors that
go with it. -/
inductive Stands (row : ExecutionAttemptRow) : Prop
  | built (hstatus : row.attemptJson.status = .built) (hhash : row.attemptJson.txHash = none)
      (htimes : row.submittedAt = none ∧ row.finalizedAt = none)
      (hdocuments : row.receiptJson = none ∧ row.outcomeJson = none)
      (herror : row.FailedAt ["ethcall_simulate", "build", "submit", "submit_timeout"])
  | submitted {txHash : String} (hstatus : row.attemptJson.status = .submitted)
      (hallowed : row.submissionAllowed = true) (hhash : row.attemptJson.txHash = some txHash)
      (hblank : trim txHash ≠ "")
      (htimes : row.submittedAt.isSome = true ∧ row.finalizedAt = none)
      (hdocuments : row.receiptJson = none ∧ row.outcomeJson = none)
      (herror : row.FailedAt ["receipt_wait"])
  | settled {receipt : ExecutionReceipt} {outcome : ExecutionOutcome}
      (hstatus : row.attemptJson.status = if receipt.success then .included else .reverted)
      (hallowed : row.submissionAllowed = true)
      (hhash : row.attemptJson.txHash = some receipt.txHash) (hblank : trim receipt.txHash ≠ "")
      (htimes : row.submittedAt.isSome = true ∧ row.finalizedAt.isSome = true)
      (hdocuments : row.receiptJson = some receipt ∧ row.outcomeJson = some outcome)
      (hfinal : outcome.finalStatus = row.attemptJson.status ∧ outcome.txHash = receipt.txHash)
      (hfee : totalFeePaid receipt = .ok outcome.totalFeePaid)
      (hsurplus : outcome.realizedSurplus = none) (herror : row.FailedAt [])
  | dropped {outcome : ExecutionOutcome} (hstatus : row.attemptJson.status = .dropped)
      (hallowed : row.submissionAllowed = true)
      (hhash : row.attemptJson.txHash = some outcome.txHash) (hblank : trim outcome.txHash ≠ "")
      (htimes : row.submittedAt.isSome = true ∧ row.finalizedAt.isSome = true)
      (hdocuments : row.receiptJson = none ∧ row.outcomeJson = some outcome)
      (hfinal : outcome.finalStatus = .dropped)
      (hfee : outcome.totalFeePaid = none) (hsurplus : outcome.realizedSurplus = none)
      (herror : row.FailedAt [])

structure Coherent (row : ExecutionAttemptRow) : Prop where
  mirror : row.mirror = row
  stands : row.Stands

/-! ### Reading a row -/

/-- The stages at which the attempt had been handed to the transport. -/
def handedStages : List String := ["submit", "submit_timeout"]

/-- The stages that the breaker counts. -/
def countedStages : List String := ["ethcall_simulate", "submit", "submit_timeout"]

def handedOver (row : ExecutionAttemptRow) : Bool :=
  decide (row.status ≠ ExecutionStatus.built.text
    ∨ ∃ stage ∈ handedStages, row.lastErrorStage = some stage)

/-- The time at which the database wrote the row, and the attempt as it was
built. -/
def entry (row : ExecutionAttemptRow) : Nat × ExecutionAttempt :=
  (row.observedAt, { row.attemptJson with status := .built, txHash := none })

/-- What the breaker was told. -/
def told (row : ExecutionAttemptRow) : Option Bool :=
  if row.status = ExecutionStatus.included.text then some true
  else if row.status = ExecutionStatus.reverted.text
      ∨ row.status = ExecutionStatus.dropped.text then some false
  else if ∃ stage ∈ countedStages, row.lastErrorStage = some stage then some false
  else none

theorem handedOver_of_status {row : ExecutionAttemptRow} {status : ExecutionStatus}
    (hstatus : row.status = status.text) (hmoved : status ≠ .built) : row.handedOver = true := by
  unfold handedOver
  rw [hstatus, decide_eq_true_eq]
  exact .inl fun h => hmoved (ExecutionStatus.text_inj.mp h)

/-- An attempt that has only been built is told apart by its error. -/
theorem handedOver_of_built {row : ExecutionAttemptRow}
    (hstatus : row.status = ExecutionStatus.built.text) :
    row.handedOver = decide (∃ stage ∈ handedStages, row.lastErrorStage = some stage) := by
  unfold handedOver
  rw [hstatus]
  simp

theorem told_of_status {row : ExecutionAttemptRow} {status : ExecutionStatus}
    (hstatus : row.status = status.text) :
    row.told = if status = .included then some true
      else if status = .reverted ∨ status = .dropped then some false
      else if ∃ stage ∈ countedStages, row.lastErrorStage = some stage then some false
      else none := by
  unfold told
  rw [hstatus]
  simp only [ExecutionStatus.text_inj]

/-- What no update changes of a row. -/
theorem identity_after (replies : Ledger.Replies) (row : ExecutionAttemptRow)
    (updates : List AttemptUpdate) :
    (row.after replies updates).decisionRunId = row.decisionRunId
      ∧ (row.after replies updates).requestId = row.requestId
      ∧ (row.after replies updates).executionRequestJson = row.executionRequestJson := by
  induction updates generalizing row with
  | nil => exact ⟨rfl, rfl, rfl⟩
  | cons update updates ih =>
      obtain ⟨hrun, hid, hrequest⟩ := ih (row.updated replies update)
      cases update with
      | _ => exact ⟨hrun, hid, hrequest⟩

end ExecutionAttemptRow

/-- The time at which the row of an attempt was written, and the attempt that was
handed over. -/
def Handover.entry (handover : Handover) : Nat × ExecutionAttempt :=
  (handover.insertedAt, handover.attempt)

/-- What preparation has made of an attempt. -/
structure ExecutionAttempt.Fresh (built : ExecutionAttempt) : Prop where
  status : built.status = .built
  txHash : built.txHash = none

namespace Course

variable {request : ExecutionRequest} {built : ExecutionAttempt} {now : Nat}
  {decisionRunId : Option Nat} {updates : List AttemptUpdate} {row : ExecutionAttemptRow}
  {handed : List ExecutionAttempt} {told : Option Bool} {result : Except ErrorChain Unit}
  {replies : Ledger.Replies}

/-- Every course leaves a coherent row, the interrupted ones too. -/
theorem coherent (hfresh : built.Fresh) (h : Course request built updates handed told result) :
    ((ExecutionAttemptRow.inserted now decisionRunId built request).after replies
      updates).Coherent := by
  have hnoError : ∀ {row : ExecutionAttemptRow} (stages : List String), row.lastErrorStage = none →
      row.lastError = none → row.FailedAt stages := fun _ hstage herror => .inl ⟨hstage, herror⟩
  cases h with
  | blocked hallowed =>
      exact ⟨rfl, .built hfresh.status hfresh.txHash ⟨rfl, rfl⟩ ⟨rfl, rfl⟩ (hnoError _ rfl rfl)⟩
  | interrupted _ _ =>
      exact ⟨rfl, .built hfresh.status hfresh.txHash ⟨rfl, rfl⟩ ⟨rfl, rfl⟩ (hnoError _ rfl rfl)⟩
  | failed hallowed hstage =>
      refine ⟨rfl, .built hfresh.status hfresh.txHash ⟨rfl, rfl⟩ ⟨rfl, rfl⟩ ?_⟩
      refine .inr ⟨hallowed, rfl, _, ?_, rfl⟩
      cases hstage with
      | simulated => decide
      | unbuilt => decide
      | refused => decide
      | timedOut => decide
  | lost hsubmitted =>
      obtain ⟨-, hallowed, hblank, rfl⟩ := markSubmitted_eq_ok hsubmitted
      exact ⟨rfl, .submitted rfl hallowed rfl hblank ⟨rfl, rfl⟩ ⟨rfl, rfl⟩ (hnoError _ rfl rfl)⟩
  | pending hsubmitted =>
      obtain ⟨-, hallowed, hblank, rfl⟩ := markSubmitted_eq_ok hsubmitted
      refine ⟨rfl, .submitted rfl hallowed rfl hblank ⟨rfl, rfl⟩ ⟨rfl, rfl⟩ ?_⟩
      exact .inr ⟨hallowed, rfl, _, List.mem_singleton_self _, rfl⟩
  | @finalized submitted txHash receipt execution hsubmitted hfinal =>
      obtain ⟨-, hallowed, hblank, rfl⟩ := markSubmitted_eq_ok hsubmitted
      obtain ⟨htx, hattempt, hstatus, hhash, hsurplus, hfee⟩ := finalizeFromReceipt_eq_ok rfl hfinal
      refine ⟨?_, .settled (congrArg ExecutionAttempt.status hattempt) hallowed ?_ ?_ ⟨rfl, rfl⟩
        ⟨rfl, rfl⟩ ⟨?_, hhash⟩ hfee hsurplus (hnoError _ rfl rfl)⟩
      · show ExecutionAttemptRow.mirror (ExecutionAttemptRow.finalized _ _ _ _ _)
          = ExecutionAttemptRow.finalized _ _ _ _ _
        unfold ExecutionAttemptRow.mirror ExecutionAttemptRow.finalized
        rw [hattempt]
        rfl
      · rw [htx]
        exact congrArg ExecutionAttempt.txHash hattempt
      · rw [htx]
        exact hblank
      · rw [hstatus]
        exact (congrArg ExecutionAttempt.status hattempt).symm
  | @dropped submitted txHash execution hsubmitted hfinal =>
      obtain ⟨-, hallowed, hblank, rfl⟩ := markSubmitted_eq_ok hsubmitted
      obtain ⟨hattempt, hstatus, hhash, hsurplus, hfee⟩ := markDropped_eq_ok hfinal
      refine ⟨?_, .dropped (congrArg ExecutionAttempt.status hattempt) hallowed ?_ ?_ ⟨rfl, rfl⟩
        ⟨rfl, rfl⟩ hstatus hfee hsurplus (hnoError _ rfl rfl)⟩
      · show ExecutionAttemptRow.mirror (ExecutionAttemptRow.finalizedWithoutReceipt _ _ _ _)
          = ExecutionAttemptRow.finalizedWithoutReceipt _ _ _ _
        unfold ExecutionAttemptRow.mirror ExecutionAttemptRow.finalizedWithoutReceipt
        rw [hattempt]
        rfl
      · exact (congrArg ExecutionAttempt.txHash hattempt).trans hhash
      · rw [← Option.some.inj hhash]
        exact hblank

/-- A course that ends the engine has handed over the attempt of the row or
none. -/
theorem pends (hfresh : built.Fresh) {e : ErrorChain}
    (h : Course request built updates handed told (.error e)) :
    handed.map (fun attempt => (now, attempt)) = []
      ∨ handed.map (fun attempt => (now, attempt))
        = [((ExecutionAttemptRow.inserted now decisionRunId built request).after replies
            updates).entry] := by
  have hentry : (now, { built with status := .built, txHash := none }) = (now, built) := by
    rw [← hfresh.status, ← hfresh.txHash]
  cases h with
  | interrupted _ hhanded =>
      rcases hhanded with rfl | rfl
      · exact .inl rfl
      · exact .inr (congrArg (fun entry => [entry]) hentry.symm)
  | lost hsubmitted =>
      obtain ⟨-, -, -, rfl⟩ := markSubmitted_eq_ok hsubmitted
      exact .inr (congrArg (fun entry => [entry]) hentry.symm)

/-- What was handed over, when the row says so. -/
theorem handed_eq (hover : row.handedOver = true) (hentry : row.entry = (now, built)) :
    [built].map (fun attempt => (now, attempt))
      = ([row].filter ExecutionAttemptRow.handedOver).map ExecutionAttemptRow.entry := by
  rw [List.filter_cons_of_pos hover, List.filter_nil, List.map_singleton, List.map_singleton,
    hentry]

theorem kept_eq (hkept : row.handedOver = false) :
    ([] : List ExecutionAttempt).map (fun attempt => (now, attempt))
      = ([row].filter ExecutionAttemptRow.handedOver).map ExecutionAttemptRow.entry := by
  rw [List.filter_cons_of_neg (by simp [hkept]), List.filter_nil]
  rfl

/-- An attempt that has a transaction was handed over as it was built. -/
theorem handed_of_moved (hfresh : built.Fresh) (status : ExecutionStatus)
    {txHash : Option String} (hattempt : row.attemptJson = { built with status, txHash })
    (hstatus : row.status = status.text) (hnow : row.observedAt = now) (hmoved : status ≠ .built) :
    [built].map (fun attempt => (now, attempt))
      = ([row].filter ExecutionAttemptRow.handedOver).map ExecutionAttemptRow.entry := by
  refine handed_eq (ExecutionAttemptRow.handedOver_of_status hstatus hmoved) ?_
  unfold ExecutionAttemptRow.entry
  rw [hattempt, hnow, ← hfresh.status, ← hfresh.txHash]

/-- A course that does not end the engine leaves a row that says what was handed
over and what the breaker was told. -/
theorem tells (hfresh : built.Fresh) (h : Course request built updates handed told (.ok ()))
    (hrow : row = (ExecutionAttemptRow.inserted now decisionRunId built request).after replies
      updates) :
    row.told = told
      ∧ handed.map (fun attempt => (now, attempt))
        = ([row].filter ExecutionAttemptRow.handedOver).map ExecutionAttemptRow.entry := by
  subst hrow
  have hstatus : built.status.text = ExecutionStatus.built.text := by rw [hfresh.status]
  have hentry : (now, { built with status := .built, txHash := none }) = (now, built) := by
    rw [← hfresh.status, ← hfresh.txHash]
  cases h with
  | blocked hallowed =>
      rw [ExecutionAttemptRow.told_of_status hstatus]
      exact ⟨rfl, kept_eq (ExecutionAttemptRow.handedOver_of_built hstatus)⟩
  | failed hallowed hstage =>
      rw [ExecutionAttemptRow.told_of_status hstatus]
      cases hstage with
      | simulated => exact ⟨rfl, kept_eq (ExecutionAttemptRow.handedOver_of_built hstatus)⟩
      | unbuilt => exact ⟨rfl, kept_eq (ExecutionAttemptRow.handedOver_of_built hstatus)⟩
      | refused =>
          exact ⟨rfl, handed_eq (ExecutionAttemptRow.handedOver_of_built hstatus) hentry⟩
      | timedOut =>
          exact ⟨rfl, handed_eq (ExecutionAttemptRow.handedOver_of_built hstatus) hentry⟩
  | pending hsubmitted =>
      obtain ⟨-, -, -, rfl⟩ := markSubmitted_eq_ok hsubmitted
      refine ⟨?_, handed_of_moved hfresh .submitted rfl rfl rfl (by decide)⟩
      exact @ExecutionAttemptRow.told_of_status _ .submitted rfl
  | @finalized submitted txHash receipt execution hsubmitted hfinal =>
      obtain ⟨-, -, -, rfl⟩ := markSubmitted_eq_ok hsubmitted
      obtain ⟨-, hattempt, hfinalStatus, -⟩ := finalizeFromReceipt_eq_ok rfl hfinal
      cases hsuccess : receipt.success with
      | true =>
          rw [hsuccess] at hattempt hfinalStatus
          have hrow : execution.attempt.status.text = ExecutionStatus.included.text := by
            rw [hattempt]
            rfl
          refine ⟨?_, handed_of_moved hfresh .included hattempt hrow rfl (by decide)⟩
          rw [ExecutionAttemptRow.told_of_status hrow, hfinalStatus]
          rfl
      | false =>
          rw [hsuccess] at hattempt hfinalStatus
          have hrow : execution.attempt.status.text = ExecutionStatus.reverted.text := by
            rw [hattempt]
            rfl
          refine ⟨?_, handed_of_moved hfresh .reverted hattempt hrow rfl (by decide)⟩
          rw [ExecutionAttemptRow.told_of_status hrow, hfinalStatus]
          rfl
  | @dropped submitted txHash execution hsubmitted hfinal =>
      obtain ⟨-, -, -, rfl⟩ := markSubmitted_eq_ok hsubmitted
      obtain ⟨hattempt, -⟩ := markDropped_eq_ok hfinal
      have hrow : execution.attempt.status.text = ExecutionStatus.dropped.text := by
        rw [hattempt]
      refine ⟨?_, handed_of_moved hfresh .dropped hattempt hrow rfl (by decide)⟩
      rw [ExecutionAttemptRow.told_of_status hrow]
      rfl

end Course

end BaseEngine
