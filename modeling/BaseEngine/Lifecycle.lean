import Mathlib.Logic.Relation
import BaseEngine.EndToEnd
import BaseEngine.Execution

/-!
# Whole lives of an attempt

The transitions of `crates/execution/src/lib.rs` in any order, each with any
hash, receipt, surplus or reason, from an attempt that `prepare_execution`
has built. A transition that is refused leaves the attempt as it was.

`apply_cases` says once what a transition can do. An attempt has a
transaction hash exactly when it has left `Built`, and the hash then stays
(`Life`); this is the invariant that every transition keeps, the repeated
finalisation of an included attempt too.
-/

namespace BaseEngine

open Fallible Text

inductive LifecycleOp where
  | markSubmitted (txHash : String)
  | finalizeFromReceipt (receipt : ExecutionReceipt) (realizedSurplus : Option Nat)
      (minSurplus : Nat)
  | markDropped (reason : String)
deriving Repr, DecidableEq

namespace LifecycleOp

/-- The attempt after the transition, with the outcome it produces. -/
def apply (attempt : ExecutionAttempt) :
    LifecycleOp → Except ErrorChain (ExecutionAttempt × Option ExecutionOutcome)
  | .markSubmitted txHash => do
      let submitted ← BaseEngine.markSubmitted attempt txHash
      return (submitted, none)
  | .finalizeFromReceipt receipt realizedSurplus minSurplus => do
      let finalized ← BaseEngine.finalizeFromReceipt attempt receipt realizedSurplus minSurplus
      return (finalized.attempt, some finalized.outcome)
  | .markDropped reason => do
      let finalized ← BaseEngine.markDropped attempt reason
      return (finalized.attempt, some finalized.outcome)

/-- What a transition can do, with everything it has checked. -/
inductive Applied (attempt : ExecutionAttempt) :
    LifecycleOp → ExecutionAttempt × Option ExecutionOutcome → Prop
  | submitted {txHash : String} (hstatus : attempt.status = .built)
      (hallowed : attempt.submissionAllowed = true) (hhash : trim txHash ≠ "") :
      Applied attempt (.markSubmitted txHash)
        ({ attempt with status := .submitted, txHash := some txHash }, none)
  | finalized {receipt : ExecutionReceipt} {realizedSurplus : Option Nat} {minSurplus : Nat}
      {final : ExecutionStatus} {outcome : ExecutionOutcome}
      (hstatus : attempt.status = .submitted ∨ attempt.status = .included)
      (hhash : attempt.txHash = none ∨ attempt.txHash = some receipt.txHash)
      (hfinal : final = if receipt.success then
        (classifySuccess realizedSurplus minSurplus).1 else .reverted)
      (houtcome : outcome.finalStatus = final ∧ outcome.txHash = receipt.txHash) :
      Applied attempt (.finalizeFromReceipt receipt realizedSurplus minSurplus)
        ({ attempt with txHash := some receipt.txHash, status := final }, some outcome)
  | dropped {reason : String} {outcome : ExecutionOutcome} (hstatus : attempt.status = .submitted)
      (hhash : attempt.txHash = some outcome.txHash) (hfinal : outcome.finalStatus = .dropped) :
      Applied attempt (.markDropped reason) ({ attempt with status := .dropped }, some outcome)

theorem apply_cases {attempt : ExecutionAttempt} {op : LifecycleOp}
    {result : ExecutionAttempt × Option ExecutionOutcome} (h : op.apply attempt = .ok result) :
    Applied attempt op result := by
  cases op with
  | markSubmitted txHash =>
      obtain ⟨submitted, hsubmitted, h⟩ := bind_eq_ok_iff.mp h
      obtain rfl := Except.ok.inj h
      unfold BaseEngine.markSubmitted at hsubmitted
      split_ifs at hsubmitted with hstatus hallowed hhash
      obtain rfl := Except.ok.inj hsubmitted
      exact .submitted (not_not.mp hstatus) (by simpa using hallowed) hhash
  | finalizeFromReceipt receipt realizedSurplus minSurplus =>
      obtain ⟨finalized, hfinalized, h⟩ := bind_eq_ok_iff.mp h
      obtain rfl := Except.ok.inj h
      unfold BaseEngine.finalizeFromReceipt at hfinalized
      by_cases hstatus : attempt.status ≠ .submitted ∧ attempt.status ≠ .included
      · rw [if_pos hstatus] at hfinalized
        cases hfinalized
      · rw [if_neg hstatus] at hfinalized
        by_cases hhash : attempt.txHash ≠ none ∧ attempt.txHash ≠ some receipt.txHash
        · rw [if_pos hhash] at hfinalized
          cases hfinalized
        · rw [if_neg hhash] at hfinalized
          obtain ⟨totalFeePaid, -, hfinalized⟩ := bind_eq_ok_iff.mp hfinalized
          obtain rfl := Except.ok.inj hfinalized
          have hstatus' : attempt.status = .submitted ∨ attempt.status = .included := by tauto
          have hhash' : attempt.txHash = none ∨ attempt.txHash = some receipt.txHash := by tauto
          refine .finalized hstatus' hhash' ?_ ⟨rfl, rfl⟩
          split <;> rfl
  | markDropped reason =>
      obtain ⟨finalized, hfinalized, h⟩ := bind_eq_ok_iff.mp h
      obtain rfl := Except.ok.inj h
      unfold BaseEngine.markDropped at hfinalized
      split_ifs at hfinalized with hstatus hreason
      obtain ⟨txHash, hhash, hfinalized⟩ := okOr_bind_eq_ok_iff.mp hfinalized
      obtain rfl := Except.ok.inj hfinalized
      exact .dropped (not_not.mp hstatus) hhash rfl

/-- A profit is realised only by a receipt of success and a surplus that is
known and large enough. -/
theorem classifySuccess_profitRealized {realizedSurplus : Option Nat} {minSurplus : Nat}
    (h : (classifySuccess realizedSurplus minSurplus).1 = .profitRealized) :
    ∃ surplus, realizedSurplus = some surplus ∧ minSurplus ≤ surplus := by
  unfold classifySuccess at h
  cases realizedSurplus with
  | none => cases h
  | some surplus =>
      dsimp only at h
      split_ifs at h with hle
      exact ⟨surplus, rfl, hle⟩

end LifecycleOp

/-- One transition that is not refused. -/
def Moves (attempt next : ExecutionAttempt) : Prop :=
  ∃ op outcome, LifecycleOp.apply attempt op = .ok (next, outcome)

/-- What an attempt that was built as `start` looks like later in its life. -/
structure Life (start attempt : ExecutionAttempt) : Prop where
  request : attempt = { start with status := attempt.status, txHash := attempt.txHash }
  built : attempt.txHash = none ↔ attempt.status = .built
  allowed : attempt.status ≠ .built → attempt.submissionAllowed = true
  nonblank : ∀ txHash, attempt.txHash = some txHash → trim txHash ≠ ""

namespace Life

variable {start attempt next : ExecutionAttempt} {outcome : Option ExecutionOutcome}

/-- The hash of an attempt that has left `Built`. -/
theorem exists_txHash (h : Life start attempt) (hstatus : attempt.status ≠ .built) :
    ∃ txHash, attempt.txHash = some txHash ∧ trim txHash ≠ "" := by
  cases hhash : attempt.txHash with
  | none => exact absurd (h.built.mp hhash) hstatus
  | some txHash => exact ⟨txHash, rfl, h.nonblank txHash hhash⟩

/-- A receipt never takes an attempt back to `Built`. -/
theorem final_ne_built {receipt : ExecutionReceipt} {realizedSurplus : Option Nat}
    {minSurplus : Nat} :
    (if receipt.success then (classifySuccess realizedSurplus minSurplus).1
      else ExecutionStatus.reverted) ≠ .built := by
  unfold classifySuccess
  split
  · split
    · split <;> simp
    · simp
  · simp

theorem step {op : LifecycleOp} (h : Life start attempt)
    (hop : LifecycleOp.apply attempt op = .ok (next, outcome)) : Life start next := by
  cases LifecycleOp.apply_cases hop with
  | submitted hstatus hallowed hhash =>
      refine ⟨?_, by simp, fun _ => hallowed, fun txHash htx => ?_⟩
      · rw [h.request]
      · obtain rfl := Option.some.inj htx
        exact hhash
  | @finalized receipt realizedSurplus minSurplus final outcome hstatus hhash hfinal =>
      have hne : attempt.status ≠ .built := by
        rcases hstatus with hstatus | hstatus <;> simp [hstatus]
      obtain ⟨txHash, hsome, hblank⟩ := h.exists_txHash hne
      obtain rfl : txHash = receipt.txHash := by simpa [hsome] using hhash
      refine ⟨?_, ?_, fun _ => h.allowed hne, fun txHash htx => ?_⟩
      · rw [h.request]
      · have hne' : final ≠ .built := hfinal ▸ final_ne_built
        simpa using hne'
      · obtain rfl := Option.some.inj htx
        exact hblank
  | dropped hstatus hhash hfinal =>
      have hne : attempt.status ≠ .built := by simp [hstatus]
      refine ⟨?_, by simp [hhash], fun _ => h.allowed hne, h.nonblank⟩
      rw [h.request]

/-- Once there, the hash stays. -/
theorem txHash_step {op : LifecycleOp} {txHash : String} (h : Life start attempt)
    (hop : LifecycleOp.apply attempt op = .ok (next, outcome))
    (hhash : attempt.txHash = some txHash) : next.txHash = some txHash := by
  cases LifecycleOp.apply_cases hop with
  | submitted hstatus _ _ =>
      rw [h.built.mpr hstatus] at hhash
      cases hhash
  | finalized _ hsame _ _ => simpa [hhash, eq_comm] using hsame
  | dropped _ _ _ => exact hhash

theorem run (h : Life start attempt) (hreach : Relation.ReflTransGen Moves attempt next) :
    Life start next := by
  induction hreach with
  | refl => exact h
  | tail _ hmove ih =>
      obtain ⟨op, outcome, hop⟩ := hmove
      exact ih.step hop

theorem txHash_run {txHash : String} (h : Life start attempt)
    (hhash : attempt.txHash = some txHash) (hreach : Relation.ReflTransGen Moves attempt next) :
    next.txHash = some txHash := by
  induction hreach with
  | refl => exact hhash
  | tail hreach hmove ih =>
      obtain ⟨op, outcome, hop⟩ := hmove
      exact (h.run hreach).txHash_step hop ih

/-- A transition starts from one of the three states that are not final. -/
theorem apply_error {op : LifecycleOp}
    (hstatus : attempt.status ≠ .built ∧ attempt.status ≠ .submitted
      ∧ attempt.status ≠ .included) :
    ∃ e, LifecycleOp.apply attempt op = .error e := by
  cases hop : LifecycleOp.apply attempt op with
  | error e => exact ⟨e, rfl⟩
  | ok result =>
      cases LifecycleOp.apply_cases hop with
      | submitted h _ _ => exact absurd h hstatus.1
      | finalized h _ _ _ => exact absurd h (by tauto)
      | dropped h _ _ => exact absurd h hstatus.2.1

end Life

/-- A built attempt is at the start of its life. -/
theorem life_of_prepareExecution {config : ExecutionConfig} {request : ExecutionRequest}
    {simulation : SimulationResult} {currentDailyRequestedWei : Nat} {prepared : PreparedExecution}
    (h : prepareExecution config request simulation currentDailyRequestedWei = .ok prepared) :
    Life prepared.attempt prepared.attempt := by
  have hbuilt := (prepareExecution_ok h).built
  have hhash := txHash_of_prepareExecution h
  exact ⟨rfl, by simp [hbuilt, hhash], fun hne => absurd hbuilt hne, by simp [hhash]⟩

/-- **The lifecycle.** Whatever transitions an attempt goes through after
`prepare_execution`: it has a transaction hash exactly when it has left
`Built`, and then it was allowed and its hash, which is not blank, stays; a
reverted, dropped or profitable attempt goes nowhere; only status and hash
ever change; and an outcome is about the attempt it comes with, a profit
only with a surplus that a successful receipt's caller knows to suffice. -/
theorem lifecycle_of_prepared {config : ExecutionConfig} {request : ExecutionRequest}
    {simulation : SimulationResult} {currentDailyRequestedWei : Nat} {prepared : PreparedExecution}
    {attempt : ExecutionAttempt}
    (hprepare : prepareExecution config request simulation currentDailyRequestedWei = .ok prepared)
    (hreach : Relation.ReflTransGen Moves prepared.attempt attempt) :
    (attempt.txHash = none ↔ attempt.status = .built)
      ∧ (attempt.status ≠ .built → attempt.submissionAllowed = true
          ∧ ∃ txHash, attempt.txHash = some txHash ∧ trim txHash ≠ ""
            ∧ ∀ later, Relation.ReflTransGen Moves attempt later → later.txHash = some txHash)
      ∧ (attempt.status = .reverted ∨ attempt.status = .dropped ∨ attempt.status = .profitRealized →
          ∀ op, ∃ e, LifecycleOp.apply attempt op = .error e)
      ∧ attempt = { prepared.attempt with status := attempt.status, txHash := attempt.txHash }
      ∧ ∀ op next outcome, LifecycleOp.apply attempt op = .ok (next, some outcome) →
          outcome.finalStatus = next.status ∧ next.txHash = some outcome.txHash
            ∧ (outcome.finalStatus = .profitRealized → ∃ receipt surplus minSurplus,
                op = .finalizeFromReceipt receipt (some surplus) minSurplus
                  ∧ receipt.success = true ∧ minSurplus ≤ surplus) := by
  have hlife := (life_of_prepareExecution hprepare).run hreach
  refine ⟨hlife.built, fun hstatus => ?_, fun hstatus op => ?_, hlife.request,
    fun op next outcome hop => ?_⟩
  · obtain ⟨txHash, hhash, hblank⟩ := hlife.exists_txHash hstatus
    exact ⟨hlife.allowed hstatus, txHash, hhash, hblank,
      fun later hlater => hlife.txHash_run hhash hlater⟩
  · refine Life.apply_error ?_
    rcases hstatus with hstatus | hstatus | hstatus <;> simp [hstatus]
  · cases LifecycleOp.apply_cases hop with
    | @finalized receipt realizedSurplus minSurplus final _ _ _ hfinal houtcome =>
        refine ⟨houtcome.1, by rw [houtcome.2], fun hprofit => ?_⟩
        rw [houtcome.1, hfinal] at hprofit
        split_ifs at hprofit with hsuccess
        obtain ⟨surplus, rfl, hle⟩ := LifecycleOp.classifySuccess_profitRealized hprofit
        exact ⟨receipt, surplus, minSurplus, rfl, hsuccess, hle⟩
    | dropped _ hhash hfinal =>
        refine ⟨hfinal, hhash, fun hprofit => ?_⟩
        rw [hfinal] at hprofit
        cases hprofit

/-- The receipt of the sample loop's transaction. -/
def sampleReceipt : ExecutionReceipt :=
  { requestId := sampleOpportunity.id, txHash := "0xtx", blockNumber := some 1, success := true,
    gasUsed := none, effectiveGasPrice := none, l1FeePaid := none, revertReason := none }

/-- The sample request prepared in live mode. -/
def sampleBuilt : ExecutionAttempt :=
  { requestId := sampleOpportunity.id, txHash := none, status := .built, executionMode := "live",
    submissionAllowed := true, blockedReason := none, requestedNotional := 1000000,
    gasLimit := some 216000, maxFeePerGas := none, maxPriorityFeePerGas := none }

/-- It is submitted, included with an unknown surplus, and settled once the
surplus is known; then it goes nowhere. -/
theorem sampleBuilt_settled :
    Relation.ReflTransGen Moves sampleBuilt
        { sampleBuilt with status := .profitRealized, txHash := some "0xtx" }
      ∧ ∀ op, ∃ e, LifecycleOp.apply
          { sampleBuilt with status := .profitRealized, txHash := some "0xtx" } op = .error e := by
  have hprepare : prepareExecution { sampleExecution with mode := .live } sampleRequest
      sampleSimulation 0 = .ok { attempt := sampleBuilt, shouldSubmit := true } := by decide
  have hsubmit :
      Moves sampleBuilt { sampleBuilt with status := .submitted, txHash := some "0xtx" } :=
    ⟨.markSubmitted "0xtx", none, by decide⟩
  have hinclude : Moves { sampleBuilt with status := .submitted, txHash := some "0xtx" }
      { sampleBuilt with status := .included, txHash := some "0xtx" } :=
    ⟨.finalizeFromReceipt sampleReceipt none 10, some _, rfl⟩
  have hsettle : Moves { sampleBuilt with status := .included, txHash := some "0xtx" }
      { sampleBuilt with status := .profitRealized, txHash := some "0xtx" } :=
    ⟨.finalizeFromReceipt sampleReceipt (some 12) 10, some _, rfl⟩
  have hreach := ((Relation.ReflTransGen.single hsubmit).tail hinclude).tail hsettle
  exact ⟨hreach, (lifecycle_of_prepared hprepare hreach).2.2.1 (Or.inr (Or.inr rfl))⟩

end BaseEngine
