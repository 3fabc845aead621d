import BaseEngine.CanaryLimit
import BaseEngine.Lib.Run
import BaseEngine.Lib.Streak

/-!
# The circuit breaker over whole runs of the pipeline

Runs of `maybe_log_decision_output` from a fresh engine, each output handled
under any answers of the database, the node and the clock, with the outcomes
that are recorded and the attempts that are handed to the transport carried
along (`BreakerRun`). An output whose handling returns an error ends the
source's main loop; here it may be followed by others, so that the source's
runs are among these.

Between two outcomes the counter of the engine is the number of failures
recorded last in a row (`Counted`). At the bound the breaker denies every
opportunity, nothing is submitted and nothing recorded: the bound is never
passed, and the success that would reset the counter never comes.
-/

namespace BaseEngine

open Fallible Machine Streak

variable {sha256 : List UInt8 → String} {codec : AlloyCodec} {config : AppConfig}
  {policy : RiskPolicy} {answers : Answers} {storage : Storage} {risk : RiskState}

/-! ## The breaker in one assessment -/

variable (sha256 policy) in
theorem assess_consecutiveReverts (reading : Reading) (opp : Opportunity)
    (sim : SimulationResult) (state : RiskState) :
    (policy.assess sha256 reading opp sim state).2.consecutiveReverts
      = state.consecutiveReverts := by
  have hcases := RiskPolicy.assess_cases sha256 policy reading opp sim state
  generalize policy.assess sha256 reading opp sim state = result at hcases
  cases hcases with
  | denied => rfl
  | deniedDaily _ => rfl
  | accepted _ _ _ _ _ => rfl

variable (sha256) in
theorem assess_of_tripped {state : RiskState} (h : policy.breakerTripped state)
    (reading : Reading) (opp : Opportunity) (sim : SimulationResult) :
    (policy.assess sha256 reading opp sim state).1.accepted = false := by
  have hcases := RiskPolicy.assess_cases sha256 policy reading opp sim state
  generalize policy.assess sha256 reading opp sim state = result at hcases
  cases hcases with
  | denied => rfl
  | deniedDaily _ => rfl
  | accepted _ _ hbreaker _ _ => exact absurd h hbreaker

/-! ## Runs -/

/-- The engine and the database, with the outcomes recorded and the attempts
handed to the transport so far, oldest first. -/
structure BreakerRun where
  risk : RiskState
  storage : Storage
  outcomes : List Bool
  handed : List ExecutionAttempt

namespace BreakerRun

def start (storage : Storage) : BreakerRun :=
  { risk := RiskState.default, storage, outcomes := [], handed := [] }

variable (sha256 codec config policy) in
def step (run : BreakerRun) (op : Answers × Option DecisionPipelineOutput) : BreakerRun :=
  let handled := maybeLogDecisionOutput op.1.statements sha256 codec config policy op.1.toOutside
    op.2 run.risk run.storage
  { risk := handled.risk, storage := handled.storage,
    outcomes := run.outcomes ++ handled.recorded.toList, handed := run.handed ++ handled.handed }

variable (policy) in
/-- What a step can do. A denied output leaves its mark on the daily window
and the database at most. -/
inductive Stepped (run : BreakerRun) : BreakerRun → Prop
  | idle : Stepped run run
  | denied {risk : RiskState} {storage : Storage}
      (hreverts : risk.consecutiveReverts = run.risk.consecutiveReverts) :
      Stepped run { run with risk, storage }
  | accepted {risk : RiskState} {storage : Storage} {recorded : Option Bool}
      {handed : List ExecutionAttempt} (hclosed : ¬ policy.breakerTripped run.risk)
      (hreverts : risk.consecutiveReverts = run.risk.consecutiveReverts) :
      Stepped run
        { risk := risk.count recorded, storage, outcomes := run.outcomes ++ recorded.toList,
          handed := run.handed ++ handed }

variable (sha256 codec config policy) in
theorem step_cases (run : BreakerRun) (op : Answers × Option DecisionPipelineOutput) :
    Stepped policy run (run.step sha256 codec config policy op) := by
  obtain ⟨answers, output⟩ := op
  cases output with
  | none =>
      have hstep : run.step sha256 codec config policy (answers, none) = run := by
        simp [step, maybeLogDecisionOutput, Handled.quiet]
      rw [hstep]
      exact .idle
  | some out =>
      have hreverts := assess_consecutiveReverts sha256 policy answers.reading out.opportunity
        out.simulation run.risk
      have hhandling := @handling_maybeLogDecisionOutput _ answers.statements sha256 config policy
        answers.toOutside codec (some out) run.risk run.storage
      unfold step
      dsimp only
      rw [hhandling.risk_eq]
      by_cases haccepted : (out.assessed sha256 policy answers.toOutside run.risk).1.accepted = true
      · refine .accepted (fun htripped => ?_) hreverts
        unfold DecisionPipelineOutput.assessed at haccepted
        rw [assess_of_tripped sha256 htripped] at haccepted
        cases haccepted
      · obtain ⟨hrecorded, hhanded⟩ := hhandling.of_denied (Bool.eq_false_iff.mpr haccepted)
        rw [hrecorded, hhanded, Option.toList_none, List.append_nil, List.append_nil]
        exact .denied hreverts

/-- The failures at the end of the recorded outcomes. -/
def failures (run : BreakerRun) : Nat := streak (!·) run.outcomes

/-- The counter is the number of failures in a row, and these have reached
the bound at the end only. -/
structure Counted (n : Nat) (run : BreakerRun) : Prop where
  counter : run.risk.consecutiveReverts = run.failures
  stops : Stops (!·) n run.outcomes

theorem counted_start (n : Nat) (storage : Storage) : Counted n (start storage) :=
  ⟨rfl, stops_nil n⟩

variable {run : BreakerRun} {n : Nat}

/-- An outcome is counted as the history says. -/
theorem count_consecutiveReverts {risk : RiskState} (recorded : Option Bool)
    (hcounter : risk.consecutiveReverts = streak (!·) run.outcomes)
    (hword : risk.consecutiveReverts + 1 < 2 ^ 32) :
    (risk.count recorded).consecutiveReverts
      = streak (!·) (run.outcomes ++ recorded.toList) := by
  cases recorded with
  | none => simpa [RiskState.count] using hcounter
  | some success =>
      rw [Option.toList_some, streak_concat, ← hcounter]
      cases success with
      | true => rfl
      | false => exact saturatingAdd_of_lt hword

theorem Counted.step (hn : policy.maxConsecutiveReverts = n) (hpos : 0 < n) (hword : n < 2 ^ 32)
    (h : Counted n run) (op : Answers × Option DecisionPipelineOutput) :
    Counted n (run.step sha256 codec config policy op) := by
  have hcases := step_cases sha256 codec config policy run op
  generalize run.step sha256 codec config policy op = next at hcases
  cases hcases with
  | idle => exact h
  | denied hreverts => exact ⟨hreverts.trans h.counter, h.stops⟩
  | @accepted risk storage recorded handed hclosed hreverts =>
      have hcounter := hreverts.trans h.counter
      have hbelow : run.failures < n := by
        by_contra hfull
        refine hclosed ⟨?_, hn ▸ hpos⟩
        rw [hn, h.counter]
        exact Nat.le_of_not_lt hfull
      refine ⟨count_consecutiveReverts recorded hcounter (by omega), ?_⟩
      cases recorded with
      | none => simpa using h.stops
      | some success => exact h.stops.concat hbelow success

/-- Behind an open breaker nothing is submitted or recorded any more. -/
structure Open (n : Nat) (frozen run : BreakerRun) : Prop where
  counter : run.risk.consecutiveReverts = n
  outcomes : run.outcomes = frozen.outcomes
  handed : run.handed = frozen.handed

theorem Open.tripped {frozen : BreakerRun} (h : Open n frozen run)
    (hn : policy.maxConsecutiveReverts = n) (hpos : 0 < n) : policy.breakerTripped run.risk := by
  unfold RiskPolicy.breakerTripped
  rw [h.counter, hn]
  exact ⟨Nat.le_refl n, hpos⟩

theorem Open.step {frozen : BreakerRun} (hn : policy.maxConsecutiveReverts = n) (hpos : 0 < n)
    (h : Open n frozen run) (op : Answers × Option DecisionPipelineOutput) :
    Open n frozen (run.step sha256 codec config policy op) := by
  have hcases := step_cases sha256 codec config policy run op
  generalize run.step sha256 codec config policy op = next at hcases
  cases hcases with
  | idle => exact h
  | denied hreverts => exact ⟨hreverts.trans h.counter, h.outcomes, h.handed⟩
  | accepted hclosed _ => exact absurd (h.tripped hn hpos) hclosed

/-- **The circuit breaker bounds and absorbs.** From a fresh engine, whatever
the database, the node and the clock answer: never are more than `n`
failures recorded in a row, and once `n` have been, every later assessment
is denied, and nothing is submitted or recorded any more. -/
theorem breaker_absorbs (hn : policy.maxConsecutiveReverts = n) (hpos : 0 < n)
    (hword : n < 2 ^ 32) (storage : Storage)
    (ops : List (Answers × Option DecisionPipelineOutput)) :
    ¬ List.replicate (n + 1) false
        <:+: (Run.final (step sha256 codec config policy) (start storage) ops).outcomes
      ∧ (List.replicate n false
          <:+: (Run.final (step sha256 codec config policy) (start storage) ops).outcomes →
        ∀ later,
          (∀ reading opp sim, (policy.assess sha256 reading opp sim
            (Run.final (step sha256 codec config policy) (start storage) (ops ++ later)).risk
            ).1.accepted = false)
          ∧ (Run.final (step sha256 codec config policy) (start storage) (ops ++ later)).handed
            = (Run.final (step sha256 codec config policy) (start storage) ops).handed
          ∧ (Run.final (step sha256 codec config policy) (start storage) (ops ++ later)).outcomes
            = (Run.final (step sha256 codec config policy) (start storage) ops).outcomes) := by
  have hcounted : Counted n (Run.final (step sha256 codec config policy) (start storage) ops) :=
    Run.inv_final (P := fun _ _ => True) (fun _ op h _ => h.step hn hpos hword op)
      (counted_start n storage) (Run.along_of_forall fun _ _ => trivial)
  have hfailed : ∀ k, ∀ success ∈ List.replicate k false, (!success) = true := by
    intro k success hmem
    rw [List.eq_of_mem_replicate hmem]
    rfl
  refine ⟨hcounted.stops.not_part (hfailed _) (by simp), fun hpart later => ?_⟩
  generalize hfrozen : Run.final (step sha256 codec config policy) (start storage) ops = frozen
    at hcounted hpart
  have hfull : frozen.failures = n :=
    hcounted.stops.streak_eq (hfailed n) (List.length_replicate ..) hpart
  have hopen : Open n frozen (Run.final (step sha256 codec config policy) frozen later) :=
    Run.inv_final (P := fun _ _ => True) (fun _ op h _ => h.step hn hpos op)
      ⟨hcounted.counter.trans hfull, rfl, rfl⟩ (Run.along_of_forall fun _ _ => trivial)
  have happend : Run.final (step sha256 codec config policy) (start storage) (ops ++ later)
      = Run.final (step sha256 codec config policy) frozen later := by
    rw [Run.final_append, hfrozen]
  rw [happend]
  exact ⟨assess_of_tripped sha256 (hopen.tripped hn hpos), hopen.handed, hopen.outcomes⟩

/-- The sample loop with a submission that does not answer in time. -/
def timedOutLoop : Answers × Option DecisionPipelineOutput :=
  ({ CanaryRun.obligingAnswers with submit := none },
    some ⟨none, sampleOpportunity, sampleSimulation⟩)

def breakerPolicy : RiskPolicy := { CanaryRun.canaryPolicy with maxConsecutiveReverts := 1 }

/-- After a timeout under a bound of one the next loop, whose submission
would succeed, is not submitted. -/
theorem timedOutLoop_absorbed :
    (Run.final (step Sha256.hexDigest sampleCodec (CanaryRun.canaryConfig none) breakerPolicy)
        (start none)
        ([timedOutLoop] ++ [(CanaryRun.obligingAnswers, timedOutLoop.2)])).handed.length = 1 := by
  have hrun : (Run.final (step Sha256.hexDigest sampleCodec (CanaryRun.canaryConfig none)
      breakerPolicy) (start none) [timedOutLoop]).outcomes = [false]
      ∧ (Run.final (step Sha256.hexDigest sampleCodec (CanaryRun.canaryConfig none)
        breakerPolicy) (start none) [timedOutLoop]).handed.length = 1 := by
    decide +kernel
  have habsorbed := (@breaker_absorbs Sha256.hexDigest sampleCodec (CanaryRun.canaryConfig none)
    breakerPolicy 1 rfl (by decide) (by decide) none [timedOutLoop]).2
    (by rw [hrun.1]; exact List.infix_refl _)
  rw [(habsorbed [(CanaryRun.obligingAnswers, timedOutLoop.2)]).2.1]
  exact hrun.2

end BreakerRun

end BaseEngine
