import BaseEngine.RiskCaps

/-!
# Denied assessments leave no trace

An assessment that is denied may still drop entries from the daily window.
Whoever asks later cannot tell: leaving out any of the denied assessments of
a run changes no decision on the others.

The two engines differ in how far they have pruned. What they agree on
(`AgreeFrom`) is the window that is left from the present moment on, and all
that pruning does not touch; pruning at one time and then at a later one is
pruning at the later one (`pruneDailyEntries_pruneDailyEntries`).
-/

namespace BaseEngine

open Machine

/-! ## Pruning twice -/

theorem pruneLoop_pruneLoop {early late : Nat} (h : early ≤ late) :
    ∀ (entries : List (Nat × Nat)) (total : Nat),
      pruneLoop saturatingSub late (pruneLoop saturatingSub early entries total).1
          (pruneLoop saturatingSub early entries total).2
        = pruneLoop saturatingSub late entries total
  | [], _ => rfl
  | (ts, amount) :: rest, total => by
      by_cases hold : ts < early
      · rw [pruneLoop, if_pos hold, pruneLoop_pruneLoop h rest, pruneLoop,
          if_pos (Nat.lt_of_lt_of_le hold h)]
      · rw [pruneLoop, if_neg hold]

theorem pruneDailyEntries_pruneDailyEntries (state : RiskState) {early late : Nat}
    (h : early ≤ late) :
    pruneDailyEntries (pruneDailyEntries state early) late = pruneDailyEntries state late := by
  have hhorizon : saturatingSub early secondsPerDay ≤ saturatingSub late secondsPerDay :=
    Nat.sub_le_sub_right h _
  unfold pruneDailyEntries
  simp only [pruneLoop_pruneLoop hhorizon]

/-! ## Agreement from a moment on -/

/-- The two states are the same to every assessment from `now` on. -/
def AgreeFrom (now : Nat) (s t : RiskState) : Prop :=
  ∀ later, now ≤ later → pruneDailyEntries s later = pruneDailyEntries t later

namespace AgreeFrom

variable {now later : Nat} {s t : RiskState}

theorem refl (now : Nat) (s : RiskState) : AgreeFrom now s s := fun _ _ => rfl

theorem mono (h : AgreeFrom now s t) (hle : now ≤ later) : AgreeFrom later s t :=
  fun _ hlater => h _ (Nat.le_trans hle hlater)

/-- One side prunes, the other does not. -/
theorem prune_left (h : AgreeFrom now s t) (hle : now ≤ later) :
    AgreeFrom later (pruneDailyEntries s later) t := by
  intro last hlast
  rw [pruneDailyEntries_pruneDailyEntries s hlast]
  exact h last (Nat.le_trans hle hlast)

/-- Pruning leaves everything but the daily window alone. -/
theorem unpruned (h : AgreeFrom now s t) :
    s.blockNotional = t.blockNotional ∧ s.consecutiveReverts = t.consecutiveReverts
      ∧ s.operatorKilled = t.operatorKilled := by
  have hnow := h now (Nat.le_refl now)
  have hblock := congrArg RiskState.blockNotional hnow
  have hreverts := congrArg RiskState.consecutiveReverts hnow
  have hkilled := congrArg RiskState.operatorKilled hnow
  exact ⟨hblock, hreverts, hkilled⟩

theorem recordOutcome (h : AgreeFrom now s t) (success : Bool) :
    AgreeFrom now (s.recordOutcome success) (t.recordOutcome success) := by
  intro later hlater
  have hpruned := h later hlater
  have hcommute : ∀ u : RiskState, pruneDailyEntries (u.recordOutcome success) later
      = (pruneDailyEntries u later).recordOutcome success := by
    intro u
    cases success <;> rfl
  rw [hcommute, hcommute, hpruned]

theorem triggerKillSwitch (h : AgreeFrom now s t) :
    AgreeFrom now s.triggerKillSwitch t.triggerKillSwitch :=
  fun later hlater => congrArg RiskState.triggerKillSwitch (h later hlater)

variable (sha256 : List UInt8 → String) (policy : RiskPolicy)

/-- **Agreeing engines decide alike**, and agree after it. -/
theorem assess (reading : Reading) (opp : Opportunity) (sim : SimulationResult)
    (h : AgreeFrom reading.nowUnixSecs s t) :
    (policy.assess sha256 reading opp sim s).1 = (policy.assess sha256 reading opp sim t).1
      ∧ AgreeFrom reading.nowUnixSecs (policy.assess sha256 reading opp sim s).2
        (policy.assess sha256 reading opp sim t).2 := by
  obtain ⟨hblock, hreverts, hkilled⟩ := h.unpruned
  have hused : s.blockUsed (blockKey opp.blockContext)
      = t.blockUsed (blockKey opp.blockContext) := by
    unfold RiskState.blockUsed
    rw [hblock]
  have hbreaker : policy.breakerTripped s ↔ policy.breakerTripped t := by
    unfold RiskPolicy.breakerTripped
    rw [hreverts]
  -- every gate reads what the two states share; behind the last one they are equal
  have hreject : policy.reject reading opp sim s = policy.reject reading opp sim t := by
    unfold RiskPolicy.reject
    simp only [hkilled, hbreaker, hreverts, hused]
  have hpruned := h reading.nowUnixSecs (Nat.le_refl _)
  unfold RiskPolicy.assess
  dsimp only
  rw [hreject, hpruned]
  cases policy.reject reading opp sim t with
  | some reason => exact ⟨rfl, h⟩
  | none =>
      dsimp only
      cases policy.dailyReject opp (pruneDailyEntries t reading.nowUnixSecs) with
      | some reason => exact ⟨rfl, refl _ _⟩
      | none => exact ⟨rfl, refl _ _⟩

/-- A denied assessment leaves what others agree with. -/
theorem assess_denied (reading : Reading) (opp : Opportunity) (sim : SimulationResult)
    (h : AgreeFrom now s t) (hle : now ≤ reading.nowUnixSecs)
    (hdenied : (policy.assess sha256 reading opp sim s).1.accepted = false) :
    AgreeFrom reading.nowUnixSecs (policy.assess sha256 reading opp sim s).2 t := by
  have hcases := RiskPolicy.assess_cases sha256 policy reading opp sim s
  generalize policy.assess sha256 reading opp sim s = result at hcases hdenied
  cases hcases with
  | denied => exact h.mono hle
  | deniedDaily _ => exact h.prune_left hle
  | accepted _ _ _ _ _ => cases hdenied

end AgreeFrom

/-! ## Runs with denied assessments left out -/

namespace RiskRun

variable (sha256 : List UInt8 → String) (policy : RiskPolicy)

/-- The decision of an assessment; the other operations make none. -/
def decisions (run : RiskRun) : RiskOp → List RiskDecision
  | .assess reading opp sim => [(policy.assess sha256 reading opp sim run.state).1]
  | .recordOutcome _ => []
  | .triggerKillSwitch => []

/-- The operation is an assessment that is denied here. -/
def Denied (run : RiskRun) : RiskOp → Prop
  | .assess reading opp sim =>
      (policy.assess sha256 reading opp sim run.state).1.accepted = false
  | .recordOutcome _ => False
  | .triggerKillSwitch => False

instance (run : RiskRun) : (op : RiskOp) → Decidable (Denied sha256 policy run op)
  | .assess _ _ _ => inferInstanceAs (Decidable (_ = _))
  | .recordOutcome _ => inferInstanceAs (Decidable False)
  | .triggerKillSwitch => inferInstanceAs (Decidable False)

/-- The full run and the thinned one agree from the clock of the full one on. -/
def InStep (full thin : RiskRun) : Prop := AgreeFrom full.clock full.state thin.state

variable {sha256 policy} {full thin : RiskRun}

theorem InStep.keep (h : InStep full thin) (op : RiskOp) (hclock : ClockMonotone full op) :
    full.decisions sha256 policy op = thin.decisions sha256 policy op
      ∧ InStep (full.step sha256 policy op) (thin.step sha256 policy op) := by
  cases op with
  | assess reading opp sim =>
      obtain ⟨hdecision, hstate⟩ :=
        AgreeFrom.assess sha256 policy reading opp sim (h.mono hclock)
      exact ⟨congrArg (fun decision => [decision]) hdecision, hstate⟩
  | recordOutcome success => exact ⟨rfl, AgreeFrom.recordOutcome h success⟩
  | triggerKillSwitch => exact ⟨rfl, AgreeFrom.triggerKillSwitch h⟩

theorem InStep.leave (h : InStep full thin) (op : RiskOp) (hclock : ClockMonotone full op)
    (hdenied : Denied sha256 policy full op) : InStep (full.step sha256 policy op) thin := by
  cases op with
  | assess reading opp sim => exact h.assess_denied sha256 policy reading opp sim hclock hdenied
  | recordOutcome success => exact hdenied.elim
  | triggerKillSwitch => exact hdenied.elim

/-- **Denied assessments are unobservable.** In a run whose clock does not go
backwards, the operations left out being assessments that were denied: every
assessment that is kept is decided as it is in the run without the others. -/
theorem decisions_of_denied_left_out {run : RiskRun} {ops : List (RiskOp × Bool)}
    (hclock : Run.Along (fun run op => run.step sha256 policy op.1)
      (fun run op => ClockMonotone run op.1) run ops)
    (hdenied : Run.Along (fun run op => run.step sha256 policy op.1)
      (fun run op => op.2 = false → Denied sha256 policy run op.1) run ops) :
    Run.keptOutputs (step sha256 policy) (decisions sha256 policy) run ops
      = Run.outputs (step sha256 policy) (decisions sha256 policy) run (Run.kept ops) :=
  Run.keptOutputs_eq_outputs (R := InStep) (fun _ _ op h hP => h.keep op hP)
    (fun _ _ op h hP hQ => h.leave op hP hQ) (AgreeFrom.refl run.clock run.state) hclock hdenied

/-- Under a cap of 150 a day the second loop of 100 wei is denied; the third
comes after the first has left the window. -/
def deniedBetween : List (RiskOp × Bool) :=
  [(assessInBlock 1 1000, true), (assessInBlock 2 1001, false), (assessInBlock 3 87401, true)]

theorem deniedBetween_unobservable :
    (Run.keptOutputs (step Sha256.hexDigest (cappedPolicy none (some 150)))
        (decisions Sha256.hexDigest (cappedPolicy none (some 150))) start deniedBetween).length = 2
      ∧ Run.keptOutputs (step Sha256.hexDigest (cappedPolicy none (some 150)))
          (decisions Sha256.hexDigest (cappedPolicy none (some 150))) start deniedBetween
        = Run.outputs (step Sha256.hexDigest (cappedPolicy none (some 150)))
          (decisions Sha256.hexDigest (cappedPolicy none (some 150))) start
          [assessInBlock 1 1000, assessInBlock 3 87401] :=
  ⟨by decide, decisions_of_denied_left_out (by decide) (by decide)⟩

end RiskRun

end BaseEngine
