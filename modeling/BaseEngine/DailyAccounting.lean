import BaseEngine.RiskCaps

/-!
# The daily total under any clock

The engine caches the total of its daily queue and updates it by saturating
operations: the subtractions of `prune_daily_entries` and the addition of an
accepted notional. A clamped update would leave the cache off for good.
`totalOps` lists these operations; `traces_totalOps` says that they take the
total from the state before an assessment to the one after it.

`dailyTotal_accounted`: under a daily cap below the largest `u128`, whatever
the clock reads, the cache is the total of the queue and within the cap, and
no update clamps. The one saturating sum that can clamp is the projection
that the cap is compared with, and then the opportunity is denied.
-/

namespace BaseEngine

open Machine

/-! ## The operations on the total -/

/-- A saturating operation on the daily total: the total it starts from and
the amount. -/
inductive TotalOp where
  | subtract (total amount : Nat)
  | project (total amount : Nat)
  | add (total amount : Nat)
deriving Repr, DecidableEq

namespace TotalOp

/-- The exact result is not a `u128`. -/
def Saturates : TotalOp → Prop
  | .subtract total amount => total < amount
  | .project total amount => u128Max < total + amount
  | .add total amount => u128Max < total + amount

instance : (op : TotalOp) → Decidable op.Saturates
  | .subtract _ _ => inferInstanceAs (Decidable (_ < _))
  | .project _ _ => inferInstanceAs (Decidable (_ < _))
  | .add _ _ => inferInstanceAs (Decidable (_ < _))

/-- The result becomes the total. -/
def updates : TotalOp → Bool
  | .project _ _ => false
  | _ => true

end TotalOp

/-- A total that keeps the operations that were made on it. -/
structure LoggedTotal where
  total : Nat
  ops : List TotalOp

def LoggedTotal.subtract (logged : LoggedTotal) (amount : Nat) : LoggedTotal :=
  { total := saturatingSub logged.total amount,
    ops := logged.ops ++ [.subtract logged.total amount] }

/-- The subtractions of the pruning loop. -/
def pruneOps (horizon : Nat) (entries : List (Nat × Nat)) (total : Nat) : List TotalOp :=
  (pruneLoop LoggedTotal.subtract horizon entries { total, ops := [] }).2.ops

/-- The operations of an assessment, in its order. -/
def RiskPolicy.totalOps (policy : RiskPolicy) (reading : Reading) (opportunity : Opportunity)
    (simulation : SimulationResult) (state : RiskState) : List TotalOp :=
  match policy.reject reading opportunity simulation state with
  | some _ => []
  | none =>
      let pruned := pruneDailyEntries state reading.nowUnixSecs
      pruneOps (saturatingSub reading.nowUnixSecs secondsPerDay) state.dailyEntries state.dailyTotal
        ++ (if policy.maxDailyNotionalWei.isSome then
            [.project pruned.dailyTotal opportunity.inputAmount]
          else [])
        ++ match policy.dailyReject opportunity pruned with
          | some _ => []
          | none => [.add pruned.dailyTotal opportunity.inputAmount]

/-- What is logged already stays in front. -/
theorem ops_pruneLoop (horizon : Nat) (entries : List (Nat × Nat)) (logged : LoggedTotal) :
    (pruneLoop LoggedTotal.subtract horizon entries logged).2.ops
      = logged.ops ++ pruneOps horizon entries logged.total := by
  unfold pruneOps
  induction entries generalizing logged with
  | nil => exact (List.append_nil _).symm
  | cons entry rest ih =>
      obtain ⟨ts, amount⟩ := entry
      rw [pruneLoop, pruneLoop]
      split_ifs with hold
      · have hfresh := ih (LoggedTotal.subtract { total := logged.total, ops := [] } amount)
        rw [ih, hfresh]
        exact List.append_assoc ..
      · exact (List.append_nil _).symm

theorem pruneOps_cons (horizon ts amount : Nat) (rest : List (Nat × Nat)) (total : Nat) :
    pruneOps horizon ((ts, amount) :: rest) total
      = if ts < horizon then
          .subtract total amount :: pruneOps horizon rest (saturatingSub total amount)
        else [] := by
  rw [pruneOps, pruneLoop]
  split_ifs with hold
  · exact ops_pruneLoop horizon rest _
  · rfl

/-- The operations start from the total in hand, and lead from one total to
the other. -/
inductive Traces : Nat → List TotalOp → Nat → Prop where
  | nil {total : Nat} : Traces total [] total
  | subtract {total amount total' : Nat} {ops : List TotalOp}
      (h : Traces (saturatingSub total amount) ops total') :
      Traces total (.subtract total amount :: ops) total'
  | project {total amount total' : Nat} {ops : List TotalOp} (h : Traces total ops total') :
      Traces total (.project total amount :: ops) total'
  | add {total amount total' : Nat} {ops : List TotalOp}
      (h : Traces (saturatingAdd 128 total amount) ops total') :
      Traces total (.add total amount :: ops) total'

theorem Traces.append {total total' total'' : Nat} {ops ops' : List TotalOp}
    (h : Traces total ops total') (h' : Traces total' ops' total'') :
    Traces total (ops ++ ops') total'' := by
  induction h with
  | nil => exact h'
  | subtract _ ih => exact .subtract (ih h')
  | project _ ih => exact .project (ih h')
  | add _ ih => exact .add (ih h')

theorem traces_pruneOps (horizon : Nat) (entries : List (Nat × Nat)) (total : Nat) :
    Traces total (pruneOps horizon entries total)
      (pruneLoop saturatingSub horizon entries total).2 := by
  induction entries generalizing total with
  | nil => exact .nil
  | cons entry rest ih =>
      obtain ⟨ts, amount⟩ := entry
      rw [pruneOps_cons, pruneLoop]
      split_ifs with hold
      · exact .subtract (ih _)
      · exact .nil

/-- The operations are those that take the total through an assessment. -/
theorem traces_totalOps (sha256 : List UInt8 → String) (policy : RiskPolicy) (reading : Reading)
    (opp : Opportunity) (sim : SimulationResult) (state : RiskState) :
    Traces state.dailyTotal (policy.totalOps reading opp sim state)
      (policy.assess sha256 reading opp sim state).2.dailyTotal := by
  unfold RiskPolicy.totalOps RiskPolicy.assess
  dsimp only
  cases policy.reject reading opp sim state with
  | some reason => exact .nil
  | none =>
      have hprune := traces_pruneOps (saturatingSub reading.nowUnixSecs secondsPerDay)
        state.dailyEntries state.dailyTotal
      have hproject : Traces (pruneDailyEntries state reading.nowUnixSecs).dailyTotal
          (if policy.maxDailyNotionalWei.isSome then
            [.project (pruneDailyEntries state reading.nowUnixSecs).dailyTotal opp.inputAmount]
          else []) (pruneDailyEntries state reading.nowUnixSecs).dailyTotal := by
        split_ifs
        · exact .project .nil
        · exact .nil
      dsimp only
      cases policy.dailyReject opp (pruneDailyEntries state reading.nowUnixSecs) with
      | some reason => exact (hprune.append hproject).append .nil
      | none => exact (hprune.append hproject).append (.add .nil)

/-! ## The invariant -/

/-- The cache is the total of the queue, and within the cap. -/
structure RiskState.Accounted (cap : Nat) (state : RiskState) : Prop where
  total : state.dailyTotal = (state.dailyEntries.map Prod.snd).sum
  capped : state.dailyTotal ≤ cap

namespace RiskState.Accounted

variable {cap : Nat} {state : RiskState}

theorem prune (h : state.Accounted cap) (now : Nat) :
    (pruneDailyEntries state now).Accounted cap := by
  obtain ⟨gone, kept, hsplit, -, hloop⟩ := RiskRun.pruneLoop_spec
    (saturatingSub now secondsPerDay) state.dailyEntries state.dailyTotal
  have htotal := h.total
  have hcapped := h.capped
  rw [hsplit, List.map_append, List.sum_append] at htotal
  constructor
  · show (pruneLoop _ _ _ _).2 = ((pruneLoop _ _ _ _).1.map Prod.snd).sum
    rw [hloop]
    show state.dailyTotal - (gone.map Prod.snd).sum = (kept.map Prod.snd).sum
    omega
  · show (pruneLoop _ _ _ _).2 ≤ cap
    rw [hloop]
    exact (Nat.sub_le ..).trans hcapped

theorem commit (h : state.Accounted cap) (hmax : cap < u128Max) {amount : Nat} (block now : Nat)
    (hfits : saturatingAdd 128 state.dailyTotal amount ≤ cap) :
    (state.commit block now amount).Accounted cap := by
  obtain ⟨hadd, hle⟩ := add_eq_of_saturatingAdd_le hmax hfits
  constructor
  · show saturatingAdd 128 state.dailyTotal amount
      = ((state.dailyEntries ++ [(now, amount)]).map Prod.snd).sum
    rw [hadd, h.total, List.map_append, List.sum_append]
    simp
  · exact hfits

end RiskState.Accounted

namespace RiskRun

variable {sha256 : List UInt8 → String} {policy : RiskPolicy} {cap : Nat} {run : RiskRun}

/-- **Step lemma.** No condition on the clock. -/
theorem accounted_step (hcap : policy.maxDailyNotionalWei = some cap) (hmax : cap < u128Max)
    (op : RiskOp) (h : run.state.Accounted cap) :
    (run.step sha256 policy op).state.Accounted cap := by
  have hcases := step_cases sha256 policy run op
  generalize run.step sha256 policy op = run' at hcases
  cases hcases with
  | denied => exact h
  | deniedDaily => exact h.prune _
  | accepted _ hdaily =>
      exact (h.prune _).commit hmax _ _ (RiskPolicy.exceededCap_eq_none_iff.mp hdaily cap hcap)
  | recorded =>
      constructor
      · rw [dailyTotal_recordOutcome, dailyEntries_recordOutcome]
        exact h.total
      · rw [dailyTotal_recordOutcome]
        exact h.capped
  | killed => exact ⟨h.total, h.capped⟩

variable (sha256 policy) in
/-- The state that a run of operations reaches. -/
def stateAfter (ops : List RiskOp) : RiskState := (Run.final (step sha256 policy) start ops).state

theorem accounted_stateAfter (hcap : policy.maxDailyNotionalWei = some cap)
    (hmax : cap < u128Max) (ops : List RiskOp) : (stateAfter sha256 policy ops).Accounted cap := by
  have hstart : start.state.Accounted cap := ⟨rfl, Nat.zero_le cap⟩
  exact Run.inv_final (I := fun run : RiskRun => run.state.Accounted cap)
    (fun _ op h _ => accounted_step hcap hmax op h) hstart
    (Run.along_of_forall fun _ _ => trivial)

/-! ## No update clamps -/

theorem not_saturates_of_mem_pruneOps {horizon : Nat} {entries : List (Nat × Nat)} {total : Nat}
    (htotal : total = (entries.map Prod.snd).sum) {op : TotalOp}
    (hop : op ∈ pruneOps horizon entries total) : ¬ op.Saturates := by
  induction entries generalizing total with
  | nil => cases hop
  | cons entry rest ih =>
      obtain ⟨ts, amount⟩ := entry
      rw [List.map_cons, List.sum_cons] at htotal
      rw [pruneOps_cons] at hop
      split_ifs at hop with hold
      · rcases List.mem_cons.mp hop with rfl | hop
        · show ¬ total < amount
          omega
        · refine ih ?_ hop
          unfold saturatingSub
          omega
      · cases hop

/-- Where an operation of an assessment comes from. The sum is only added once
it is within the cap. -/
theorem mem_totalOps {state : RiskState} {reading : Reading} {opp : Opportunity}
    {sim : SimulationResult} {op : TotalOp} (hop : op ∈ policy.totalOps reading opp sim state) :
    op ∈ pruneOps (saturatingSub reading.nowUnixSecs secondsPerDay) state.dailyEntries
        state.dailyTotal
      ∨ op = .project (pruneDailyEntries state reading.nowUnixSecs).dailyTotal opp.inputAmount
      ∨ op = .add (pruneDailyEntries state reading.nowUnixSecs).dailyTotal opp.inputAmount
        ∧ RiskPolicy.exceededCap policy.maxDailyNotionalWei (saturatingAdd 128
          (pruneDailyEntries state reading.nowUnixSecs).dailyTotal opp.inputAmount) = none := by
  unfold RiskPolicy.totalOps at hop
  split at hop
  · cases hop
  rw [List.mem_append, List.mem_append] at hop
  rcases hop with (hprune | hproject) | hadd
  · exact .inl hprune
  · split_ifs at hproject with hsome
    · exact .inr (.inl (List.mem_singleton.mp hproject))
    · cases hproject
  · split at hadd
    · cases hadd
    next hdaily =>
      exact .inr (.inr ⟨List.mem_singleton.mp hadd, RiskPolicy.dailyReject_eq_none_iff.mp hdaily⟩)

theorem exceededCap_of_accepted {state : RiskState} {reading : Reading} {opp : Opportunity}
    {sim : SimulationResult}
    (h : (policy.assess sha256 reading opp sim state).1.accepted = true) :
    RiskPolicy.exceededCap policy.maxDailyNotionalWei (saturatingAdd 128
      (pruneDailyEntries state reading.nowUnixSecs).dailyTotal opp.inputAmount) = none := by
  have hcases := RiskPolicy.assess_cases sha256 policy reading opp sim state
  generalize policy.assess sha256 reading opp sim state = result at hcases h
  cases hcases with
  | denied => cases h
  | deniedDaily _ => cases h
  | accepted _ _ _ _ hdaily => exact hdaily

/-- A clamped operation is the projection of a denied assessment. -/
theorem denied_of_saturates (hcap : policy.maxDailyNotionalWei = some cap) (hmax : cap < u128Max)
    {state : RiskState} (h : state.Accounted cap) {reading : Reading} {opp : Opportunity}
    {sim : SimulationResult} {op : TotalOp} (hop : op ∈ policy.totalOps reading opp sim state)
    (hsaturates : op.Saturates) :
    op.updates = false ∧ (policy.assess sha256 reading opp sim state).1.accepted = false := by
  -- within the cap the projection is exact, and the commit is the same sum
  have hexact : RiskPolicy.exceededCap policy.maxDailyNotionalWei (saturatingAdd 128
      (pruneDailyEntries state reading.nowUnixSecs).dailyTotal opp.inputAmount) = none →
      ¬ u128Max < (pruneDailyEntries state reading.nowUnixSecs).dailyTotal + opp.inputAmount := by
    intro hdaily
    have hfits := RiskPolicy.exceededCap_eq_none_iff.mp hdaily cap hcap
    exact Nat.not_lt.mpr ((add_eq_of_saturatingAdd_le hmax hfits).2.trans hmax.le)
  rcases mem_totalOps hop with hprune | rfl | ⟨rfl, hdaily⟩
  · exact absurd hsaturates (not_saturates_of_mem_pruneOps h.total hprune)
  · refine ⟨rfl, Bool.eq_false_iff.mpr fun haccepted => ?_⟩
    exact hexact (exceededCap_of_accepted haccepted) hsaturates
  · exact absurd hsaturates (hexact hdaily)

/-- **The daily accounting.** In every reachable state the cached total is the
total of the queue in unbounded integers and at most the cap. Of the
saturating operations that an assessment makes on it there, those that update
it are exact; the projected sum clamps only in an assessment that denies. -/
theorem dailyTotal_accounted (hcap : policy.maxDailyNotionalWei = some cap)
    (hmax : cap < u128Max) (ops : List RiskOp) :
    (stateAfter sha256 policy ops).dailyTotal
        = ((stateAfter sha256 policy ops).dailyEntries.map Prod.snd).sum
      ∧ (stateAfter sha256 policy ops).dailyTotal ≤ cap
      ∧ ∀ reading opp sim, ∀ op ∈ policy.totalOps reading opp sim (stateAfter sha256 policy ops),
          op.Saturates →
          op.updates = false
            ∧ (policy.assess sha256 reading opp sim (stateAfter sha256 policy ops)).1.accepted
              = false := by
  have h : (stateAfter sha256 policy ops).Accounted cap := accounted_stateAfter hcap hmax ops
  exact ⟨h.total, h.capped, fun _ _ _ _ hop => denied_of_saturates hcap hmax h hop⟩

/-- Two loops of 100 wei, read off a clock that goes back by more than a
day. -/
def backwards : List RiskOp := [assessInBlock 1 87401, assessInBlock 2 1000]

theorem backwards_accounted :
    (stateAfter Sha256.hexDigest (cappedPolicy none (some 250)) backwards).dailyEntries
        = [(87401, 100), (1000, 100)]
      ∧ (stateAfter Sha256.hexDigest (cappedPolicy none (some 250)) backwards).dailyTotal
        = ((stateAfter Sha256.hexDigest (cappedPolicy none (some 250))
            backwards).dailyEntries.map Prod.snd).sum
      ∧ (stateAfter Sha256.hexDigest (cappedPolicy none (some 250)) backwards).dailyTotal
        ≤ 250 := by
  obtain ⟨htotal, hcapped, -⟩ := @dailyTotal_accounted Sha256.hexDigest
    (cappedPolicy none (some 250)) 250 rfl (by decide) backwards
  exact ⟨by decide, htotal, hcapped⟩

/-- A loop over the largest notional there is. -/
def largestLoop : Opportunity :=
  { id := "loop", kind := .twoLegLoop, blockContext := .pending, settlementToken := "0xweth",
    inputAmount := u128Max, expectedOutputAmount := u128Max, expectedNetProfit := 0, route := [],
    triggerTxHash := none }

/-- After a loop of 100 wei the projected total of the largest one clamps. -/
theorem largestLoop_projection :
    (cappedPolicy none (some 150)).maxDailyNotionalWei = some 150 ∧ 150 < u128Max
      ∧ ∃ op ∈ (cappedPolicy none (some 150)).totalOps ⟨1000, false⟩ largestLoop
          { opportunityId := "loop", accepted := true, expectedGrossProfit := 20,
            expectedNetProfit := 10, gasEstimate := 180000, gasCostWei := 5, l1DataFee := 5,
            notes := [] }
          (stateAfter Sha256.hexDigest (cappedPolicy none (some 150)) [assessInBlock 1 1000]),
        op.Saturates := by
  decide

end RiskRun

end BaseEngine
