import BaseEngine.Lib.Run
import BaseEngine.Lib.Sha256
import BaseEngine.Lib.Window
import BaseEngine.Risk

/-!
# Notional caps over whole runs

Runs of the risk engine's three operations from a fresh state, in any
order, with the opportunities that were accepted so far and the latest
clock reading carried along (`RiskRun`).

*Daily cap.* `dailyCap_of_monotone`: with non-decreasing clock readings no
window of a day, wherever it starts, holds more accepted notional than the
cap. The invariant (`DailyLedger`) ties the queue to the history: the
accepted opportunities are the dropped ones, all older than a day, then
the queue; the cached total is the queue's total.

*Per-block cap.* The engine keeps one (block, used) cell, which an
accepted opportunity of another block overwrites. `blockCap_of_stays`
bounds the notional accepted in each block as long as the engine does not
come back to a block it has left; `revisitedBlock_exceeds_cap` shows what
happens when it does.
-/

namespace BaseEngine

open Machine

/-! ## Runs -/

inductive RiskOp where
  | assess (reading : Reading) (opportunity : Opportunity) (simulation : SimulationResult)
  | recordOutcome (success : Bool)
  | triggerKillSwitch
deriving Repr, DecidableEq

/-- An accepted opportunity with the clock reading it was assessed at. -/
structure Acceptance where
  opportunity : Opportunity
  time : Nat
deriving Repr, DecidableEq

def Acceptance.amount (acceptance : Acceptance) : Nat := acceptance.opportunity.inputAmount

/-- The queue entry of an accepted opportunity. -/
def Acceptance.entry (acceptance : Acceptance) : Nat × Nat :=
  (acceptance.time, acceptance.amount)

/-- The engine's state with the accepted opportunities, oldest first, and
the latest clock reading. -/
structure RiskRun where
  state : RiskState
  accepted : List Acceptance
  clock : Nat

namespace RiskRun

def start : RiskRun := { state := RiskState.default, accepted := [], clock := 0 }

/-- The run after an assessment with the given result. -/
def assessed (run : RiskRun) (reading : Reading) (opportunity : Opportunity)
    (result : RiskDecision × RiskState) : RiskRun :=
  { state := result.2,
    accepted :=
      if result.1.accepted = true then
        run.accepted ++ [⟨opportunity, reading.nowUnixSecs⟩]
      else run.accepted,
    clock := reading.nowUnixSecs }

variable (sha256 : List UInt8 → String) (policy : RiskPolicy)

def step (run : RiskRun) : RiskOp → RiskRun
  | .assess reading opportunity simulation =>
      run.assessed reading opportunity
        (policy.assess sha256 reading opportunity simulation run.state)
  | .recordOutcome success => { run with state := run.state.recordOutcome success }
  | .triggerKillSwitch => { run with state := run.state.triggerKillSwitch }

/-- What a step can do to the run. -/
inductive Stepped (run : RiskRun) : RiskOp → RiskRun → Prop
  | denied {reading opp sim} :
      Stepped run (.assess reading opp sim) { run with clock := reading.nowUnixSecs }
  | deniedDaily {reading opp sim} :
      Stepped run (.assess reading opp sim)
        { run with state := pruneDailyEntries run.state reading.nowUnixSecs,
                   clock := reading.nowUnixSecs }
  | accepted {reading opp sim}
      (hblock : RiskPolicy.exceededCap policy.maxPerBlockNotionalWei
        (saturatingAdd 128 (run.state.blockUsed (blockKey opp.blockContext))
          opp.inputAmount) = none)
      (hdaily : RiskPolicy.exceededCap policy.maxDailyNotionalWei
        (saturatingAdd 128 (pruneDailyEntries run.state reading.nowUnixSecs).dailyTotal
          opp.inputAmount) = none) :
      Stepped run (.assess reading opp sim)
        { state := (pruneDailyEntries run.state reading.nowUnixSecs).commit
            (blockKey opp.blockContext) reading.nowUnixSecs opp.inputAmount,
          accepted := run.accepted ++ [⟨opp, reading.nowUnixSecs⟩],
          clock := reading.nowUnixSecs }
  | recorded {success} :
      Stepped run (.recordOutcome success) { run with state := run.state.recordOutcome success }
  | killed :
      Stepped run .triggerKillSwitch { run with state := run.state.triggerKillSwitch }

theorem step_cases (run : RiskRun) (op : RiskOp) :
    Stepped policy run op (run.step sha256 policy op) := by
  cases op with
  | assess reading opp sim =>
      have hcases := RiskPolicy.assess_cases sha256 policy reading opp sim run.state
      show Stepped policy run _ (run.assessed reading opp _)
      generalize policy.assess sha256 reading opp sim run.state = result at hcases
      cases hcases with
      | denied => exact .denied
      | deniedDaily _ => exact .deniedDaily
      | accepted _ _ _ hblock hdaily => exact .accepted hblock hdaily
  | recordOutcome success => exact .recorded
  | triggerKillSwitch => exact .killed

/-! ## What bookkeeping leaves alone and pruning drops -/

@[simp] theorem blockNotional_recordOutcome (state : RiskState) (success : Bool) :
    (state.recordOutcome success).blockNotional = state.blockNotional := by
  cases success <;> rfl

@[simp] theorem dailyEntries_recordOutcome (state : RiskState) (success : Bool) :
    (state.recordOutcome success).dailyEntries = state.dailyEntries := by
  cases success <;> rfl

@[simp] theorem dailyTotal_recordOutcome (state : RiskState) (success : Bool) :
    (state.recordOutcome success).dailyTotal = state.dailyTotal := by
  cases success <;> rfl

/-- The loop drops a prefix of entries older than the horizon and takes
their notional off the total. -/
theorem pruneLoop_spec (horizon : Nat) : ∀ (entries : List (Nat × Nat)) (total : Nat),
    ∃ gone kept, entries = gone ++ kept ∧ (∀ entry ∈ gone, entry.1 < horizon)
      ∧ pruneLoop saturatingSub horizon entries total = (kept, total - (gone.map Prod.snd).sum)
  | [], total => ⟨[], [], rfl, by simp, rfl⟩
  | (ts, amount) :: rest, total => by
      by_cases hold : ts < horizon
      · obtain ⟨gone, kept, hsplit, hgone, hloop⟩ :=
          pruneLoop_spec horizon rest (saturatingSub total amount)
        refine ⟨(ts, amount) :: gone, kept, by rw [hsplit]; rfl, ?_, ?_⟩
        · intro entry hmem
          rcases List.mem_cons.mp hmem with rfl | hmem
          · exact hold
          · exact hgone entry hmem
        · rw [pruneLoop, if_pos hold, hloop, List.map_cons, List.sum_cons, saturatingSub,
            Nat.sub_sub]
      · refine ⟨[], (ts, amount) :: rest, rfl, by simp, ?_⟩
        rw [pruneLoop, if_neg hold]
        rfl

/-! ## The daily window -/

/-- Readings do not go backwards. -/
def ClockMonotone (run : RiskRun) : RiskOp → Prop
  | .assess reading _ _ => run.clock ≤ reading.nowUnixSecs
  | _ => True

instance (run : RiskRun) : (op : RiskOp) → Decidable (ClockMonotone run op)
  | .assess _ _ _ => inferInstanceAs (Decidable (_ ≤ _))
  | .recordOutcome _ => inferInstanceAs (Decidable True)
  | .triggerKillSwitch => inferInstanceAs (Decidable True)

/-- The accepted opportunities are the dropped ones, older than a day, and
the ones still queued, whose total the engine knows. -/
def DailyLedger (cap : Nat) (run : RiskRun) : Prop :=
  ∃ dropped kept, run.accepted = dropped ++ kept
    ∧ run.state.dailyEntries = kept.map Acceptance.entry
    ∧ run.state.dailyTotal = Window.total Acceptance.amount kept
    ∧ (∀ old ∈ dropped, old.time + secondsPerDay < run.clock)
    ∧ Window.Capped Acceptance.time Acceptance.amount secondsPerDay cap run.accepted

variable {sha256 policy} {run : RiskRun} {cap : Nat}

theorem dailyLedger_start (cap : Nat) : DailyLedger cap start :=
  ⟨[], [], rfl, rfl, rfl, by simp, Window.capped_nil _ _⟩

/-- A later clock reading alone changes nothing. -/
theorem DailyLedger.advance (h : DailyLedger cap run) {now : Nat} (hnow : run.clock ≤ now) :
    DailyLedger cap { run with clock := now } := by
  obtain ⟨dropped, kept, hacc, hentries, htotal, hold, hcapped⟩ := h
  refine ⟨dropped, kept, hacc, hentries, htotal, fun old hmem => ?_, hcapped⟩
  exact Nat.lt_of_lt_of_le (hold old hmem) hnow

theorem sum_map_entry (items : List Acceptance) :
    ((items.map Acceptance.entry).map Prod.snd).sum = Window.total Acceptance.amount items := by
  rw [List.map_map]
  rfl

/-- Pruning moves a prefix of the queue to the dropped ones. -/
theorem DailyLedger.prune (h : DailyLedger cap run) {now : Nat} (hnow : run.clock ≤ now) :
    DailyLedger cap { run with state := pruneDailyEntries run.state now, clock := now } := by
  obtain ⟨dropped, kept, hacc, hentries, htotal, hold, hcapped⟩ := h
  obtain ⟨gone, rest, hsplit, hgone, hloop⟩ := pruneLoop_spec (saturatingSub now secondsPerDay)
    run.state.dailyEntries run.state.dailyTotal
  rw [hentries] at hsplit
  obtain ⟨k₁, k₂, rfl, rfl, rfl⟩ := List.map_eq_append_iff.mp hsplit
  refine ⟨dropped ++ k₁, k₂, ?_, ?_, ?_, ?_, hcapped⟩
  · rw [hacc, List.append_assoc]
  · show (pruneLoop _ _ _ _).1 = _
    rw [hloop]
  · show (pruneLoop _ _ _ _).2 = _
    rw [hloop, htotal, Window.total_append, sum_map_entry]
    show Window.total Acceptance.amount k₁ + Window.total Acceptance.amount k₂
      - Window.total Acceptance.amount k₁ = _
    omega
  · intro old hmem
    show old.time + secondsPerDay < now
    rcases List.mem_append.mp hmem with hmem | hmem
    · have := hold old hmem
      omega
    · have hlt : old.time < saturatingSub now secondsPerDay :=
        hgone old.entry (List.mem_map.mpr ⟨old, hmem, rfl⟩)
      unfold saturatingSub at hlt
      omega

/-- An acceptance under the cap joins the queue and the history. -/
theorem DailyLedger.commit (h : DailyLedger cap run) (hmax : cap < u128Max)
    {opp : Opportunity} (block : Nat)
    (hfits : saturatingAdd 128 run.state.dailyTotal opp.inputAmount ≤ cap) :
    DailyLedger cap
      { run with
          state := run.state.commit block run.clock opp.inputAmount,
          accepted := run.accepted ++ [⟨opp, run.clock⟩] } := by
  obtain ⟨dropped, kept, hacc, hentries, htotal, hold, hcapped⟩ := h
  obtain ⟨hadd, hle⟩ := add_eq_of_saturatingAdd_le hmax hfits
  refine ⟨dropped, kept ++ [⟨opp, run.clock⟩], ?_, ?_, ?_, hold, ?_⟩
  · show run.accepted ++ _ = _
    rw [hacc, List.append_assoc]
  · show run.state.dailyEntries ++ _ = _
    rw [hentries, List.map_append]
    rfl
  · show saturatingAdd 128 run.state.dailyTotal opp.inputAmount = _
    rw [hadd, htotal, Window.total_append, Window.total_cons, Window.total_nil]
    rfl
  · show Window.Capped _ _ _ _ (run.accepted ++ _)
    rw [hacc] at hcapped ⊢
    refine Window.capped_append hcapped hold ?_
    rw [← htotal]
    exact hle

/-- **Step lemma** for the daily window. -/
theorem dailyLedger_step (hcap : policy.maxDailyNotionalWei = some cap) (hmax : cap < u128Max)
    (op : RiskOp) (h : DailyLedger cap run) (hclock : ClockMonotone run op) :
    DailyLedger cap (run.step sha256 policy op) := by
  have hcases := step_cases sha256 policy run op
  generalize run.step sha256 policy op = run' at hcases
  cases hcases with
  | denied => exact h.advance hclock
  | deniedDaily => exact h.prune hclock
  | accepted _ hdaily =>
      exact (h.prune hclock).commit hmax _
        (RiskPolicy.exceededCap_eq_none_iff.mp hdaily cap hcap)
  | recorded =>
      obtain ⟨dropped, kept, hacc, hentries, htotal, hold, hcapped⟩ := h
      refine ⟨dropped, kept, hacc, ?_, ?_, hold, hcapped⟩
      · exact (dailyEntries_recordOutcome ..).trans hentries
      · exact (dailyTotal_recordOutcome ..).trans htotal
  | killed => exact h

/-- **The rolling daily cap.** With non-decreasing clock readings, the
notional accepted in any window of a day is at most the cap, in unbounded
integers. -/
theorem dailyCap_of_monotone (hcap : policy.maxDailyNotionalWei = some cap)
    (hmax : cap < u128Max) {ops : List RiskOp}
    (hclock : Run.Along (step sha256 policy) ClockMonotone start ops) (s : Nat) :
    Window.totalIn Acceptance.time Acceptance.amount s (s + secondsPerDay)
      (Run.final (step sha256 policy) start ops).accepted ≤ cap := by
  have hledger : DailyLedger cap (Run.final (step sha256 policy) start ops) :=
    Run.inv_final (fun _ op h hP => dailyLedger_step hcap hmax op h hP)
      (dailyLedger_start cap) hclock
  obtain ⟨_, _, _, _, _, _, hcapped⟩ := hledger
  exact hcapped s

/-- A policy with the two caps and no other gate but the profit floor. -/
def cappedPolicy (perBlock daily : Option Nat) : RiskPolicy :=
  { minNetProfitWei := 1, minProfitBps := 0, maxTradeNotionalWei := none,
    maxPerBlockNotionalWei := perBlock, maxDailyNotionalWei := daily,
    maxSlippageBps := 10000, tokenAllowlist := ∅, tokenDenylist := ∅,
    maxConsecutiveReverts := 0, killSwitchPath := none }

/-- Assess a loop over 100 wei in the block, at the time. -/
def assessInBlock (block now : Nat) : RiskOp :=
  .assess { nowUnixSecs := now, killSwitchFile := false }
    { id := "loop", kind := .twoLegLoop, blockContext := .block block none,
      settlementToken := "0xweth", inputAmount := 100, expectedOutputAmount := 120,
      expectedNetProfit := 20, route := [], triggerTxHash := none }
    { opportunityId := "loop", accepted := true, expectedGrossProfit := 20,
      expectedNetProfit := 10, gasEstimate := 180000, gasCostWei := 5, l1DataFee := 5,
      notes := [] }

/-- Two loops of 100 wei a day and a second apart, under a cap of 150. -/
def dayApart : List RiskOp := [assessInBlock 1 1000, assessInBlock 2 87401]

/-- Both are accepted, and the day from the first one holds no more than
the cap. -/
theorem dayApart_dailyCap :
    (Run.final (step Sha256.hexDigest (cappedPolicy none (some 150))) start
        dayApart).accepted.length = 2
      ∧ Window.totalIn Acceptance.time Acceptance.amount 1000 (1000 + secondsPerDay)
        (Run.final (step Sha256.hexDigest (cappedPolicy none (some 150))) start
          dayApart).accepted ≤ 150 :=
  ⟨by decide, dailyCap_of_monotone rfl (by decide) (by decide) 1000⟩

/-! ## The per-block cell -/

/-- The opportunity was detected in the block, not in a pre-confirmation. -/
def inBlock (block : Nat) (acceptance : Acceptance) : Bool :=
  match acceptance.opportunity.blockContext with
  | .block number _ => number == block
  | .pending => false

/-- The notional accepted in a block. -/
def blockTotal (block : Nat) (run : RiskRun) : Nat :=
  Window.total Acceptance.amount (run.accepted.filter (inBlock block))

/-- The engine does not come back to a bucket it has left: its cell is on
the bucket of the opportunity, or nothing of that block was accepted yet.
And the sum the cell would hold is a `u128`, unless the cap is below the
largest one anyway. -/
def BlockStays (cap : Nat) (run : RiskRun) : RiskOp → Prop
  | .assess _ opp _ =>
      (run.state.blockNotional.map Prod.fst = some (blockKey opp.blockContext)
        ∨ ∀ acceptance ∈ run.accepted,
            inBlock (blockKey opp.blockContext) acceptance = false)
      ∧ (cap < u128Max
        ∨ run.state.blockUsed (blockKey opp.blockContext) + opp.inputAmount ≤ u128Max)
  | _ => True

instance (cap : Nat) (run : RiskRun) : (op : RiskOp) → Decidable (BlockStays cap run op)
  | .assess _ _ _ => inferInstanceAs (Decidable ((_ ∨ _) ∧ (_ ∨ _)))
  | .recordOutcome _ => inferInstanceAs (Decidable True)
  | .triggerKillSwitch => inferInstanceAs (Decidable True)

/-- No block exceeds the cap, and the cell counts all of its own block. -/
def BlockLedger (cap : Nat) (run : RiskRun) : Prop :=
  (∀ block, blockTotal block run ≤ cap)
    ∧ ∀ block used, run.state.blockNotional = some (block, used) → blockTotal block run ≤ used

theorem blockLedger_start (cap : Nat) : BlockLedger cap start :=
  ⟨fun _ => Nat.zero_le _, fun _ _ h => by cases h⟩

/-- Only the history and the cell matter. -/
theorem BlockLedger.congr (h : BlockLedger cap run) {run' : RiskRun}
    (hacc : run'.accepted = run.accepted)
    (hcell : run'.state.blockNotional = run.state.blockNotional) : BlockLedger cap run' := by
  unfold BlockLedger blockTotal at *
  rwa [hacc, hcell]

theorem blockTotal_of_forall_not {block : Nat}
    (h : ∀ acceptance ∈ run.accepted, inBlock block acceptance = false) :
    blockTotal block run = 0 := by
  have hnil : run.accepted.filter (inBlock block) = [] :=
    List.filter_eq_nil_iff.mpr fun a ha => by simp [h a ha]
  rw [blockTotal, hnil, Window.total_nil]

/-- What the cell says about a bucket covers what was accepted there. -/
theorem BlockLedger.blockTotal_le_blockUsed (h : BlockLedger cap run) {block : Nat}
    (hstays : run.state.blockNotional.map Prod.fst = some block
      ∨ ∀ acceptance ∈ run.accepted, inBlock block acceptance = false) :
    blockTotal block run ≤ run.state.blockUsed block := by
  rcases hstays with hcell | hnone
  · obtain ⟨⟨b, used⟩, hsome, rfl⟩ := Option.map_eq_some_iff.mp hcell
    have hle := h.2 b used hsome
    simpa [RiskState.blockUsed, hsome] using hle
  · rw [blockTotal_of_forall_not hnone]
    exact Nat.zero_le _

theorem inBlock_blockKey_of_inBlock {acceptance : Acceptance} {block : Nat}
    (h : inBlock block acceptance = true) :
    blockKey acceptance.opportunity.blockContext = block := by
  unfold inBlock at h
  split at h
  · next number hash hctx =>
      rw [hctx]
      simpa [blockKey] using h
  · cases h

/-- An acceptance adds its amount to its own block at most. -/
theorem blockTotal_append_le (block : Nat) (acceptance : Acceptance) {run' : RiskRun}
    (hacc : run'.accepted = run.accepted ++ [acceptance]) :
    blockTotal block run' ≤ blockTotal block run
        + (if blockKey acceptance.opportunity.blockContext = block then acceptance.amount
          else 0) := by
  unfold blockTotal
  rw [hacc, List.filter_append, Window.total_append]
  by_cases hin : inBlock block acceptance = true
  · rw [List.filter_cons_of_pos hin, if_pos (inBlock_blockKey_of_inBlock hin)]
    simp
  · rw [List.filter_cons_of_neg hin]
    simp

/-- An acceptance whose block's new total the cell covers, under the cap. -/
theorem BlockLedger.commit (h : BlockLedger cap run) {run' : RiskRun} (acceptance : Acceptance)
    {block used : Nat} (hacc : run'.accepted = run.accepted ++ [acceptance])
    (hkey : blockKey acceptance.opportunity.blockContext = block)
    (hcell : run'.state.blockNotional = some (block, used))
    (hused : blockTotal block run + acceptance.amount ≤ used) (hle : used ≤ cap) :
    BlockLedger cap run' := by
  have hown : blockTotal block run' ≤ used := by
    have := blockTotal_append_le block acceptance hacc
    rw [if_pos hkey] at this
    omega
  constructor
  · intro b
    by_cases hb : blockKey acceptance.opportunity.blockContext = b
    · obtain rfl := hkey.symm.trans hb
      omega
    · have := blockTotal_append_le b acceptance hacc
      rw [if_neg hb] at this
      have := h.1 b
      omega
  · intro b u hbu
    rw [hcell] at hbu
    cases hbu
    exact hown

/-- **Step lemma** for the per-block cell. -/
theorem blockLedger_step (hcap : policy.maxPerBlockNotionalWei = some cap) (op : RiskOp)
    (h : BlockLedger cap run) (hstays : BlockStays cap run op) :
    BlockLedger cap (run.step sha256 policy op) := by
  have hcases := step_cases sha256 policy run op
  generalize run.step sha256 policy op = run' at hcases
  cases hcases with
  | denied => exact h.congr rfl rfl
  | deniedDaily => exact h.congr rfl rfl
  | recorded => exact h.congr rfl (blockNotional_recordOutcome ..)
  | killed => exact h.congr rfl rfl
  | @accepted reading opp sim hblock hdaily =>
      obtain ⟨hcell, hfits⟩ := hstays
      have hle := RiskPolicy.exceededCap_eq_none_iff.mp hblock cap hcap
      have hused := h.blockTotal_le_blockUsed hcell
      -- the cell holds the exact sum: either the cap keeps it from clamping, or it fits
      have hexact : saturatingAdd 128 (run.state.blockUsed (blockKey opp.blockContext))
          opp.inputAmount
          = run.state.blockUsed (blockKey opp.blockContext) + opp.inputAmount := by
        rcases hfits with hmax | hfit
        · exact (add_eq_of_saturatingAdd_le hmax hle).1
        · refine saturatingAdd_of_lt ?_
          unfold u128Max at hfit
          omega
      refine h.commit ⟨opp, reading.nowUnixSecs⟩ rfl rfl rfl ?_ hle
      show _ ≤ saturatingAdd 128 (run.state.blockUsed _) _
      rw [hexact]
      exact Nat.add_le_add_right hused _

/-- **The per-block cap, without returning.** In every state of a run that
never comes back to a block it has left, the notional accepted in each
block is at most the cap. -/
theorem blockCap_of_stays (hcap : policy.maxPerBlockNotionalWei = some cap)
    {ops pre : List RiskOp} (hstays : Run.Along (step sha256 policy) (BlockStays cap) start ops)
    (hpre : pre <+: ops) (block : Nat) :
    blockTotal block (Run.final (step sha256 policy) start pre) ≤ cap := by
  have hledger : BlockLedger cap (Run.final (step sha256 policy) start pre) :=
    Run.inv_of_prefix (fun _ op h hP => blockLedger_step hcap op h hP)
      (blockLedger_start cap) hstays hpre
  exact hledger.1 block

/-- Two blocks one after the other, under a cap of 150. -/
theorem twoBlocks_blockCap :
    blockTotal 1 (Run.final (step Sha256.hexDigest (cappedPolicy (some 150) none)) start
      [assessInBlock 1 0, assessInBlock 2 0]) ≤ 150 :=
  blockCap_of_stays rfl (by decide) (List.prefix_refl [assessInBlock 1 0, assessInBlock 2 0]) 1

/-- Block 1, block 2 and block 1 again: all three loops are accepted, and
block 1 holds 200 wei under a cap of 150. -/
theorem revisitedBlock_exceeds_cap :
    (cappedPolicy (some 150) none).maxPerBlockNotionalWei = some 150
      ∧ (Run.final (step Sha256.hexDigest (cappedPolicy (some 150) none)) start
        [assessInBlock 1 0, assessInBlock 2 0, assessInBlock 1 0]).accepted.length = 3
      ∧ blockTotal 1 (Run.final (step Sha256.hexDigest (cappedPolicy (some 150) none)) start
        [assessInBlock 1 0, assessInBlock 2 0, assessInBlock 1 0]) = 200 := by
  refine ⟨rfl, ?_, ?_⟩ <;> decide

end RiskRun

end BaseEngine
