import BaseEngine.EndToEnd
import BaseEngine.Pipeline
import BaseEngine.RiskCaps

/-!
# The daily limit of canary mode

In canary mode a request is allowed when the exposure of the day, summed
from the database, leaves room for it under `EXECUTION_CANARY_MAX_DAILY_WEI`.
A run of outputs carries along what was handed to the transport
(`CanaryRun`).

`canaryDaily_of_counted`: the limit holds on every day when something counts
what is submitted, the database or a daily cap of the risk engine that is no
larger. The day is that of the clock that counts, which is the day of the
hand-over unless midnight falls between them. Validation asks for neither:
`unstored_exceeds_limit` is a run of an accepted configuration without a
database.
-/

namespace BaseEngine

open Fallible Machine Text

/-! ## Runs -/

/-- The notional of the attempts with their time on a UTC day. -/
def dayTotal (time : Handover → Nat) (day : Nat) (submitted : List Handover) : Nat :=
  Window.totalIn time Handover.notional (day * secondsPerDay)
    (day * secondsPerDay + (secondsPerDay - 1)) submitted

/-- Decision, row and hand-over fall on one UTC day. -/
structure Handover.SameDay (handover : Handover) : Prop where
  decided : handover.decidedAt / secondsPerDay = handover.handedAt / secondsPerDay
  inserted : handover.insertedAt / secondsPerDay = handover.handedAt / secondsPerDay

instance (handover : Handover) : Decidable handover.SameDay :=
  decidable_of_iff
    (handover.decidedAt / secondsPerDay = handover.handedAt / secondsPerDay
      ∧ handover.insertedAt / secondsPerDay = handover.handedAt / secondsPerDay)
    ⟨fun h => ⟨h.1, h.2⟩, fun h => ⟨h.decided, h.inserted⟩⟩

theorem day_iff {day time : Nat} :
    day * secondsPerDay ≤ time ∧ time ≤ day * secondsPerDay + (secondsPerDay - 1)
      ↔ time / secondsPerDay = day := by
  unfold secondsPerDay
  omega

/-- Times on the same day give the same total. -/
theorem dayTotal_congr {time time' : Handover → Nat} {submitted : List Handover}
    (h : ∀ handover ∈ submitted, time handover / secondsPerDay = time' handover / secondsPerDay)
    (day : Nat) : dayTotal time day submitted = dayTotal time' day submitted := by
  unfold dayTotal Window.totalIn
  refine congrArg (fun items : List Handover => (items.map Handover.notional).sum)
    (List.filter_congr fun handover hmem => decide_eq_decide.mpr ?_)
  rw [day_iff, day_iff, h handover hmem]

structure CanaryRun where
  risk : RiskRun
  storage : Storage
  submitted : List Handover

/-- The database, with the rows it has from before. -/
def StorageConfig.connect (config : StorageConfig) (rows : List AttemptRow) : Storage :=
  if config.databaseUrl.isSome then some rows else none

/-- The time by which a submission is counted: that of its row, and without a
database that of its assessment. -/
def StorageConfig.countedAt (config : StorageConfig) : Handover → Nat :=
  if config.databaseUrl.isSome then Handover.insertedAt else Handover.decidedAt

namespace CanaryRun

variable (sha256 : List UInt8 → String) (codec : AlloyCodec) (config : AppConfig)
  (policy : RiskPolicy)

def start (storage : Storage) : CanaryRun := { risk := RiskRun.start, storage, submitted := [] }

/-- The run after an output with the given answers was handled. -/
def record (run : CanaryRun) (answers : Answers) (output : Option DecisionPipelineOutput)
    (handled : Handled Storage) : CanaryRun :=
  { risk :=
      match output with
      | none => run.risk
      | some out =>
          { run.risk.step sha256 policy
              (.assess answers.reading out.opportunity out.simulation) with state := handled.risk },
    storage := handled.storage,
    submitted := run.submitted ++ handled.handed.map answers.handover }

/-- One call of `maybeLogDecisionOutput`. -/
def step (run : CanaryRun) (op : Answers × Option DecisionPipelineOutput) : CanaryRun :=
  run.record sha256 policy op.1 op.2
    (maybeLogDecisionOutput op.1.statements sha256 codec config policy op.1.toOutside op.2
      run.risk.state run.storage)

/-- Readings do not go backwards. -/
def ClockMonotone (run : CanaryRun) (op : Answers × Option DecisionPipelineOutput) : Prop :=
  run.risk.clock ≤ op.1.reading.nowUnixSecs

variable {sha256 codec config policy} {run : CanaryRun} {limit cap : Nat}

/-! ## Counted by the database -/

/-- The allowed notional in the rows of a UTC day. -/
def rowsOnDay (day : Nat) (rows : List AttemptRow) : Nat :=
  Window.totalIn AttemptRow.observedAt AttemptRow.requestedNotionalWei (day * secondsPerDay)
    (day * secondsPerDay + (secondsPerDay - 1)) (rows.filter AttemptRow.submissionAllowed)

/-- Everything handed over is in the rows, and under the limit. -/
def Stored (limit : Nat) (storage : Storage) (submitted : List Handover) : Prop :=
  ∃ rows, storage = some rows
    ∧ ∀ day, dayTotal Handover.insertedAt day submitted ≤ rowsOnDay day rows
      ∧ dayTotal Handover.insertedAt day submitted ≤ limit

/-- The exposure counts all of the day, and what is dated later. So it counts
the day of a row that is inserted after it was summed, across midnight too. -/
theorem rowsOnDay_le_exposure (rows : List AttemptRow) {now later : Nat} (h : now ≤ later) :
    rowsOnDay (later / secondsPerDay) rows ≤ exposure rows now := by
  have hstart : dayStart now ≤ later / secondsPerDay * secondsPerDay :=
    Nat.mul_le_mul_right _ (Nat.div_le_div_right h)
  unfold rowsOnDay Window.totalIn
  rw [List.filter_filter]
  refine Window.total_filter_mono (fun row hrow => ?_) rows
  rw [Bool.and_eq_true, decide_eq_true_eq] at hrow ⊢
  exact ⟨hrow.2, hstart.trans hrow.1.1⟩

theorem rowsOnDay_append (day : Nat) (rows : List AttemptRow) (row : AttemptRow) :
    rowsOnDay day rows ≤ rowsOnDay day (rows ++ [row]) := by
  unfold rowsOnDay
  rw [List.filter_append, Window.totalIn_append]
  exact Nat.le_add_right _ _

/-- A row more does not hurt. -/
theorem Stored.append_row {storage : Storage} {submitted : List Handover}
    (h : Stored limit storage submitted) (row : AttemptRow) :
    Stored limit (storage.map (· ++ [row])) submitted := by
  obtain ⟨rows, rfl, hdays⟩ := h
  refine ⟨rows ++ [row], rfl, fun day => ⟨?_, (hdays day).2⟩⟩
  exact Nat.le_trans (hdays day).1 (rowsOnDay_append day rows row)

/-- A submission that is stored first and fits under the limit with an exposure
that was summed before. -/
theorem Stored.submit {rows : List AttemptRow} {submitted : List Handover}
    (h : Stored limit (some rows) submitted) {row : AttemptRow} {handover : Handover} {now : Nat}
    (hallowed : row.submissionAllowed = true) (htime : handover.insertedAt = row.observedAt)
    (hnotional : handover.notional = row.requestedNotionalWei) (hnow : now ≤ row.observedAt)
    (hfits : exposure rows now + row.requestedNotionalWei ≤ limit) :
    Stored limit (some (rows ++ [row])) (submitted ++ [handover]) := by
  obtain ⟨_, hrows, hdays⟩ := h
  obtain rfl := Option.some.inj hrows
  refine ⟨rows ++ [row], rfl, fun day => ?_⟩
  have hday := hdays day
  unfold dayTotal rowsOnDay at hday ⊢
  rw [List.filter_append, List.filter_cons_of_pos hallowed, List.filter_nil,
    Window.totalIn_append, Window.totalIn_append]
  have hitem : Window.totalIn Handover.insertedAt Handover.notional (day * secondsPerDay)
        (day * secondsPerDay + (secondsPerDay - 1)) [handover]
      = Window.totalIn AttemptRow.observedAt AttemptRow.requestedNotionalWei (day * secondsPerDay)
        (day * secondsPerDay + (secondsPerDay - 1)) [row] := by
    simp only [Window.totalIn, List.filter_cons, List.filter_nil, htime]
    split <;> simp [hnotional]
  rw [hitem]
  by_cases hin : day * secondsPerDay ≤ row.observedAt
      ∧ row.observedAt ≤ day * secondsPerDay + (secondsPerDay - 1)
  · have hexposure := rowsOnDay_le_exposure rows hnow
    rw [day_iff.mp hin, rowsOnDay] at hexposure
    rw [Window.totalIn_singleton_of_mem hin]
    omega
  · rw [Window.totalIn_singleton_of_not_mem hin]
    exact hday

theorem todaysSubmittableNotionalWei_some {rows : List AttemptRow} {answers : Answers}
    {current : Nat} (h : todaysSubmittableNotionalWei (some rows) answers = .ok current) :
    current = exposure rows answers.exposureAt := by
  obtain ⟨_, -, h⟩ := bind_eq_ok_iff.mp h
  dsimp only at h
  split_ifs at h with hfits
  exact (Except.ok.inj h).symm

/-- **Step lemma** with a database. -/
theorem stored_step (hmode : config.execution.mode = .canary)
    (hlimit : config.execution.canaryMaxDailyWei.bind (parseUnsigned 10 128) = some limit)
    (h : Stored limit run.storage run.submitted)
    (op : Answers × Option DecisionPipelineOutput) :
    Stored limit (run.step sha256 codec config policy op).storage
      (run.step sha256 codec config policy op).submitted := by
  obtain ⟨answers, output⟩ := op
  have hstep := (@handling_maybeLogDecisionOutput _ answers.statements sha256 config policy
    answers.toOutside codec output run.risk.state run.storage).outputStep
  unfold step record
  dsimp only
  generalize maybeLogDecisionOutput answers.statements sha256 codec config policy
    answers.toOutside output run.risk.state run.storage = handled at hstep
  cases hstep with
  | idle _ => simpa [Handled.quiet] using h
  | withheld _ hhanded _ hstorage =>
      rw [hhanded, List.map_nil, List.append_nil]
      rcases hstorage with hstorage | ⟨row, hstorage⟩
      · rw [hstorage]
        exact h
      · rw [hstorage]
        exact h.append_row row
  | handed hout hhanded _ _ hnotional hallowed hcurrent hpolicy _ hstorage =>
      obtain ⟨rows, hrows, -⟩ := id h
      rw [hstorage, hhanded]
      rw [hrows] at h hcurrent ⊢
      obtain rfl := todaysSubmittableNotionalWei_some hcurrent
      have hfits := canary_of_submissionPolicy hmode hlimit hpolicy
      exact h.submit hallowed rfl rfl answers.ordered hfits

/-! ## Counted by the risk engine -/

/-- Everything handed over was accepted by the risk engine, whose ledger is
in order. -/
structure RiskCounted (cap : Nat) (run : CanaryRun) : Prop where
  ledger : RiskRun.DailyLedger cap run.risk
  accepted : ∀ lo hi, Window.totalIn Handover.decidedAt Handover.notional lo hi run.submitted
    ≤ Window.totalIn Acceptance.time Acceptance.amount lo hi run.risk.accepted

theorem riskCounted_start (storage : Storage) (cap : Nat) : RiskCounted cap (start storage) where
  ledger := RiskRun.dailyLedger_start cap
  accepted _ _ := Nat.le_refl 0

/-- An outcome that may have been recorded does not touch the ledger. -/
theorem dailyLedger_of_riskAfter {risk : RiskRun} (h : RiskRun.DailyLedger cap risk)
    {after : RiskState} (hafter : RiskAfter risk.state after)
    (hcap : policy.maxDailyNotionalWei = some cap) (hmax : cap < u128Max)
    (sha256 : List UInt8 → String) : RiskRun.DailyLedger cap { risk with state := after } := by
  rcases hafter with rfl | ⟨success, rfl⟩
  · exact h
  · exact @RiskRun.dailyLedger_step sha256 policy risk cap hcap hmax (.recordOutcome success) h
      trivial

theorem accepted_step (risk : RiskRun) (reading : Reading) (opp : Opportunity)
    (sim : SimulationResult) (lo hi : Nat) :
    Window.totalIn Acceptance.time Acceptance.amount lo hi risk.accepted
      ≤ Window.totalIn Acceptance.time Acceptance.amount lo hi
        (risk.step sha256 policy (.assess reading opp sim)).accepted := by
  show _ ≤ Window.totalIn Acceptance.time Acceptance.amount lo hi (ite _ _ _)
  split
  · rw [Window.totalIn_append]
    exact Nat.le_add_right _ _
  · exact Nat.le_refl _

/-- **Step lemma** with a daily cap of the risk engine. -/
theorem riskCounted_step (hcap : policy.maxDailyNotionalWei = some cap) (hmax : cap < u128Max)
    (h : RiskCounted cap run) {op : Answers × Option DecisionPipelineOutput}
    (hclock : ClockMonotone run op) :
    RiskCounted cap (run.step sha256 codec config policy op) := by
  obtain ⟨answers, output⟩ := op
  have hstep := (@handling_maybeLogDecisionOutput _ answers.statements sha256 config policy
    answers.toOutside codec output run.risk.state run.storage).outputStep
  unfold step record
  dsimp only
  generalize maybeLogDecisionOutput answers.statements sha256 codec config policy
    answers.toOutside output run.risk.state run.storage = handled at hstep
  cases hstep with
  | idle hout =>
      subst hout
      exact ⟨h.ledger, by simpa [Handled.quiet] using h.accepted⟩
  | @withheld out _ hout hhanded hrisk _ =>
      subst hout
      have hledger := @RiskRun.dailyLedger_step sha256 policy run.risk cap hcap hmax
        (.assess answers.reading out.opportunity out.simulation) h.ledger hclock
      refine ⟨dailyLedger_of_riskAfter hledger hrisk hcap hmax sha256, fun lo hi => ?_⟩
      rw [hhanded, List.map_nil, List.append_nil]
      exact Nat.le_trans (h.accepted lo hi) (accepted_step ..)
  | @handed out attempt _ _ _ hout hhanded haccepted _ hnotional _ _ _ hrisk _ =>
      subst hout
      have hledger := @RiskRun.dailyLedger_step sha256 policy run.risk cap hcap hmax
        (.assess answers.reading out.opportunity out.simulation) h.ledger hclock
      refine ⟨dailyLedger_of_riskAfter hledger hrisk hcap hmax sha256, fun lo hi => ?_⟩
      -- the acceptance and the submission have the same time and amount
      show _ ≤ Window.totalIn Acceptance.time Acceptance.amount lo hi (ite _ _ _)
      rw [if_pos haccepted, Window.totalIn_append, hhanded, Window.totalIn_append, List.map_cons,
        List.map_nil]
      refine Nat.add_le_add (h.accepted lo hi) (Nat.le_of_eq ?_)
      simp only [Window.totalIn, List.filter_cons, List.filter_nil, Outside.handover]
      split <;> simp [Handover.notional, Acceptance.amount, hnotional]

/-! ## The limit -/

/-- The daily cap of the risk engine is a number no larger than the limit. -/
def RiskCapBelow (config : AppConfig) : Prop :=
  ∃ cap limit, config.risk.maxDailyNotionalWei.bind (parseUnsigned 10 128) = some cap
    ∧ config.execution.canaryMaxDailyWei.bind (parseUnsigned 10 128) = some limit
    ∧ cap ≤ limit ∧ cap < u128Max

/-- Something counts what is submitted on a day. -/
def CountsDaily (sha256 : List UInt8 → String) (codec : AlloyCodec) (config : AppConfig)
    (policy : RiskPolicy) (rows : List AttemptRow)
    (ops : List (Answers × Option DecisionPipelineOutput)) : Prop :=
  config.storage.databaseUrl.isSome = true
    ∨ (RiskCapBelow config ∧ Run.Along (step sha256 codec config policy) ClockMonotone
      (start (config.storage.connect rows)) ops)

theorem maxDaily_of_ofConfig {config : RiskConfig} {policy : RiskPolicy}
    (h : RiskPolicy.OfConfig config policy)
    (hcap : config.maxDailyNotionalWei.bind (parseUnsigned 10 128) = some cap) :
    policy.maxDailyNotionalWei = some cap := by
  obtain ⟨raw, hraw, hparse⟩ := Option.bind_eq_some_iff.mp hcap
  have hdaily := h.maxDaily
  have hamount : (some raw).mapM parseAmount = .ok (some cap) := by
    simp [parseAmount_eq_ok_iff.mpr hparse]
  rw [hraw, hamount] at hdaily
  exact (Except.ok.inj hdaily).symm

/-- The submissions of a day, by the time that counts them. -/
theorem countedTotal_le {rows : List AttemptRow}
    {ops : List (Answers × Option DecisionPipelineOutput)}
    (hmode : config.execution.mode = .canary)
    (hlimit : config.execution.canaryMaxDailyWei.bind (parseUnsigned 10 128) = some limit)
    (hpolicy : RiskPolicy.fromConfig config.risk = .ok policy)
    (hcounts : CountsDaily sha256 codec config policy rows ops) (day : Nat) :
    dayTotal config.storage.countedAt day (Run.final (step sha256 codec config policy)
      (start (config.storage.connect rows)) ops).submitted ≤ limit := by
  unfold StorageConfig.countedAt
  by_cases hstored : config.storage.databaseUrl.isSome = true
  · rw [if_pos hstored]
    have hstart : Stored limit (start (config.storage.connect rows)).storage [] := by
      refine ⟨rows, ?_, fun day => ⟨Nat.zero_le _, Nat.zero_le _⟩⟩
      show (if _ then _ else _) = _
      rw [if_pos hstored]
    have hfinal := @Run.inv_final _ _ (step sha256 codec config policy) (fun _ _ => True)
      (fun run => Stored limit run.storage run.submitted)
      (fun _ op h _ => stored_step hmode hlimit h op) ops _ hstart
      (Run.along_of_forall fun _ _ => trivial)
    obtain ⟨_, -, hdays⟩ := hfinal
    exact (hdays day).2
  · rw [if_neg hstored]
    obtain ⟨⟨cap, limit', hcap, hlimit', hle, hmax⟩, hclock⟩ :=
      hcounts.resolve_left hstored
    obtain rfl := Option.some.inj (hlimit.symm.trans hlimit')
    have hdaily := maxDaily_of_ofConfig (RiskPolicy.ofConfig_of_fromConfig hpolicy) hcap
    have hfinal := @Run.inv_final _ _ (step sha256 codec config policy) ClockMonotone
      (RiskCounted cap) (fun _ _ h hP => riskCounted_step hdaily hmax h hP) ops _
      (riskCounted_start _ cap) hclock
    obtain ⟨_, _, -, -, -, -, hcapped⟩ := hfinal.ledger
    calc dayTotal Handover.decidedAt day _ ≤ _ := hfinal.accepted _ _
      _ ≤ _ := Window.totalIn_mono (Nat.le_refl _) (by omega) _
      _ ≤ cap := hcapped (day * secondsPerDay)
      _ ≤ limit := hle

/-- Whatever counts the submissions, they fall on the day of their hand-over
unless midnight is in between. -/
theorem countedAt_sameDay (config : StorageConfig) {handover : Handover} (h : handover.SameDay) :
    config.countedAt handover / secondsPerDay = handover.handedAt / secondsPerDay := by
  unfold StorageConfig.countedAt
  split_ifs
  · exact h.inserted
  · exact h.decided

/-- **The daily limit of canary mode.** With a database, or with a daily cap
of the risk engine under the limit and a clock that does not go back, what a
run hands to the transport and counts for one UTC day is at most the limit;
and so is what it hands over on one UTC day, as long as midnight does not fall
between the decision, the row and the hand-over of an attempt. -/
theorem canaryDaily_of_counted {rows : List AttemptRow}
    {ops : List (Answers × Option DecisionPipelineOutput)} (hvalid : config.validate = .ok ())
    (hmode : config.execution.mode = .canary)
    (hpolicy : RiskPolicy.fromConfig config.risk = .ok policy)
    (hcounts : CountsDaily sha256 codec config policy rows ops) :
    ∃ limit, config.execution.canaryMaxDailyWei.bind (parseUnsigned 10 128) = some limit
      ∧ (∀ day, dayTotal config.storage.countedAt day (Run.final (step sha256 codec config policy)
        (start (config.storage.connect rows)) ops).submitted ≤ limit)
      ∧ ((∀ handover ∈ (Run.final (step sha256 codec config policy)
          (start (config.storage.connect rows)) ops).submitted, handover.SameDay) →
        ∀ day, dayTotal Handover.handedAt day (Run.final (step sha256 codec config policy)
          (start (config.storage.connect rows)) ops).submitted ≤ limit) := by
  obtain ⟨-, limit, -, hlimit⟩ :=
    ExecutionConfig.limits_of_validate (AppConfig.sections_of_validate hvalid).2.2 hmode
  have hcounted := countedTotal_le hmode hlimit hpolicy hcounts
  refine ⟨limit, hlimit, hcounted, fun hsame day => ?_⟩
  rw [← dayTotal_congr fun handover hmem => countedAt_sameDay config.storage (hsame handover hmem)]
  exact hcounted day

/-- A canary configuration with a limit of one and a half sample loops a day
and a larger cap of the risk engine. -/
def canaryConfig (databaseUrl : Option String) : AppConfig :=
  { ingest := { channel := .ws, wsUrl := some "wss://node" },
    rpc := { httpUrl := some "https://node" },
    signer := { keystorePath := some "/run/keystore.json" },
    decision := {},
    risk := { maxTradeNotionalWei := some "1000000", maxDailyNotionalWei := some "5000000" },
    execution :=
      { mode := .canary, routerAddress := sampleExecution.routerAddress,
        canaryMaxTradeWei := some "1000000", canaryMaxDailyWei := some "1500000",
        planDeadlineSecs := 30, useFlashloan := true },
    storage := { databaseUrl }, metrics := {}, discovery := {} }

def canaryPolicy : RiskPolicy :=
  { minNetProfitWei := 0, minProfitBps := 0, maxTradeNotionalWei := some 1000000,
    maxPerBlockNotionalWei := none, maxDailyNotionalWei := some 5000000, maxSlippageBps := 100,
    tokenAllowlist := ∅, tokenDenylist := ∅, maxConsecutiveReverts := 3, killSwitchPath := none }

/-- Every query succeeds, and the transaction is included. -/
def obligingAnswers : Answers :=
  { reading := ⟨1700000000, false⟩, exposureAt := 1700000000, insertedAt := 1700000000,
    ordered := Nat.le_refl _, handedAt := 1700000001, simulationClock := .ok 1700000000,
    submissionClock := .ok 1700000000, simulate := some (.ok ()), submit := some (.ok "0xtx"),
    awaitReceipt := .ok (some
      { requestId := sampleOpportunity.id, txHash := "0xtx", blockNumber := some 1,
        success := true, gasUsed := none, effectiveGasPrice := none, l1FeePaid := none,
        revertReason := none }),
    loadExposure := .ok (), write := fun _ => .ok () }

/-- The sample loop is found twice on one day. -/
def twoLoops : List (Answers × Option DecisionPipelineOutput) :=
  List.replicate 2 (obligingAnswers, some ⟨none, sampleOpportunity, sampleSimulation⟩)

theorem storedLoops_within_limit :
    ∃ limit, (canaryConfig (some "postgres://db")).execution.canaryMaxDailyWei.bind
        (parseUnsigned 10 128) = some limit
      ∧ ∀ day, dayTotal Handover.handedAt day (Run.final
        (step Sha256.hexDigest sampleCodec (canaryConfig (some "postgres://db")) canaryPolicy)
        (start ((canaryConfig (some "postgres://db")).storage.connect [])) twoLoops).submitted
          ≤ limit := by
  obtain ⟨limit, hlimit, -, hdays⟩ := @canaryDaily_of_counted Sha256.hexDigest sampleCodec
    (canaryConfig (some "postgres://db")) canaryPolicy [] twoLoops (by decide) rfl
    (by decide +kernel) (Or.inl rfl)
  exact ⟨limit, hlimit, hdays (by decide +kernel)⟩

/-- The configuration passes validation without a database, and both loops
are handed over on the day they are decided: 2000000 under a limit of 1500000. -/
theorem unstored_exceeds_limit :
    (canaryConfig none).validate = .ok ()
      ∧ RiskPolicy.fromConfig (canaryConfig none).risk = .ok canaryPolicy
      ∧ (canaryConfig none).execution.canaryMaxDailyWei.bind (parseUnsigned 10 128)
        = some 1500000
      ∧ (∀ handover ∈ (Run.final
          (step Sha256.hexDigest sampleCodec (canaryConfig none) canaryPolicy)
          (start ((canaryConfig none).storage.connect [])) twoLoops).submitted, handover.SameDay)
      ∧ dayTotal Handover.handedAt 19675 (Run.final
          (step Sha256.hexDigest sampleCodec (canaryConfig none) canaryPolicy)
          (start ((canaryConfig none).storage.connect [])) twoLoops).submitted = 2000000 := by
  refine ⟨by decide +kernel, by decide, by decide, by decide +kernel, by decide +kernel⟩

end CanaryRun

end BaseEngine
