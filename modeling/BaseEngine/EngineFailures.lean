import BaseEngine.EngineRuns
import BaseEngine.Lockstep

/-!
# What ends the engine

Any error of the two handlers leaves the loop. Three things can go wrong with a
log: it cannot be persisted, the book cannot carry it out, or something that is
decided after it cannot be written. The last is told from a second run of the
handler on a storage that takes everything and notes what it is asked to write
(`tape`, `Runtime.writes`): with a ready configuration (`Runtime.Ready`) and
clocks and a transport that answer (`Outside.Serving`) the handling of a decision
fails exactly when one of these writes is refused (`result_ok_iff`). A refused or
lost transaction is no error of the loop.

`fails_iff` puts the three together for every run, on any storage whose
statements fail on refused writes only (`Statements.Gated`). `rows_gated` is that
for the rows of the daily exposure.
-/

namespace BaseEngine

open Fallible Machine Text

variable {α σ : Type}

/-! ## What the environment has to answer -/

/-- The configuration can execute what it decides. Shadow mode needs neither a
router nor a deadline. -/
structure Runtime.Ready (rt : Runtime) : Prop where
  configured : rt.Configured
  codec : HexCodec rt.codec rt.sha256
  gas : rt.config.decision.simulationGasEstimate * rt.config.execution.gasLimitMultiplierBps
    ≤ 10000 * (2 ^ 64 - 1)
  router : rt.config.execution.mode ≠ .shadow →
    ∃ router, rt.config.execution.routerAddress = some router ∧ isValidAddress router = true
  deadline : rt.config.execution.mode ≠ .shadow →
    ∀ now < 2 ^ 63, now + rt.config.execution.planDeadlineSecs < 2 ^ 64

/-- A receipt that belongs to the transaction, with a fee that fits. -/
def ExecutionReceipt.Settles (receipt : ExecutionReceipt) (txHash : String) : Prop :=
  receipt.txHash = txHash ∧ ∃ fee, totalFeePaid receipt = .ok fee

/-- Clocks that answer with a time, and a node that answers with transaction
hashes and with receipts of those transactions. The simulation and the submission
may fail or time out, and the receipt may fail or not come. -/
structure Outside.Serving (outside : Outside) : Prop where
  simulationClock : ∃ now < 2 ^ 63, outside.simulationClock = .ok now
  submissionClock : ∃ now < 2 ^ 63, outside.submissionClock = .ok now
  txHash : ∀ txHash, outside.submit = some (.ok txHash) → trim txHash ≠ ""
  receipt : ∀ txHash receipt, outside.submit = some (.ok txHash) →
    outside.awaitReceipt = .ok (some receipt) → receipt.Settles txHash

/-- The tokens and the addresses of the V2 pools are 20-byte addresses. -/
def PoolBook.Addressed (book : PoolBook) : Prop :=
  ∀ key pool, book.directory key = some (.v2 pool) → pool.Addressed

/-! ## What a decision writes -/

/-- A storage that takes every write and notes it. -/
def tape (exposure : Except ErrorChain Nat) : Statements (List Write) where
  todaysSubmittableNotionalWei _ := exposure
  persistDecisionRun record written := .ok (written ++ [.decisionRun record], none)
  persistExecutionAttempt _ attempt request written :=
    .ok (written ++ [.attempt attempt request], some 0)
  updateAttempt _ update written := .ok (written ++ [.update update])

/-- What the handling of a log writes after the log itself, in its order, if
nothing is refused. -/
def Runtime.writes (rt : Runtime) (backend : Backend α σ) (s : Engine σ) (arrival : α)
    (log : Log) : List Write :=
  match backend.persistObservedLog arrival log s.storage,
      s.book.applyLog rt.u256FromDecimal log with
  | .ok (storage, observedLogId), (_, .ok outcome) =>
      let exposure := (backend.statements arrival).todaysSubmittableNotionalWei storage
      (maybeLogDecisionOutput (tape exposure) rt.sha256 rt.codec rt.config rt.policy
        (backend.outside arrival) (rt.decisionOn observedLogId (backend.pools arrival) log outcome)
        s.risk []).storage
  | _, _ => []

/-! ## A decision is handled without an error -/

section Tape

variable {rt : Runtime} {exposure : Except ErrorChain Nat} {outside : Outside}
  {request : ExecutionRequest} {attempt : ExecutionAttempt} {risk : RiskState}
  {written : List Write}

theorem tape_onRow (update : AttemptUpdate) :
    (tape exposure).onRow (some 0) update written = (written ++ [.update update], .ok ()) := rfl

theorem markSubmitted_ok (hbuilt : attempt.status = .built)
    (hallowed : attempt.submissionAllowed = true) {txHash : String} (hhash : trim txHash ≠ "") :
    markSubmitted attempt txHash
      = .ok { attempt with status := .submitted, txHash := some txHash } := by
  unfold markSubmitted
  rw [if_neg (not_not_intro hbuilt), if_neg (by simp [hallowed]), if_neg hhash]

/-- A submitted attempt settles without an error. -/
theorem settleSubmitted_ok {config : ExecutionConfig} {transport : ExecutionTransport}
    {submitted : ExecutionAttempt} (hstatus : submitted.status = .submitted) {txHash : String}
    (hhash : submitted.txHash = some txHash)
    (hreceipt : ∀ receipt,
      transport.awaitReceipt request submitted config.receiptTimeoutSecs = .ok (some receipt) →
      receipt.Settles txHash) :
    (settleSubmitted (tape exposure) transport config request (some 0) attempt submitted
      written).result = .ok () := by
  unfold settleSubmitted
  cases hwait : transport.awaitReceipt request submitted config.receiptTimeoutSecs with
  | error e => rfl
  | ok waited =>
      cases waited with
      | none =>
          have hdropped : ∃ dropped, markDropped submitted receiptTimedOut = .ok dropped := by
            unfold markDropped
            rw [if_neg (not_not_intro hstatus), if_neg (by decide), hhash]
            exact ⟨_, rfl⟩
          obtain ⟨dropped, hdropped⟩ := hdropped
          simp only [hdropped, withContext, Except.mapError]
          rfl
      | some receipt =>
          obtain ⟨hmatch, fee, hfee⟩ := hreceipt receipt hwait
          have hfinal : ∃ finalized, finalizeFromReceipt submitted receipt none
              request.minSurplus = .ok finalized := by
            unfold finalizeFromReceipt
            rw [if_neg (by simp [hstatus]), if_neg (by simp [hhash, hmatch]), hfee]
            exact ⟨_, rfl⟩
          obtain ⟨finalized, hfinal⟩ := hfinal
          simp only [hfinal, withContext, Except.mapError]
          rfl

/-- Driving an allowed attempt does not fail, whatever the transport does. -/
theorem driveExecutionAttempt_ok {codec : AlloyCodec} {config : ExecutionConfig}
    (hserving : outside.Serving) (hbuilt : attempt.status = .built)
    (hallowed : attempt.submissionAllowed = true) (clock : Except ErrorChain Nat) :
    (driveExecutionAttempt (tape exposure) codec outside.transport config request (some 0) attempt
      clock written).result = .ok () := by
  unfold driveExecutionAttempt
  split
  · rfl
  · split
    next txHash hsubmit =>
        unfold followSubmitted
        rw [markSubmitted_ok hbuilt hallowed (hserving.txHash txHash hsubmit)]
        simp only [withContext, Except.mapError, tape_onRow]
        exact settleSubmitted_ok rfl rfl fun receipt hreceipt =>
          hserving.receipt txHash receipt hsubmit hreceipt
    next => rfl
    next => rfl

/-- Neither does the submission of one whose payload can be built. -/
theorem submitAttempt_ok {codec : AlloyCodec} {config : ExecutionConfig}
    (hserving : outside.Serving) (hbuilt : attempt.status = .built)
    (hallowed : attempt.submissionAllowed = true)
    (hpayload : ∀ now < 2 ^ 63, ∃ payload,
      buildSubmissionPayloadAt codec config request now = .ok payload) :
    (submitAttempt (tape exposure) codec config outside request (some 0) attempt risk
      written).result = .ok () := by
  obtain ⟨now, hnow, hclock⟩ := hserving.simulationClock
  obtain ⟨payload, hpayload⟩ := hpayload now hnow
  have hdrive := @driveExecutionAttempt_ok exposure outside request attempt written codec config
    hserving hbuilt hallowed outside.submissionClock
  have hdriven : ((driveExecutionAttempt (tape exposure) codec outside.transport config request
      (some 0) attempt outside.submissionClock written).handled risk).result = .ok () := hdrive
  unfold submitAttempt buildSubmissionPayload
  rw [hclock]
  simp only [Except.bind, hpayload, withContext, Except.mapError, hdriven]
  split
  · rfl
  · split_ifs
    · rfl
    · rfl

/-- What the scan over addressed pools decided, and the policy accepted. -/
theorem selected_of_decide (hconfigured : rt.Configured) {scan : RuntimeScanConfig}
    (hscan : rt.scan = some scan) {observedLogId : Option Nat} {pools : List V2PoolState}
    {log : Log} {out : DecisionPipelineOutput}
    (hdecide : scan.decide observedLogId pools log = some out)
    (hrequest : buildExecutionRequest out.opportunity
      (out.assessed rt.sha256 rt.policy outside risk).1 = some request) :
    Selected rt.sha256 rt.config scan rt.policy pools out.opportunity out.simulation request := by
  obtain ⟨hhead, hsim, -⟩ := RuntimeScanConfig.decide_eq_some_iff.mp hdecide
  exact {
    scanned := hscan ▸ hconfigured.scan
    governed := hconfigured.policy
    detected := ⟨_, _, List.mem_of_mem_head? hhead⟩
    simulated := hsim
    accepted := ⟨_, _, hrequest⟩ }

/-- A selected opportunity is prepared. -/
theorem exists_prepareExecution (hready : rt.Ready) {scan : RuntimeScanConfig}
    {pools : List V2PoolState} {opp : Opportunity} {sim : SimulationResult}
    (hselected : Selected rt.sha256 rt.config scan rt.policy pools opp sim request)
    (hencoded : Encoded rt.codec request scan.amountIn) {current : Nat}
    (hcurrent : current < 2 ^ 127) :
    ∃ prepared, prepareExecution rt.config.execution request sim current = .ok prepared := by
  have hvalid := (AppConfig.sections_of_validate hready.configured.valid).2.2
  have hnotional : request.flashloanAmount.getD request.minRepay = scan.amountIn := by
    rw [hencoded.funding, Option.getD_some]
  have hgas : sim.gasEstimate = rt.config.decision.simulationGasEstimate := by
    rw [← simulation_of_runtimeScanConfig hselected.scanned]
    exact (simulateTwoLegOpportunity_some hselected.simulated).2.2.1
  have hbounded := hencoded.bounded
  refine (prepareExecution_isOk_iff hvalid hencoded.steps_ne_nil
    (hnotional ▸ hencoded.positive) (by omega)).mpr ?_
  rw [hgas]
  exact hready.gas

/-- Outside shadow mode it is encoded. -/
theorem exists_payload (hready : rt.Ready) (hmode : rt.config.execution.mode ≠ .shadow)
    {notional : Nat} (hencoded : Encoded rt.codec request notional) {now : Nat}
    (hnow : now < 2 ^ 63) :
    ∃ payload, buildSubmissionPayloadAt rt.codec rt.config.execution request now
      = .ok payload := by
  obtain ⟨router, hrouter, hrouterValid⟩ := hready.router hmode
  obtain ⟨asset, hasset, hassetValid⟩ := hencoded.asset
  exact (buildSubmissionPayloadAt_isOk_iff hready.codec hrouter hasset hassetValid
    hencoded.riskHash hencoded.funding hencoded.steps).mpr
      ⟨hrouterValid, hready.deadline hmode now hnow⟩

theorem executePrepared_ok (hready : rt.Ready) (hserving : outside.Serving)
    {notional current : Nat} (hencoded : Encoded rt.codec request notional)
    {prepared : PreparedExecution} (runId : Option Nat)
    (hprepared : Prepared rt.config.execution request current prepared) :
    (executePrepared (tape exposure) rt.codec rt.config.execution outside request prepared runId
      risk written).result = .ok () := by
  unfold executePrepared tape
  dsimp only
  split
  next hsubmit =>
      have hallowed := hprepared.shouldSubmit.symm.trans hsubmit
      have hpolicy := hprepared.policy
      rw [hallowed] at hpolicy
      exact submitAttempt_ok hserving hprepared.built hallowed fun now hnow =>
        exists_payload hready (mode_of_allowed hpolicy) hencoded hnow
  next => rfl

/-- **Decisions do not fail** when everything is written. -/
theorem maybeLogDecisionOutput_ok (hready : rt.Ready) (hserving : outside.Serving)
    {current : Nat} (hcurrent : current < 2 ^ 127) {output : Option DecisionPipelineOutput}
    (houtput : ∀ out, output = some out → ∃ scan observedLogId pools log, rt.scan = some scan
      ∧ scan.decide observedLogId pools log = some out ∧ ∀ pool ∈ pools, pool.Addressed) :
    (maybeLogDecisionOutput (tape (.ok current)) rt.sha256 rt.codec rt.config rt.policy outside
      output risk written).result = .ok () := by
  cases output with
  | none => rfl
  | some out =>
      obtain ⟨scan, observedLogId, pools, log, hscan, hdecide, hpools⟩ := houtput out rfl
      unfold maybeLogDecisionOutput prepareOutput
      dsimp only
      cases hrequest : buildExecutionRequest out.opportunity
          (out.assessed rt.sha256 rt.policy outside risk).1 with
      | none => rfl
      | some request =>
          have hselected := selected_of_decide hready.configured hscan hdecide hrequest
          have hencoded := hselected.encoded hready.codec hpools
          obtain ⟨prepared, hprepared⟩ :=
            exists_prepareExecution hready hselected hencoded hcurrent
          have hload : (tape (.ok current)).todaysSubmittableNotionalWei written
            = .ok current := rfl
          simp only [hload, hprepared, withContext, Except.mapError, ok_bind]
          exact executePrepared_ok hready hserving hencoded none (prepareExecution_ok hprepared)

end Tape

/-! ## Storages that fail on refused writes only -/

/-- A call that goes through exactly when it is accepted. -/
inductive Gate {β : Type} (good : β → Prop) (accepted : Prop) : Except ErrorChain β → Prop
  | passes {b : β} (h : good b) (haccepted : accepted) : Gate good accepted (.ok b)
  | refuses {e : ErrorChain} (hrefused : ¬ accepted) : Gate good accepted (.error e)

/-- A check before a change of the storage. -/
theorem Gate.map {β : Type} {good : β → Prop} {accepted : Prop} {check : Except ErrorChain Unit}
    (h : Gate (fun _ => True) accepted check) {b : β} (hgood : good b) :
    Gate good accepted (check.map fun _ => b) := by
  cases h with
  | passes _ haccepted => exact .passes hgood haccepted
  | refuses hrefused => exact .refuses hrefused

/-- Every statement on a valid storage goes through exactly when what it writes is
accepted. `driven` is what a storage is while the attempt is driven. -/
structure Statements.Gated (sql : Statements σ) (valid : σ → Prop)
    (driven : Option Nat → σ → Prop) (accepts : Write → Prop) : Prop where
  run : ∀ {s} record, valid s →
    Gate (fun x => valid x.1) (accepts (.decisionRun record)) (sql.persistDecisionRun record s)
  attempt : ∀ {s} runId attempt request, valid s →
    Gate (fun x => driven x.2 x.1) (accepts (.attempt attempt request))
      (sql.persistExecutionAttempt runId attempt request s)
  update : ∀ {s i} update, driven i s →
    driven i (sql.onRow i update s).1
      ∧ Gate (fun _ => True) (accepts (.update update)) (sql.onRow i update s).2
  valid : ∀ {s i}, driven i s → valid s

/-- A valid storage beside a tape on which everything was accepted so far. -/
def gate (valid : σ → Prop) (driven : Option Nat → σ → Prop) (accepts : Write → Prop) :
    Matching σ (List Write) where
  storages s written := valid s ∧ ∀ write ∈ written, accepts write
  logs := Eq
  runs _ _ := True
  driven i j s written := (driven i s ∧ j = some 0) ∧ ∀ write ∈ written, accepts write
  lost written := ∃ write ∈ written, ¬ accepts write

section Gated

variable {sql : Statements σ} {valid : σ → Prop} {driven : Option Nat → σ → Prop}
  {accepts : Write → Prop} {exposure : Except ErrorChain Nat}

theorem tape_keeps : (tape exposure).Keeps (gate valid driven accepts).lost where
  attempt := by
    rintro runId attempt request written written' id ⟨write, hmem, hrefused⟩ h
    obtain ⟨rfl, -⟩ := Prod.mk.inj (Except.ok.inj h)
    exact ⟨write, List.mem_append_left _ hmem, hrefused⟩
  update := by
    rintro id update written written' ⟨write, hmem, hrefused⟩ h
    obtain rfl := Except.ok.inj h
    exact ⟨write, List.mem_append_left _ hmem, hrefused⟩

theorem forall_mem_noted {written : List Write} {write : Write}
    (h : ∀ w ∈ written, accepts w) (haccepted : accepts write) :
    ∀ w ∈ written ++ [write], accepts w :=
  List.forall_mem_append.mpr ⟨h, List.forall_mem_singleton.mpr haccepted⟩

theorem Statements.Gated.follows (h : sql.Gated valid driven accepts) :
    sql.Follows (tape exposure) (gate valid driven accepts) where
  run := by
    rintro s written record observedLogId ⟨hvalid, hwritten⟩ hlogs
    obtain rfl : record.observedLogId = observedLogId := hlogs
    have hrun := h.run record hvalid
    generalize sql.persistDecisionRun record s = x at hrun
    cases hrun with
    | passes hgood haccepted => exact .ok ⟨⟨hgood, forall_mem_noted hwritten haccepted⟩, trivial⟩
    | refuses hrefused =>
        exact .lost ⟨_, List.mem_append_right _ (List.mem_singleton_self _), hrefused⟩
  attempt := by
    rintro s written i j attempt request ⟨hvalid, hwritten⟩ -
    have hattempt := h.attempt i attempt request hvalid
    generalize sql.persistExecutionAttempt i attempt request s = x at hattempt
    cases hattempt with
    | passes hgood haccepted => exact .ok ⟨⟨hgood, rfl⟩, forall_mem_noted hwritten haccepted⟩
    | refuses hrefused =>
        exact .lost ⟨_, List.mem_append_right _ (List.mem_singleton_self _), hrefused⟩
  update := by
    rintro s written i j update ⟨⟨hdriven, rfl⟩, hwritten⟩
    obtain ⟨hkept, hgate⟩ := h.update update hdriven
    rw [tape_onRow]
    generalize (sql.onRow i update s).2 = r at hgate
    cases hgate with
    | passes _ haccepted =>
        exact .inl ⟨⟨⟨hkept, rfl⟩, forall_mem_noted hwritten haccepted⟩, rfl⟩
    | refuses hrefused =>
        exact .inr ⟨⟨_, rfl⟩, _, List.mem_append_right _ (List.mem_singleton_self _), hrefused⟩
  storages := fun hdriven => ⟨h.valid hdriven.1.1, hdriven.2⟩
  keeps := tape_keeps

/-- **A decision fails on a refused write only.** -/
theorem result_ok_iff {rt : Runtime} (hready : rt.Ready) (h : sql.Gated valid driven accepts)
    {storage : σ} (hvalid : valid storage) {outside : Outside} (hserving : outside.Serving)
    {current : Nat} (hexposure : sql.todaysSubmittableNotionalWei storage = .ok current)
    (hcurrent : current < 2 ^ 127) {output : Option DecisionPipelineOutput}
    (houtput : ∀ out, output = some out → ∃ scan observedLogId pools log, rt.scan = some scan
      ∧ scan.decide observedLogId pools log = some out ∧ ∀ pool ∈ pools, pool.Addressed)
    (risk : RiskState) :
    (maybeLogDecisionOutput sql rt.sha256 rt.codec rt.config rt.policy outside output risk
        storage).result = .ok ()
      ↔ ∀ write ∈ (maybeLogDecisionOutput (tape (sql.todaysSubmittableNotionalWei storage))
          rt.sha256 rt.codec rt.config rt.policy outside output risk []).storage,
        accepts write := by
  rw [hexposure]
  have htape := @maybeLogDecisionOutput_ok rt outside risk [] hready hserving current hcurrent
    output houtput
  have hsame : Option.Rel (fun out out' : DecisionPipelineOutput =>
      out.observedLogId = out'.observedLogId
        ∧ out' = { out with observedLogId := out'.observedLogId }) output output := by
    cases output with
    | none => exact .none
    | some out => exact .some ⟨rfl, rfl⟩
  have halike := @Statements.Follows.maybeLogDecisionOutput σ (List Write) sql (tape (.ok current))
    (gate valid driven accepts) rt.codec storage [] rt.sha256 rt.config rt.policy h.follows
    ⟨hvalid, List.forall_mem_nil _⟩ hexposure outside output output hsame risk
  rcases halike with hlike | ⟨⟨e, he⟩, write, hmem, hrefused⟩
  · exact ⟨fun _ => hlike.storage.2, fun _ => hlike.result.trans htape⟩
  · constructor
    · intro hok
      rw [he] at hok
      cases hok
    · exact fun hall => absurd (hall write hmem) hrefused

end Gated

/-! ## The pools of a book -/

theorem PoolBook.exists_lookup_of_mem {book : PoolBook} {pool : V2PoolState}
    (h : pool ∈ book.v2Pools) : ∃ key, book.pools.lookup key = some (.v2 pool) := by
  obtain ⟨⟨key, entry⟩, hentry, hpool⟩ := (Multiset.mem_filterMap _ _).mp h
  cases entry with
  | v2 found =>
      obtain rfl : found = pool := Option.some.inj hpool
      exact ⟨key, Finmap.lookup_eq_some_iff.mpr hentry⟩
  | v3 _ => cases hpool

theorem PoolBook.Addressed.of_lists {book : PoolBook} (h : book.Addressed)
    {pools : List V2PoolState} (hlists : book.Lists pools) :
    ∀ pool ∈ pools, pool.Addressed := by
  intro pool hpool
  obtain ⟨key, hkey⟩ := PoolBook.exists_lookup_of_mem (hlists.mem_iff.mp hpool)
  have hdirectory : book.directory key = some
      (.v2 { pool with reserve0 := 0, reserve1 := 0, lastUpdatedBlock := none }) := by
    unfold PoolBook.directory
    rw [hkey, Option.map_some]
    rfl
  have haddressed := h key _ hdirectory
  exact haddressed

/-! ## Turns -/

section Runs

variable {rt : Runtime} {backend : Backend α σ} {s s' : Engine σ} {signal : Signal α}

/-- The engine has failed. -/
def Engine.Failed (s : Engine σ) : Prop := ∃ e, s.exit = some (.error e)

/-- What has to be answered while a log is handled, so that only the log and the
writes can fail: clocks and node, an exposure that is read and fits, and a
storage whose statements fail on refused writes only. -/
structure Backend.Serves (backend : Backend α σ) (s : Engine σ) (arrival : α) (log : Log)
    (accepts : Write → Prop) : Prop where
  outside : (backend.outside arrival).Serving
  exposed : ∀ {storage observedLogId},
    backend.persistObservedLog arrival log s.storage = .ok (storage, observedLogId) →
    ∃ current < 2 ^ 127,
      (backend.statements arrival).todaysSubmittableNotionalWei storage = .ok current
  gated : ∃ valid driven, (backend.statements arrival).Gated valid driven accepts
    ∧ ∀ {storage observedLogId},
      backend.persistObservedLog arrival log s.storage = .ok (storage, observedLogId) →
      valid storage

/-- The log cannot be persisted or carried out, or something after it cannot be
written. -/
def Runtime.Breaks (rt : Runtime) (backend : Backend α σ) (s : Engine σ) (arrival : α) (log : Log)
    (accepts : Write → Prop) : Prop :=
  (∃ e, backend.persistObservedLog arrival log s.storage = .error e)
    ∨ ¬ PoolBook.LogApplicable rt.u256FromDecimal s.book log
    ∨ ∃ write ∈ rt.writes backend s arrival log, ¬ accepts write

theorem failed_record_iff (s : Engine σ) (outside : Outside) (handled : Handled σ) :
    (s.record outside handled).Failed ↔ handled.result ≠ .ok () := by
  unfold Engine.Failed Engine.record
  dsimp only
  cases handled.result with
  | ok _ => simp
  | error e => simp

/-- A log that is persisted and carried out breaks on a refused write only. -/
theorem failed_settles_iff (hready : rt.Ready) (haddressed : s.book.Addressed) {arrival : α}
    {log : Log} {accepts : Write → Prop} (hserves : backend.Serves s arrival log accepts)
    {storage : σ} {observedLogId : Option Nat} {book : PoolBook} {outcome : MarketEventOutcome}
    (hpersist : backend.persistObservedLog arrival log s.storage = .ok (storage, observedLogId))
    (hbook : s.book.applyLog rt.u256FromDecimal log = (book, .ok outcome))
    (hlists : book.Lists (backend.pools arrival)) :
    (rt.settleWith (backend.statements arrival) (backend.outside arrival)
        { s with storage, book }
        (rt.decisionOn observedLogId (backend.pools arrival) log outcome)).Failed
      ↔ ∃ write ∈ rt.writes backend s arrival log, ¬ accepts write := by
  have hpools : ∀ pool ∈ backend.pools arrival, pool.Addressed := by
    have hbookAddressed : book.Addressed := by
      unfold PoolBook.Addressed
      rw [PoolBook.directory_applyLog hbook]
      exact haddressed
    exact hbookAddressed.of_lists hlists
  obtain ⟨current, hcurrent, hexposure⟩ := hserves.exposed hpersist
  obtain ⟨valid, driven, hgated, hvalid⟩ := hserves.gated
  have hdecided : ∀ out,
      rt.decisionOn observedLogId (backend.pools arrival) log outcome = some out →
      ∃ scan observedLogId pools log, rt.scan = some scan
        ∧ scan.decide observedLogId pools log = some out ∧ ∀ pool ∈ pools, pool.Addressed := by
    intro out hout
    obtain ⟨-, scan, hscan, hdecide⟩ := Runtime.decisionOn_eq_some hout
    exact ⟨scan, observedLogId, backend.pools arrival, log, hscan, hdecide, hpools⟩
  have hiff := result_ok_iff hready hgated (hvalid hpersist) hserves.outside hexposure hcurrent
    hdecided s.risk
  have hwrites : rt.writes backend s arrival log
      = (maybeLogDecisionOutput
          (tape ((backend.statements arrival).todaysSubmittableNotionalWei storage)) rt.sha256
          rt.codec rt.config rt.policy (backend.outside arrival)
          (rt.decisionOn observedLogId (backend.pools arrival) log outcome) s.risk []).storage := by
    unfold Runtime.writes
    rw [hpersist, hbook]
  unfold Runtime.settleWith
  rw [failed_record_iff, Ne, hiff, hwrites]
  simp only [not_forall, exists_prop]

theorem ok_iff_applicable {u256FromDecimal : String → Option Nat} {book book' : PoolBook}
    {log : Log} {result : Except MarketError MarketEventOutcome}
    (h : book.applyLog u256FromDecimal log = (book', result)) :
    (∃ outcome, result = .ok outcome) ↔ PoolBook.LogApplicable u256FromDecimal book log := by
  have hstep := PoolBook.bookStep_applyLog u256FromDecimal book log
  rw [h] at hstep
  exact hstep.ok_iff

/-- **Step lemma.** A turn fails when its log breaks, and on nothing else. -/
theorem LoopTurn.failed_iff (h : LoopTurn rt backend s signal s') (hready : rt.Ready)
    (haddressed : s.book.Addressed) (hexit : s.exit = none) (hlisted : Listed rt backend s signal)
    (hlistening : ∀ e, signal.exit? ≠ some (.error e)) {accepts : α → Write → Prop}
    (hserves : ∀ arrival log, signal = .event arrival → backend.event arrival = .log log →
      backend.Serves s arrival log (accepts arrival)) :
    s'.Failed ↔ ∃ arrival log, signal = .event arrival ∧ backend.event arrival = .log log
      ∧ rt.Breaks backend s arrival log (accepts arrival) := by
  have hnone : ¬ s.Failed := by
    rintro ⟨e, he⟩
    rw [hexit] at he
    cases he
  -- a signal without a log
  have hquiet : (∀ arrival log, signal = .event arrival → backend.event arrival ≠ .log log) →
      ¬ ∃ arrival log, signal = .event arrival ∧ backend.event arrival = .log log
        ∧ rt.Breaks backend s arrival log (accepts arrival) := by
    rintro hnot ⟨arrival, log, hsignal, hevent, -⟩
    exact hnot arrival log hsignal hevent
  cases h with
  | stopped hover =>
      rw [hexit] at hover
      cases hover
  | hears _ hsignal =>
      refine iff_of_false hnone (hquiet fun arrival log harrival => ?_)
      rw [hsignal] at harrival
      cases harrival
  | @passes arrival _ hsignal hevent =>
      refine iff_of_false hnone (hquiet fun arrival' log harrival => ?_)
      obtain rfl : arrival = arrival' := Signal.event.inj (hsignal.symm.trans harrival)
      exact hevent log
  | @leaves result _ hend =>
      refine iff_of_false ?_ (hquiet fun arrival log harrival => ?_)
      · rintro ⟨e, he⟩
        obtain rfl := Option.some.inj he
        exact hlistening e hend
      · rw [harrival] at hend
        cases hend
  | @unpersisted arrival log e _ hsignal hevent hpersist =>
      exact iff_of_true ⟨_, rfl⟩ ⟨arrival, log, hsignal, hevent, .inl ⟨e, hpersist⟩⟩
  | @inapplicable arrival log _ _ book e _ hsignal hevent _ hbook =>
      refine iff_of_true ⟨_, rfl⟩ ⟨arrival, log, hsignal, hevent, .inr (.inl fun happ => ?_)⟩
      obtain ⟨outcome, hok⟩ := (ok_iff_applicable hbook).mpr happ
      cases hok
  | @settles arrival log storage observedLogId book outcome _ hsignal hevent hpersist hbook =>
      have hlists := hlisted arrival log hsignal hevent
      rw [hbook] at hlists
      rw [failed_settles_iff hready haddressed (hserves arrival log hsignal hevent) hpersist hbook
        hlists]
      constructor
      · exact fun hrefused => ⟨arrival, log, hsignal, hevent, .inr (.inr hrefused)⟩
      · rintro ⟨arrival', log', harrival, hevent', hbreaks⟩
        obtain rfl : arrival = arrival' := Signal.event.inj (hsignal.symm.trans harrival)
        obtain rfl : log = log' := Ingest.Event.log.inj (hevent.symm.trans hevent')
        rcases hbreaks with ⟨e, herror⟩ | hnot | hrefused
        · rw [hpersist] at herror
          cases herror
        · exact absurd ((ok_iff_applicable hbook).mp ⟨outcome, rfl⟩) hnot
        · exact hrefused

theorem directory_final (signals : List (Signal α))
    (hrunning : (Run.final (rt.stepWith backend) s signals).exit = none) :
    (Run.final (rt.stepWith backend) s signals).book.directory = s.book.directory := by
  refine @Run.final_of_stable _ _ (rt.stepWith backend)
    (fun t => t.exit = none → t.book.directory = s.book.directory) ?_ signals s (fun _ => rfl)
    hrunning
  exact fun t signal ih => directory_step ih signal

/-! ## Runs -/

/-- **What ends the engine**, on any storage. A run fails exactly when it comes
to a log that breaks at that moment. -/
theorem fails_iff (hready : rt.Ready) {book : PoolBook} {storage : σ} {signals : List (Signal α)}
    (haddressed : book.Addressed) {accepts : Engine σ → α → Write → Prop}
    (hruns : Run.Along (rt.stepWith backend) (fun s signal => Listed rt backend s signal
        ∧ (∀ e, signal.exit? ≠ some (.error e))
        ∧ ∀ arrival log, signal = .event arrival → backend.event arrival = .log log →
          backend.Serves s arrival log (accepts s arrival))
      (Engine.start book storage) signals) :
    (Run.final (rt.stepWith backend) (Engine.start book storage) signals).Failed
      ↔ ∃ pre arrival post log, signals = pre ++ .event arrival :: post
        ∧ (Run.final (rt.stepWith backend) (Engine.start book storage) pre).exit = none
        ∧ backend.event arrival = .log log
        ∧ rt.Breaks backend (Run.final (rt.stepWith backend) (Engine.start book storage) pre)
            arrival log
            (accepts (Run.final (rt.stepWith backend) (Engine.start book storage) pre)
              arrival) := by
  -- the step lemma at a state that the run passes through
  have hstep : ∀ {pre signal post}, signals = pre ++ signal :: post →
      (Run.final (rt.stepWith backend) (Engine.start book storage) pre).exit = none →
      ((rt.stepWith backend (Run.final (rt.stepWith backend) (Engine.start book storage) pre)
          signal).Failed
        ↔ ∃ arrival log, signal = .event arrival ∧ backend.event arrival = .log log
          ∧ rt.Breaks backend (Run.final (rt.stepWith backend) (Engine.start book storage) pre)
              arrival log
              (accepts (Run.final (rt.stepWith backend) (Engine.start book storage) pre)
                arrival)) := by
    rintro pre signal post rfl hexit
    obtain ⟨-, ⟨hlisted, hlistening, hserves⟩, -⟩ := Run.along_append.mp hruns
    have hpools : (Run.final (rt.stepWith backend) (Engine.start book storage)
        pre).book.Addressed := by
      unfold PoolBook.Addressed
      rw [directory_final pre hexit]
      exact haddressed
    exact (loopTurn_step rt backend _ signal).failed_iff hready hpools hexit hlisted hlistening
      hserves
  constructor
  · intro hfailed
    have hstart : ¬ (Engine.start book storage).Failed := fun ⟨_, h⟩ => nomatch h
    obtain ⟨pre, signal, post, hsignals, hbefore, hafter⟩ :=
      Run.exists_step_into hstart hfailed
    have hexit : (Run.final (rt.stepWith backend) (Engine.start book storage) pre).exit = none := by
      cases hover : (Run.final (rt.stepWith backend) (Engine.start book storage) pre).exit with
      | none => rfl
      | some result =>
          rw [step_of_exit (by rw [hover]; rfl)] at hafter
          exact absurd hafter hbefore
    obtain ⟨arrival, log, rfl, hevent, hbreaks⟩ := (hstep hsignals hexit).mp hafter
    exact ⟨pre, arrival, post, log, hsignals, hexit, hevent, hbreaks⟩
  · rintro ⟨pre, arrival, post, log, hsignals, hexit, hevent, hbreaks⟩
    obtain ⟨e, he⟩ := (hstep hsignals hexit).mpr ⟨arrival, log, rfl, hevent, hbreaks⟩
    refine ⟨e, ?_⟩
    rw [hsignals, Run.final_append, Run.final_cons, final_of_exit (by rw [he]; rfl)]
    exact he

end Runs

/-! ## The rows -/

section Rows

variable {rt : Runtime} {s s' : Engine Storage} {signal : Signal Arrival}

theorem gate_query {storage : Storage} {connected : Bool} (hstorage : storage.isSome = connected)
    (answer : Except ErrorChain Unit) :
    Gate (fun _ => True) (connected = true → answer = .ok ()) (query storage answer) := by
  unfold query
  rw [hstorage]
  split_ifs with hconnected
  · cases answer with
    | ok _ => exact .passes trivial fun _ => rfl
    | error e => exact .refuses fun h => nomatch h hconnected
  · exact .passes trivial fun h => absurd h hconnected

/-- Without a database nothing is refused. -/
def Answers.accepts (connected : Bool) (answers : Answers) (write : Write) : Prop :=
  connected = true → answers.write write = .ok ()

theorem rows_gated (answers : Answers) (connected : Bool) :
    answers.statements.Gated (fun storage => storage.isSome = connected)
      (fun i storage => storage.isSome = connected ∧ i.isSome = connected)
      (answers.accepts connected) where
  run := by
    intro storage record hstorage
    rw [answers.persistDecisionRun_eq]
    exact (gate_query hstorage _).map hstorage
  attempt := by
    intro storage runId attempt request hstorage
    rw [answers.persistExecutionAttempt_eq]
    exact (gate_query hstorage _).map
      ⟨Option.isSome_map.trans hstorage, Option.isSome_map.trans hstorage⟩
  update := by
    rintro storage i update ⟨hstorage, hi⟩
    cases i with
    | none =>
        exact ⟨⟨hstorage, hi⟩, .passes trivial fun h => absurd (hi.trans h) Bool.false_ne_true⟩
    | some id =>
        rw [answers.onRow_some]
        exact ⟨⟨hstorage, hi⟩, gate_query hstorage _⟩
  valid := fun h => h.1

/-- The preconditions of a turn: the log is persisted, which in the source means
that the serialiser takes it and the database answers; the exposure of the day is
read and below `2 ^ 127`; the clocks answer with a time below `2 ^ 63`, and the
node with hashes and receipts that fit; everything that is decided after the log
is written, again by the serialiser and the database; and ctrl-c can be listened
for. -/
structure Served (rt : Runtime) (s : Engine Storage) (signal : Signal Arrival) : Prop where
  kept : ∀ arrival log, signal.log? = some (arrival, log) →
    query s.storage arrival.persistLog = .ok ()
  exposed : ∀ arrival log, signal.log? = some (arrival, log) →
    ∃ current < 2 ^ 127, todaysSubmittableNotionalWei s.storage arrival.answers = .ok current
  outside : ∀ arrival log, signal.log? = some (arrival, log) → arrival.answers.toOutside.Serving
  written : ∀ arrival log, signal.log? = some (arrival, log) →
    ∀ write ∈ rt.writes rowsBackend s arrival log,
      arrival.answers.accepts s.storage.isSome write
  listening : ∀ e, signal.exit? ≠ some (.error e)

/-- A served turn fails on an inapplicable log and on nothing else. -/
theorem Served.failed_iff (h : Served rt s signal) (hready : rt.Ready)
    (haddressed : s.book.Addressed) (hexit : s.exit = none)
    (hlisted : Listed rt rowsBackend s signal) :
    (rt.step s signal).Failed ↔ ∃ arrival log, signal.log? = some (arrival, log)
      ∧ ¬ PoolBook.LogApplicable rt.u256FromDecimal s.book log := by
  have hserves : ∀ arrival log, signal = .event arrival → rowsBackend.event arrival = .log log →
      rowsBackend.Serves s arrival log (arrival.answers.accepts s.storage.isSome) := by
    rintro arrival log rfl hevent
    have hlog := log?_of_event hevent
    refine ⟨h.outside arrival log hlog, fun hpersist => ?_, _, _, rows_gated _ _,
      fun hpersist => ?_⟩
    · obtain ⟨-, rfl, -⟩ := rowsBackend_persisted hpersist
      exact h.exposed arrival log hlog
    · obtain ⟨-, rfl, -⟩ := rowsBackend_persisted hpersist
      rfl
  rw [(loopTurn_step rt rowsBackend s signal).failed_iff hready haddressed hexit hlisted
    h.listening hserves]
  constructor
  · rintro ⟨arrival, log, rfl, hevent, hbreaks⟩
    have hlog := log?_of_event hevent
    rcases hbreaks with ⟨e, herror⟩ | hnot | ⟨write, hmem, hrefused⟩
    · have hkept := h.kept arrival log hlog
      unfold rowsBackend at herror
      dsimp only at herror
      rw [hkept] at herror
      cases herror
    · exact ⟨arrival, log, hlog, hnot⟩
    · exact absurd (h.written arrival log hlog write hmem) hrefused
  · rintro ⟨arrival, log, hlog, hnot⟩
    obtain ⟨rfl, hevent⟩ := event_of_log? hlog
    exact ⟨arrival, log, rfl, hevent, .inr (.inl hnot)⟩

end Rows

/-! ## The sample engine -/

theorem sampleRuntime_ready : sampleRuntime.Ready where
  configured :=
    { valid := by decide +kernel, policy := by decide +kernel, scan := by decide +kernel }
  codec := sampleCodec_hexCodec
  gas := by decide +kernel
  router := fun _ => ⟨"0x5555555555555555555555555555555555555555", rfl, by decide⟩
  deadline := fun _ now hnow => by
    show now + 30 < 2 ^ 64
    omega

theorem obligingAnswers_serving : CanaryRun.obligingAnswers.toOutside.Serving where
  simulationClock := ⟨1700000000, by norm_num, rfl⟩
  submissionClock := ⟨1700000000, by norm_num, rfl⟩
  txHash := by
    intro txHash hsubmit
    obtain rfl : "0xtx" = txHash := by simpa [CanaryRun.obligingAnswers] using hsubmit
    decide
  receipt := by
    intro txHash receipt hsubmit hreceipt
    obtain rfl : "0xtx" = txHash := by simpa [CanaryRun.obligingAnswers] using hsubmit
    obtain rfl := Option.some.inj (Except.ok.inj hreceipt)
    exact ⟨rfl, none, rfl⟩

theorem sampleBook_addressed : sampleBook.Addressed := by
  intro key pool hdirectory
  obtain ⟨entry, hentry, hfixed⟩ := Option.map_eq_some_iff.mp hdirectory
  obtain ⟨haddress₁, haddress₂⟩ : profitableLoop.firstPool.Addressed
      ∧ profitableLoop.secondPool.Addressed :=
    ⟨samplePools_addressed _ (by decide), samplePools_addressed _ (by decide)⟩
  unfold sampleBook PoolBook.insertV2Pool at hentry
  by_cases hsecond : key = normalizeAddressKey profitableLoop.secondPool.address
  · subst hsecond
    rw [PoolBook.lookup_insertPool_self] at hentry
    cases hentry
    cases hfixed
    exact haddress₂
  · rw [PoolBook.lookup_insertPool_of_ne _ _ hsecond] at hentry
    by_cases hfirst : key = normalizeAddressKey profitableLoop.firstPool.address
    · subst hfirst
      rw [PoolBook.lookup_insertPool_self] at hentry
      cases hentry
      cases hfixed
      exact haddress₁
    · rw [PoolBook.lookup_insertPool_of_ne _ _ hfirst] at hentry
      cases hentry

end BaseEngine
