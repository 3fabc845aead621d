import BaseEngine.Engine

/-!
# One loop on two storages

The handlers and the loop are written over the statements on a storage. Here two
storages are compared on which the statements come to the same, up to a relation
between them (`Statements.Follows`): the handling of an output then comes to the
same on both (`Follows.maybeLogDecisionOutput`), and so does every run of the
loop (`Backend.Follows.final`).

The first storage may also fail where the second does not. The second then goes
on and remembers that it was lost, so that what it has in the end tells whether
the first came through.
-/

namespace BaseEngine

open Fallible

variable {σ τ : Type}

/-! ## What every statement keeps -/

/-- Every statement on an attempt that goes through keeps the property. -/
structure Statements.Keeps (sql : Statements σ) (P : σ → Prop) : Prop where
  attempt : ∀ {runId attempt request storage storage' id}, P storage →
    sql.persistExecutionAttempt runId attempt request storage = .ok (storage', id) → P storage'
  update : ∀ {id update storage storage'}, P storage →
    sql.updateAttempt id update storage = .ok storage' → P storage'

namespace Statements.Keeps

variable {sql : Statements σ} {P : σ → Prop} {codec : AlloyCodec} {config : ExecutionConfig}
  {transport : ExecutionTransport} {request : ExecutionRequest} {storage : σ}

theorem onRow (h : sql.Keeps P) (hP : P storage) (attemptId : Option Nat)
    (update : AttemptUpdate) : P (sql.onRow attemptId update storage).1 := by
  unfold Statements.onRow
  cases attemptId with
  | none => exact hP
  | some id =>
      dsimp only
      cases hupdate : sql.updateAttempt id update storage with
      | ok storage' => exact h.update hP hupdate
      | error e => exact hP

theorem settleSubmitted (h : sql.Keeps P) (hP : P storage) (attemptId : Option Nat)
    (built attempt : ExecutionAttempt) :
    P (settleSubmitted sql transport config request attemptId built attempt storage).storage := by
  unfold BaseEngine.settleSubmitted
  split
  · split
    · exact hP
    · exact h.onRow hP attemptId _
  · split
    · exact hP
    · exact h.onRow hP attemptId _
  · exact h.onRow hP attemptId _

theorem followSubmitted (h : sql.Keeps P) (hP : P storage) (attemptId : Option Nat)
    (built : ExecutionAttempt) (txHash : String) :
    P (followSubmitted sql transport config request attemptId built txHash storage).storage := by
  unfold BaseEngine.followSubmitted
  split
  · exact hP
  · next attempt _ =>
      have hrow := h.onRow hP attemptId (.submitted attempt)
      split
      · next hwritten =>
          rw [hwritten] at hrow
          exact hrow
      · next hwritten =>
          rw [hwritten] at hrow
          exact h.settleSubmitted hrow attemptId built attempt

theorem driveExecutionAttempt (h : sql.Keeps P) (hP : P storage) (attemptId : Option Nat)
    (built : ExecutionAttempt) (clock : Except ErrorChain Nat) :
    P (driveExecutionAttempt sql codec transport config request attemptId built clock
      storage).storage := by
  unfold BaseEngine.driveExecutionAttempt
  split
  · exact h.onRow hP attemptId _
  · split
    · exact h.followSubmitted hP attemptId built _
    · exact h.onRow hP attemptId _
    · exact h.onRow hP attemptId _

theorem submitAttempt (h : sql.Keeps P) (hP : P storage) (outside : Outside)
    (attemptId : Option Nat) (attempt : ExecutionAttempt) (risk : RiskState) :
    P (submitAttempt sql codec config outside request attemptId attempt risk storage).storage := by
  have hdrive := @driveExecutionAttempt σ sql P codec config outside.transport request storage h hP
    attemptId attempt outside.submissionClock
  unfold BaseEngine.submitAttempt
  split
  · exact hP
  · dsimp only
    split
    · exact hdrive
    · split_ifs
      · exact h.onRow hP attemptId _
      · exact hdrive

theorem executePrepared (h : sql.Keeps P) (hP : P storage) (outside : Outside)
    (prepared : PreparedExecution) (runId : Option Nat) (risk : RiskState) :
    P (executePrepared sql codec config outside request prepared runId risk storage).storage := by
  unfold BaseEngine.executePrepared
  split
  · exact hP
  · next persisted attemptId hpersist =>
      have hpersisted := h.attempt hP hpersist
      split_ifs
      · exact h.submitAttempt hpersisted outside attemptId prepared.attempt risk
      · exact hpersisted

end Statements.Keeps

/-! ## Two storages -/

/-- A call on both sides: both succeed, both fail alike, or the first fails and
the second is lost. -/
inductive Paired {α β : Type} (related : α → β → Prop) (lost : β → Prop) :
    Except ErrorChain α → Except ErrorChain β → Prop
  | ok {a : α} {b : β} (h : related a b) : Paired related lost (.ok a) (.ok b)
  | error {e : ErrorChain} : Paired related lost (.error e) (.error e)
  | lost {e : ErrorChain} {b : β} (h : lost b) : Paired related lost (.error e) (.ok b)

/-- The same check on both sides. -/
theorem Paired.map {α β : Type} {related : α → β → Prop} {lost : β → Prop}
    (check : Except ErrorChain Unit) {a : α} {b : β} (h : related a b) :
    Paired related lost (check.map fun _ => a) (check.map fun _ => b) := by
  cases check with
  | ok _ => exact .ok h
  | error e => exact .error

/-- How two storages are compared: the storages themselves, the identifiers of
an observed log and of a decision run, and the storages while an attempt with the
given identifiers is driven. -/
structure Matching (σ τ : Type) where
  storages : σ → τ → Prop
  logs : Option Nat → Option Nat → Prop
  runs : Option Nat → Option Nat → Prop
  driven : Option Nat → Option Nat → σ → τ → Prop
  lost : τ → Prop

/-- Whatever the statements of `A` write comes to what those of `B` write. -/
structure Statements.Follows (A : Statements σ) (B : Statements τ) (M : Matching σ τ) : Prop where
  run : ∀ {s t} record observedLogId, M.storages s t →
    M.logs record.observedLogId observedLogId →
    Paired (fun x y => M.storages x.1 y.1 ∧ M.runs x.2 y.2) (fun y => M.lost y.1)
      (A.persistDecisionRun record s) (B.persistDecisionRun { record with observedLogId } t)
  attempt : ∀ {s t i j} attempt request, M.storages s t → M.runs i j →
    Paired (fun x y => M.driven x.2 y.2 x.1 y.1) (fun y => M.lost y.1)
      (A.persistExecutionAttempt i attempt request s)
      (B.persistExecutionAttempt j attempt request t)
  update : ∀ {s t i j} update, M.driven i j s t →
    M.driven i j (A.onRow i update s).1 (B.onRow j update t).1
        ∧ (A.onRow i update s).2 = (B.onRow j update t).2
      ∨ (∃ e, (A.onRow i update s).2 = .error e) ∧ M.lost (B.onRow j update t).1
  storages : ∀ {s t i j}, M.driven i j s t → M.storages s t
  keeps : B.Keeps M.lost

/-- What is left behind on both sides is the same up to the storages. -/
structure Handled.Like (R : σ → τ → Prop) (x : Handled σ) (y : Handled τ) : Prop where
  risk : x.risk = y.risk
  storage : R x.storage y.storage
  handed : x.handed = y.handed
  recorded : x.recorded = y.recorded
  result : x.result = y.result

/-- The same, or the first side has failed and the second was lost. -/
def Alike (M : Matching σ τ) (x : Handled σ) (y : Handled τ) : Prop :=
  x.Like M.storages y ∨ (∃ e, x.result = .error e) ∧ M.lost y.storage

theorem Alike.withContext {M : Matching σ τ} {x : Handled σ} {y : Handled τ} (h : Alike M x y)
    (context : String) :
    Alike M { x with result := BaseEngine.withContext context x.result }
      { y with result := BaseEngine.withContext context y.result } := by
  rcases h with ⟨hrisk, hstorage, hhanded, hrecorded, hresult⟩ | ⟨⟨e, he⟩, hlost⟩
  · exact .inl ⟨hrisk, hstorage, hhanded, hrecorded,
      congrArg (BaseEngine.withContext context) hresult⟩
  · refine .inr ⟨⟨context :: e, ?_⟩, hlost⟩
    rw [he]
    rfl

namespace Statements.Follows

variable {A : Statements σ} {B : Statements τ} {M : Matching σ τ} {codec : AlloyCodec}
  {config : ExecutionConfig} {transport : ExecutionTransport} {request : ExecutionRequest}
  {s : σ} {t : τ} {i j : Option Nat}

/-- A statement that is the last thing to do. -/
theorem last (h : A.Follows B M) (hst : M.driven i j s t) (update : AttemptUpdate)
    (risk : RiskState) (handed : List ExecutionAttempt) (recorded : Option Bool) :
    Alike M
      { risk, storage := (A.onRow i update s).1, handed, recorded,
        result := (A.onRow i update s).2 }
      { risk, storage := (B.onRow j update t).1, handed, recorded,
        result := (B.onRow j update t).2 } := by
  rcases h.update update hst with ⟨hstorage, hresult⟩ | ⟨hfailed, hlost⟩
  · exact .inl ⟨rfl, h.storages hstorage, rfl, rfl, hresult⟩
  · exact .inr ⟨hfailed, hlost⟩

/-- An error that has nothing to do with the storage. -/
theorem interrupted (h : A.Follows B M) (hst : M.driven i j s t)
    (built attempt : ExecutionAttempt) (e : ErrorChain) (risk : RiskState) :
    Alike M ((interrupted built attempt s e).handled risk)
      ((interrupted built attempt t e).handled risk) :=
  .inl ⟨rfl, h.storages hst, rfl, rfl, rfl⟩

theorem settleSubmitted (h : A.Follows B M) (hst : M.driven i j s t)
    (built attempt : ExecutionAttempt) (risk : RiskState) :
    Alike M
      ((settleSubmitted A transport config request i built attempt s).handled risk)
      ((settleSubmitted B transport config request j built attempt t).handled risk) := by
  unfold BaseEngine.settleSubmitted
  cases transport.awaitReceipt request attempt config.receiptTimeoutSecs with
  | error e => exact h.last hst _ risk [built] none
  | ok found =>
      cases found with
      | none =>
          dsimp only
          cases withContext "failed to mark execution attempt as dropped"
              (markDropped attempt receiptTimedOut) with
          | error e => exact h.interrupted hst built attempt e risk
          | ok dropped => exact h.last hst _ _ [built] _
      | some receipt =>
          dsimp only
          cases withContext "failed to finalize execution receipt"
              (finalizeFromReceipt attempt receipt none request.minSurplus) with
          | error e => exact h.interrupted hst built attempt e risk
          | ok finalized => exact h.last hst _ _ [built] _

theorem followSubmitted (h : A.Follows B M) (hst : M.driven i j s t)
    (built : ExecutionAttempt) (txHash : String) (risk : RiskState) :
    Alike M
      ((followSubmitted A transport config request i built txHash s).handled risk)
      ((followSubmitted B transport config request j built txHash t).handled risk) := by
  unfold BaseEngine.followSubmitted
  cases withContext "invalid submitted attempt" (markSubmitted built txHash) with
  | error e => exact h.interrupted hst built built e risk
  | ok attempt =>
      dsimp only
      have hupdate := h.update (.submitted attempt) hst
      rcases hA : A.onRow i (.submitted attempt) s with ⟨s', r⟩
      rcases hB : B.onRow j (.submitted attempt) t with ⟨t', r'⟩
      rw [hA, hB] at hupdate
      rcases hupdate with ⟨hst', rfl⟩ | ⟨⟨e, rfl⟩, hlost⟩
      · cases r with
        | error e => exact h.interrupted hst' built attempt e risk
        | ok _ => exact h.settleSubmitted hst' built attempt risk
      · -- the second side goes on, and stays lost
        refine .inr ⟨⟨e, rfl⟩, ?_⟩
        cases r' with
        | error e' => exact hlost
        | ok _ => exact h.keeps.settleSubmitted hlost j built attempt

theorem driveExecutionAttempt (h : A.Follows B M) (hst : M.driven i j s t)
    (built : ExecutionAttempt) (clock : Except ErrorChain Nat) (risk : RiskState) :
    Alike M
      ((driveExecutionAttempt A codec transport config request i built clock s).handled risk)
      ((driveExecutionAttempt B codec transport config request j built clock t).handled risk) := by
  unfold BaseEngine.driveExecutionAttempt
  cases buildSubmissionPayload codec config request clock with
  | error e => exact h.last hst _ _ [] _
  | ok payload =>
      dsimp only
      cases transport.submit config.submitTimeoutSecs payload built with
      | none => exact h.last hst _ _ [built] _
      | some answer =>
          cases answer with
          | error e => exact h.last hst _ _ [built] _
          | ok txHash => exact h.followSubmitted hst built txHash risk

theorem submitAttempt (h : A.Follows B M) (hst : M.driven i j s t)
    (outside : Outside) (attempt : ExecutionAttempt) (risk : RiskState) :
    Alike M (submitAttempt A codec config outside request i attempt risk s)
      (submitAttempt B codec config outside request j attempt risk t) := by
  have hdrive := (@driveExecutionAttempt σ τ A B M codec config outside.transport
    request s t i j h hst attempt outside.submissionClock risk).withContext
      "failed to drive execution attempt lifecycle"
  unfold BaseEngine.submitAttempt
  cases withContext "failed to build submission payload for eth_call simulation"
      (buildSubmissionPayload codec config request outside.simulationClock) with
  | error e => exact .inl ⟨rfl, h.storages hst, rfl, rfl, rfl⟩
  | ok payload =>
      dsimp only
      cases runEthcallSimulation config outside with
      | ok _ => exact hdrive
      | error e =>
          dsimp only
          split_ifs with hrequired
          · exact h.last hst _ _ [] _
          · exact hdrive

theorem executePrepared (h : A.Follows B M) (hst : M.storages s t) (hruns : M.runs i j)
    (outside : Outside) (prepared : PreparedExecution) (risk : RiskState) :
    Alike M (executePrepared A codec config outside request prepared i risk s)
      (executePrepared B codec config outside request prepared j risk t) := by
  have hpersist := h.attempt prepared.attempt request hst hruns
  unfold BaseEngine.executePrepared
  generalize A.persistExecutionAttempt i prepared.attempt request s = x at hpersist
  generalize B.persistExecutionAttempt j prepared.attempt request t = y at hpersist
  cases hpersist with
  | @ok a b hdriven =>
      dsimp only
      split_ifs with hsubmit
      · exact h.submitAttempt hdriven outside prepared.attempt risk
      · exact .inl ⟨rfl, h.storages hdriven, rfl, rfl, rfl⟩
  | error => exact .inl ⟨rfl, hst, rfl, rfl, rfl⟩
  | @lost e b hlost =>
      refine .inr ⟨⟨e, rfl⟩, ?_⟩
      dsimp only
      split_ifs with hsubmit
      · exact h.keeps.submitAttempt hlost outside b.2 prepared.attempt risk
      · exact hlost

variable {sha256 : List UInt8 → String} {appConfig : AppConfig} {policy : RiskPolicy}

/-- **An output is handled alike on both sides** when the exposure is the same,
whatever the row of its log. -/
theorem maybeLogDecisionOutput (h : A.Follows B M) (hst : M.storages s t)
    (hexposure : A.todaysSubmittableNotionalWei s = B.todaysSubmittableNotionalWei t)
    (outside : Outside) {output output' : Option DecisionPipelineOutput}
    (houtput : Option.Rel (fun out out' => M.logs out.observedLogId out'.observedLogId
      ∧ out' = { out with observedLogId := out'.observedLogId }) output output')
    (risk : RiskState) :
    Alike M
      (maybeLogDecisionOutput A sha256 codec appConfig policy outside output risk s)
      (maybeLogDecisionOutput B sha256 codec appConfig policy outside output' risk t) := by
  cases houtput with
  | none => exact .inl ⟨rfl, hst, rfl, rfl, rfl⟩
  | @some out out' hlogs =>
      obtain ⟨observedLogId, hout'⟩ : ∃ observedLogId,
          out' = { out with observedLogId } := ⟨_, hlogs.2⟩
      obtain ⟨hlogs, -⟩ := hlogs
      subst hout'
      unfold BaseEngine.maybeLogDecisionOutput
      dsimp only
      have hprepare : prepareOutput A appConfig.execution out
            (out.assessed sha256 policy outside risk).1 s
          = prepareOutput B appConfig.execution { out with observedLogId }
            (out.assessed sha256 policy outside risk).1 t := by
        unfold prepareOutput
        rw [hexposure]
      have hassessed : DecisionPipelineOutput.assessed sha256 policy outside
          { out with observedLogId } risk = out.assessed sha256 policy outside risk := rfl
      rw [hassessed, hprepare]
      cases prepareOutput B appConfig.execution { out with observedLogId }
          (out.assessed sha256 policy outside risk).1 t with
      | error e => exact .inl ⟨rfl, hst, rfl, rfl, rfl⟩
      | ok prepared =>
          dsimp only
          have hrun := h.run (out.record (out.assessed sha256 policy outside risk).1
            (prepared.map Prod.fst)) observedLogId hst hlogs
          change Paired _ _ _ (B.persistDecisionRun ({ out with observedLogId }.record
            (out.assessed sha256 policy outside risk).1 (prepared.map Prod.fst)) t) at hrun
          generalize A.persistDecisionRun _ s = x at hrun
          generalize B.persistDecisionRun _ t = y at hrun
          cases hrun with
          | @ok a b hrelated =>
              cases prepared with
              | none => exact .inl ⟨rfl, hrelated.1, rfl, rfl, rfl⟩
              | some pair => exact h.executePrepared hrelated.1 hrelated.2 outside pair.2 _
          | error => exact .inl ⟨rfl, hst, rfl, rfl, rfl⟩
          | @lost e b hlost =>
              refine .inr ⟨⟨e, rfl⟩, ?_⟩
              cases prepared with
              | none => exact hlost
              | some pair => exact h.keeps.executePrepared hlost outside pair.2 b.2 _

end Statements.Follows

/-! ## Two loops -/

section Loops

variable {α β : Type} {A : Backend α σ} {B : Backend β τ} {f : α → β} {M : Matching σ τ}
  {R : σ → τ → Prop}

/-- What arrives at the first loop comes to the same as what arrives at the
second. -/
structure Backend.Follows (A : Backend α σ) (B : Backend β τ) (f : α → β) (M : Matching σ τ) :
    Prop where
  event : ∀ a, B.event (f a) = A.event a
  pools : ∀ a, B.pools (f a) = A.pools a
  outside : ∀ a, B.outside (f a) = A.outside a
  observed : ∀ {s t a log}, A.event a = .log log → M.storages s t →
    Paired (fun x y => M.storages x.1 y.1 ∧ M.logs x.2 y.2) (fun _ => False)
      (A.persistObservedLog a log s) (B.persistObservedLog (f a) log t)
  exposure : ∀ {s t} a, M.storages s t →
    (A.statements a).todaysSubmittableNotionalWei s
      = (B.statements (f a)).todaysSubmittableNotionalWei t
  statements : ∀ a, (A.statements a).Follows (B.statements (f a)) M
  sure : ∀ t, ¬ M.lost t

/-- The same up to the storages. -/
structure Engine.Like (R : σ → τ → Prop) (s : Engine σ) (t : Engine τ) : Prop where
  book : s.book = t.book
  risk : s.risk = t.risk
  storage : R s.storage t.storage
  exit : s.exit = t.exit
  handed : s.handed = t.handed

def Signal.map (f : α → β) : Signal α → Signal β
  | .event arrival => .event (f arrival)
  | .eventsClosed => .eventsClosed
  | .runtimeEvent => .runtimeEvent
  | .runtimeEventsClosed => .runtimeEventsClosed
  | .ctrlC listening => .ctrlC listening

theorem Signal.map_id (signal : Signal α) : signal.map id = signal := by
  cases signal with
  | _ => rfl

variable {rt : Runtime} {s : Engine σ} {t : Engine τ}

theorem Engine.Like.leave (h : s.Like R t) (result : Except ErrorChain String) :
    (s.leave result).Like R (t.leave result) :=
  ⟨h.book, h.risk, h.storage, rfl, h.handed⟩

theorem Engine.Like.record (h : s.Like R t) (outside : Outside) {x : Handled σ} {y : Handled τ}
    (hxy : x.Like R y) : (s.record outside x).Like R (t.record outside y) where
  book := h.book
  risk := hxy.risk
  storage := hxy.storage
  exit := by
    unfold Engine.record
    rw [hxy.result]
  handed := by
    unfold Engine.record
    rw [h.handed, hxy.handed]

/-- What is decided after a log on both sides differs by the row of the log
only. -/
theorem Runtime.decisionOn_rel (rt : Runtime) {P : Option Nat → Option Nat → Prop}
    {i j : Option Nat} (h : P i j) (pools : List V2PoolState) (log : Log)
    (outcome : MarketEventOutcome) :
    Option.Rel (fun out out' => P out.observedLogId out'.observedLogId
        ∧ out' = { out with observedLogId := out'.observedLogId })
      (rt.decisionOn i pools log outcome) (rt.decisionOn j pools log outcome) := by
  unfold decisionOn
  split_ifs with hignored
  · exact .none
  · cases rt.scan with
    | none => exact .none
    | some scan =>
        simp only [Option.bind_some, RuntimeScanConfig.decide]
        split
        · exact .none
        · split
          · exact .none
          · exact .some ⟨h, rfl⟩

theorem Backend.Follows.settle (h : A.Follows B f M) (hst : s.Like M.storages t) (a : α)
    (log : Log) (outcome : MarketEventOutcome) {i j : Option Nat} (hlogs : M.logs i j) :
    (rt.settleWith (A.statements a) (A.outside a) s
        (rt.decisionOn i (A.pools a) log outcome)).Like M.storages
      (rt.settleWith (B.statements (f a)) (B.outside (f a)) t
        (rt.decisionOn j (B.pools (f a)) log outcome)) := by
  have hhandled := @Statements.Follows.maybeLogDecisionOutput σ τ _ _ M rt.codec s.storage
    t.storage rt.sha256 rt.config rt.policy (h.statements a) hst.storage
    (h.exposure a hst.storage) (A.outside a) _ _
    (rt.decisionOn_rel hlogs (A.pools a) log outcome) s.risk
  unfold Runtime.settleWith
  rw [h.outside, h.pools, ← hst.risk]
  rcases hhandled with hlike | ⟨-, hlost⟩
  · exact hst.record (A.outside a) hlike
  · exact absurd hlost (h.sure _)

theorem Backend.Follows.handle_log (h : A.Follows B f M) (hst : s.Like M.storages t) {a : α}
    {log : Log} (hevent : A.event a = .log log) :
    (rt.handleWith A s a).Like M.storages (rt.handleWith B t (f a)) := by
  have hpersist := h.observed hevent hst.storage
  unfold Runtime.handleWith Runtime.handleEvent
  rw [h.event, hevent, ← hst.book]
  dsimp only
  generalize A.persistObservedLog a log s.storage = x at hpersist
  generalize B.persistObservedLog (f a) log t.storage = y at hpersist
  cases hpersist with
  | @ok p q hstorage =>
      rcases s.book.applyLog rt.u256FromDecimal log with ⟨book, result⟩
      have hpersisted : ({ s with storage := p.1, book } : Engine σ).Like M.storages
          { t with storage := q.1, book } := ⟨rfl, hst.risk, hstorage.1, hst.exit, hst.handed⟩
      have hsettle := fun outcome => @settle σ τ α β A B f M rt _ _ h hpersisted a log outcome
        p.2 q.2 hstorage.2
      simp only [withContext, Except.mapError]
      cases result with
      | error e => exact hpersisted.leave _
      | ok outcome =>
          cases outcome with
          | applied => exact hsettle .applied
          | ignored => exact hsettle .ignored
          | reverted => exact hsettle .reverted
  | error =>
      have hbook : s.Like M.storages { t with book := s.book } :=
        ⟨rfl, hst.risk, hst.storage, hst.exit, hst.handed⟩
      exact hbook.leave _
  | lost hlost => exact hlost.elim

theorem Backend.Follows.handle (h : A.Follows B f M) (hst : s.Like M.storages t)
    (hexit : s.exit = none) (a : α) :
    (rt.handleWith A s a).Like M.storages (rt.handleWith B t (f a)) := by
  by_cases hlog : ∃ log, A.event a = .log log
  · obtain ⟨log, hevent⟩ := hlog
    exact h.handle_log hst hevent
  · have hnot := not_exists.mp hlog
    rw [Runtime.handleWith_of_not_log hexit hnot,
      Runtime.handleWith_of_not_log (hst.exit ▸ hexit) (fun log => h.event a ▸ hnot log)]
    exact hst

/-- **A turn of the loop comes to the same on both sides.** -/
theorem Backend.Follows.step (h : A.Follows B f M) (hst : s.Like M.storages t)
    (signal : Signal α) :
    (rt.stepWith A s signal).Like M.storages (rt.stepWith B t (signal.map f)) := by
  unfold Runtime.stepWith
  rw [← hst.exit]
  split_ifs with hexit
  · exact hst
  · rw [Bool.not_eq_true, Option.isSome_eq_false_iff, Option.isNone_iff_eq_none] at hexit
    cases signal with
    | event a => exact h.handle hst hexit a
    | eventsClosed => exact hst.leave _
    | runtimeEvent => exact hst
    | runtimeEventsClosed => exact hst.leave _
    | ctrlC listening =>
        cases listening with
        | ok _ => exact hst.leave _
        | error e => exact hst.leave _

/-- **So does a run.** -/
theorem Backend.Follows.final (h : A.Follows B f M) (hst : s.Like M.storages t)
    (signals : List (Signal α)) :
    (Run.final (rt.stepWith A) s signals).Like M.storages
      (Run.final (rt.stepWith B) t (signals.map (Signal.map f))) :=
  @Run.final_related _ _ (rt.stepWith A) _ _ (rt.stepWith B) (Engine.Like M.storages) (Signal.map f)
    (fun _ _ signal hst => h.step hst signal) signals s t hst

end Loops

end BaseEngine
