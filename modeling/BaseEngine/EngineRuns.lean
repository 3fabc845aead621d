import BaseEngine.Engine
import BaseEngine.LoopDetection

/-!
# Runs of the engine

Results about every sequence of signals the loop can receive.

`handed_explained`: an attempt reaches the transport only in the turn of a log
that was persisted and changed the book, for the best loop of the book as that
log left it, after the simulation, the risk engine and the submission policy
let it through.
-/

namespace BaseEngine

open Fallible Machine

variable {rt : Runtime} {s s' : Engine Storage} {signal : Signal Arrival}

/-! ## What is handed over -/

/-- The map shows its V2 pools in an order of its own. -/
def Listed {α σ : Type} (rt : Runtime) (backend : Backend α σ) (s : Engine σ)
    (signal : Signal α) : Prop :=
  ∀ arrival log, signal = .event arrival → backend.event arrival = .log log →
    (s.book.applyLog rt.u256FromDecimal log).1.Lists (backend.pools arrival)

/-- What a turn had to go through to hand an attempt over: the log changed
the book to `book`, `out` is the best loop there with its simulation, and the
attempt is for that loop. -/
structure Decided (rt : Runtime) (s : Engine Storage) (arrival : Arrival) (log : Log)
    (book : PoolBook) (scan : RuntimeScanConfig) (out : DecisionPipelineOutput)
    (handover : Handover) : Prop where
  running : s.exit = none
  event : arrival.event = .log log
  persisted : query s.storage arrival.persistLog = .ok ()
  changed : ∃ outcome, s.book.applyLog rt.u256FromDecimal log = (book, .ok outcome)
    ∧ outcome ≠ .ignored
  scanned : rt.scan = some scan
  loop : ∃ first ∈ book.v2Pools, ∃ second ∈ book.v2Pools,
    pairLoop log.metadata.blockContext scan.settlementToken scan.amountIn log.metadata.txHash
      first second = some out.opportunity
  best : ∀ first ∈ book.v2Pools, ∀ second ∈ book.v2Pools, ∀ other,
    pairLoop log.metadata.blockContext scan.settlementToken scan.amountIn log.metadata.txHash
      first second = some other → RankedBefore out.opportunity other
  simulated : simulateTwoLegOpportunity out.opportunity scan.simulation = some out.simulation
  accepted : (rt.policy.assess rt.sha256 arrival.answers.reading out.opportunity out.simulation
    s.risk).1.accepted = true
  times : handover = arrival.answers.handover handover.attempt
  request : handover.attempt.requestId = out.opportunity.id
  notional : handover.attempt.requestedNotional = scan.amountIn
  allowed : ∃ current reason, todaysSubmittableNotionalWei s.storage arrival.answers = .ok current
    ∧ submissionPolicy rt.config.execution scan.amountIn current = .ok (true, reason)

theorem RuntimeScanConfig.decide_eq_some_iff {scan : RuntimeScanConfig}
    {observedLogId : Option Nat} {pools : List V2PoolState} {log : Log}
    {out : DecisionPipelineOutput} :
    scan.decide observedLogId pools log = some out
      ↔ (detectTwoLegLoopsFromBook pools log.metadata.blockContext scan.settlementToken
            scan.amountIn log.metadata.txHash).head? = some out.opportunity
        ∧ simulateTwoLegOpportunity out.opportunity scan.simulation = some out.simulation
        ∧ out.observedLogId = observedLogId := by
  unfold RuntimeScanConfig.decide
  cases hhead : (detectTwoLegLoopsFromBook pools log.metadata.blockContext scan.settlementToken
      scan.amountIn log.metadata.txHash).head? with
  | none => simp
  | some best =>
      constructor
      · intro h
        cases hsim : simulateTwoLegOpportunity best scan.simulation with
        | none => simp [hsim] at h
        | some simulation =>
            simp only [hsim, Option.some.injEq] at h
            subst h
            exact ⟨rfl, hsim, rfl⟩
      · rintro ⟨hbest, hsim, rfl⟩
        obtain rfl := Option.some.inj hbest
        simp only [hsim]

/-- An output comes from a log that changed the book, under a scan. -/
theorem Runtime.decisionOn_eq_some {observedLogId : Option Nat} {pools : List V2PoolState}
    {log : Log} {outcome : MarketEventOutcome} {out : DecisionPipelineOutput}
    (h : rt.decisionOn observedLogId pools log outcome = some out) :
    outcome ≠ .ignored ∧ ∃ scan, rt.scan = some scan
      ∧ scan.decide observedLogId pools log = some out := by
  unfold Runtime.decisionOn at h
  split at h
  · cases h
  · next hchanged => exact ⟨hchanged, Option.bind_eq_some_iff.mp h⟩

section Best

variable {pools : List V2PoolState} {blockContext : BlockContext} {settlementToken : Address}
  {amountIn : Nat} {triggerTxHash : Option String} {opp : Opportunity}

/-- The first loop of the scan is a loop of two of the pools. -/
theorem exists_pairLoop_of_head? (h : (detectTwoLegLoopsFromBook pools blockContext
      settlementToken amountIn triggerTxHash).head? = some opp) :
    ∃ first ∈ pools, ∃ second ∈ pools,
      pairLoop blockContext settlementToken amountIn triggerTxHash first second = some opp := by
  rw [detectTwoLegLoopsFromBook_eq] at h
  exact mem_pairLoops.mp (Ranking.mem_of_mem_ranked (List.mem_of_mem_head? h))

/-- It comes before every other one. -/
theorem rankedBefore_of_head? (h : (detectTwoLegLoopsFromBook pools blockContext settlementToken
      amountIn triggerTxHash).head? = some opp) {first second : V2PoolState}
    (hfirst : first ∈ pools) (hsecond : second ∈ pools) {other : Opportunity}
    (hother : pairLoop blockContext settlementToken amountIn triggerTxHash first second
      = some other) : RankedBefore opp other := by
  rw [detectTwoLegLoopsFromBook_eq] at h
  exact Ranking.le_of_head?_ranked h (mem_pairLoops.mpr ⟨first, hfirst, second, hsecond, hother⟩)

theorem inputAmount_of_pairLoop {first second : V2PoolState}
    (h : pairLoop blockContext settlementToken amountIn triggerTxHash first second = some opp) :
    opp.inputAmount = amountIn := by
  unfold pairLoop at h
  split at h
  · cases h
  · obtain ⟨_, _, -, -, -, -, -, -, -, hinput, -⟩ := detectTwoLegLoop_some h
    exact hinput

end Best

/-- **What one turn hands over.** -/
theorem Turn.handed (h : Turn rt s signal s') (hlisted : Listed rt rowsBackend s signal)
    {handover : Handover} (hmem : handover ∈ s'.handed) :
    handover ∈ s.handed ∨ ∃ arrival log book scan out, signal = .event arrival
      ∧ Decided rt s arrival log book scan out handover := by
  cases h with
  | stopped _ => exact .inl hmem
  | passes _ _ _ => exact .inl hmem
  | leaves _ _ => exact .inl hmem
  | unpersisted _ _ _ => exact .inl hmem
  | inapplicable _ _ _ _ => exact .inl hmem
  | @settles arrival log book outcome hexit hlog hpersist hbook =>
      obtain ⟨hsignal, hevent⟩ := event_of_log? hlog
      have hpools : book.Lists arrival.pools := by
        have := hlisted arrival log hsignal hevent
        rwa [hbook] at this
      have hstep := (@handling_maybeLogDecisionOutput _ arrival.answers.statements rt.sha256
        rt.config rt.policy arrival.answers.toOutside rt.codec (rt.decision arrival log outcome)
        s.risk s.storage).outputStep
      unfold Runtime.settle Runtime.settleWith Engine.record at hmem
      dsimp only at hmem
      generalize maybeLogDecisionOutput arrival.answers.statements rt.sha256 rt.codec rt.config
        rt.policy arrival.answers.toOutside (rt.decision arrival log outcome) s.risk s.storage
        = handled at hstep hmem
      rcases List.mem_append.mp hmem with hold | hnew
      · exact .inl hold
      · cases hstep with
        | idle _ => cases hnew
        | withheld _ hhanded _ _ =>
            rw [hhanded] at hnew
            cases hnew
        | @handed out attempt current reason _ hout hhanded haccepted hrequest hnotional hallowed
            hcurrent hpolicy hrisk hstorage =>
            rw [hhanded] at hnew
            obtain rfl := List.mem_singleton.mp hnew
            obtain ⟨hchanged, scan, hscan, hdecide⟩ := Runtime.decisionOn_eq_some hout
            obtain ⟨hhead, hsim, -⟩ := RuntimeScanConfig.decide_eq_some_iff.mp hdecide
            obtain ⟨first, hfirst, second, hsecond, hloop⟩ := exists_pairLoop_of_head? hhead
            have hamount := inputAmount_of_pairLoop hloop
            rw [hnotional, hamount] at hpolicy
            refine .inr ⟨arrival, log, book, scan, out, hsignal, {
              running := hexit
              event := hevent
              persisted := hpersist
              changed := ⟨outcome, hbook, hchanged⟩
              scanned := hscan
              loop := ⟨first, hpools.mem_iff.mp hfirst, second, hpools.mem_iff.mp hsecond, hloop⟩
              best := fun p hp q hq other hother => rankedBefore_of_head? hhead
                (hpools.mem_iff.mpr hp) (hpools.mem_iff.mpr hq) hother
              simulated := hsim
              accepted := haccepted
              times := rfl
              request := hrequest
              notional := hnotional.trans hamount
              allowed := ⟨current, reason, hcurrent, hpolicy⟩ }⟩

/-- Only canary and live mode let an attempt through. -/
theorem mode_of_allowed {config : ExecutionConfig} {notional current : Nat}
    {reason : Option String} (h : submissionPolicy config notional current = .ok (true, reason)) :
    config.mode ≠ .shadow := by
  intro hmode
  unfold submissionPolicy at h
  simp only [hmode, Except.ok.injEq, Prod.mk.injEq] at h
  exact absurd h.1 Bool.false_ne_true

/-- The book is well-formed after every run. -/
theorem wellFormed_final {signals : List (Signal Arrival)} (hbook : s.book.WellFormed) :
    (Run.final rt.step s signals).book.WellFormed :=
  Run.final_of_stable (fun s signal h => (loopTurn_step rt rowsBackend s signal).wellFormed h)
    hbook

/-- **Where a submission comes from.** In every run of the loop from a
well-formed book, such as `main` starts with (`StartBook.wellFormed`), an
attempt that reaches the transport goes back to one log of the run. The log was
persisted and changed the book; the attempt carries the id of the best of all
loops over the V2 pools of the book as the log left it, and the configured
amount; and it passed every gate of the risk engine and the submission policy,
which shadow mode never lets happen. -/
theorem handed_explained {book : PoolBook} {storage : Storage} {signals : List (Signal Arrival)}
    (hbook : book.WellFormed)
    (hlisted : Run.Along rt.step (Listed rt rowsBackend) (Engine.start book storage) signals)
    {handover : Handover}
    (hmem : handover ∈ (Run.final rt.step (Engine.start book storage) signals).handed) :
    ∃ pre arrival post log after scan out, signals = pre ++ .event arrival :: post
      ∧ Decided rt (Run.final rt.step (Engine.start book storage) pre) arrival log after scan out
          handover
      ∧ after.WellFormed
      ∧ rt.policy.Passes arrival.answers.reading.killSwitchFile out.opportunity out.simulation
      ∧ rt.config.execution.mode ≠ .shadow := by
  obtain ⟨pre, signal, post, rfl, hbefore, hafter⟩ :=
    @Run.exists_step_into _ _ rt.step (fun s => handover ∈ s.handed) signals
      (Engine.start book storage) List.not_mem_nil hmem
  obtain ⟨-, hlisted⟩ := Run.along_append.mp hlisted
  have hturn := turn_step rt (Run.final rt.step (Engine.start book storage) pre) signal
  rcases hturn.handed hlisted.1 hafter with hold | ⟨arrival, log, after, scan, out, rfl, hdecided⟩
  · exact absurd hold hbefore
  · have hpre : (Run.final rt.step (Engine.start book storage) pre).book.WellFormed :=
      wellFormed_final hbook
    obtain ⟨outcome, hresult, -⟩ := hdecided.changed
    have hwell := @PoolBook.WellFormed.applyLog rt.u256FromDecimal _ hpre log
    rw [hresult] at hwell
    obtain ⟨current, reason, -, hpolicy⟩ := hdecided.allowed
    exact ⟨pre, arrival, post, log, after, scan, out, rfl, hdecided, hwell,
      (RiskPolicy.passes_of_accepted rt.sha256 hdecided.accepted).1, mode_of_allowed hpolicy⟩

/-! A run that hands an attempt over: a `Sync` of the first pool of the sample
loop, in canary mode. -/

def sampleRuntime : Runtime :=
  { sha256 := Sha256.hexDigest, codec := sampleCodec, u256FromDecimal := fun _ => none,
    config := scanningConfig sampleExecution.routerAddress, policy := CanaryRun.canaryPolicy,
    scan := some scanningSetup }

def sampleArrival : Arrival :=
  { event := .log (PoolBook.syncLogOf pool1 1000000000 2500000000 1 false)
    persistLog := .ok ()
    pools := [{ profitableLoop.firstPool with lastUpdatedBlock := some 123 },
      profitableLoop.secondPool]
    answers := CanaryRun.obligingAnswers }

def sampleHandover : Handover :=
  { decidedAt := 1700000000, insertedAt := 1700000000, handedAt := 1700000001,
    attempt :=
      { requestId := sampleOpportunity.id, txHash := none, status := .built,
        executionMode := "canary", submissionAllowed := true, blockedReason := none,
        requestedNotional := 1000000, gasLimit := some 216000, maxFeePerGas := none,
        maxPriorityFeePerGas := none } }

def V2PoolState.bootstrap (pool : V2PoolState) : BootstrapV2Pool :=
  { address := pool.address, protocol := pool.protocol, exchange := pool.exchange,
    token0 := pool.token0, token1 := pool.token1, reserve0 := pool.reserve0,
    reserve1 := pool.reserve1, feeBps := pool.feeBps }

/-- A bootstrap file with the two pools of the sample book. -/
def sampleReader : BootstrapReader :=
  { readToString := fun _ => .ok "[..]"
    parse := fun _ =>
      .ok [profitableLoop.firstPool.bootstrap, profitableLoop.secondPool.bootstrap] }

theorem sampleBook_start : StartBook sampleReader (some "pools.json") sampleBook := .loaded rfl

theorem sampleSync_handed :
    (Run.final sampleRuntime.step (Engine.start sampleBook none) [.event sampleArrival]).handed
      = [sampleHandover] := by
  decide +kernel

theorem sampleArrival_listed :
    Run.Along sampleRuntime.step (Listed sampleRuntime rowsBackend)
      (Engine.start sampleBook none) [.event sampleArrival] := by
  refine ⟨?_, trivial⟩
  intro arrival log hsignal hevent
  cases hsignal
  cases hevent
  decide +kernel

theorem sampleSync_explained :
    ∃ pre arrival post log after scan out,
      [.event sampleArrival] = pre ++ .event arrival :: post
        ∧ Decided sampleRuntime
            (Run.final sampleRuntime.step (Engine.start sampleBook none) pre) arrival log after
            scan out sampleHandover
        ∧ after.WellFormed
        ∧ sampleRuntime.policy.Passes arrival.answers.reading.killSwitchFile out.opportunity
            out.simulation
        ∧ sampleRuntime.config.execution.mode ≠ .shadow :=
  handed_explained sampleBook_start.wellFormed sampleArrival_listed
    (sampleSync_handed ▸ List.mem_singleton_self _)

/-! ## The end of a run -/

section Over

variable {α σ : Type} {backend : Backend α σ} {s : Engine σ}

/-- Once the loop is left, nothing happens. -/
theorem step_of_exit (hexit : s.exit.isSome = true) (signal : Signal α) :
    rt.stepWith backend s signal = s := by
  unfold Runtime.stepWith
  rw [if_pos hexit]

theorem final_of_exit (hexit : s.exit.isSome = true) (signals : List (Signal α)) :
    Run.final (rt.stepWith backend) s signals = s := by
  refine @Run.final_of_stable _ _ (rt.stepWith backend) (fun t => t = s) (fun t signal ht => ?_)
    signals s rfl
  rw [ht, step_of_exit hexit]

theorem running_of_final {signals : List (Signal α)}
    (hrunning : (Run.final (rt.stepWith backend) s signals).exit = none) : s.exit = none := by
  cases hexit : s.exit with
  | none => rfl
  | some result =>
      rw [final_of_exit (by rw [hexit]; rfl), hexit] at hrunning
      cases hrunning

/-- As long as the loop runs, the book has the pools of the start. -/
theorem directory_step {directory : String → Option PoolState}
    (h : s.exit = none → s.book.directory = directory) (signal : Signal α)
    (hnext : (rt.stepWith backend s signal).exit = none) :
    (rt.stepWith backend s signal).book.directory = directory := by
  have hturn := loopTurn_step rt backend s signal
  exact (hturn.directory hnext).trans (h (hturn.running hnext))

end Over

end BaseEngine
