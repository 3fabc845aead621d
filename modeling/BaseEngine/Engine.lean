import BaseEngine.CanaryLimit
import BaseEngine.ConfigCompleteness
import BaseEngine.DiscoveredBook
import BaseEngine.Streams

/-!
# The loop of the engine

`main` of `crates/app/src/main.rs` from the loaded configuration on: the book
it starts with (`load_pool_book`, then discovery), `handle_event`, and the loop
over the two channels and the signal. The first error of either handler leaves
the loop, and so do a closed channel and ctrl-c.

The loop is written once, over the way it reaches its storage (`Backend`), and
instantiated here with the rows that the daily exposure is summed from. An
`Arrival` is an event with what the database, the node and the clocks answer
while it is handled, and with the order in which the hash map shows its V2
pools once the log is applied. What was handed to the transport is carried
along in the state.

`loopTurn_step` says what one turn of the loop can do on any storage, and
`turn_step` what that comes to on the rows; `LoopTurn.wellFormed` and
`LoopTurn.directory` are what every turn keeps of the book.
-/

namespace BaseEngine

open Fallible

/-- The text of a market error. -/
def MarketError.text : MarketError → String
  | .invalidPool message => s!"invalid pool: {message}"
  | .unknownToken poolAddress token =>
      s!"token `{token}` is not part of pool `{poolAddress}`"
  | .insufficientInput => "input amount must be greater than zero"
  | .insufficientLiquidity => "pool cannot produce a non-zero output for the requested input"
  | .arithmeticOverflow => "arithmetic overflow while quoting pool"
  | .missingDecodedField field => s!"decoded log event missing required field `{field}`"
  | .missingLogIdentity =>
      "log is missing tx hash or log index required for deterministic state application"
  | .missingRevertSnapshot txHash logIndex =>
      s!"no revert snapshot found for removed log {txHash}:{logIndex}"

/-! ## The book at the start -/

structure BootstrapV2Pool where
  address : Address
  protocol : Protocol
  exchange : Option Exchange
  token0 : Address
  token1 : Address
  reserve0 : Nat
  reserve1 : Nat
  feeBps : Nat
deriving Repr, DecidableEq

def BootstrapV2Pool.toPool (entry : BootstrapV2Pool) : Except MarketError V2PoolState :=
  V2PoolState.new entry.address entry.protocol entry.exchange entry.token0 entry.token1
    entry.reserve0 entry.reserve1 entry.feeBps

/-- The file system and the JSON library, as the bootstrap file is read. -/
structure BootstrapReader where
  readToString : String → Except String String
  parse : String → Except String (List BootstrapV2Pool)

/-- The entries in their order; the first that is no pool ends it. -/
def insertBootstrap (book : PoolBook) : List BootstrapV2Pool → Except ErrorChain PoolBook
  | [] => .ok book
  | entry :: entries => do
      let pool ← entry.toPool.mapError fun e => [e.text]
      insertBootstrap (book.insertV2Pool pool) entries

def loadPoolBook (reader : BootstrapReader) (v2BootstrapPath : Option String) :
    Except ErrorChain PoolBook :=
  match v2BootstrapPath with
  | none => .ok PoolBook.new
  | some path => do
      let contents ← (reader.readToString path).mapError fun e =>
        [s!"failed to read bootstrap pool file `{path}`", e]
      let entries ← (reader.parse contents).mapError fun e =>
        [s!"failed to parse bootstrap pool file `{path}`", e]
      insertBootstrap PoolBook.new entries

theorem insertBootstrap_wellFormed {entries : List BootstrapV2Pool} {book book' : PoolBook}
    (hbook : book.WellFormed) (h : insertBootstrap book entries = .ok book') :
    book'.WellFormed := by
  induction entries generalizing book with
  | nil =>
      obtain rfl := Except.ok.inj h
      exact hbook
  | cons entry entries ih =>
      obtain ⟨pool, hpool, hrest⟩ := bind_eq_ok_iff.mp h
      obtain ⟨hvalid, hentry⟩ := check_bind_eq_ok (mapError_eq_ok_iff.mp hpool)
      have hsound : (PoolState.v2 pool).Sound := by
        rw [hentry] at hvalid
        exact hvalid
      exact ih (hbook.insertPool rfl hsound) hrest

/-- Whatever is in the bootstrap file, a book that is loaded is well formed. -/
theorem loadPoolBook_wellFormed {reader : BootstrapReader} {path : Option String}
    {book : PoolBook} (h : loadPoolBook reader path = .ok book) : book.WellFormed := by
  cases path with
  | none =>
      obtain rfl := Except.ok.inj h
      exact PoolBook.wellFormed_new
  | some path =>
      obtain ⟨contents, -, h⟩ := bind_eq_ok_iff.mp h
      obtain ⟨entries, -, h⟩ := bind_eq_ok_iff.mp h
      exact insertBootstrap_wellFormed PoolBook.wellFormed_new h

/-- What the loop starts with: the book of the bootstrap file, and with discovery
the pools that the factories add to it. -/
inductive StartBook (reader : BootstrapReader) (v2BootstrapPath : Option String) :
    PoolBook → Prop
  | loaded {book : PoolBook} (hload : loadPoolBook reader v2BootstrapPath = .ok book) :
      StartBook reader v2BootstrapPath book
  | discovered {book book' : PoolBook} {codec : DiscoveryCodec}
      {multicall3 : EvmAddress} {pinnedHead : Option Nat} {turns : Nat}
      {runs : List (DiscoveryProvider × FactoryConfig)}
      (hload : loadPoolBook reader v2BootstrapPath = .ok book)
      (hruns : Discovery.runFactories codec multicall3 pinnedHead turns runs book = .ok book') :
      StartBook reader v2BootstrapPath book'

/-- Whatever the file and the node contain, `main` starts its loop with a
well-formed book. -/
theorem StartBook.wellFormed {reader : BootstrapReader} {path : Option String} {book : PoolBook}
    (h : StartBook reader path book) : book.WellFormed := by
  cases h with
  | loaded hload => exact loadPoolBook_wellFormed hload
  | discovered hload hruns =>
      exact (Discovery.runFactories_wellFormed (loadPoolBook_wellFormed hload) hruns).1

/-! ## Handling an event -/

/-- What the loop is built from: the libraries, the configuration, and what
start-up reads from it. -/
structure Runtime where
  sha256 : List UInt8 → String
  codec : AlloyCodec
  u256FromDecimal : String → Option Nat
  config : AppConfig
  policy : RiskPolicy
  scan : Option RuntimeScanConfig

/-- The policy and the scan are those of a validated configuration. -/
structure Runtime.Configured (rt : Runtime) : Prop where
  valid : rt.config.validate = .ok ()
  policy : RiskPolicy.fromConfig rt.config.risk = .ok rt.policy
  scan : runtimeScanConfig rt.config.decision = .ok rt.scan

/-- The best loop over the pools after a log, if it can be simulated. -/
def RuntimeScanConfig.decide (scan : RuntimeScanConfig) (observedLogId : Option Nat)
    (pools : List V2PoolState) (log : Log) : Option DecisionPipelineOutput :=
  match (detectTwoLegLoopsFromBook pools log.metadata.blockContext scan.settlementToken
      scan.amountIn log.metadata.txHash).head? with
  | none => none
  | some best =>
      match simulateTwoLegOpportunity best scan.simulation with
      | none => none
      | some simulation => some { observedLogId, opportunity := best, simulation }

/-- How the loop reaches its storage. What arrives brings an event, the order of
the V2 pools after it, and what is answered while it is handled. -/
structure Backend (α σ : Type) where
  event : α → Ingest.Event
  pools : α → List V2PoolState
  outside : α → Outside
  persistObservedLog : α → Log → σ → Except ErrorChain (σ × Option Nat)
  statements : α → Statements σ

/-! ## The loop -/

/-- What the loop waits for: an event or a runtime event, which is only
logged, from one of the channels, the end of one of them, or ctrl-c. -/
inductive Signal (α : Type) where
  | event (arrival : α)
  | eventsClosed
  | runtimeEvent
  | runtimeEventsClosed
  | ctrlC (listening : Except ErrorChain Unit)

/-- The state of the loop. `exit` is the reason it was left for, or the error
that `main` returns. -/
structure Engine (σ : Type) where
  book : PoolBook
  risk : RiskState
  storage : σ
  exit : Option (Except ErrorChain String)
  handed : List Handover

namespace Engine

variable {σ : Type}

def start (book : PoolBook) (storage : σ) : Engine σ :=
  { book, risk := RiskState.default, storage, exit := none, handed := [] }

def leave (s : Engine σ) (result : Except ErrorChain String) : Engine σ :=
  { s with exit := some result }

/-- The state after an output was handled. -/
def record (s : Engine σ) (outside : Outside) (handled : Handled σ) : Engine σ :=
  { s with
    risk := handled.risk
    storage := handled.storage
    exit :=
      match handled.result with
      | .ok () => none
      | .error e => some (.error ("failed to persist decision output" :: e))
    handed := s.handed ++ handled.handed.map outside.handover }

end Engine

namespace Runtime

variable {α σ : Type} (rt : Runtime)

/-- A log is persisted before it is applied, and the book is scanned when it
changed. -/
def handleEvent (backend : Backend α σ) (arrival : α) (storage : σ) (book : PoolBook) :
    σ × PoolBook × Except ErrorChain (Option DecisionPipelineOutput) :=
  match backend.event arrival with
  | .log entry =>
      match withContext "failed to persist observed log"
          (backend.persistObservedLog arrival entry storage) with
      | .error e => (storage, book, .error e)
      | .ok (storage, observedLogId) =>
          match book.applyLog rt.u256FromDecimal entry with
          | (book, .error e) => (storage, book, .error [e.text])
          | (book, .ok .ignored) => (storage, book, .ok none)
          | (book, .ok _) =>
              (storage, book, .ok (rt.scan.bind fun scan =>
                scan.decide observedLogId (backend.pools arrival) entry))
  | _ => (storage, book, .ok none)

/-- `maybe_log_decision_output` in the state of the loop. -/
def settleWith (sql : Statements σ) (outside : Outside) (s : Engine σ)
    (output : Option DecisionPipelineOutput) : Engine σ :=
  s.record outside (maybeLogDecisionOutput sql rt.sha256 rt.codec rt.config rt.policy outside output
    s.risk s.storage)

def handleWith (backend : Backend α σ) (s : Engine σ) (arrival : α) : Engine σ :=
  match rt.handleEvent backend arrival s.storage s.book with
  | (storage, book, .error e) =>
      { s with storage, book }.leave (.error ("failed to handle ingest event" :: e))
  | (storage, book, .ok output) =>
      rt.settleWith (backend.statements arrival) (backend.outside arrival) { s with storage, book }
        output

def stepWith (backend : Backend α σ) (s : Engine σ) (signal : Signal α) : Engine σ :=
  if s.exit.isSome then s
  else
    match signal with
    | .event arrival => rt.handleWith backend s arrival
    | .eventsClosed => s.leave (.ok "event channel closed")
    | .runtimeEvent => s
    | .runtimeEventsClosed => s.leave (.ok "runtime event channel closed")
    | .ctrlC (.ok ()) => s.leave (.ok "received ctrl-c")
    | .ctrlC (.error e) => s.leave (.error ("failed to listen for ctrl-c" :: e))

end Runtime

/-! ## What a turn can do -/

/-- How a signal ends the loop on its own. -/
def Signal.exit? {α : Type} : Signal α → Option (Except ErrorChain String)
  | .eventsClosed => some (.ok "event channel closed")
  | .runtimeEventsClosed => some (.ok "runtime event channel closed")
  | .ctrlC (.ok ()) => some (.ok "received ctrl-c")
  | .ctrlC (.error e) => some (.error ("failed to listen for ctrl-c" :: e))
  | _ => none

/-- What is decided after a log with the given outcome. -/
def Runtime.decisionOn (rt : Runtime) (observedLogId : Option Nat) (pools : List V2PoolState)
    (log : Log) (outcome : MarketEventOutcome) : Option DecisionPipelineOutput :=
  if outcome = .ignored then none
  else rt.scan.bind fun scan => scan.decide observedLogId pools log

section LoopTurn

variable {α σ : Type}

/-- One constructor per way through a turn of the loop. -/
inductive LoopTurn (rt : Runtime) (backend : Backend α σ) (s : Engine σ) (signal : Signal α) :
    Engine σ → Prop
  | stopped (hexit : s.exit.isSome = true) : LoopTurn rt backend s signal s
  | hears (hexit : s.exit = none) (hsignal : signal = .runtimeEvent) :
      LoopTurn rt backend s signal s
  | passes {arrival : α} (hexit : s.exit = none) (hsignal : signal = .event arrival)
      (hevent : ∀ log, backend.event arrival ≠ .log log) : LoopTurn rt backend s signal s
  | leaves {result : Except ErrorChain String} (hexit : s.exit = none)
      (hend : signal.exit? = some result) : LoopTurn rt backend s signal (s.leave result)
  | unpersisted {arrival : α} {log : Log} {e : ErrorChain} (hexit : s.exit = none)
      (hsignal : signal = .event arrival) (hevent : backend.event arrival = .log log)
      (hpersist : backend.persistObservedLog arrival log s.storage = .error e) :
      LoopTurn rt backend s signal
        (s.leave
          (.error ("failed to handle ingest event" :: "failed to persist observed log" :: e)))
  | inapplicable {arrival : α} {log : Log} {storage : σ} {observedLogId : Option Nat}
      {book : PoolBook} {e : MarketError} (hexit : s.exit = none)
      (hsignal : signal = .event arrival) (hevent : backend.event arrival = .log log)
      (hpersist : backend.persistObservedLog arrival log s.storage
        = .ok (storage, observedLogId))
      (hbook : s.book.applyLog rt.u256FromDecimal log = (book, .error e)) :
      LoopTurn rt backend s signal
        ({ s with storage, book }.leave (.error ["failed to handle ingest event", e.text]))
  | settles {arrival : α} {log : Log} {storage : σ} {observedLogId : Option Nat}
      {book : PoolBook} {outcome : MarketEventOutcome} (hexit : s.exit = none)
      (hsignal : signal = .event arrival) (hevent : backend.event arrival = .log log)
      (hpersist : backend.persistObservedLog arrival log s.storage
        = .ok (storage, observedLogId))
      (hbook : s.book.applyLog rt.u256FromDecimal log = (book, .ok outcome)) :
      LoopTurn rt backend s signal
        (rt.settleWith (backend.statements arrival) (backend.outside arrival)
          { s with storage, book }
          (rt.decisionOn observedLogId (backend.pools arrival) log outcome))

variable {rt : Runtime} {backend : Backend α σ} {s : Engine σ}

@[simp] theorem Engine.leave_book (s : Engine σ) (result : Except ErrorChain String) :
    (s.leave result).book = s.book := rfl

@[simp] theorem Engine.leave_exit (s : Engine σ) (result : Except ErrorChain String) :
    (s.leave result).exit = some result := rfl

@[simp] theorem Engine.leave_handed (s : Engine σ) (result : Except ErrorChain String) :
    (s.leave result).handed = s.handed := rfl

/-- Without an output nothing is settled. -/
theorem Runtime.settleWith_none (hexit : s.exit = none) (sql : Statements σ) (outside : Outside) :
    rt.settleWith sql outside s none = s := by
  cases s with
  | mk book risk storage exit handed =>
      obtain rfl : exit = none := hexit
      simp [settleWith, Engine.record, maybeLogDecisionOutput, Handled.quiet]

/-- An event that is no log passes. -/
theorem Runtime.handleWith_of_not_log {arrival : α} (hexit : s.exit = none)
    (hevent : ∀ log, backend.event arrival ≠ .log log) : rt.handleWith backend s arrival = s := by
  have hquiet : rt.handleEvent backend arrival s.storage s.book
      = (s.storage, s.book, .ok none) := by
    unfold Runtime.handleEvent
    cases hkind : backend.event arrival with
    | log entry => exact absurd hkind (hevent entry)
    | transaction _ => rfl
    | block _ => rfl
    | flashblock _ => rfl
  unfold Runtime.handleWith
  rw [hquiet]
  exact settleWith_none hexit _ _

theorem loopTurn_log {arrival : α} {log : Log} (hexit : s.exit = none)
    (hevent : backend.event arrival = .log log) :
    LoopTurn rt backend s (.event arrival) (rt.handleWith backend s arrival) := by
  unfold Runtime.handleWith Runtime.handleEvent
  rw [hevent]
  dsimp only
  cases hpersist : backend.persistObservedLog arrival log s.storage with
  | error e => exact .unpersisted hexit rfl hevent hpersist
  | ok persisted =>
      obtain ⟨storage, observedLogId⟩ := persisted
      rcases hbook : s.book.applyLog rt.u256FromDecimal log with ⟨book, result⟩
      simp only [withContext, Except.mapError]
      cases result with
      | error e => exact .inapplicable hexit rfl hevent hpersist hbook
      | ok outcome =>
          have hsettles := LoopTurn.settles hexit rfl hevent hpersist hbook
          cases outcome with
          | _ => exact hsettles

/-- **What a turn of the loop can do**, whatever the storage. -/
theorem loopTurn_step (rt : Runtime) (backend : Backend α σ) (s : Engine σ) (signal : Signal α) :
    LoopTurn rt backend s signal (rt.stepWith backend s signal) := by
  unfold Runtime.stepWith
  split
  next hexit => exact .stopped hexit
  next hexit =>
      rw [Bool.not_eq_true, Option.isSome_eq_false_iff, Option.isNone_iff_eq_none] at hexit
      cases signal with
      | event arrival =>
          by_cases hlog : ∃ log, backend.event arrival = .log log
          · obtain ⟨log, hevent⟩ := hlog
            exact loopTurn_log hexit hevent
          · dsimp only
            rw [Runtime.handleWith_of_not_log hexit (not_exists.mp hlog)]
            exact .passes hexit rfl (not_exists.mp hlog)
      | eventsClosed => exact .leaves hexit rfl
      | runtimeEvent => exact .hears hexit rfl
      | runtimeEventsClosed => exact .leaves hexit rfl
      | ctrlC listening =>
          cases listening with
          | ok _ => exact .leaves hexit rfl
          | error e => exact .leaves hexit rfl

end LoopTurn

/-! ## The loop on the rows -/

structure Arrival where
  event : Ingest.Event
  persistLog : Except ErrorChain Unit
  pools : List V2PoolState
  answers : Answers

/-- Of an observed log nothing is kept. -/
def rowsBackend : Backend Arrival Storage where
  event := Arrival.event
  pools := Arrival.pools
  outside arrival := arrival.answers.toOutside
  persistObservedLog arrival _ storage := do
    query storage arrival.persistLog
    return (storage, none)
  statements arrival := arrival.answers.statements

namespace Runtime

variable (rt : Runtime)

def settle (s : Engine Storage) (answers : Answers) (output : Option DecisionPipelineOutput) :
    Engine Storage :=
  rt.settleWith answers.statements answers.toOutside s output

abbrev step : Engine Storage → Signal Arrival → Engine Storage :=
  rt.stepWith rowsBackend

end Runtime

/-- The log that a signal brings. -/
def Signal.log? : Signal Arrival → Option (Arrival × Log)
  | .event arrival =>
      match arrival.event with
      | .log entry => some (arrival, entry)
      | _ => none
  | _ => none

def Runtime.decision (rt : Runtime) (arrival : Arrival) (log : Log)
    (outcome : MarketEventOutcome) : Option DecisionPipelineOutput :=
  rt.decisionOn none arrival.pools log outcome

/-- The ways through a turn of the loop on the rows. -/
inductive Turn (rt : Runtime) (s : Engine Storage) (signal : Signal Arrival) :
    Engine Storage → Prop
  | stopped (hexit : s.exit.isSome = true) : Turn rt s signal s
  | passes (hexit : s.exit = none) (hlog : signal.log? = none) (hend : signal.exit? = none) :
      Turn rt s signal s
  | leaves {result : Except ErrorChain String} (hexit : s.exit = none)
      (hend : signal.exit? = some result) : Turn rt s signal (s.leave result)
  | unpersisted {arrival : Arrival} {log : Log} {e : ErrorChain} (hexit : s.exit = none)
      (hlog : signal.log? = some (arrival, log))
      (hpersist : query s.storage arrival.persistLog = .error e) :
      Turn rt s signal
        (s.leave
          (.error ("failed to handle ingest event" :: "failed to persist observed log" :: e)))
  | inapplicable {arrival : Arrival} {log : Log} {book : PoolBook} {e : MarketError}
      (hexit : s.exit = none) (hlog : signal.log? = some (arrival, log))
      (hpersist : query s.storage arrival.persistLog = .ok ())
      (hbook : s.book.applyLog rt.u256FromDecimal log = (book, .error e)) :
      Turn rt s signal
        ({ s with book }.leave (.error ["failed to handle ingest event", e.text]))
  | settles {arrival : Arrival} {log : Log} {book : PoolBook} {outcome : MarketEventOutcome}
      (hexit : s.exit = none) (hlog : signal.log? = some (arrival, log))
      (hpersist : query s.storage arrival.persistLog = .ok ())
      (hbook : s.book.applyLog rt.u256FromDecimal log = (book, .ok outcome)) :
      Turn rt s signal
        (rt.settle { s with book } arrival.answers (rt.decision arrival log outcome))

variable {rt : Runtime} {s s' : Engine Storage} {signal : Signal Arrival}

@[simp] theorem Runtime.settle_book (s : Engine Storage) (answers : Answers)
    (output : Option DecisionPipelineOutput) : (rt.settle s answers output).book = s.book := rfl

theorem event_of_log? {arrival : Arrival} {log : Log}
    (hlog : signal.log? = some (arrival, log)) :
    signal = .event arrival ∧ arrival.event = .log log := by
  cases signal with
  | event other =>
      unfold Signal.log? at hlog
      cases hkind : other.event with
      | log entry =>
          simp only [hkind, Option.some.injEq, Prod.mk.injEq] at hlog
          obtain ⟨rfl, rfl⟩ := hlog
          exact ⟨rfl, hkind⟩
      | transaction _ => simp [hkind] at hlog
      | block _ => simp [hkind] at hlog
      | flashblock _ => simp [hkind] at hlog
  | _ => cases hlog

theorem log?_of_event {arrival : Arrival} {log : Log} (hevent : arrival.event = .log log) :
    (Signal.event arrival).log? = some (arrival, log) := by
  simp only [Signal.log?, hevent]

theorem log?_of_not_log {arrival : Arrival} (hevent : ∀ log, arrival.event ≠ .log log) :
    (Signal.event arrival).log? = none := by
  unfold Signal.log?
  dsimp only
  cases hkind : arrival.event with
  | log entry => exact absurd hkind (hevent entry)
  | transaction _ => rfl
  | block _ => rfl
  | flashblock _ => rfl

/-- The rows stay as they are when a log is persisted. -/
theorem rowsBackend_persisted {arrival : Arrival} {log : Log} {storage storage' : Storage}
    {observedLogId : Option Nat}
    (h : rowsBackend.persistObservedLog arrival log storage = .ok (storage', observedLogId)) :
    query storage arrival.persistLog = .ok () ∧ storage' = storage ∧ observedLogId = none := by
  obtain ⟨_, hquery, h⟩ := bind_eq_ok_iff.mp h
  obtain ⟨rfl, rfl⟩ := Prod.mk.inj (Except.ok.inj h)
  exact ⟨hquery, rfl, rfl⟩

/-- **What a turn of the loop can do to the rows.** -/
theorem turn_step (rt : Runtime) (s : Engine Storage) (signal : Signal Arrival) :
    Turn rt s signal (rt.step s signal) := by
  have hturn : LoopTurn rt rowsBackend s signal (rt.step s signal) := loopTurn_step ..
  generalize rt.step s signal = next at hturn
  cases hturn with
  | stopped hexit => exact .stopped hexit
  | hears hexit hsignal =>
      subst hsignal
      exact .passes hexit rfl rfl
  | passes hexit hsignal hevent =>
      subst hsignal
      exact .passes hexit (log?_of_not_log hevent) rfl
  | leaves hexit hend => exact .leaves hexit hend
  | unpersisted hexit hsignal hevent hpersist =>
      subst hsignal
      refine .unpersisted hexit (log?_of_event hevent) ?_
      rcases bind_eq_error hpersist with hquery | ⟨_, -, hinserted⟩
      · exact hquery
      · cases hinserted
  | inapplicable hexit hsignal hevent hpersist hbook =>
      subst hsignal
      obtain ⟨hquery, rfl, rfl⟩ := rowsBackend_persisted hpersist
      exact .inapplicable hexit (log?_of_event hevent) hquery hbook
  | settles hexit hsignal hevent hpersist hbook =>
      subst hsignal
      obtain ⟨hquery, rfl, rfl⟩ := rowsBackend_persisted hpersist
      exact .settles hexit (log?_of_event hevent) hquery hbook

/-! ## The book along the turns -/

/-- What no log changes of a pool. -/
def PoolState.fixedPart : PoolState → PoolState
  | .v2 pool => .v2 { pool with reserve0 := 0, reserve1 := 0, lastUpdatedBlock := none }
  | .v3 pool =>
      .v3 { pool with sqrtPriceX96 := 0, liquidity := 0, tick := 0, lastUpdatedBlock := none }

/-- The pools of a book, with what no log changes of them. -/
def PoolBook.directory (book : PoolBook) (key : String) : Option PoolState :=
  (book.pools.lookup key).map PoolState.fixedPart

/-- An entry that is replaced by one with the same fixed part. -/
theorem PoolBook.directory_insertPool {book : PoolBook} {key : String} {old new : PoolState}
    (hold : book.pools.lookup key = some old) (hfixed : new.fixedPart = old.fixedPart) :
    (book.insertPool key new).directory = book.directory := by
  funext other
  unfold directory
  by_cases hkey : other = key
  · subst hkey
    rw [lookup_insertPool_self, hold, Option.map_some, Option.map_some, hfixed]
  · rw [lookup_insertPool_of_ne book new hkey]

/-- A log that is carried out leaves the directory alone. -/
theorem PoolBook.directory_applyLog {u256FromDecimal : String → Option Nat} {book book' : PoolBook}
    {log : Log} {outcome : MarketEventOutcome}
    (h : book.applyLog u256FromDecimal log = (book', .ok outcome)) :
    book'.directory = book.directory := by
  have hstep := bookStep_applyLog u256FromDecimal book log
  rw [h] at hstep
  cases hstep with
  | ignored _ _ => rfl
  | applied _ hpool _ _ _ _ _ _ _ _ => exact directory_insertPool hpool rfl
  | reverted _ hpool _ _ _ _ _ => exact directory_insertPool hpool rfl
  | swapped _ hpool _ _ _ _ => exact directory_insertPool hpool rfl

namespace LoopTurn

variable {α σ : Type} {rt : Runtime} {backend : Backend α σ} {s s' : Engine σ} {signal : Signal α}

/-- Whatever a signal brings, the book stays well-formed. -/
theorem wellFormed (h : LoopTurn rt backend s signal s') (hbook : s.book.WellFormed) :
    s'.book.WellFormed := by
  have happly : ∀ {log book result}, s.book.applyLog rt.u256FromDecimal log = (book, result) →
      book.WellFormed := by
    intro log book result hresult
    have hwell := @PoolBook.WellFormed.applyLog rt.u256FromDecimal s.book hbook log
    rwa [hresult] at hwell
  cases h with
  | stopped _ => exact hbook
  | hears _ _ => exact hbook
  | passes _ _ _ => exact hbook
  | leaves _ _ => exact hbook
  | unpersisted _ _ _ _ => exact hbook
  | inapplicable _ _ _ _ hresult => exact happly hresult
  | settles _ _ _ _ hresult => exact happly hresult

/-- While the loop runs, no pool appears, disappears or changes its fixed
part. -/
theorem directory (h : LoopTurn rt backend s signal s') (hrunning : s'.exit = none) :
    s'.book.directory = s.book.directory := by
  cases h with
  | stopped _ => rfl
  | hears _ _ => rfl
  | passes _ _ _ => rfl
  | leaves _ _ => cases hrunning
  | unpersisted _ _ _ _ => cases hrunning
  | inapplicable _ _ _ _ _ => cases hrunning
  | settles _ _ _ _ hbook => exact PoolBook.directory_applyLog hbook

/-- The loop is left for good. -/
theorem running (h : LoopTurn rt backend s signal s') (hrunning : s'.exit = none) :
    s.exit = none := by
  cases h with
  | stopped _ => exact hrunning
  | hears hexit _ => exact hexit
  | passes hexit _ _ => exact hexit
  | leaves hexit _ => exact hexit
  | unpersisted hexit _ _ _ => exact hexit
  | inapplicable hexit _ _ _ _ => exact hexit
  | settles hexit _ _ _ _ => exact hexit

end LoopTurn

end BaseEngine
