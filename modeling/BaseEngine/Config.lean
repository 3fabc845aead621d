import BaseEngine.Lib.Fallible
import BaseEngine.Lib.Text
import BaseEngine.Types

/-!
# Configuration

The records of `crates/config/src/lib.rs` and their `validate` functions,
which `AppConfig.validate` calls one after the other. Where the source reads
the environment the fields have its defaults; the reading itself is outside
the model.

`ExecutionConfig.limits_of_validate` is what a validated canary
configuration guarantees: both of its limits are there and are numbers.
-/

namespace BaseEngine

open Fallible Text

inductive ConfigError where
  | missingRequired (key context : String)
  | invalidValue (key value context : String)
  | validation (message : String)
deriving Repr, DecidableEq

/-! ## Checks shared by the sections -/

def parseU128 (key value : String) : Except ConfigError Nat :=
  okOr (parseUnsigned 10 128 value) (.invalidValue key value
    "expected an unsigned 128-bit integer encoded as a base-10 string")

/-- A number that need not be there. -/
def parseU128IfSome (key : String) : Option String → Except ConfigError Unit
  | none => .ok ()
  | some value => do
      let _ ← parseU128 key value
      return ()

def validatePositive (value : Nat) (message : String) : Except ConfigError Unit :=
  if value = 0 then .error (.validation message) else .ok ()

def validateBackoff (initial max : Nat) (initialKey maxKey : String) :
    Except ConfigError Unit :=
  if initial = 0 then
    .error (.validation
      (if initialKey = "INGEST_RECONNECT_INITIAL_MS" then
        "INGEST_RECONNECT_INITIAL_MS must be greater than zero"
      else "initial backoff must be greater than zero"))
  else if max < initial then
    .error (.validation
      (if maxKey = "INGEST_RECONNECT_MAX_MS" then
        "INGEST_RECONNECT_MAX_MS must be greater than or equal to INGEST_RECONNECT_INITIAL_MS"
      else if maxKey = "RPC_RETRY_MAX_MS" then
        "RPC_RETRY_MAX_MS must be greater than or equal to RPC_RETRY_INITIAL_MS"
      else "maximum backoff must be greater than or equal to initial backoff"))
  else .ok ()

def rejectIf (bad : Prop) [Decidable bad] (error : ConfigError) : Except ConfigError Unit :=
  if bad then .error error else .ok ()

theorem not_of_rejectIf {bad : Prop} [Decidable bad] {error : ConfigError} {u : Unit}
    (h : rejectIf bad error = .ok u) : ¬ bad := by
  intro hbad
  rw [rejectIf, if_pos hbad] at h
  cases h

/-! ## Ingest, RPC and signer -/

structure IngestConfig where
  chainId : Nat := 8453
  channel : Channel
  ipcFilePath : Option String := none
  wsUrl : Option String := none
  flashblocksWsUrl : Option String := none
  subscribeTransactions : Bool := true
  subscribeLogs : Bool := true
  subscribeBlocks : Bool := true
  subscribeFlashblocks : Bool := false
  reconnectInitialMs : Nat := 500
  reconnectMaxMs : Nat := 10000
  heartbeatTimeoutSecs : Nat := 15
  dedupCacheSize : Nat := 50000
  eventChannelCapacity : Nat := 4096
  runtimeChannelCapacity : Nat := 512
deriving Repr, DecidableEq

def IngestConfig.validate (config : IngestConfig) : Except ConfigError Unit := do
  rejectIf (config.chainId = 0)
    (.validation "INGEST_CHAIN_ID / BASE_CHAIN_ID must be greater than zero")
  rejectIf (config.channel = .ipc ∧ config.ipcFilePath = none)
    (.missingRequired "INGEST_IPC_FILE_PATH" "INGEST_CHANNEL=ipc requires an IPC file path")
  rejectIf (config.channel = .ws ∧ config.wsUrl = none)
    (.missingRequired "INGEST_WS_URL" "INGEST_CHANNEL=ws requires a websocket URL")
  rejectIf (config.subscribeTransactions = false ∧ config.subscribeLogs = false
      ∧ config.subscribeBlocks = false)
    (.validation "at least one ingest subscription must be enabled")
  rejectIf (config.subscribeFlashblocks = true ∧ config.flashblocksWsUrl = none)
    (.missingRequired "INGEST_FLASHBLOCKS_WS_URL"
      "INGEST_SUBSCRIBE_FLASHBLOCKS=true requires a flashblocks websocket URL")
  validateBackoff config.reconnectInitialMs config.reconnectMaxMs "INGEST_RECONNECT_INITIAL_MS"
    "INGEST_RECONNECT_MAX_MS"
  validatePositive config.heartbeatTimeoutSecs
    "INGEST_HEARTBEAT_TIMEOUT_SECS must be greater than zero"
  validatePositive config.dedupCacheSize "INGEST_DEDUP_CACHE_SIZE must be greater than zero"
  validatePositive config.eventChannelCapacity
    "INGEST_EVENT_CHANNEL_CAPACITY must be greater than zero"
  validatePositive config.runtimeChannelCapacity
    "INGEST_RUNTIME_CHANNEL_CAPACITY must be greater than zero"

structure RpcConfig where
  chainId : Nat := 8453
  httpUrl : Option String := none
  wsUrl : Option String := none
  ipcFilePath : Option String := none
  retryInitialMs : Nat := 250
  retryMaxMs : Nat := 5000
  requestTimeoutMs : Nat := 5000
deriving Repr, DecidableEq

def RpcConfig.validate (config : RpcConfig) : Except ConfigError Unit := do
  rejectIf (config.chainId = 0)
    (.validation "RPC_CHAIN_ID / BASE_CHAIN_ID must be greater than zero")
  rejectIf (config.httpUrl = none ∧ config.wsUrl = none ∧ config.ipcFilePath = none)
    (.validation
      "at least one of RPC_HTTP_URL, RPC_WS_URL, or RPC_IPC_FILE_PATH must be configured")
  validateBackoff config.retryInitialMs config.retryMaxMs "RPC_RETRY_INITIAL_MS"
    "RPC_RETRY_MAX_MS"
  validatePositive config.requestTimeoutMs "RPC_REQUEST_TIMEOUT_MS must be greater than zero"

/-! ## Signer and execution -/

inductive ExecutionMode where
  | shadow
  | canary
  | live
deriving Repr, DecidableEq

structure ExecutionConfig where
  mode : ExecutionMode := .shadow
  submitTimeoutSecs : Nat := 30
  receiptTimeoutSecs : Nat := 60
  routerAddress : Option String
  canaryMaxTradeWei : Option String := none
  canaryMaxDailyWei : Option String := none
  gasLimitMultiplierBps : Nat := 12000
  maxFeePerGasWei : Option String := none
  maxPriorityFeePerGasWei : Option String := none
  planDeadlineSecs : Nat
  useFlashloan : Bool
  ethcallPreflightRequired : Bool := true
  ethcallTimeoutSecs : Nat := 5
deriving Repr, DecidableEq

/-- The limits of canary mode must be given, and as numbers. -/
def ExecutionConfig.validateCanary (config : ExecutionConfig) : Except ConfigError Unit := do
  let maxTrade ← okOr config.canaryMaxTradeWei
    (.missingRequired "EXECUTION_CANARY_MAX_TRADE_WEI" "canary mode requires a per-trade limit")
  let maxDaily ← okOr config.canaryMaxDailyWei
    (.missingRequired "EXECUTION_CANARY_MAX_DAILY_WEI" "canary mode requires a daily limit")
  let _ ← parseU128 "EXECUTION_CANARY_MAX_TRADE_WEI" maxTrade
  let _ ← parseU128 "EXECUTION_CANARY_MAX_DAILY_WEI" maxDaily
  return ()

def ExecutionConfig.validate (config : ExecutionConfig) : Except ConfigError Unit := do
  validatePositive config.submitTimeoutSecs
    "EXECUTION_SUBMIT_TIMEOUT_SECS must be greater than zero"
  validatePositive config.receiptTimeoutSecs
    "EXECUTION_RECEIPT_TIMEOUT_SECS must be greater than zero"
  rejectIf (config.gasLimitMultiplierBps < 10000)
    (.validation "EXECUTION_GAS_LIMIT_MULTIPLIER_BPS must be at least 10000")
  validatePositive config.planDeadlineSecs
    "EXECUTION_PLAN_DEADLINE_SECS must be greater than zero"
  validatePositive config.ethcallTimeoutSecs
    "EXECUTION_ETHCALL_TIMEOUT_SECS must be greater than zero"
  rejectIf (config.mode ≠ .shadow ∧ config.routerAddress = none)
    (.missingRequired "EXECUTION_ROUTER_ADDRESS"
      "live/canary execution requires a deployed execution router address")
  parseU128IfSome "EXECUTION_MAX_FEE_PER_GAS_WEI" config.maxFeePerGasWei
  parseU128IfSome "EXECUTION_MAX_PRIORITY_FEE_PER_GAS_WEI" config.maxPriorityFeePerGasWei
  if config.mode = .canary then config.validateCanary else .ok ()

structure SignerConfig where
  privateKey : Option String := none
  keystorePath : Option String := none
  awsKmsKeyId : Option String := none
deriving Repr, DecidableEq

def SignerConfig.validate (config : SignerConfig) (execution : ExecutionConfig) :
    Except ConfigError Unit :=
  rejectIf (execution.mode ≠ .shadow ∧ config.privateKey = none ∧ config.keystorePath = none
      ∧ config.awsKmsKeyId = none)
    (.validation "live/canary execution requires a signer source")

/-! ## Decision and risk -/

structure DecisionConfig where
  maxRouteHops : Nat := 3
  maxCandidateRoutes : Nat := 16
  minNetProfitWei : String := "0"
  settlementToken : Option String := none
  scanTradeAmountWei : Option String := none
  simulationGasEstimate : Nat := 180000
  simulationGasCostWei : String := "0"
  simulationL1DataFeeWei : String := "0"
deriving Repr, DecidableEq

/-- A settlement token and a trade amount come together. -/
def DecisionConfig.validateScan (config : DecisionConfig) : Except ConfigError Unit :=
  match config.settlementToken, config.scanTradeAmountWei with
  | some _, some amount => do
      let _ ← parseU128 "DECISION_SCAN_TRADE_AMOUNT_WEI" amount
      return ()
  | none, none => .ok ()
  | some _, none => .error (.missingRequired "DECISION_SCAN_TRADE_AMOUNT_WEI"
      "decision runtime scanning requires a trade amount when a settlement token is configured")
  | none, some _ => .error (.missingRequired "DECISION_SETTLEMENT_TOKEN"
      "decision runtime scanning requires a settlement token when a trade amount is configured")

def DecisionConfig.validate (config : DecisionConfig) : Except ConfigError Unit := do
  validatePositive config.maxRouteHops
    "DECISION_MAX_ROUTE_HOPS / MAX_ROUTE_HOPS must be greater than zero"
  validatePositive config.maxCandidateRoutes
    "DECISION_MAX_CANDIDATE_ROUTES / MAX_CANDIDATE_ROUTES must be greater than zero"
  let _ ← parseU128 "DECISION_MIN_NET_PROFIT_WEI" config.minNetProfitWei
  validatePositive config.simulationGasEstimate
    "DECISION_SIMULATION_GAS_ESTIMATE must be greater than zero"
  let _ ← parseU128 "DECISION_SIMULATION_GAS_COST_WEI" config.simulationGasCostWei
  let _ ← parseU128 "DECISION_SIMULATION_L1_DATA_FEE_WEI" config.simulationL1DataFeeWei
  config.validateScan

structure RiskConfig where
  minNetProfitWei : String := "0"
  minProfitBps : Nat := 0
  maxTradeNotionalWei : Option String := none
  maxPerBlockNotionalWei : Option String := none
  maxDailyNotionalWei : Option String := none
  maxSlippageBps : Nat := 100
  tokenAllowlist : List String := []
  tokenDenylist : List String := []
  maxConsecutiveReverts : Nat := 3
  killSwitchPath : Option String := none
deriving Repr, DecidableEq

/-- The prefix is optional here, whatever the error message says. -/
def isValidAddress (value : String) : Bool :=
  let trimmed := ((stripPrefix "0x" value).getD value).toList
  decide (trimmed.length = 40) && trimmed.all isAsciiHexdigit

def RiskConfig.validate (config : RiskConfig) (execution : ExecutionConfig) :
    Except ConfigError Unit := do
  let _ ← parseU128 "RISK_MIN_NET_PROFIT_WEI" config.minNetProfitWei
  parseU128IfSome "RISK_MAX_TRADE_NOTIONAL_WEI" config.maxTradeNotionalWei
  parseU128IfSome "RISK_MAX_PER_BLOCK_NOTIONAL_WEI" config.maxPerBlockNotionalWei
  parseU128IfSome "RISK_MAX_DAILY_NOTIONAL_WEI" config.maxDailyNotionalWei
  rejectIf (10000 < config.minProfitBps) (.validation "RISK_MIN_PROFIT_BPS must be <= 10000")
  rejectIf (10000 < config.maxSlippageBps) (.validation "RISK_MAX_SLIPPAGE_BPS must be <= 10000")
  rejectIf (execution.mode ≠ .shadow ∧ config.maxTradeNotionalWei = none)
    (.missingRequired "RISK_MAX_TRADE_NOTIONAL_WEI"
      "live/canary execution requires a per-trade notional cap")
  rejectIf (execution.mode ≠ .shadow ∧ config.maxDailyNotionalWei = none)
    (.missingRequired "RISK_MAX_DAILY_NOTIONAL_WEI"
      "live/canary execution requires a daily notional cap")
  rejectIf (∃ token ∈ config.tokenAllowlist ++ config.tokenDenylist, isValidAddress token = false)
    (.validation ("RISK_TOKEN_ALLOWLIST / RISK_TOKEN_DENYLIST entries must be "
      ++ "0x-prefixed 20-byte addresses"))

/-! ## Storage, metrics and discovery -/

structure StorageConfig where
  databaseUrl : Option String := none
  maxConnections : Nat := 10
  connectTimeoutSecs : Nat := 5
deriving Repr, DecidableEq

/-- Without a database there is nothing to check, and nothing is stored. -/
def StorageConfig.validate (config : StorageConfig) : Except ConfigError Unit :=
  match config.databaseUrl with
  | none => .ok ()
  | some _ => do
      rejectIf (config.maxConnections = 0)
        (.validation "STORAGE_MAX_CONNECTIONS must be greater than zero")
      validatePositive config.connectTimeoutSecs
        "STORAGE_CONNECT_TIMEOUT_SECS must be greater than zero"

structure MetricsConfig where
  logLevel : String := "info"
deriving Repr, DecidableEq

def MetricsConfig.validate (config : MetricsConfig) : Except ConfigError Unit :=
  rejectIf (trim config.logLevel = "") (.validation "LOG_LEVEL must not be empty")

structure DiscoveryConfig where
  enabled : Bool := false
  factoriesPath : Option String := none
  multicall3Address : Option String := none
deriving Repr, DecidableEq

def DiscoveryConfig.validate (config : DiscoveryConfig) : Except ConfigError Unit := do
  rejectIf (config.enabled = true ∧ config.factoriesPath.getD "" = "")
    (.validation "DISCOVERY_FACTORIES_PATH is required when DISCOVERY_ENABLED=true")
  rejectIf (config.enabled = true ∧ config.multicall3Address.getD "" = "")
    (.validation "DISCOVERY_MULTICALL3_ADDRESS is required when DISCOVERY_ENABLED=true")

/-! ## The whole configuration -/

structure AppConfig where
  ingest : IngestConfig
  rpc : RpcConfig
  signer : SignerConfig
  decision : DecisionConfig
  risk : RiskConfig
  execution : ExecutionConfig
  storage : StorageConfig
  metrics : MetricsConfig
  discovery : DiscoveryConfig
deriving Repr, DecidableEq

def AppConfig.validate (config : AppConfig) : Except ConfigError Unit := do
  config.ingest.validate
  config.rpc.validate
  config.signer.validate config.execution
  config.decision.validate
  config.risk.validate config.execution
  config.execution.validate
  config.storage.validate
  config.metrics.validate
  config.discovery.validate

/-- The sections of an accepted configuration that a trade goes by. -/
theorem AppConfig.sections_of_validate {config : AppConfig} (h : config.validate = .ok ()) :
    config.decision.validate = .ok () ∧ config.risk.validate config.execution = .ok ()
      ∧ config.execution.validate = .ok () := by
  obtain ⟨_, -, h⟩ := bind_eq_ok_iff.mp h
  obtain ⟨_, -, h⟩ := bind_eq_ok_iff.mp h
  obtain ⟨_, -, h⟩ := bind_eq_ok_iff.mp h
  obtain ⟨_, hdecision, h⟩ := bind_eq_ok_iff.mp h
  obtain ⟨_, hrisk, h⟩ := bind_eq_ok_iff.mp h
  obtain ⟨_, hexecution, -⟩ := bind_eq_ok_iff.mp h
  exact ⟨hdecision, hrisk, hexecution⟩

/-- The gas caps of a validated configuration are numbers, and there is a
router outside of shadow mode. -/
theorem ExecutionConfig.caps_of_validate {config : ExecutionConfig}
    (h : config.validate = .ok ()) :
    (config.mode ≠ .shadow → config.routerAddress ≠ none)
      ∧ parseU128IfSome "EXECUTION_MAX_FEE_PER_GAS_WEI" config.maxFeePerGasWei = .ok ()
      ∧ parseU128IfSome "EXECUTION_MAX_PRIORITY_FEE_PER_GAS_WEI" config.maxPriorityFeePerGasWei
        = .ok () := by
  obtain ⟨_, -, h⟩ := bind_eq_ok_iff.mp h
  obtain ⟨_, -, h⟩ := bind_eq_ok_iff.mp h
  obtain ⟨_, -, h⟩ := bind_eq_ok_iff.mp h
  obtain ⟨_, -, h⟩ := bind_eq_ok_iff.mp h
  obtain ⟨_, -, h⟩ := bind_eq_ok_iff.mp h
  obtain ⟨_, hrouter, h⟩ := bind_eq_ok_iff.mp h
  obtain ⟨_, hfee, h⟩ := bind_eq_ok_iff.mp h
  obtain ⟨_, hpriority, -⟩ := bind_eq_ok_iff.mp h
  exact ⟨fun hmode hnone => not_of_rejectIf hrouter ⟨hmode, hnone⟩, hfee, hpriority⟩

/-- The limits of a validated canary configuration are there and are
numbers. -/
theorem ExecutionConfig.limits_of_validate {config : ExecutionConfig}
    (h : config.validate = .ok ()) (hmode : config.mode = .canary) :
    ∃ maxTrade maxDaily, config.canaryMaxTradeWei.bind (parseUnsigned 10 128) = some maxTrade
      ∧ config.canaryMaxDailyWei.bind (parseUnsigned 10 128) = some maxDaily := by
  unfold ExecutionConfig.validate at h
  simp only [hmode, if_true] at h
  obtain ⟨_, -, h⟩ := bind_eq_ok_iff.mp h
  obtain ⟨_, -, h⟩ := bind_eq_ok_iff.mp h
  obtain ⟨_, -, h⟩ := bind_eq_ok_iff.mp h
  obtain ⟨_, -, h⟩ := bind_eq_ok_iff.mp h
  obtain ⟨_, -, h⟩ := bind_eq_ok_iff.mp h
  obtain ⟨_, -, h⟩ := bind_eq_ok_iff.mp h
  obtain ⟨_, -, h⟩ := bind_eq_ok_iff.mp h
  obtain ⟨_, -, h⟩ := bind_eq_ok_iff.mp h
  obtain ⟨rawTrade, htrade, h⟩ := okOr_bind_eq_ok_iff.mp h
  obtain ⟨rawDaily, hdaily, h⟩ := okOr_bind_eq_ok_iff.mp h
  obtain ⟨maxTrade, hmaxTrade, h⟩ := bind_eq_ok_iff.mp h
  obtain ⟨maxDaily, hmaxDaily, -⟩ := bind_eq_ok_iff.mp h
  refine ⟨maxTrade, maxDaily, ?_, ?_⟩
  · rw [htrade, Option.bind_some, okOr_eq_ok hmaxTrade]
  · rw [hdaily, Option.bind_some, okOr_eq_ok hmaxDaily]

end BaseEngine
