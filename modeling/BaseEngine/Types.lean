import Mathlib.Algebra.GroupWithZero.Nat
import Mathlib.Data.List.Basic

/-!
# Shared domain types

The records the crates exchange (`crates/types`): ingest events,
opportunities with their simulation and risk decision, and execution
requests. Every field of the source is kept, under the source's name.

The source's `Amount` (`u128`) and its block, time, chain and index types
(`u64`) are naturals here; the operations on them name their width
(`BaseEngine.Lib.Machine`).
-/

namespace BaseEngine

abbrev TxHash := String
abbrev BlockHash := String
abbrev Address := String
abbrev Topic := String

/-- A 20-byte address as the chain has it. -/
abbrev EvmAddress := BitVec 160

/-- An `anyhow` error: its context messages, outermost first. -/
abbrev ErrorChain := List String

/-- `u128::MAX`. -/
def u128Max : Nat := 2 ^ 128 - 1

/-- `u64::MAX`. -/
def u64Max : Nat := 2 ^ 64 - 1

/-! ## Ingest -/

/-- `pending` is the pre-confirmed context of a Flashblock. -/
inductive BlockContext where
  | pending
  | block (number : Nat) (hash : Option BlockHash)
deriving Repr, DecidableEq

inductive Channel where
  | ipc
  | ws
  | flashblocksWs
deriving Repr, DecidableEq

inductive DecodeStatus where
  | decoded
  | partly
  | unsupported
  | failed
deriving Repr, DecidableEq

inductive Protocol where
  | unknown
  | uniswapV2
  | uniswapV3
  | uniswapV4
  | aerodrome
  | virtuals
deriving Repr, DecidableEq

inductive Exchange where
  | unknown
  | pancakeSwap
  | baseSwap
  | alienBase
  | aerodrome
  | virtuals
deriving Repr, DecidableEq

inductive RawMessageType where
  | transaction
  | log
  | block
  | flashblock
  | heartbeat
  | status
  | unknown
deriving Repr, DecidableEq

structure RawPayloadSummary where
  messageType : RawMessageType
  payloadSizeBytes : Nat
  fingerprint : Option String
  subscription : Option String
deriving Repr, DecidableEq

structure Metadata where
  blockContext : BlockContext
  channel : Channel
  observedAtMs : Nat
  chainId : Nat
  txHash : Option TxHash
  decodeStatus : DecodeStatus
  raw : RawPayloadSummary
deriving Repr, DecidableEq

structure DecodedSwap where
  pool : Option Address
  router : Option Address
  tokenIn : Option Address
  tokenOut : Option Address
  amountIn : Option Nat
  amountOut : Option Nat
  amountInMaximum : Option Nat
  amountOutMinimum : Option Nat
  exactInput : Option Bool
  recipient : Option Address
  protocol : Option Protocol
  exchange : Option Exchange
deriving Repr, DecidableEq

inductive DecodedLogKind where
  | v2Swap
  | v2Sync
  | v2Mint
  | v2Burn
  | v3Swap
  | v3Mint
  | v3Burn
deriving Repr, DecidableEq

structure DecodedLogEvent where
  kind : DecodedLogKind
  pool : Option Address
  sender : Option Address
  recipient : Option Address
  owner : Option Address
  reserve0 : Option Nat
  reserve1 : Option Nat
  amount0In : Option Nat
  amount1In : Option Nat
  amount0Out : Option Nat
  amount1Out : Option Nat
  amount0 : Option String
  amount1 : Option String
  liquidity : Option Nat
  sqrtPriceX96 : Option String
  tick : Option Int
  tickLower : Option Int
  tickUpper : Option Int
  protocol : Option Protocol
  exchange : Option Exchange
deriving Repr, DecidableEq

structure Log where
  metadata : Metadata
  address : Option Address
  topics : List Topic
  data : Option String
  eventSignature : Option String
  decodedEvent : Option DecodedLogEvent
  protocol : Option Protocol
  exchange : Option Exchange
  logIndex : Option Nat
  removed : Option Bool
deriving Repr, DecidableEq

/-- Summary of one Flashblocks pre-confirm sub-block. -/
structure Flashblock where
  metadata : Metadata
  payloadId : Option String
  index : Nat
  parentBlockNumber : Option Nat
  parentHash : Option BlockHash
  blockHash : Option BlockHash
  stateRoot : Option String
  gasUsed : Option Nat
  txHashes : List TxHash
  logCount : Nat
deriving Repr, DecidableEq

/-! ## Decision -/

inductive OpportunityKind where
  | twoLegLoop
  | triangle
  | backrun
  | jitLiquidity
deriving Repr, DecidableEq

structure RouteLeg where
  venue : Option Exchange
  protocol : Option Protocol
  target : Address
  poolAddress : Option Address
  tokenIn : Address
  tokenOut : Address
  amountIn : Option Nat
  minAmountOut : Option Nat
deriving Repr, DecidableEq

structure Opportunity where
  id : String
  kind : OpportunityKind
  blockContext : BlockContext
  settlementToken : Address
  inputAmount : Nat
  expectedOutputAmount : Nat
  expectedNetProfit : Nat
  route : List RouteLeg
  triggerTxHash : Option String
deriving Repr, DecidableEq

structure SimulationResult where
  opportunityId : String
  accepted : Bool
  expectedGrossProfit : Nat
  expectedNetProfit : Nat
  gasEstimate : Nat
  gasCostWei : Nat
  l1DataFee : Nat
  notes : List String
deriving Repr, DecidableEq

structure RiskDecision where
  opportunityId : String
  accepted : Bool
  reason : Option String
  riskHash : String
  minSurplus : Nat
deriving Repr, DecidableEq

/-! ## Execution -/

structure ExecutionStep where
  venue : Option Exchange
  protocol : Option Protocol
  target : Address
  tokenIn : Address
  tokenOut : Address
  poolFee : Option Nat
  amountIn : Option Nat
  minAmountOut : Nat
  calldataHint : Option String
  auxAddress : Option Address
deriving Repr, DecidableEq

structure ExecutionRequest where
  opportunityId : String
  steps : List ExecutionStep
  minRepay : Nat
  minSurplus : Nat
  flashloanAsset : Option Address
  flashloanAmount : Option Nat
  riskHash : String
deriving Repr, DecidableEq

inductive ExecutionStatus where
  | built
  | submitted
  | included
  | reverted
  | dropped
  | replaced
  | profitRealized
deriving Repr, DecidableEq

structure ExecutionAttempt where
  requestId : String
  txHash : Option String
  status : ExecutionStatus
  executionMode : String
  submissionAllowed : Bool
  blockedReason : Option String
  requestedNotional : Nat
  gasLimit : Option Nat
  maxFeePerGas : Option Nat
  maxPriorityFeePerGas : Option Nat
deriving Repr, DecidableEq

end BaseEngine
