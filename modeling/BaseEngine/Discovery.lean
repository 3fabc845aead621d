import BaseEngine.Execution
import BaseEngine.PoolBook
import BaseEngine.RawLog

/-!
# Pool discovery

`crates/discovery`: the creation logs of a factory are scanned in chunks of
blocks, the pools they announce are read in one Multicall3 batch, and what can
be quoted is put into the book.

The provider and what the source's Ethereum library parses and decodes are
parameters (`DiscoveryProvider`, `DiscoveryCodec`). The loop of the scan takes a
number of turns it may make, and writes down the ranges it asks for.
-/

namespace BaseEngine

open Machine Text

/-! ## How discovery ends -/

/-- An unchecked sum that leaves `u64` (a panic in a build with overflow
checks, and a wrong block number in one without), or an index past the end. -/
inductive Panic where
  | overflow
  | indexOutOfBounds
deriving Repr, DecidableEq

/-- `running` is a loop that has used up its turns. -/
inductive Outcome (ε α : Type) where
  | ok (value : α)
  | error (error : ε)
  | panic (panic : Panic)
  | running
deriving Repr, DecidableEq

namespace Outcome

variable {ε α β : Type}

def bind (x : Outcome ε α) (f : α → Outcome ε β) : Outcome ε β :=
  match x with
  | .ok a => f a
  | .error e => .error e
  | .panic p => .panic p
  | .running => .running

instance : Monad (Outcome ε) where
  pure := .ok
  bind := bind

def ofExcept : Except ε α → Outcome ε α
  | .ok a => .ok a
  | .error e => .error e

def mapError {ε' : Type} (f : ε → ε') : Outcome ε α → Outcome ε' α
  | .ok a => .ok a
  | .error e => .error (f e)
  | .panic p => .panic p
  | .running => .running

theorem bind_eq_ok_iff {x : Outcome ε α} {f : α → Outcome ε β} {b : β} :
    (x >>= f) = .ok b ↔ ∃ a, x = .ok a ∧ f a = .ok b := by
  cases x with
  | ok a => exact ⟨fun h => ⟨a, rfl, h⟩, by rintro ⟨_, ⟨⟩, h⟩; exact h⟩
  | error e => exact ⟨nofun, by rintro ⟨_, ⟨⟩, -⟩⟩
  | panic p => exact ⟨nofun, by rintro ⟨_, ⟨⟩, -⟩⟩
  | running => exact ⟨nofun, by rintro ⟨_, ⟨⟩, -⟩⟩

theorem mapError_eq_ok_iff {ε' : Type} {x : Outcome ε α} {f : ε → ε'} {a : α} :
    x.mapError f = .ok a ↔ x = .ok a := by
  cases x <;> simp [mapError]

theorem ofExcept_eq_ok_iff {x : Except ε α} {a : α} : ofExcept x = .ok a ↔ x = .ok a := by
  cases x <;> simp [ofExcept]

/-- The computation ends, with a value or an error. -/
inductive Returns : Outcome ε α → Prop where
  | ok (a : α) : Returns (.ok a)
  | error (e : ε) : Returns (.error e)

theorem returns_ofExcept (x : Except ε α) : (ofExcept x).Returns := by
  cases x with
  | ok a => exact .ok a
  | error e => exact .error e

theorem Returns.mapError {ε' : Type} {x : Outcome ε α} (h : x.Returns) (f : ε → ε') :
    (x.mapError f).Returns := by
  cases h with
  | ok a => exact .ok a
  | error e => exact .error (f e)

theorem Returns.bind {x : Outcome ε α} {f : α → Outcome ε β} (h : x.Returns)
    (hf : ∀ a, x = .ok a → (f a).Returns) : (x >>= f).Returns := by
  cases h with
  | ok a => exact hf a rfl
  | error e => exact .error e

end Outcome

/-! ## Factories -/

inductive FactoryKind where
  | uniswapV2
  | uniswapV3
deriving Repr, DecidableEq

structure FactoryConfig where
  address : String
  kind : FactoryKind
  protocol : Protocol
  exchange : Option Exchange
  deploymentBlock : Nat
  defaultV2FeeBps : Option Nat
  logChunkSize : Option Nat
deriving Repr, DecidableEq

namespace FactoryConfig

def validate (factory : FactoryConfig) : Except String Unit :=
  if trim factory.address = "" then .error "factory address must not be empty"
  else if factory.kind = .uniswapV2 ∧ factory.defaultV2FeeBps = none then
    .error "v2 factory requires default_v2_fee_bps"
  else .ok ()

def logChunkSizeOrDefault (factory : FactoryConfig) : Nat :=
  max (factory.logChunkSize.getD 5000) 1

theorem logChunkSizeOrDefault_pos (factory : FactoryConfig) : 0 < factory.logChunkSizeOrDefault :=
  Nat.lt_of_lt_of_le Nat.one_pos (Nat.le_max_right ..)

end FactoryConfig

inductive DiscoveryError where
  | invalidFactory (reason : String)
  | transport (error : ErrorChain)
deriving Repr, DecidableEq

/-! ## The chain -/

structure RpcLog where
  topics : List Word
  data : List UInt8
deriving Repr, DecidableEq

structure PairCreated where
  token0 : EvmAddress
  token1 : EvmAddress
  pair : EvmAddress

structure PoolCreated where
  token0 : EvmAddress
  token1 : EvmAddress
  fee : BitVec 24
  tickSpacing : BitVec 24
  pool : EvmAddress

structure Reserves where
  reserve0 : BitVec 112
  reserve1 : BitVec 112

structure Slot0 where
  sqrtPriceX96 : BitVec 160
  tick : BitVec 24
deriving Repr, DecidableEq

/-- The view functions that discovery reads. -/
inductive ViewCall where
  | getReserves
  | slot0
  | liquidity
deriving Repr, DecidableEq

structure Call3 where
  target : EvmAddress
  allowFailure : Bool
  callData : ViewCall
deriving Repr, DecidableEq

structure MulticallResult where
  success : Bool
  returnData : List UInt8
deriving Repr, DecidableEq

structure DiscoveryCodec where
  parseAddress : String → Except String EvmAddress
  pairCreated : RpcLog → Option PairCreated
  poolCreated : RpcLog → Option PoolCreated
  getReserves : List UInt8 → Option Reserves
  slot0 : List UInt8 → Option Slot0
  liquidity : List UInt8 → Option (BitVec 128)
  aggregate3 : List UInt8 → Except ErrorChain (List MulticallResult)

/-- The event whose signature hash a query for logs filters by. -/
inductive FactoryEvent where
  | pairCreated
  | poolCreated
deriving Repr, DecidableEq

structure DiscoveryProvider where
  blockNumber : Except ErrorChain Nat
  getLogs : EvmAddress → FactoryEvent → Nat → Nat → Except ErrorChain (List RpcLog)
  aggregate3 : EvmAddress → List Call3 → Except ErrorChain (List UInt8)

/-! ## Discovered pools -/

structure DiscoveredV2Pool where
  address : Address
  token0 : Address
  token1 : Address
  reserve0 : Nat
  reserve1 : Nat
  feeBps : Nat
deriving Repr, DecidableEq

structure DiscoveredV3Pool where
  address : Address
  token0 : Address
  token1 : Address
  feePips : Nat
  tickSpacing : Int
  sqrtPriceX96 : Nat
  tick : Int
  liquidity : Nat
deriving Repr, DecidableEq

namespace Discovery

variable (codec : DiscoveryCodec)

def parseAddress (input : String) : Except ErrorChain EvmAddress :=
  (codec.parseAddress (trim input)).mapError fun _ => ["invalid hex address `" ++ input ++ "`"]

def decodeV2PairCreated (factory : FactoryConfig) (log : RpcLog) : Option DiscoveredV2Pool := do
  let event ← codec.pairCreated log
  return { address := formatAddress event.pair, token0 := formatAddress event.token0,
           token1 := formatAddress event.token1, reserve0 := 0, reserve1 := 0,
           feeBps := factory.defaultV2FeeBps.getD 30 }

def decodeV3PoolCreated (log : RpcLog) : Option DiscoveredV3Pool := do
  let event ← codec.poolCreated log
  return { address := formatAddress event.pool, token0 := formatAddress event.token0,
           token1 := formatAddress event.token1, feePips := event.fee.toNat,
           tickSpacing := event.tickSpacing.toInt, sqrtPriceX96 := 0, tick := 0, liquidity := 0 }

/-! ## The scan -/

/-- The loop over the chunks, with the ranges that were asked for. `getLogs`
asks for the logs of a range; `version` is how the error names the
factory. -/
def scanLoop {Pool : Type} (getLogs : Nat → Nat → Except ErrorChain (List RpcLog))
    (decode : RpcLog → Option Pool) (version : String) (chunk toBlock : Nat) :
    Nat → Nat → List (Nat × Nat) × Outcome ErrorChain (List Pool)
  | 0, _ => ([], .running)
  | turns + 1, cursor =>
      if cursor ≤ toBlock then
        if cursor + chunk < 2 ^ 64 then
          let chunkEnd := min (cursor + chunk - 1) toBlock
          match getLogs cursor chunkEnd with
          | .error error =>
              ([(cursor, chunkEnd)], .error (("eth_getLogs failed for " ++ version
                ++ " factory chunk " ++ toString cursor ++ "-" ++ toString chunkEnd) :: error))
          | .ok logs =>
              let rest := scanLoop getLogs decode version chunk toBlock turns
                (saturatingAdd 64 chunkEnd 1)
              ((cursor, chunkEnd) :: rest.1, do
                let pools ← rest.2
                return logs.filterMap decode ++ pools)
        else ([], .panic .overflow)
      else ([], .ok [])

variable (provider : DiscoveryProvider)

def v2Scan (factory : FactoryConfig) (factoryAddress : EvmAddress) (fromBlock toBlock turns : Nat) :
    List (Nat × Nat) × Outcome ErrorChain (List DiscoveredV2Pool) :=
  scanLoop (provider.getLogs factoryAddress .pairCreated) (decodeV2PairCreated codec factory) "v2"
    factory.logChunkSizeOrDefault toBlock turns fromBlock

def v3Scan (factory : FactoryConfig) (factoryAddress : EvmAddress) (fromBlock toBlock turns : Nat) :
    List (Nat × Nat) × Outcome ErrorChain (List DiscoveredV3Pool) :=
  scanLoop (provider.getLogs factoryAddress .poolCreated) (decodeV3PoolCreated codec) "v3"
    factory.logChunkSizeOrDefault toBlock turns fromBlock

def fetchV2PairCreated (factory : FactoryConfig) (fromBlock toBlock turns : Nat) :
    Outcome ErrorChain (List DiscoveredV2Pool) := do
  let factoryAddress ← .ofExcept
    (withContext "v2 factory address must be valid hex" (parseAddress codec factory.address))
  (v2Scan codec provider factory factoryAddress fromBlock toBlock turns).2

def fetchV3PoolCreated (factory : FactoryConfig) (fromBlock toBlock turns : Nat) :
    Outcome ErrorChain (List DiscoveredV3Pool) := do
  let factoryAddress ← .ofExcept
    (withContext "v3 factory address must be valid hex" (parseAddress codec factory.address))
  (v3Scan codec provider factory factoryAddress fromBlock toBlock turns).2

/-! ## Hydration -/

/-- A pool whose address is no address is asked for at the zero address. -/
def callTarget (address : Address) : EvmAddress :=
  match parseAddress codec address with
  | .ok target => target
  | .error _ => 0

def multicallAggregate3 (multicall3 : EvmAddress) (calls : List Call3) :
    Except ErrorChain (List MulticallResult) := do
  let raw ← withContext "eth_call to multicall3.aggregate3 failed"
    (provider.aggregate3 multicall3 calls)
  withContext "failed to decode multicall3 aggregate3 returns" (codec.aggregate3 raw)

def v2Calls (pools : List DiscoveredV2Pool) : List Call3 :=
  pools.map fun pool => ⟨callTarget codec pool.address, true, .getReserves⟩

def readV2Pool (pool : DiscoveredV2Pool) (result : MulticallResult) : DiscoveredV2Pool :=
  if result.success then
    match codec.getReserves result.returnData with
    | some decoded =>
        { pool with reserve0 := decoded.reserve0.toNat, reserve1 := decoded.reserve1.toNat }
    | none => pool
  else pool

/-- Pools without a result are left as they are. -/
def readV2Pools : List DiscoveredV2Pool → List MulticallResult → List DiscoveredV2Pool
  | pool :: pools, result :: results => readV2Pool codec pool result :: readV2Pools pools results
  | pools, _ => pools

def hydrateV2Reserves (multicall3 : EvmAddress) (pools : List DiscoveredV2Pool) :
    Except ErrorChain (List DiscoveredV2Pool) :=
  if pools = [] then .ok pools
  else do
    let results ← withContext "v2 multicall hydration failed"
      (multicallAggregate3 codec provider multicall3 (v2Calls codec pools))
    return readV2Pools codec pools results

/-- Two calls for each pool, the slot first. -/
def v3Calls (pools : List DiscoveredV3Pool) : List Call3 :=
  pools.flatMap fun pool =>
    [⟨callTarget codec pool.address, true, .slot0⟩,
      ⟨callTarget codec pool.address, true, .liquidity⟩]

/-- A result that does not decode leaves its half of the pool as it was. -/
def readV3Pool (pool : DiscoveredV3Pool) (slot0Res liqRes : MulticallResult) :
    DiscoveredV3Pool :=
  if !slot0Res.success || !liqRes.success then pool
  else
    let pool :=
      match codec.slot0 slot0Res.returnData with
      | some decoded =>
          { pool with sqrtPriceX96 := decoded.sqrtPriceX96.toNat, tick := decoded.tick.toInt }
      | none => pool
    match codec.liquidity liqRes.returnData with
    | some decoded => { pool with liquidity := decoded.toNat }
    | none => pool

/-- The pools from position `k` on. -/
def readV3Pools (results : List MulticallResult) :
    Nat → List DiscoveredV3Pool → Outcome ErrorChain (List DiscoveredV3Pool)
  | _, [] => .ok []
  | k, pool :: pools =>
      match results[2 * k]?, results[2 * k + 1]? with
      | some slot0Res, some liqRes => do
          let rest ← readV3Pools results (k + 1) pools
          return readV3Pool codec pool slot0Res liqRes :: rest
      | _, _ => .panic .indexOutOfBounds

def hydrateV3State (multicall3 : EvmAddress) (pools : List DiscoveredV3Pool) :
    Outcome ErrorChain (List DiscoveredV3Pool) :=
  if pools = [] then .ok pools
  else do
    let results ← .ofExcept (withContext "v3 multicall hydration failed"
      (multicallAggregate3 codec provider multicall3 (v3Calls codec pools)))
    readV3Pools codec results 0 pools

/-! ## Ingestion -/

def ingestV2Pool (factory : FactoryConfig) (pool : DiscoveredV2Pool) (book : PoolBook)
    (inserted : Nat) : PoolBook × Nat :=
  if pool.reserve0 = 0 ∨ pool.reserve1 = 0 then (book, inserted)
  else
    match V2PoolState.new pool.address factory.protocol factory.exchange pool.token0 pool.token1
        pool.reserve0 pool.reserve1 pool.feeBps with
    | .ok state => (book.insertV2Pool state, inserted + 1)
    | .error _ => (book, inserted)

def ingestV3Pool (factory : FactoryConfig) (pool : DiscoveredV3Pool) (book : PoolBook)
    (inserted : Nat) : PoolBook × Nat :=
  if pool.liquidity = 0 ∨ pool.sqrtPriceX96 = 0 then (book, inserted)
  else
    match V3PoolState.new pool.address factory.protocol factory.exchange pool.token0 pool.token1
        pool.feePips pool.tickSpacing pool.sqrtPriceX96 pool.liquidity pool.tick with
    | .ok state => (book.insertV3Pool state, inserted + 1)
    | .error _ => (book, inserted)

/-- One pool after the other, with the number of those that were inserted. -/
def ingest {Pool : Type} (step : Pool → PoolBook → Nat → PoolBook × Nat) (book : PoolBook)
    (pools : List Pool) : PoolBook × Nat :=
  pools.foldl (fun acc pool => step pool acc.1 acc.2) (book, 0)

def ingestV2 (book : PoolBook) (factory : FactoryConfig) (pools : List DiscoveredV2Pool) :
    PoolBook × Nat :=
  ingest (ingestV2Pool factory) book pools

def ingestV3 (book : PoolBook) (factory : FactoryConfig) (pools : List DiscoveredV3Pool) :
    PoolBook × Nat :=
  ingest (ingestV3Pool factory) book pools

/-! ## The service -/

structure DiscoveryReport where
  factoryAddress : String
  kind : FactoryKind
  fromBlock : Nat
  toBlock : Nat
  poolsScanned : Nat
  poolsInserted : Nat
deriving Repr, DecidableEq

def latestBlock : Outcome ErrorChain Nat :=
  .ofExcept (withContext "eth_blockNumber for discovery latest_block" provider.blockNumber)

/-- The block up to which is scanned. -/
def headBlock (pinnedHead : Option Nat) : Outcome DiscoveryError Nat :=
  match pinnedHead with
  | some head => .ok head
  | none => (latestBlock provider).mapError .transport

/-- `run_factory` from the head on. The book is only written in the last step,
which cannot fail. -/
def scanFactory (multicall3 : EvmAddress) (head turns : Nat) (factory : FactoryConfig)
    (book : PoolBook) : Outcome DiscoveryError (PoolBook × DiscoveryReport) :=
  let fromBlock := factory.deploymentBlock
  let report (scanned inserted : Nat) : DiscoveryReport :=
    { factoryAddress := factory.address, kind := factory.kind, fromBlock, toBlock := head,
      poolsScanned := scanned, poolsInserted := inserted }
  if head < fromBlock then .ok (book, report 0 0)
  else
    match factory.kind with
    | .uniswapV2 => do
        let pools ← (fetchV2PairCreated codec provider factory fromBlock head turns).mapError
          .transport
        let hydrated ← (Outcome.ofExcept
          (hydrateV2Reserves codec provider multicall3 pools)).mapError .transport
        let ingested := ingestV2 book factory hydrated
        return (ingested.1, report pools.length ingested.2)
    | .uniswapV3 => do
        let pools ← (fetchV3PoolCreated codec provider factory fromBlock head turns).mapError
          .transport
        let hydrated ← (hydrateV3State codec provider multicall3 pools).mapError .transport
        let ingested := ingestV3 book factory hydrated
        return (ingested.1, report pools.length ingested.2)

def runFactory (multicall3 : EvmAddress) (pinnedHead : Option Nat) (turns : Nat)
    (factory : FactoryConfig) (book : PoolBook) :
    Outcome DiscoveryError (PoolBook × DiscoveryReport) := do
  (Outcome.ofExcept factory.validate).mapError .invalidFactory
  let head ← headBlock provider pinnedHead
  scanFactory codec provider multicall3 head turns factory book

/-- The loop of `run_pool_discovery`: a factory that fails is skipped. Each run
has a provider of its own, since the chain moves on. -/
def runFactories (multicall3 : EvmAddress) (pinnedHead : Option Nat) (turns : Nat) :
    List (DiscoveryProvider × FactoryConfig) → PoolBook → Outcome DiscoveryError PoolBook
  | [], book => .ok book
  | (provider, factory) :: rest, book =>
      match runFactory codec provider multicall3 pinnedHead turns factory book with
      | .ok result => runFactories multicall3 pinnedHead turns rest result.1
      | .error _ => runFactories multicall3 pinnedHead turns rest book
      | .panic p => .panic p
      | .running => .running

end Discovery

end BaseEngine
