import BaseEngine.Lib.Json
import BaseEngine.Registry

/-!
# Logs as the node sends them

`crates/ingest/src/raw`: the fields of a JSON log object, and the decoding
of the seven pool events. Event decoding itself, hexadecimal decoding and
the two signature hashes the source computes belong to its Ethereum library;
they are the fields of an `EventCodec`.
-/

namespace BaseEngine

open Text Json

/-! ## Fields of an object -/

def stringField (object : Entries) (key : String) : Option String :=
  (object.lookup key).bind Value.asStr

def boolField (object : Entries) (key : String) : Option Bool :=
  (object.lookup key).bind Value.asBool

def parseU64 (raw : String) : Option Nat :=
  match stripPrefix "0x" raw with
  | some hex => parseUnsigned 16 64 hex
  | none => parseUnsigned 10 64 raw

/-- A quantity is a numeral in a string or a number that is not negative. -/
def u64Field (object : Entries) (key : String) : Option Nat :=
  match object.lookup key with
  | some (.string raw) => parseU64 raw
  | some (.number number) => number.asU64
  | _ => none

/-! ## Events of the pools -/

abbrev Word := BitVec 256

structure V2SwapEvent where
  sender : EvmAddress
  amount0In : Word
  amount1In : Word
  amount0Out : Word
  amount1Out : Word
  target : EvmAddress

structure SyncEvent where
  reserve0 : BitVec 112
  reserve1 : BitVec 112

structure V2MintEvent where
  sender : EvmAddress
  amount0 : Word
  amount1 : Word

structure V2BurnEvent where
  sender : EvmAddress
  amount0 : Word
  amount1 : Word
  target : EvmAddress

/-- `amount0`, `amount1` and `tick` are signed. -/
structure V3SwapEvent where
  sender : EvmAddress
  recipient : EvmAddress
  amount0 : Word
  amount1 : Word
  sqrtPriceX96 : BitVec 160
  liquidity : BitVec 128
  tick : BitVec 24

structure V3MintEvent where
  sender : EvmAddress
  owner : EvmAddress
  tickLower : BitVec 24
  tickUpper : BitVec 24
  amount : BitVec 128
  amount0 : Word
  amount1 : Word

structure V3BurnEvent where
  owner : EvmAddress
  tickLower : BitVec 24
  tickUpper : BitVec 24
  amount : BitVec 128
  amount0 : Word
  amount1 : Word

/-- An event decoder: the topics and the data of a log to the event's
parameters, where they are an encoding of one. -/
abbrev RawLogDecoder (event : Type) := List Word → List UInt8 → Option event

structure EventCodec where
  parseB256 : String → Option Word
  hexDecode : String → Option (List UInt8)
  v2Swap : RawLogDecoder V2SwapEvent
  sync : RawLogDecoder SyncEvent
  v2Mint : RawLogDecoder V2MintEvent
  v2Burn : RawLogDecoder V2BurnEvent
  v3Swap : RawLogDecoder V3SwapEvent
  v3Mint : RawLogDecoder V3MintEvent
  v3Burn : RawLogDecoder V3BurnEvent
  v3MintSignature : String
  v3BurnSignature : String

def formatAddress (address : EvmAddress) : Address := "0x" ++ lowerHex 40 address.toNat

def u256ToU128 (value : Word) : Option Nat :=
  if value.toNat ≤ u128Max then some value.toNat else none

theorem u256ToU128_of_lt {value : Word} (h : value.toNat < 2 ^ 128) :
    u256ToU128 value = some value.toNat :=
  if_pos (Nat.le_sub_one_of_lt h)

def u256ToString (value : Word) : String := toString value.toNat

def i256ToString (value : Word) : String := toString value.toInt

def u160ToString (value : BitVec 160) : String := toString value.toNat

/-- A 24-bit tick always fits 32 bits. -/
def i24ToI32 (value : BitVec 24) : Option Int := some value.toInt

/-- The event of a kind with nothing but its pool and its classification. -/
def DecodedLogEvent.ofKind (kind : DecodedLogKind) (pool : Option Address)
    (resolution : RegistryMatch) : DecodedLogEvent :=
  { kind, pool, sender := none, recipient := none, owner := none, reserve0 := none,
    reserve1 := none, amount0In := none, amount1In := none, amount0Out := none,
    amount1Out := none, amount0 := none, amount1 := none, liquidity := none,
    sqrtPriceX96 := none, tick := none, tickLower := none, tickUpper := none,
    protocol := resolution.protocol, exchange := resolution.exchange }

/-! ## The log message -/

structure RawLogMessage where
  address : Option Address
  topics : List Topic
  data : Option String
  txHash : Option TxHash
  blockHash : Option BlockHash
  blockNumber : Option Nat
  eventSignature : Option String
  protocol : Option Protocol
  exchange : Option Exchange
  logIndex : Option Nat
  removed : Option Bool
deriving Repr, DecidableEq

structure DecodedLogFields where
  eventSignature : Option String
  protocol : Option Protocol
  exchange : Option Exchange
  decodedEvent : Option DecodedLogEvent
deriving Repr, DecidableEq

namespace RawLogMessage

def ofObject (object : Entries) : RawLogMessage :=
  { address := stringField object "address"
    topics := ((object.lookup "topics").bind Value.asArray).getD [] |>.filterMap Value.asStr
    data := stringField object "data"
    txHash := stringField object "transactionHash"
    blockHash := stringField object "blockHash"
    blockNumber := u64Field object "blockNumber"
    eventSignature := stringField object "eventSignature"
    protocol := none
    exchange := none
    logIndex := u64Field object "logIndex"
    removed := boolField object "removed" }

def fromValue (value : Value) : Option RawLogMessage := value.asObject.map ofObject

def blockContext (self : RawLogMessage) : BlockContext :=
  match self.blockNumber with
  | some number => .block number self.blockHash
  | none => .pending

/-- The explicit signature, or the first topic. -/
def signature (self : RawLogMessage) : Option String :=
  self.eventSignature <|> self.topics.head?

variable (codec : EventCodec)

def decodeTopics (topics : List String) : Option (List Word) :=
  topics.mapM codec.parseB256

def decodeData (data : String) : Option (List UInt8) :=
  codec.hexDecode ((stripPrefix "0x" data).getD data)

/-- One branch per supported event, by the text of the signature; nothing
comes out when a topic, the data or a conversion fails. -/
def decodeStructuredEvent (self : RawLogMessage) (eventSignature : Option String)
    (resolution : RegistryMatch) : Option DecodedLogEvent := do
  let signature ← eventSignature
  let topics ← decodeTopics codec self.topics
  let data ← decodeData codec (self.data.getD "0x")
  let blank (kind : DecodedLogKind) := DecodedLogEvent.ofKind kind self.address resolution
  if signature = v2SwapSignature then
    let event ← codec.v2Swap topics data
    let amount0In ← u256ToU128 event.amount0In
    let amount1In ← u256ToU128 event.amount1In
    let amount0Out ← u256ToU128 event.amount0Out
    let amount1Out ← u256ToU128 event.amount1Out
    return { blank .v2Swap with
      sender := formatAddress event.sender, recipient := formatAddress event.target,
      amount0In, amount1In, amount0Out, amount1Out }
  else if signature = syncSignature then
    let event ← codec.sync topics data
    return { blank .v2Sync with
      reserve0 := event.reserve0.toNat, reserve1 := event.reserve1.toNat }
  else if signature = v2MintSignature then
    let event ← codec.v2Mint topics data
    return { blank .v2Mint with
      sender := formatAddress event.sender, amount0 := u256ToString event.amount0,
      amount1 := u256ToString event.amount1 }
  else if signature = v2BurnSignature then
    let event ← codec.v2Burn topics data
    return { blank .v2Burn with
      sender := formatAddress event.sender, recipient := formatAddress event.target,
      amount0 := u256ToString event.amount0, amount1 := u256ToString event.amount1 }
  else if signature = v3SwapSignature then
    let event ← codec.v3Swap topics data
    let tick ← i24ToI32 event.tick
    return { blank .v3Swap with
      sender := formatAddress event.sender, recipient := formatAddress event.recipient,
      amount0 := i256ToString event.amount0, amount1 := i256ToString event.amount1,
      liquidity := event.liquidity.toNat, sqrtPriceX96 := u160ToString event.sqrtPriceX96,
      tick }
  else if signature = codec.v3MintSignature then
    let event ← codec.v3Mint topics data
    let tickLower ← i24ToI32 event.tickLower
    let tickUpper ← i24ToI32 event.tickUpper
    return { blank .v3Mint with
      sender := formatAddress event.sender, owner := formatAddress event.owner,
      amount0 := u256ToString event.amount0, amount1 := u256ToString event.amount1,
      liquidity := event.amount.toNat, tickLower, tickUpper }
  else if signature = codec.v3BurnSignature then
    let event ← codec.v3Burn topics data
    let tickLower ← i24ToI32 event.tickLower
    let tickUpper ← i24ToI32 event.tickUpper
    return { blank .v3Burn with
      owner := formatAddress event.owner, amount0 := u256ToString event.amount0,
      amount1 := u256ToString event.amount1, liquidity := event.amount.toNat,
      tickLower, tickUpper }
  else none

def decode (self : RawLogMessage) : DecodedLogFields :=
  let resolution := resolveLog self.signature self.address
  { eventSignature := self.signature
    protocol := resolution.protocol <|> self.protocol
    exchange := resolution.exchange <|> self.exchange
    decodedEvent := self.decodeStructuredEvent codec self.signature resolution }

def toLog (self : RawLogMessage) (metadata : Metadata) : Log :=
  let decoded := self.decode codec
  { metadata
    address := self.address
    topics := self.topics
    data := self.data
    eventSignature := decoded.eventSignature
    decodedEvent := decoded.decodedEvent
    protocol := decoded.protocol
    exchange := decoded.exchange
    logIndex := self.logIndex
    removed := self.removed }

end RawLogMessage

end BaseEngine
