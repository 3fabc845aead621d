import BaseEngine.Config
import BaseEngine.Flashblocks
import BaseEngine.Lib.Machine
import BaseEngine.Lib.Run
import BaseEngine.RawTransaction

/-!
# Ingest streams

`crates/ingest/src/stream` and the session of `crates/ingest/src/flashblocks.rs`:
a stream connects, subscribes, turns every message into events for the engine,
and on any error backs off and connects again. Status changes and heartbeats go
to a second channel, the events of the runtime.

The source is a task with two nested loops that never return on their own. Here
it is the machine of its `await`s: a `Stage` is a point at which the task waits
for the world, and an `Op` is what the world answers there. An answer that does
not belong to the stage changes nothing.

The four streams are one machine (`step`) with different parts (`StreamKind`):
what is done with a message, whether a subscription is opened, and whether the
first announcement of a session is made inside the session (as the Flashblocks
stream does) or outside of it.

`moves_step` says once what an answer can do.
-/

namespace BaseEngine

open Fallible Faulting Json Machine Text

/-! ## Blocks and transactions as events -/

structure RawBlockMessage where
  blockHash : Option BlockHash
  parentHash : Option BlockHash
  blockNumber : Option Nat
  timestampSecs : Option Nat
deriving Repr, DecidableEq

structure Block where
  metadata : Metadata
  blockHash : Option BlockHash
  parentHash : Option BlockHash
  timestampSecs : Option Nat
deriving Repr, DecidableEq

/-- The fields `from` and `to` of the source are `sender` and `target`. -/
structure Transaction where
  metadata : Metadata
  sender : Option Address
  target : Option Address
  value : Option String
  input : Option String
  selector : Option String
  decodedSwap : Option DecodedSwap
  protocol : Option Protocol
  exchange : Option Exchange
deriving Repr, DecidableEq

namespace RawBlockMessage

def fromValue (value : Value) : Option RawBlockMessage :=
  value.asObject.map fun object =>
    { blockHash := stringField object "hash"
      parentHash := stringField object "parentHash"
      blockNumber := u64Field object "number"
      timestampSecs := u64Field object "timestamp" }

/-- A header without a number counts as block zero. -/
def blockContext (self : RawBlockMessage) : BlockContext :=
  .block (self.blockNumber.getD 0) self.blockHash

def toBlock (self : RawBlockMessage) (metadata : Metadata) : Block :=
  { metadata, blockHash := self.blockHash, parentHash := self.parentHash,
    timestampSecs := self.timestampSecs }

end RawBlockMessage

def RawTransactionMessage.toTransaction (codec : CallCodec) (self : RawTransactionMessage)
    (metadata : Metadata) : Except Fault Transaction := do
  let decoded ← self.decode codec
  return { metadata, sender := self.sender, target := self.target, value := self.value,
           input := self.input, selector := decoded.selector, decodedSwap := decoded.decodedSwap,
           protocol := decoded.protocol, exchange := decoded.exchange }

namespace Ingest

/-- Everything the streams hand to the engine. -/
inductive Event where
  | transaction (transaction : Transaction)
  | log (log : Log)
  | block (block : Block)
  | flashblock (summary : Flashblock)
deriving Repr, DecidableEq

def Event.ofFlashblocks : BaseEngine.Event → Event
  | .log entry => .log entry
  | .flashblock summary => .flashblock summary

/-- Errors of the libraries are known by their texts. -/
inductive IngestError where
  | missingChannelConfig (channel : Channel)
  | streamFailure (streamName message : String)
  | eventDeliveryClosed
  | runtimeEventDeliveryClosed
  | invalidStreamState (streamName message : String)
  | transportIo (text : String)
  | json (text : String)
  | alloyTransport (text : String)
  | jsonRpc (streamName message : String)
  | invalidPayload (streamName message : String)
deriving Repr, DecidableEq

def channelName : Channel → String
  | .ipc => "Ipc"
  | .ws => "Ws"
  | .flashblocksWs => "FlashblocksWs"

def IngestError.text : IngestError → String
  | .missingChannelConfig channel =>
      let name := channelName channel
      s!"missing channel configuration for {name}"
  | .streamFailure streamName message => s!"stream `{streamName}` failed: {message}"
  | .eventDeliveryClosed => "failed to send normalized event to downstream consumer"
  | .runtimeEventDeliveryClosed => "failed to send runtime event to downstream consumer"
  | .invalidStreamState streamName message =>
      s!"invalid stream state for `{streamName}`: {message}"
  | .transportIo text => s!"transport io error: {text}"
  | .json text => s!"json decode error: {text}"
  | .alloyTransport text => s!"alloy transport error: {text}"
  | .jsonRpc streamName message => s!"json-rpc error for `{streamName}`: {message}"
  | .invalidPayload streamName message => s!"invalid payload for `{streamName}`: {message}"

/-! ## Endpoints and the events of the runtime -/

inductive IngestEndpoint where
  | ipc (filePath : String)
  | ws (url : String)
deriving Repr, DecidableEq

def IngestEndpoint.channel : IngestEndpoint → Channel
  | .ipc _ => .ipc
  | .ws _ => .ws

structure IngestStreamContext where
  chainId : Nat
  endpoint : IngestEndpoint
  reconnectInitialMs : Nat
  reconnectMaxMs : Nat
  heartbeatTimeoutSecs : Nat
deriving Repr, DecidableEq

def IngestStreamContext.channel (context : IngestStreamContext) : Channel :=
  context.endpoint.channel

inductive StreamStatus where
  | idle
  | connecting
  | subscribing
  | running
  | backoff
  | reconnecting
  | stopped
deriving Repr, DecidableEq

structure Heartbeat where
  blockContext : BlockContext
  channel : Channel
  observedAtMs : Nat
  chainId : Nat
  message : Option String
deriving Repr, DecidableEq

structure StreamStatusEvent where
  blockContext : BlockContext
  channel : Channel
  observedAtMs : Nat
  chainId : Nat
  previous : Option StreamStatus
  current : StreamStatus
  reason : Option String
deriving Repr, DecidableEq

/-! ## The four streams -/

/-- What a stream does with a message: it sends events, which may be none,
gives the session up, asks something back, or panics. -/
inductive Reaction (Question : Type) where
  | deliver (events : List Event)
  | fail (error : IngestError)
  | ask (question : Question)
  | panic

/-- The parts in which the streams differ. A function that makes events is
given the readings of the clock while it makes them. -/
structure StreamKind (Frame Question Reply : Type) where
  name : String
  subscription : StreamSubscription
  opensSubscription : Bool
  connectedReason : Option String
  announcesInSession : Bool
  timeoutMessage : String
  closedMessage : String
  onFrame : (clock : Nat → Nat) → Frame → Reaction Question
  onReply : (clock : Nat → Nat) → Question → Reply → Reaction Question

section Kinds

variable (context : IngestStreamContext)

def logMetadata (codec : EventCodec) (observedAtMs : Nat) (payload : Value)
    (raw : RawLogMessage) : Metadata :=
  let decoded := raw.decode codec
  { blockContext := raw.blockContext
    channel := context.channel
    observedAtMs
    chainId := context.chainId
    txHash := raw.txHash
    decodeStatus := decodeStatus decoded.protocol decoded.exchange
      (decoded.decodedEvent.isSome || decoded.eventSignature.isSome || raw.address.isSome)
    raw := rawSummary .log (payloadSizeBytes payload) (raw.txHash <|> decoded.eventSignature)
      .logs }

def logReaction (codec : EventCodec) (clock : Nat → Nat) (payload : Value) : Reaction Empty :=
  match RawLogMessage.fromValue payload with
  | none => .fail (.invalidPayload "log_stream" "log payload was not an object")
  | some raw => .deliver [.log (raw.toLog codec (logMetadata context codec (clock 0) payload raw))]

def logStream (codec : EventCodec) : StreamKind Value Empty Empty :=
  { name := "log_stream", subscription := .logs, opensSubscription := true,
    connectedReason := none, announcesInSession := false,
    timeoutMessage := "log subscription heartbeat timeout",
    closedMessage := "alloy subscription stream closed",
    onFrame := logReaction context codec, onReply := fun _ question => question.elim }

def blockReaction (clock : Nat → Nat) (payload : Value) : Reaction Empty :=
  match RawBlockMessage.fromValue payload with
  | none => .fail (.invalidPayload "block_stream" "block payload was not an object")
  | some raw => .deliver [.block (raw.toBlock
      { blockContext := raw.blockContext
        channel := context.channel
        observedAtMs := clock 0
        chainId := context.chainId
        txHash := none
        decodeStatus := .decoded
        raw := rawSummary .block (payloadSizeBytes payload) raw.blockHash .blocks })]

def blockStream : StreamKind Value Empty Empty :=
  { name := "block_stream", subscription := .blocks, opensSubscription := true,
    connectedReason := none, announcesInSession := false,
    timeoutMessage := "block subscription heartbeat timeout",
    closedMessage := "alloy subscription stream closed",
    onFrame := blockReaction context, onReply := fun _ question => question.elim }

def transactionMetadata (observedAtMs : Nat) (materialized : Value)
    (raw : RawTransactionMessage) (decoded : TransactionDecode) : Metadata :=
  { blockContext := raw.blockContext
    channel := context.channel
    observedAtMs
    chainId := context.chainId
    txHash := raw.txHash
    decodeStatus := decodeStatus decoded.protocol decoded.exchange
      (decoded.selector.isSome || raw.target.isSome)
    raw := rawSummary .transaction (payloadSizeBytes materialized)
      (raw.txHash <|> decoded.selector) .transactions }

/-- A transaction that is gone again is passed over. Decoding may panic on
the text of the calldata. -/
def transactionReaction (codec : CallCodec) (clock : Nat → Nat) (materialized : Value) :
    Reaction TxHash :=
  match materialized with
  | .null => .deliver []
  | materialized =>
      match RawTransactionMessage.fromValue materialized with
      | none =>
          .fail (.invalidPayload "transaction_stream" "transaction payload was not an object")
      | some raw =>
          let event := do
            let decoded ← raw.decode codec
            raw.toTransaction codec
              (transactionMetadata context (clock 0) materialized raw decoded)
          match event with
          | .error _ => .panic
          | .ok transaction => .deliver [.transaction transaction]

/-- A hash is looked up first (`materialize_transaction`); anything else is
taken as it is. -/
def transactionStream (codec : CallCodec) :
    StreamKind Value TxHash (Option (Except IngestError Value)) :=
  { name := "transaction_stream", subscription := .transactions, opensSubscription := true,
    connectedReason := none, announcesInSession := false,
    timeoutMessage := "transaction subscription heartbeat timeout",
    closedMessage := "alloy subscription stream closed",
    onFrame := fun clock payload =>
      match payload.asStr with
      | some txHash => .ask txHash
      | none => transactionReaction context codec clock payload,
    onReply := fun clock _ reply =>
      match reply with
      | some (.ok materialized) => transactionReaction context codec clock materialized
      | some (.error error) => .fail error
      | none =>
          .fail (.streamFailure "transaction_stream" "transaction materialization timed out") }

/-- A websocket message; a close frame is known by its text. -/
inductive Message where
  | binary (bytes : List UInt8)
  | text (text : String)
  | ping (payload : List UInt8)
  | pong (payload : List UInt8)
  | frame
  | close (text : String)

/-- The libraries behind `decode_payload`. -/
structure PayloadCodec where
  gunzip : List UInt8 → Except String (List UInt8)
  parseJson : List UInt8 → Except String Value
  fromValue : Value → Except String Flashblocks.FlashblockPayload

def looksGzipped : List UInt8 → Bool
  | 0x1f :: 0x8b :: _ => true
  | _ => false

def decodePayload (codec : PayloadCodec) (bytes : List UInt8) :
    Except String Flashblocks.FlashblockPayload := do
  let json ←
    if looksGzipped bytes then do
      let decompressed ← (codec.gunzip bytes).mapError fun e => s!"gzip decompress failed: {e}"
      (codec.parseJson decompressed).mapError fun e => s!"json parse failed: {e}"
    else (codec.parseJson bytes).mapError fun e => s!"json parse failed: {e}"
  (codec.fromValue json).mapError fun e => s!"payload schema mismatch: {e}"

/-- The events of a sub-block, as `dispatch` makes them. -/
def dispatchedEvents (events : EventCodec) (clock : Nat → Nat)
    (payload : Flashblocks.FlashblockPayload) (rawSize : Nat) : List Event :=
  let env : Flashblocks.Environment :=
    { chainId := context.chainId, codec := events, clock, isOpen := fun _ => true }
  (Flashblocks.dispatch env payload rawSize).1.map Event.ofFlashblocks

def bytesReaction (codec : PayloadCodec) (events : EventCodec) (clock : Nat → Nat)
    (bytes : List UInt8) : Reaction (List UInt8) :=
  match decodePayload codec bytes with
  | .error err =>
      .fail (.invalidPayload "flashblocks_stream" s!"flashblocks payload decode failed: {err}")
  | .ok payload => .deliver (dispatchedEvents context events clock payload bytes.length)

def messageReaction (codec : PayloadCodec) (events : EventCodec) (clock : Nat → Nat) :
    Message → Reaction (List UInt8)
  | .binary bytes => bytesReaction context codec events clock bytes
  | .text text => bytesReaction context codec events clock text.toUTF8.toList
  | .ping payload => .ask payload
  | .pong _ => .deliver []
  | .frame => .deliver []
  | .close text => .fail (.streamFailure "flashblocks_stream" s!"flashblocks ws closed: {text}")

/-- There is no subscription, and a ping is answered before the next message.
The events of the runtime carry the channel of the main endpoint. -/
def flashblocksStream (codec : PayloadCodec) (events : EventCodec) (url : String) :
    StreamKind Message (List UInt8) (Except IngestError Unit) :=
  { name := "flashblocks_stream", subscription := .logs, opensSubscription := false,
    connectedReason := some s!"flashblocks={url}", announcesInSession := true,
    timeoutMessage := "flashblocks heartbeat timeout",
    closedMessage := "flashblocks websocket closed by peer",
    onFrame := messageReaction context codec events,
    onReply := fun _ _ reply =>
      match reply with
      | .ok () => .deliver []
      | .error error => .fail error }

end Kinds

/-! ## The machine -/

/-- Where the task waits: for an announcement to be taken, for the connection,
for the subscription, for the next message (after so many silent windows), for
a heartbeat to be taken, for a reply, for an event to be taken, or for the end
of the backoff. -/
inductive Stage (Question : Type) where
  | announcing (event : StreamStatusEvent)
  | connecting
  | subscribing
  | awaiting (idleIntervals : Nat)
  | beating (heartbeat : Heartbeat) (idleIntervals : Nat)
  | asking (question : Question)
  | delivering (event : Event) (rest : List Event)
  | sleeping (reason : Option String)
  | ended (error : IngestError)
  | panicked

inductive Answer (Frame Reply : Type) where
  | sent (accepted : Bool)
  | connected (result : Except IngestError Unit)
  | subscribed (result : Except IngestError String)
  | received (result : Except IngestError Frame)
  | closed
  | silence
  | replied (reply : Reply)
  | woke

/-- An answer, with the readings of the clock until the next wait. -/
structure Op (Frame Reply : Type) where
  clock : Nat → Nat
  answer : Answer Frame Reply

structure Stream (Question : Type) where
  status : StreamStatus
  backoffMs : Nat
  stage : Stage Question

/-- What an answer makes observable: an announcement, a heartbeat or an event
with whether its channel took it, a message, a reply, a silent window, or the
milliseconds slept. -/
inductive Effect (Frame Question Reply : Type) where
  | announced (event : StreamStatusEvent) (accepted : Bool)
  | beat (heartbeat : Heartbeat) (accepted : Bool)
  | sent (event : Event) (accepted : Bool)
  | received (clock : Nat → Nat) (frame : Frame)
  | replied (clock : Nat → Nat) (question : Question) (reply : Reply)
  | silence
  | slept (ms : Nat)

section Machine

variable {Frame Question Reply : Type} (kind : StreamKind Frame Question Reply)
  (context : IngestStreamContext)

/-- The announcements that `run_once` makes; the others are made by `run`. -/
def announcedInSession : StreamStatus → Bool
  | .connecting => kind.announcesInSession
  | .subscribing => true
  | .running => true
  | _ => false

namespace Stream

/-- `transition`: the status has changed before the event is sent. -/
def transition (nowMs : Nat) (next : StreamStatus) (reason : Option String)
    (s : Stream Question) : Stream Question :=
  { s with
    status := next
    stage := .announcing
      { blockContext := .pending, channel := context.channel, observedAtMs := nowMs,
        chainId := context.chainId, previous := some s.status, current := next, reason } }

/-- An error that ends a session. -/
def fail (nowMs : Nat) (error : IngestError) (s : Stream Question) : Stream Question :=
  s.transition context nowMs .backoff (some error.text)

def waitFor (stage : Stage Question) (s : Stream Question) : Stream Question := { s with stage }

/-- What follows an announcement that the channel took. -/
def proceed (nowMs : Nat) (event : StreamStatusEvent) (s : Stream Question) : Stream Question :=
  match event.current with
  | .connecting => s.waitFor .connecting
  | .subscribing => s.waitFor .subscribing
  | .running => s.waitFor (.awaiting 0)
  | .backoff => s.waitFor (.sleeping event.reason)
  | .reconnecting =>
      { s with backoffMs := min (saturatingMul 64 s.backoffMs 2) context.reconnectMaxMs }
        |>.transition context nowMs .connecting none
  | .idle => s
  | .stopped => s

/-- What follows one that it refused: inside a session an error of the
session, outside the end of the task. -/
def refuse (nowMs : Nat) (event : StreamStatusEvent) (s : Stream Question) : Stream Question :=
  if announcedInSession kind event.current then s.fail context nowMs .runtimeEventDeliveryClosed
  else s.waitFor (.ended .runtimeEventDeliveryClosed)

def react (nowMs : Nat) (s : Stream Question) : Reaction Question → Stream Question
  | .deliver [] => s.waitFor (.awaiting 0)
  | .deliver (event :: rest) => s.waitFor (.delivering event rest)
  | .fail error => s.fail context nowMs error
  | .ask question => s.waitFor (.asking question)
  | .panic => s.waitFor .panicked

end Stream

def heartbeat (nowMs : Nat) : Heartbeat :=
  let name := kind.name
  let secs := context.heartbeatTimeoutSecs
  { blockContext := .pending, channel := context.channel, observedAtMs := nowMs,
    chainId := context.chainId, message := some s!"{name} idle for {secs}s" }

def step (s : Stream Question) (op : Op Frame Reply) : Stream Question :=
  let nowMs := op.clock 0
  match s.stage, op.answer with
  | .announcing event, .sent accepted =>
      if accepted then s.proceed context nowMs event else s.refuse kind context nowMs event
  | .connecting, .connected (.ok ()) =>
      if kind.opensSubscription then s.transition context nowMs .subscribing none
      else s.transition context nowMs .running kind.connectedReason
  | .connecting, .connected (.error error) => s.fail context nowMs error
  | .subscribing, .subscribed (.ok subscriptionId) =>
      s.transition context nowMs .running (some s!"subscription={subscriptionId}")
  | .subscribing, .subscribed (.error error) => s.fail context nowMs error
  | .awaiting _, .received (.ok frame) => s.react context nowMs (kind.onFrame op.clock frame)
  | .awaiting _, .received (.error error) => s.fail context nowMs error
  | .awaiting _, .closed => s.fail context nowMs (.streamFailure kind.name kind.closedMessage)
  | .awaiting idleIntervals, .silence =>
      s.waitFor (.beating (heartbeat kind context nowMs) (idleIntervals + 1))
  | .beating _ idleIntervals, .sent accepted =>
      if accepted = false then s.fail context nowMs .runtimeEventDeliveryClosed
      else if 2 ≤ idleIntervals then
        s.fail context nowMs (.streamFailure kind.name kind.timeoutMessage)
      else s.waitFor (.awaiting idleIntervals)
  | .asking question, .replied reply =>
      s.react context nowMs (kind.onReply op.clock question reply)
  | .delivering _ rest, .sent accepted =>
      if accepted then s.react context nowMs (.deliver rest)
      else s.fail context nowMs .eventDeliveryClosed
  | .sleeping reason, .woke => s.transition context nowMs .reconnecting reason
  | _, _ => s

def effects (s : Stream Question) (op : Op Frame Reply) : List (Effect Frame Question Reply) :=
  match s.stage, op.answer with
  | .announcing event, .sent accepted => [.announced event accepted]
  | .awaiting _, .received (.ok frame) => [.received op.clock frame]
  | .awaiting _, .silence => [.silence]
  | .beating heartbeat _, .sent accepted => [.beat heartbeat accepted]
  | .asking question, .replied reply => [.replied op.clock question reply]
  | .delivering event _, .sent accepted => [.sent event accepted]
  | .sleeping _, .woke => [.slept s.backoffMs]
  | _, _ => []

/-- The task at its first wait, the announcement that it connects. -/
def start (nowMs : Nat) : Stream Question :=
  Stream.transition context nowMs .connecting none
    { status := .idle, backoffMs := context.reconnectInitialMs, stage := .connecting }

/-- The state after some answers. -/
def final (s : Stream Question) (ops : List (Op Frame Reply)) : Stream Question :=
  Run.final (step kind context) s ops

/-- What a run makes observable. -/
def trace (s : Stream Question) (ops : List (Op Frame Reply)) :
    List (Effect Frame Question Reply) :=
  Run.outputs (step kind context) effects s ops

/-! ## The pipeline -/

inductive Source where
  | transactions
  | logs
  | blocks
  | flashblocks (url : String)
deriving Repr, DecidableEq

structure Pipeline where
  context : IngestStreamContext
  sources : List Source
  eventChannelCapacity : Nat
  runtimeChannelCapacity : Nat
deriving Repr, DecidableEq

def selectedEndpoint (config : IngestConfig) : Except IngestError IngestEndpoint :=
  match config.channel with
  | .ipc => (okOr config.ipcFilePath (.missingChannelConfig .ipc)).map .ipc
  | .ws => (okOr config.wsUrl (.missingChannelConfig .ws)).map .ws
  | .flashblocksWs => .error (.missingChannelConfig .flashblocksWs)

/-- The Flashblocks stream comes with the others' context and a URL. -/
def flashblocksSource (config : IngestConfig) : Except IngestError (List Source) :=
  if config.subscribeFlashblocks then
    (okOr config.flashblocksWsUrl (.streamFailure "flashblocks_stream"
      "subscribe_flashblocks=true but flashblocks_ws_url is unset")).map fun url =>
        [.flashblocks url]
  else .ok []

def Pipeline.fromConfig (config : IngestConfig) : Except IngestError Pipeline := do
  let endpoint ← selectedEndpoint config
  let context : IngestStreamContext :=
    { chainId := config.chainId, endpoint, reconnectInitialMs := config.reconnectInitialMs,
      reconnectMaxMs := config.reconnectMaxMs,
      heartbeatTimeoutSecs := config.heartbeatTimeoutSecs }
  let flashblocks ← flashblocksSource config
  return {
    context
    sources := (if config.subscribeTransactions then [Source.transactions] else [])
      ++ (if config.subscribeLogs then [Source.logs] else [])
      ++ (if config.subscribeBlocks then [Source.blocks] else []) ++ flashblocks
    eventChannelCapacity := config.eventChannelCapacity
    runtimeChannelCapacity := config.runtimeChannelCapacity }

/-- The streams wait between their sessions as the configuration says. -/
theorem Pipeline.waits_of_fromConfig {config : IngestConfig} {pipeline : Pipeline}
    (h : Pipeline.fromConfig config = .ok pipeline) :
    pipeline.context.reconnectInitialMs = config.reconnectInitialMs
      ∧ pipeline.context.reconnectMaxMs = config.reconnectMaxMs := by
  obtain ⟨endpoint, -, h⟩ := bind_eq_ok_iff.mp h
  obtain ⟨flashblocks, -, h⟩ := bind_eq_ok_iff.mp h
  obtain rfl := Except.ok.inj h
  exact ⟨rfl, rfl⟩

/-! ## What an answer can do -/

/-- The stages in which a message, or the rest of one, is worked on. -/
def Stage.reading : Stage Question → Prop
  | .awaiting _ => True
  | .asking _ => True
  | _ => False

/-- The stages of a session, in which an error leads to a backoff. -/
def Stage.inSession : Stage Question → Prop
  | .connecting => True
  | .subscribing => True
  | .awaiting _ => True
  | .asking _ => True
  | _ => False

/-- The reaction to a message or a reply. -/
def reaction : Effect Frame Question Reply → Option (Reaction Question)
  | .received clock frame => some (kind.onFrame clock frame)
  | .replied clock question reply => some (kind.onReply clock question reply)
  | _ => none

/-- The moves of the machine, with what each makes observable. -/
inductive Moves (nowMs : Nat) (s : Stream Question) :
    List (Effect Frame Question Reply) → Stream Question → Prop where
  | stays : Moves nowMs s [] s
  | proceeds {event : StreamStatusEvent} (hstage : s.stage = .announcing event) :
      Moves nowMs s [.announced event true] (s.proceed context nowMs event)
  | refused {event : StreamStatusEvent} (hstage : s.stage = .announcing event) :
      Moves nowMs s [.announced event false] (s.refuse kind context nowMs event)
  | failed {error : IngestError} (hstage : s.stage.inSession) :
      Moves nowMs s [] (s.fail context nowMs error)
  | connected (hstage : s.stage = .connecting) :
      Moves nowMs s []
        (if kind.opensSubscription then s.transition context nowMs .subscribing none
        else s.transition context nowMs .running kind.connectedReason)
  | subscribed {reason : Option String} (hstage : s.stage = .subscribing) :
      Moves nowMs s [] (s.transition context nowMs .running reason)
  | reads {effect : Effect Frame Question Reply} {result : Reaction Question}
      (hstage : s.stage.reading) (heffect : reaction kind effect = some result) :
      Moves nowMs s [effect] (s.react context nowMs result)
  | silent {idleIntervals : Nat} (hstage : s.stage = .awaiting idleIntervals) :
      Moves nowMs s [.silence]
        (s.waitFor (.beating (heartbeat kind context nowMs) (idleIntervals + 1)))
  | beats {beat : Heartbeat} {idleIntervals : Nat} (hstage : s.stage = .beating beat idleIntervals)
      (hfew : idleIntervals < 2) :
      Moves nowMs s [.beat beat true] (s.waitFor (.awaiting idleIntervals))
  | givesUp {beat : Heartbeat} {idleIntervals : Nat} {accepted : Bool} {error : IngestError}
      (hstage : s.stage = .beating beat idleIntervals)
      (hreason : accepted = true → 2 ≤ idleIntervals
        ∧ error = .streamFailure kind.name kind.timeoutMessage) :
      Moves nowMs s [.beat beat accepted] (s.fail context nowMs error)
  | delivers {event : Event} {rest : List Event} (hstage : s.stage = .delivering event rest) :
      Moves nowMs s [.sent event true] (s.react context nowMs (.deliver rest))
  | loses {event : Event} {rest : List Event} (hstage : s.stage = .delivering event rest) :
      Moves nowMs s [.sent event false] (s.fail context nowMs .eventDeliveryClosed)
  | wakes {reason : Option String} (hstage : s.stage = .sleeping reason) :
      Moves nowMs s [.slept s.backoffMs] (s.transition context nowMs .reconnecting reason)

variable {kind context}

/-- **What an answer can do.** -/
theorem moves_step (s : Stream Question) (op : Op Frame Reply) :
    Moves kind context (op.clock 0) s (effects s op) (step kind context s op) := by
  unfold step effects
  dsimp only
  cases hstage : s.stage with
  | announcing event =>
      cases op.answer with
      | sent accepted =>
          cases accepted with
          | true => exact .proceeds hstage
          | false => exact .refused hstage
      | _ => exact .stays
  | connecting =>
      have hsession : s.stage.inSession := by rw [hstage]; trivial
      cases op.answer with
      | connected result =>
          cases result with
          | ok _ => exact .connected hstage
          | error error => exact .failed hsession
      | _ => exact .stays
  | subscribing =>
      have hsession : s.stage.inSession := by rw [hstage]; trivial
      cases op.answer with
      | subscribed result =>
          cases result with
          | ok subscriptionId => exact .subscribed hstage
          | error error => exact .failed hsession
      | _ => exact .stays
  | awaiting idleIntervals =>
      have hsession : s.stage.inSession := by rw [hstage]; trivial
      cases op.answer with
      | received result =>
          cases result with
          | ok frame => exact .reads (by rw [hstage]; trivial) rfl
          | error error => exact .failed hsession
      | closed => exact .failed hsession
      | silence => exact .silent hstage
      | _ => exact .stays
  | beating beat idleIntervals =>
      cases op.answer with
      | sent accepted =>
          cases accepted with
          | false => exact .givesUp hstage nofun
          | true =>
              by_cases hmany : 2 ≤ idleIntervals
              · simp only [Bool.true_eq_false, if_false, if_pos hmany]
                exact .givesUp hstage fun _ => ⟨hmany, rfl⟩
              · simp only [Bool.true_eq_false, if_false, if_neg hmany]
                exact .beats hstage (Nat.lt_of_not_le hmany)
      | _ => exact .stays
  | asking question =>
      cases op.answer with
      | replied reply => exact .reads (by rw [hstage]; trivial) rfl
      | _ => exact .stays
  | delivering event rest =>
      cases op.answer with
      | sent accepted =>
          cases accepted with
          | true => exact .delivers hstage
          | false => exact .loses hstage
      | _ => exact .stays
  | sleeping reason =>
      cases op.answer with
      | woke => exact .wakes hstage
      | _ => exact .stays
  | ended error => exact .stays
  | panicked => exact .stays

end Machine

end Ingest

end BaseEngine
