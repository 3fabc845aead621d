import BaseEngine.RawLog

/-!
# Flashblocks

`crates/ingest/src/flashblocks.rs`: a pre-confirmed sub-block arrives as one
JSON payload with a map of receipts by transaction hash. `dispatch` fans the
receipt logs out as log events and closes the sub-block with a summary.

The receipts are a `serde_json::Map`, which is a tree map: they are walked
by transaction hash, not in the order in which the publisher lists them.

The JSON parser and the event codec are outside; so are the clock and the
receiving end of the channel, which are given as what they answer to the
n-th call.
-/

namespace BaseEngine

open Text Json

/-! ## The events a stream sends -/

/-- The events of this stream. -/
inductive Event where
  | log (log : Log)
  | flashblock (summary : Flashblock)
deriving Repr, DecidableEq

def Event.asLog : Event → Option Log
  | .log entry => some entry
  | .flashblock _ => none

inductive IngestError where
  | eventDeliveryClosed
deriving Repr, DecidableEq

inductive StreamSubscription where
  | transactions
  | logs
  | blocks
deriving Repr, DecidableEq

def subscriptionLabel : StreamSubscription → String
  | .transactions => "new_pending_transactions"
  | .logs => "logs"
  | .blocks => "new_heads"

def decodeStatus (protocol : Option Protocol) (exchange : Option Exchange)
    (discriminantPresent : Bool) : DecodeStatus :=
  if protocol.isSome || exchange.isSome then .decoded
  else if discriminantPresent then .unsupported
  else .partly

/-- Its error stands for values a serialiser refuses; there are none. -/
def payloadSizeBytes (value : Value) : Nat := value.encodedLen

def rawSummary (messageType : RawMessageType) (payloadSizeBytes : Nat)
    (fingerprint : Option String) (subscription : StreamSubscription) : RawPayloadSummary :=
  { messageType, payloadSizeBytes, fingerprint,
    subscription := some (subscriptionLabel subscription) }

/-- Events are sent one after the other until the receiver is gone:
`isOpen n` tells whether the n-th send finds it there. -/
def sendAll (isOpen : Nat → Bool) : Nat → List Event → List Event × Except IngestError Unit
  | _, [] => ([], .ok ())
  | n, event :: rest =>
      if isOpen n then
        let (sent, result) := sendAll isOpen (n + 1) rest
        (event :: sent, result)
      else ([], .error .eventDeliveryClosed)

theorem sendAll_isPrefix (isOpen : Nat → Bool) :
    ∀ (events : List Event) (n : Nat), (sendAll isOpen n events).1 <+: events
  | [], _ => List.prefix_refl _
  | event :: rest, n => by
      unfold sendAll
      split_ifs
      · exact List.cons_prefix_cons.mpr ⟨rfl, sendAll_isPrefix isOpen rest (n + 1)⟩
      · exact List.nil_prefix

theorem sendAll_of_open {isOpen : Nat → Bool} (hopen : ∀ n, isOpen n = true) :
    ∀ (events : List Event) (n : Nat), sendAll isOpen n events = (events, .ok ())
  | [], _ => rfl
  | event :: rest, n => by
      unfold sendAll
      rw [if_pos (hopen n), sendAll_of_open hopen rest (n + 1)]

namespace Flashblocks

/-! ## Payloads -/

structure FlashblockBase where
  parentHash : Option String
  blockNumber : Option String

structure FlashblockDiff where
  blockHash : Option String
  stateRoot : Option String
  gasUsed : Option String

structure FlashblockMetadata where
  blockNumber : Option Nat
  receipts : OrderedMap String Value

structure FlashblockPayload where
  payloadId : Option String
  index : Nat
  base : Option FlashblockBase
  diff : Option FlashblockDiff
  metadata : Option FlashblockMetadata

def parseHexU64 (input : String) : Option Nat :=
  parseUnsigned 16 64 ((stripPrefix "0x" input).getD input)

/-- A receipt tagged with its transaction type is unwrapped; a flat one is
kept. -/
def unwrapReceipt (receipt : Value) : Value :=
  match receipt with
  | .object [(_, .object inner)] => .object inner
  | _ => receipt

/-- The log objects of a receipt; other entries of the array are passed
over. -/
def receiptLogs (receipt : Value) : List Entries :=
  (((unwrapReceipt receipt).get "logs").bind Value.asArray).getD [] |>.filterMap Value.asObject

/-- The log objects of a receipt with the transaction they belong to. -/
def ownedBy (receipt : String × Value) : List (TxHash × Entries) :=
  (receiptLogs receipt.2).map (receipt.1, ·)

def ownedLogs (receipts : List (String × Value)) : List (TxHash × Entries) :=
  receipts.flatMap ownedBy

/-- The transaction hash is the only field that is injected. -/
def enrich (log : TxHash × Entries) : Entries :=
  entryOrInsert "transactionHash" (.string log.1) log.2

def collectLogs (receipts : List (String × Value)) : List Value :=
  (ownedLogs receipts).map fun log => .object (enrich log)

structure Views where
  parentBlockNumber : Option Nat
  parentHash : Option BlockHash
  blockHash : Option BlockHash
  stateRoot : Option String
  gasUsed : Option Nat
  txHashes : List TxHash
  logs : List Value

/-- The receipts in the order in which their map is walked. -/
def FlashblockPayload.receipts (payload : FlashblockPayload) : List (String × Value) :=
  (payload.metadata.map (·.receipts.entries)).getD []

def extractViews (payload : FlashblockPayload) : Views :=
  { parentBlockNumber :=
      payload.metadata.bind (·.blockNumber)
        <|> (payload.base.bind (·.blockNumber)).bind parseHexU64
    parentHash := payload.base.bind (·.parentHash)
    blockHash := payload.diff.bind (·.blockHash)
    stateRoot := payload.diff.bind (·.stateRoot)
    gasUsed := (payload.diff.bind (·.gasUsed)).bind parseHexU64
    txHashes := payload.receipts.map Prod.fst
    logs := collectLogs payload.receipts }

/-! ## Dispatch -/

/-- What the stream is set up with and what surrounds it. -/
structure Environment where
  chainId : Nat
  codec : EventCodec
  clock : Nat → Nat
  isOpen : Nat → Bool

variable (env : Environment)

/-- The event for a log message, at the n-th reading of the clock. -/
def logEvent (n : Nat) (value : Value) (raw : RawLogMessage) : Log :=
  let decoded := raw.decode env.codec
  raw.toLog env.codec
    { blockContext := .pending
      channel := .flashblocksWs
      observedAtMs := env.clock n
      chainId := env.chainId
      txHash := raw.txHash
      decodeStatus := decodeStatus decoded.protocol decoded.exchange
        (decoded.decodedEvent.isSome || decoded.eventSignature.isSome || raw.address.isSome)
      raw := rawSummary .log (payloadSizeBytes value)
        (raw.txHash <|> decoded.eventSignature) .logs }

/-- Values that are no log message are skipped, and read no clock. -/
def logEvents : Nat → List Value → List Log
  | _, [] => []
  | n, value :: rest =>
      match RawLogMessage.fromValue value with
      | none => logEvents n rest
      | some raw => logEvent env n value raw :: logEvents (n + 1) rest

def summary (payload : FlashblockPayload) (rawSize emittedLogs : Nat) : Flashblock :=
  let views := extractViews payload
  { metadata :=
      { blockContext := .pending
        channel := .flashblocksWs
        observedAtMs := env.clock emittedLogs
        chainId := env.chainId
        txHash := none
        decodeStatus := .decoded
        raw := rawSummary .flashblock rawSize payload.payloadId .logs }
    payloadId := payload.payloadId
    index := payload.index
    parentBlockNumber := views.parentBlockNumber
    parentHash := views.parentHash
    blockHash := views.blockHash
    stateRoot := views.stateRoot
    gasUsed := views.gasUsed
    txHashes := views.txHashes
    logCount := emittedLogs }

/-- Logs first, so that consumers see them ahead of the summary that closes
the sub-block. -/
def dispatch (payload : FlashblockPayload) (rawSize : Nat) :
    List Event × Except IngestError Unit :=
  let logs := logEvents env 0 (extractViews payload).logs
  sendAll env.isOpen 0
    (logs.map .log ++ [.flashblock (summary env payload rawSize logs.length)])

/-! ## What is sent for a receipt log -/

/-- The event of a receipt log, when it is the i-th one. -/
def receiptEvent (i : Nat) (owned : TxHash × Entries) : Log :=
  logEvent env i (.object (enrich owned)) (RawLogMessage.ofObject (enrich owned))

variable {env}

theorem logEvents_objects : ∀ (owned : List (TxHash × Entries)) (n : Nat),
    logEvents env n (owned.map fun log => .object (enrich log))
      = owned.mapIdx fun i log => receiptEvent env (n + i) log
  | [], _ => rfl
  | log :: rest, n => by
      rw [List.mapIdx_cons]
      refine congrArg (receiptEvent env n log :: ·) ((logEvents_objects rest (n + 1)).trans ?_)
      simp only [Nat.add_assoc, Nat.add_comm 1]

/-- Every receipt log has its event, in the order of the walk. -/
theorem logEvents_collectLogs (receipts : List (String × Value)) :
    logEvents env 0 (collectLogs receipts)
      = (ownedLogs receipts).mapIdx (receiptEvent env) := by
  have h := @logEvents_objects env (ownedLogs receipts) 0
  simp only [Nat.zero_add] at h
  exact h

/-- The events sent are those of the receipt logs, position by position. -/
theorem dispatch_log {payload : FlashblockPayload} {rawSize i : Nat} {log : Log}
    {owned : TxHash × Entries} (howned : (ownedLogs payload.receipts)[i]? = some owned)
    (hsent : (dispatch env payload rawSize).1[i]? = some (.log log)) :
    log = receiptEvent env i owned := by
  obtain ⟨hi, hsent⟩ := List.getElem?_eq_some_iff.mp hsent
  have hevent := (List.prefix_iff_getElem?.mp (sendAll_isPrefix env.isOpen _ 0) i hi).trans
    (congrArg some hsent)
  have hlogs : logEvents env 0 (extractViews payload).logs
      = (ownedLogs payload.receipts).mapIdx (receiptEvent env) :=
    logEvents_collectLogs payload.receipts
  have hlen := (List.getElem?_eq_some_iff.mp howned).1
  rw [hlogs, List.getElem?_append_left (by simpa using hlen), List.getElem?_map,
    List.getElem?_mapIdx, howned] at hevent
  cases hevent
  rfl

theorem dispatch_of_open (hopen : ∀ n, env.isOpen n = true) (payload : FlashblockPayload)
    (rawSize : Nat) :
    (dispatch env payload rawSize).1
      = ((ownedLogs payload.receipts).mapIdx (receiptEvent env)).map .log
        ++ [.flashblock (summary env payload rawSize (ownedLogs payload.receipts).length)] := by
  have hlogs : logEvents env 0 (extractViews payload).logs
      = (ownedLogs payload.receipts).mapIdx (receiptEvent env) :=
    logEvents_collectLogs payload.receipts
  unfold dispatch
  rw [sendAll_of_open hopen, hlogs, List.length_mapIdx]

/-- The log events of a dispatch that is not cut short. -/
theorem logs_dispatch_of_open (hopen : ∀ n, env.isOpen n = true) (payload : FlashblockPayload)
    (rawSize : Nat) :
    (dispatch env payload rawSize).1.filterMap Event.asLog
      = (ownedLogs payload.receipts).mapIdx (receiptEvent env) := by
  rw [dispatch_of_open hopen, List.filterMap_append, List.filterMap_map]
  show List.filterMap some _ ++ [] = _
  rw [List.filterMap_some, List.append_nil]

end Flashblocks

end BaseEngine
