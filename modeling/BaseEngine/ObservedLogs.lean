import BaseEngine.Lib.Json
import BaseEngine.Lib.Run
import BaseEngine.Lib.Sha256
import BaseEngine.Execution
import BaseEngine.Risk

/-!
# The table of observed logs

`persist_observed_log` of `crates/storage/src/lib.rs`: the fingerprint of a
log, the JSON it is taken of, and the row that is inserted or updated under it.

The fingerprint covers the time at which the log was observed and, through the
JSON of the whole log, the channel it came through
(`observedLogInput_delivered_inj`). Deliveries of one log therefore share a row
only when they agree on both (`deduplicates_iff`), and any sequence of deliveries
leaves one row for each different one (`length_rows_deliveries`).
-/

namespace BaseEngine

open Fallible Json

/-! ## The JSON of a log

Fields in the order of their declaration; an absent value is `null`. -/

section Json

def jsonOption {α : Type} (json : α → Value) : Option α → Value
  | some a => json a
  | none => .null

def jsonNat (n : Nat) : Value := .number (.posInt n)

def jsonInt : Int → Value
  | .ofNat n => .number (.posInt n)
  | .negSucc n => .number (.negInt (.negSucc n))

def BlockContext.json : BlockContext → Value
  | .pending => .string "pending"
  | .block number hash =>
      .object [("block", .object [("number", jsonNat number), ("hash", jsonOption .string hash)])]

def Channel.json : Channel → Value
  | .ipc => .string "ipc"
  | .ws => .string "ws"
  | .flashblocksWs => .string "flashblocks_ws"

def DecodeStatus.json : DecodeStatus → Value
  | .decoded => .string "decoded"
  | .partly => .string "partial"
  | .unsupported => .string "unsupported"
  | .failed => .string "failed"

def Protocol.json : Protocol → Value
  | .unknown => .string "unknown"
  | .uniswapV2 => .string "uniswap_v2"
  | .uniswapV3 => .string "uniswap_v3"
  | .uniswapV4 => .string "uniswap_v4"
  | .aerodrome => .string "aerodrome"
  | .virtuals => .string "virtuals"

def Exchange.json : Exchange → Value
  | .unknown => .string "unknown"
  | .pancakeSwap => .string "pancake_swap"
  | .baseSwap => .string "base_swap"
  | .alienBase => .string "alien_base"
  | .aerodrome => .string "aerodrome"
  | .virtuals => .string "virtuals"

def RawMessageType.json : RawMessageType → Value
  | .transaction => .string "transaction"
  | .log => .string "log"
  | .block => .string "block"
  | .flashblock => .string "flashblock"
  | .heartbeat => .string "heartbeat"
  | .status => .string "status"
  | .unknown => .string "unknown"

def RawPayloadSummary.json (raw : RawPayloadSummary) : Value :=
  .object [("message_type", raw.messageType.json),
    ("payload_size_bytes", jsonNat raw.payloadSizeBytes),
    ("fingerprint", jsonOption .string raw.fingerprint),
    ("subscription", jsonOption .string raw.subscription)]

def Metadata.jsonFields (metadata : Metadata) : Entries :=
  [("block_context", metadata.blockContext.json), ("channel", metadata.channel.json),
    ("observed_at_ms", jsonNat metadata.observedAtMs), ("chain_id", jsonNat metadata.chainId),
    ("tx_hash", jsonOption .string metadata.txHash),
    ("decode_status", metadata.decodeStatus.json), ("raw", metadata.raw.json)]

def DecodedLogKind.json : DecodedLogKind → Value
  | .v2Swap => .string "v2_swap"
  | .v2Sync => .string "v2_sync"
  | .v2Mint => .string "v2_mint"
  | .v2Burn => .string "v2_burn"
  | .v3Swap => .string "v3_swap"
  | .v3Mint => .string "v3_mint"
  | .v3Burn => .string "v3_burn"

def DecodedLogEvent.json (event : DecodedLogEvent) : Value :=
  .object [("kind", event.kind.json), ("pool", jsonOption .string event.pool),
    ("sender", jsonOption .string event.sender),
    ("recipient", jsonOption .string event.recipient),
    ("owner", jsonOption .string event.owner),
    ("reserve0", jsonOption jsonNat event.reserve0),
    ("reserve1", jsonOption jsonNat event.reserve1),
    ("amount0_in", jsonOption jsonNat event.amount0In),
    ("amount1_in", jsonOption jsonNat event.amount1In),
    ("amount0_out", jsonOption jsonNat event.amount0Out),
    ("amount1_out", jsonOption jsonNat event.amount1Out),
    ("amount0", jsonOption .string event.amount0),
    ("amount1", jsonOption .string event.amount1),
    ("liquidity", jsonOption jsonNat event.liquidity),
    ("sqrt_price_x96", jsonOption .string event.sqrtPriceX96),
    ("tick", jsonOption jsonInt event.tick),
    ("tick_lower", jsonOption jsonInt event.tickLower),
    ("tick_upper", jsonOption jsonInt event.tickUpper),
    ("protocol", jsonOption Protocol.json event.protocol),
    ("exchange", jsonOption Exchange.json event.exchange)]

def Log.jsonFields (log : Log) : Entries :=
  [("metadata", .object log.metadata.jsonFields), ("address", jsonOption .string log.address),
    ("topics", .array (log.topics.map .string)), ("data", jsonOption .string log.data),
    ("event_signature", jsonOption .string log.eventSignature),
    ("decoded_event", jsonOption DecodedLogEvent.json log.decodedEvent),
    ("protocol", jsonOption Protocol.json log.protocol),
    ("exchange", jsonOption Exchange.json log.exchange),
    ("log_index", jsonOption jsonNat log.logIndex),
    ("removed", jsonOption .bool log.removed)]

def Log.json (log : Log) : Value := .object log.jsonFields

end Json

/-! ## The fingerprint -/

def asBytes (s : String) : List UInt8 := s.toUTF8.data.toList

/-- `serde_json::to_vec`. -/
def toVec (value : Value) : List UInt8 := asBytes (String.ofList value.text)

theorem toVec_eq (value : Value) : toVec value = value.text.flatMap String.utf8EncodeChar := by
  rw [toVec, asBytes, String.toUTF8, String.toByteArray_ofList, List.utf8Encode,
    List.data_toByteArray]

/-- What is hashed if the value is there. -/
def hashed {α : Type} (bytes : α → List UInt8) (value : Option α) : List UInt8 :=
  value.elim [] bytes

/-- What the fingerprint is taken of. -/
def observedLogInput (log : Log) : List UInt8 :=
  toVec log.metadata.blockContext.json ++ toLeBytes 8 log.metadata.chainId
    ++ toLeBytes 8 log.metadata.observedAtMs ++ hashed asBytes log.metadata.txHash
    ++ hashed asBytes log.address ++ hashed asBytes log.eventSignature
    ++ hashed (toLeBytes 8) log.logIndex ++ hashed (fun removed => [removed.toUInt8]) log.removed
    ++ toVec log.json

def observedLogFingerprint (sha256 : List UInt8 → String) (log : Log) : String :=
  sha256 (observedLogInput log)

/-! ## Deliveries of one log -/

/-- What a connector adds to a log: the channel, and the time at which it saw it. -/
@[ext] structure Delivery where
  channel : Channel
  observedAtMs : Nat
deriving Repr, DecidableEq

def Log.delivered (log : Log) (delivery : Delivery) : Log :=
  { log with metadata :=
      { log.metadata with channel := delivery.channel, observedAtMs := delivery.observedAtMs } }

theorem Channel.text_json_inj {channel channel' : Channel}
    (h : channel.json.text = channel'.json.text) : channel = channel' := by
  cases channel <;> cases channel' <;> first | rfl | exact absurd h (by decide)

/-- The JSON around the channel does not depend on it. -/
theorem exists_channel_frame (log : Log) (observedAtMs : Nat) :
    ∃ before after, ∀ channel,
      (log.delivered ⟨channel, observedAtMs⟩).json.text
        = before ++ channel.json.text ++ after := by
  let base := log.delivered ⟨.ipc, observedAtMs⟩
  obtain ⟨before, after, hmetadata⟩ :=
    exists_text_frame (base.metadata.jsonFields.take 1) (base.metadata.jsonFields.drop 2) "channel"
  obtain ⟨before', after', hlog⟩ := exists_text_frame [] (base.jsonFields.drop 1) "metadata"
  refine ⟨before' ++ before, after ++ after', fun channel => ?_⟩
  calc (log.delivered ⟨channel, observedAtMs⟩).json.text
      = before' ++ (Value.object (base.metadata.jsonFields.take 1
          ++ ("channel", channel.json) :: base.metadata.jsonFields.drop 2)).text ++ after' :=
        hlog _
    _ = before' ++ before ++ channel.json.text ++ (after ++ after') := by
        rw [hmetadata]
        simp only [List.append_assoc]

/-- What is hashed determines when and how the log was delivered. -/
theorem observedLogInput_delivered_inj {log : Log} {delivery delivery' : Delivery}
    (hms : delivery.observedAtMs < 2 ^ 64) (hms' : delivery'.observedAtMs < 2 ^ 64)
    (h : observedLogInput (log.delivered delivery) = observedLogInput (log.delivered delivery')) :
    delivery = delivery' := by
  obtain ⟨channel, observedAtMs⟩ := delivery
  obtain ⟨channel', observedAtMs'⟩ := delivery'
  simp only [observedLogInput, List.append_assoc] at h
  -- what comes before the time is the same in both
  have h := List.append_cancel_left (List.append_cancel_left h)
  obtain ⟨htime, h⟩ := List.append_inj h (by simp)
  obtain rfl : observedAtMs = observedAtMs' :=
    toLeBytes_inj (by simpa using hms) (by simpa using hms') htime
  have h : toVec (log.delivered ⟨channel, observedAtMs⟩).json
      = toVec (log.delivered ⟨channel', observedAtMs⟩).json := by
    iterate 5 replace h := List.append_cancel_left h
    exact h
  have htext := String.ofList_inj.mp (Text.utf8_inj h)
  obtain ⟨before, after, hframe⟩ := exists_channel_frame log observedAtMs
  rw [hframe, hframe, List.append_left_inj, List.append_right_inj] at htext
  rw [Channel.text_json_inj htext]

/-! ## The table -/

/-- The columns a log is written to. -/
structure ObservedLogColumns where
  fingerprint : String
  txHash : Option TxHash
  blockContext : String
  chainId : Nat
  address : Option Address
  eventSignature : Option String
  logIndex : Option Nat
  removed : Option Bool
  logJson : Value
deriving Repr

structure ObservedLogRow where
  id : Nat
  observedAt : Nat
  columns : ObservedLogColumns
deriving Repr

def ObservedLogRow.fingerprint (row : ObservedLogRow) : String := row.columns.fingerprint

/-- The rows of `observed_logs`, with different fingerprints, and the next
value of the sequence that numbers them. -/
structure ObservedLogs where
  rows : List ObservedLogRow
  nextId : Nat
  unique : (rows.map ObservedLogRow.fingerprint).Nodup

namespace ObservedLogs

def fingerprints (table : ObservedLogs) : List String :=
  table.rows.map ObservedLogRow.fingerprint

theorem mem_fingerprints {table : ObservedLogs} {fingerprint : String} :
    fingerprint ∈ table.fingerprints ↔ ∃ row ∈ table.rows, row.fingerprint = fingerprint :=
  List.mem_map

/-- `DO UPDATE`, on the row in conflict. -/
def overwrite (now : Nat) (columns : ObservedLogColumns) (row : ObservedLogRow) : ObservedLogRow :=
  if row.fingerprint = columns.fingerprint then { row with observedAt := now, columns } else row

theorem fingerprint_overwrite (now : Nat) (columns : ObservedLogColumns) (row : ObservedLogRow) :
    (overwrite now columns row).fingerprint = row.fingerprint := by
  unfold overwrite
  split_ifs with h
  · exact h.symm
  · rfl

theorem map_fingerprint_overwrite (now : Nat) (columns : ObservedLogColumns)
    (rows : List ObservedLogRow) :
    (rows.map (overwrite now columns)).map ObservedLogRow.fingerprint
      = rows.map ObservedLogRow.fingerprint := by
  rw [List.map_map]
  exact List.map_congr_left fun row _ => fingerprint_overwrite now columns row

/-- The insertion with its `ON CONFLICT` clause, and the identifier of the
row. The sequence moves on in either case. -/
def upsert (table : ObservedLogs) (now : Nat) (columns : ObservedLogColumns) :
    ObservedLogs × Nat :=
  match h : table.rows.find? fun row => row.fingerprint = columns.fingerprint with
  | some row =>
      ({ rows := table.rows.map (overwrite now columns), nextId := table.nextId + 1,
         unique := by rw [map_fingerprint_overwrite]; exact table.unique }, row.id)
  | none =>
      ({ rows := ⟨table.nextId, now, columns⟩ :: table.rows, nextId := table.nextId + 1,
         unique := by
          refine List.nodup_cons.mpr ⟨fun hmem => ?_, table.unique⟩
          obtain ⟨row, hrow, heq⟩ := List.mem_map.mp hmem
          exact List.find?_eq_none.mp h row hrow (decide_eq_true heq) }, table.nextId)

variable {table : ObservedLogs} {now now' : Nat} {columns columns' : ObservedLogColumns}

/-- The row under the fingerprint is overwritten, or there is none. -/
theorem upsert_cases :
    (∃ row ∈ table.rows, row.fingerprint = columns.fingerprint
      ∧ (table.upsert now columns).1.rows = table.rows.map (overwrite now columns)
      ∧ (table.upsert now columns).2 = row.id)
    ∨ columns.fingerprint ∉ table.fingerprints
      ∧ (table.upsert now columns).1.rows = ⟨table.nextId, now, columns⟩ :: table.rows
      ∧ (table.upsert now columns).2 = table.nextId := by
  unfold upsert
  split
  next row h =>
      have hrow : decide (row.fingerprint = columns.fingerprint) = true := by
        simpa using List.find?_some h
      exact .inl ⟨row, List.mem_of_find?_eq_some h, of_decide_eq_true hrow, rfl, rfl⟩
  next h =>
      refine .inr ⟨fun hmem => ?_, rfl, rfl⟩
      obtain ⟨row, hrow, heq⟩ := mem_fingerprints.mp hmem
      exact List.find?_eq_none.mp h row hrow (decide_eq_true heq)

/-- A fingerprint is added once. -/
theorem fingerprints_upsert :
    (table.upsert now columns).1.fingerprints
      = table.fingerprints.insert columns.fingerprint := by
  obtain ⟨row, hrow, heq, hrows, -⟩ | ⟨hnew, hrows, -⟩ := @upsert_cases table now columns
  · rw [List.insert_of_mem (mem_fingerprints.mpr ⟨row, hrow, heq⟩), fingerprints, hrows]
    exact map_fingerprint_overwrite now columns table.rows
  · rw [List.insert_of_not_mem hnew, fingerprints, hrows]
    rfl

/-- The identifier that is returned is that of the row under the fingerprint. -/
theorem exists_row_upsert :
    ∃ row ∈ (table.upsert now columns).1.rows,
      row.fingerprint = columns.fingerprint ∧ row.id = (table.upsert now columns).2 := by
  obtain ⟨row, hrow, heq, hrows, hid⟩ | ⟨-, hrows, hid⟩ := @upsert_cases table now columns
  · refine ⟨overwrite now columns row, ?_, ?_, ?_⟩
    · rw [hrows]; exact List.mem_map_of_mem hrow
    · rw [fingerprint_overwrite, heq]
    · rw [overwrite, if_pos heq, hid]
  · exact ⟨_, hrows ▸ List.mem_cons_self, rfl, hid.symm⟩

theorem upsert_id_of_mem {row : ObservedLogRow} (hrow : row ∈ table.rows)
    (h : row.fingerprint = columns.fingerprint) : (table.upsert now columns).2 = row.id := by
  obtain ⟨found, hfound, heq, -, hid⟩ | ⟨hnew, -, -⟩ := @upsert_cases table now columns
  · rw [hid, List.inj_on_of_nodup_map table.unique hfound hrow (heq.trans h.symm)]
  · exact absurd (mem_fingerprints.mpr ⟨row, hrow, h⟩) hnew

/-- Under the same fingerprint the second one updates the row of the first. -/
theorem upsert_upsert (h : columns'.fingerprint = columns.fingerprint) :
    ((table.upsert now columns).1.upsert now' columns').2 = (table.upsert now columns).2
      ∧ ((table.upsert now columns).1.upsert now' columns').1.fingerprints
        = (table.upsert now columns).1.fingerprints := by
  obtain ⟨row, hrow, hfingerprint, hid⟩ := @exists_row_upsert table now columns
  constructor
  · rw [upsert_id_of_mem hrow (hfingerprint.trans h.symm), hid]
  · rw [fingerprints_upsert]
    exact List.insert_of_mem (mem_fingerprints.mpr ⟨row, hrow, hfingerprint.trans h.symm⟩)

end ObservedLogs

/-! ## Persisting -/

section Persist

variable (sha256 : List UInt8 → String) (toValue : Value → Except ErrorChain Value)

def observedLogColumns (log : Log) (logJson : Value) : ObservedLogColumns :=
  { fingerprint := observedLogFingerprint sha256 log, txHash := log.metadata.txHash,
    blockContext := String.ofList log.metadata.blockContext.json.text,
    chainId := log.metadata.chainId, address := log.address,
    eventSignature := log.eventSignature,
    logIndex := log.logIndex.filter fun index => index < 2 ^ 63, removed := log.removed, logJson }

/-- A call, with the clock of the database and its answer. -/
structure PersistCall where
  now : Nat
  answer : Except ErrorChain Unit
  log : Log

/-- What is bound to the statement, with the reply to it. `toValue` is
`serde_json::to_value`, which refuses some numbers. -/
def PersistCall.send (call : PersistCall) : Except ErrorChain Value := do
  let logJson ← withContext "failed to serialize observed log" (toValue call.log.json)
  if 2 ^ 63 ≤ call.log.metadata.chainId then
    .error ["chain_id does not fit into i64", "out of range integral type conversion attempted"]
  else do
    withContext "failed to persist observed log" call.answer
    return logJson

def persistObservedLog (pool : Option ObservedLogs) (call : PersistCall) :
    Except ErrorChain (Option ObservedLogs × Option Nat) :=
  match pool with
  | none => .ok (none, none)
  | some table => do
      let logJson ← call.send toValue
      let written := table.upsert call.now (observedLogColumns sha256 call.log logJson)
      return (some written.1, some written.2)

/-- The log can be written, and the database takes it. -/
structure PersistCall.Accepted (call : PersistCall) : Prop where
  serialised : ∃ logJson, toValue call.log.json = .ok logJson
  chainId : call.log.metadata.chainId < 2 ^ 63
  answered : call.answer = .ok ()

variable {sha256 toValue} {table : ObservedLogs} {call : PersistCall}

theorem PersistCall.send_isOk_iff :
    (∃ logJson, call.send toValue = .ok logJson) ↔ call.Accepted toValue := by
  constructor
  · rintro ⟨_, h⟩
    obtain ⟨logJson, hjson, h⟩ := bind_eq_ok_iff.mp h
    by_cases hchain : 2 ^ 63 ≤ call.log.metadata.chainId
    · rw [if_pos hchain] at h; cases h
    · rw [if_neg hchain] at h
      obtain ⟨_, hanswer, -⟩ := bind_eq_ok_iff.mp h
      exact ⟨⟨logJson, mapError_eq_ok_iff.mp hjson⟩, Nat.not_le.mp hchain,
        mapError_eq_ok_iff.mp hanswer⟩
  · intro h
    obtain ⟨logJson, hjson⟩ := h.serialised
    refine ⟨logJson, ?_⟩
    simp only [PersistCall.send, withContext, hjson, h.answered, Except.mapError, ok_bind,
      if_neg (Nat.not_le.mpr h.chainId)]
    rfl

theorem persistObservedLog_of_accepted (h : call.Accepted toValue) :
    ∃ logJson, persistObservedLog sha256 toValue (some table) call
      = .ok (some (table.upsert call.now (observedLogColumns sha256 call.log logJson)).1,
          some (table.upsert call.now (observedLogColumns sha256 call.log logJson)).2) := by
  obtain ⟨logJson, hsend⟩ := PersistCall.send_isOk_iff.mpr h
  refine ⟨logJson, ?_⟩
  simp only [persistObservedLog, hsend, ok_bind]
  rfl

theorem accepted_of_persistObservedLog {result : Option ObservedLogs × Option Nat}
    (h : persistObservedLog sha256 toValue (some table) call = .ok result) :
    call.Accepted toValue := by
  obtain ⟨logJson, hsend, -⟩ := bind_eq_ok_iff.mp h
  exact PersistCall.send_isOk_iff.mp ⟨logJson, hsend⟩

/-- A call that failed leaves the table alone. -/
def persistNext (sha256 : List UInt8 → String) (toValue : Value → Except ErrorChain Value)
    (pool : Option ObservedLogs) (call : PersistCall) : Option ObservedLogs :=
  match persistObservedLog sha256 toValue pool call with
  | .ok result => result.1
  | .error _ => pool

theorem persistNext_fingerprints :
    ∃ table', persistNext sha256 toValue (some table) call = some table'
      ∧ ∀ fingerprint, fingerprint ∈ table'.fingerprints ↔ fingerprint ∈ table.fingerprints
        ∨ call.Accepted toValue ∧ observedLogFingerprint sha256 call.log = fingerprint := by
  unfold persistNext
  by_cases haccepted : call.Accepted toValue
  · obtain ⟨logJson, hpersist⟩ := @persistObservedLog_of_accepted sha256 _ table _ haccepted
    refine ⟨(table.upsert call.now (observedLogColumns sha256 call.log logJson)).1,
      by rw [hpersist], fun fingerprint => ?_⟩
    rw [ObservedLogs.fingerprints_upsert, List.mem_insert_iff, or_comm,
      and_iff_right haccepted, eq_comm]
    rfl
  · refine ⟨table, ?_, fun fingerprint => by simp [haccepted]⟩
    cases hpersist : persistObservedLog sha256 toValue (some table) call with
    | ok result => exact absurd (accepted_of_persistObservedLog hpersist) haccepted
    | error e => rfl

/-- After any sequence of calls the table holds the fingerprints of the logs
that were accepted. -/
theorem final_fingerprints (calls : List PersistCall) (table : ObservedLogs) :
    ∃ table', Run.final (persistNext sha256 toValue) (some table) calls = some table'
      ∧ ∀ fingerprint, fingerprint ∈ table'.fingerprints ↔ fingerprint ∈ table.fingerprints
        ∨ ∃ call ∈ calls, call.Accepted toValue
          ∧ observedLogFingerprint sha256 call.log = fingerprint := by
  induction calls generalizing table with
  | nil => exact ⟨table, rfl, by simp⟩
  | cons call calls ih =>
      obtain ⟨table₁, hnext, hfirst⟩ := @persistNext_fingerprints sha256 toValue table call
      obtain ⟨table₂, hfinal, hrest⟩ := ih table₁
      refine ⟨table₂, by rw [Run.final_cons, hnext, hfinal], fun fingerprint => ?_⟩
      rw [hrest, hfirst, or_assoc, List.exists_mem_cons_iff]

/-- What the hash is taken of, over deliveries of a log. -/
def deliveredInputs (log : Log) (deliveries : List Delivery) : Set (List UInt8) :=
  Set.image (fun delivery => observedLogInput (log.delivered delivery)) {d | d ∈ deliveries}

/-- Without a collision between them, different deliveries have different
fingerprints. -/
theorem fingerprint_delivered_inj {log : Log} {deliveries : List Delivery}
    (hsha : Set.InjOn sha256 (deliveredInputs log deliveries))
    (hms : ∀ delivery ∈ deliveries, delivery.observedAtMs < 2 ^ 64) {delivery delivery' : Delivery}
    (hmem : delivery ∈ deliveries) (hmem' : delivery' ∈ deliveries)
    (h : observedLogFingerprint sha256 (log.delivered delivery)
      = observedLogFingerprint sha256 (log.delivered delivery')) :
    delivery = delivery' :=
  observedLogInput_delivered_inj (hms delivery hmem) (hms delivery' hmem')
    (hsha ⟨delivery, hmem, rfl⟩ ⟨delivery', hmem', rfl⟩ h)

/-- **One row per delivery.** Without collisions, the deliveries of one log to
an empty table leave as many rows as there are different ones. -/
theorem length_rows_deliveries {log : Log} {deliveries : List Delivery} {calls : List PersistCall}
    (hsha : Set.InjOn sha256 (deliveredInputs log deliveries))
    (hms : ∀ delivery ∈ deliveries, delivery.observedAtMs < 2 ^ 64)
    (hcalls : calls.map PersistCall.log = deliveries.map log.delivered)
    (haccepted : ∀ call ∈ calls, call.Accepted toValue) (nextId : Nat) :
    ∃ table', Run.final (persistNext sha256 toValue) (some ⟨[], nextId, List.nodup_nil⟩) calls
        = some table'
      ∧ table'.rows.length = deliveries.toFinset.card := by
  obtain ⟨table', hfinal, hmem⟩ :=
    @final_fingerprints sha256 toValue calls ⟨[], nextId, List.nodup_nil⟩
  refine ⟨table', hfinal, ?_⟩
  have hlogs : ∀ fingerprint, fingerprint ∈ table'.fingerprints
      ↔ ∃ delivery ∈ deliveries,
        observedLogFingerprint sha256 (log.delivered delivery) = fingerprint := by
    intro fingerprint
    calc fingerprint ∈ table'.fingerprints
        ↔ ∃ call ∈ calls, observedLogFingerprint sha256 call.log = fingerprint := by
          rw [hmem]
          constructor
          · rintro (hnil | ⟨call, hcall, -, heq⟩)
            · cases hnil
            · exact ⟨call, hcall, heq⟩
          · rintro ⟨call, hcall, heq⟩
            exact .inr ⟨call, hcall, haccepted call hcall, heq⟩
      _ ↔ fingerprint ∈ (calls.map PersistCall.log).map (observedLogFingerprint sha256) := by
          simp
      _ ↔ _ := by rw [hcalls]; simp
  have hnodup : (deliveries.dedup.map fun delivery =>
      observedLogFingerprint sha256 (log.delivered delivery)).Nodup :=
    (List.nodup_dedup deliveries).map_on fun d hd d' hd' heq =>
      fingerprint_delivered_inj hsha hms (List.mem_dedup.mp hd) (List.mem_dedup.mp hd') heq
  have hperm := (List.perm_ext_iff_of_nodup table'.unique hnodup).mpr fun fingerprint =>
    (hlogs fingerprint).trans (by simp only [List.mem_map, List.mem_dedup])
  rw [List.card_toFinset, ← List.length_map ObservedLogRow.fingerprint, hperm.length_eq,
    List.length_map]

end Persist

/-! ## De-duplication -/

section Deduplication

variable (sha256 : List UInt8 → String) (toValue : Value → Except ErrorChain Value)

/-- Two deliveries of a log have one fingerprint, so that the second updates
the row of the first. -/
structure Deduplicates (log : Log) (delivery delivery' : Delivery) : Prop where
  fingerprint : observedLogFingerprint sha256 (log.delivered delivery)
    = observedLogFingerprint sha256 (log.delivered delivery')
  updates : ∀ {table table₁ table₂ : ObservedLogs} {call call' : PersistCall} {id id' : Nat},
    call.log = log.delivered delivery → call'.log = log.delivered delivery' →
    persistObservedLog sha256 toValue (some table) call = .ok (some table₁, some id) →
    persistObservedLog sha256 toValue (some table₁) call' = .ok (some table₂, some id') →
    id' = id ∧ table₂.rows.length = table₁.rows.length

variable {sha256 toValue}

/-- What one fingerprint is good for. -/
theorem updates_of_fingerprint_eq {table table₁ table₂ : ObservedLogs} {call call' : PersistCall}
    {id id' : Nat}
    (h : observedLogFingerprint sha256 call'.log = observedLogFingerprint sha256 call.log)
    (hcall : persistObservedLog sha256 toValue (some table) call = .ok (some table₁, some id))
    (hcall' : persistObservedLog sha256 toValue (some table₁) call' = .ok (some table₂, some id')) :
    id' = id ∧ table₂.rows.length = table₁.rows.length := by
  obtain ⟨logJson, hfirst⟩ := @persistObservedLog_of_accepted sha256 _ table _
    (accepted_of_persistObservedLog hcall)
  obtain ⟨logJson', hsecond⟩ := @persistObservedLog_of_accepted sha256 _ table₁ _
    (accepted_of_persistObservedLog hcall')
  rw [hfirst] at hcall
  cases hcall
  rw [hsecond] at hcall'
  cases hcall'
  obtain ⟨hid, hrows⟩ := @ObservedLogs.upsert_upsert table call.now call'.now
    (observedLogColumns sha256 call.log logJson) (observedLogColumns sha256 call'.log logJson') h
  refine ⟨hid, ?_⟩
  have hlength := congrArg List.length hrows
  simpa only [ObservedLogs.fingerprints, List.length_map] using hlength

/-- **De-duplication.** Two deliveries share a fingerprint and a row exactly
when they agree on the time and the channel. -/
theorem deduplicates_iff {log : Log} {delivery delivery' : Delivery}
    (hsha : Set.InjOn sha256 (deliveredInputs log [delivery, delivery']))
    (hms : delivery.observedAtMs < 2 ^ 64) (hms' : delivery'.observedAtMs < 2 ^ 64) :
    Deduplicates sha256 toValue log delivery delivery'
      ↔ delivery.observedAtMs = delivery'.observedAtMs ∧ delivery.channel = delivery'.channel := by
  constructor
  · intro h
    obtain rfl : delivery = delivery' :=
      fingerprint_delivered_inj hsha (by simpa using ⟨hms, hms'⟩) (by simp) (by simp) h.fingerprint
    exact ⟨rfl, rfl⟩
  · rintro ⟨htime, hchannel⟩
    obtain rfl : delivery = delivery' := Delivery.ext hchannel htime
    refine ⟨rfl, fun hlog hlog' => updates_of_fingerprint_eq ?_⟩
    rw [hlog, hlog']

/-- A log, and two deliveries of it a fifth of a second apart. -/
def resentLog : Log :=
  { metadata :=
      { blockContext := .block 123 none, channel := .ws, observedAtMs := 1700000000000,
        chainId := 8453, txHash := some "0xtx", decodeStatus := .decoded,
        raw := { messageType := .log, payloadSizeBytes := 512, fingerprint := none,
                 subscription := some "0x1" } },
    address := some "0xpool", topics := ["0x1c411e9a"], data := some "0x",
    eventSignature := some "0x1c411e9a", decodedEvent := none, protocol := some .uniswapV2,
    exchange := some .baseSwap, logIndex := some 1, removed := some false }

def firstDelivery : Delivery := ⟨.ws, 1700000000000⟩

def secondDelivery : Delivery := ⟨.ws, 1700000000200⟩

theorem firstDelivery_fingerprint :
    observedLogFingerprint Sha256.hexDigest (resentLog.delivered firstDelivery)
      = "668993a1bf87492a4fc2a3c72df50beca055be4e91a023ab695fc90a27adc179" := by
  simp only [observedLogFingerprint, observedLogInput, toVec_eq]
  decide +kernel

theorem secondDelivery_fingerprint :
    observedLogFingerprint Sha256.hexDigest (resentLog.delivered secondDelivery)
      = "bf0bc67977f7fbfd018de24d9adda92218d2e39bcbfbe6c4b3b118a933e6e2c0" := by
  simp only [observedLogFingerprint, observedLogInput, toVec_eq]
  decide +kernel

theorem fingerprints_ne :
    observedLogFingerprint Sha256.hexDigest (resentLog.delivered firstDelivery)
      ≠ observedLogFingerprint Sha256.hexDigest (resentLog.delivered secondDelivery) := by
  rw [firstDelivery_fingerprint, secondDelivery_fingerprint]
  decide

theorem deliveries_noCollision :
    Set.InjOn Sha256.hexDigest (deliveredInputs resentLog [firstDelivery, secondDelivery]) := by
  rintro _ ⟨d, hd, rfl⟩ _ ⟨d', hd', rfl⟩ h
  rcases List.mem_pair.mp hd with rfl | rfl <;> rcases List.mem_pair.mp hd' with rfl | rfl
  · rfl
  · exact absurd h fingerprints_ne
  · exact absurd h fingerprints_ne.symm
  · rfl

theorem resentLog_twice :
    ¬ Deduplicates Sha256.hexDigest Except.ok resentLog firstDelivery secondDelivery := by
  intro h
  exact absurd ((deduplicates_iff deliveries_noCollision (by decide) (by decide)).mp h).1
    (by decide)

/-- The second delivery is a second row. -/
theorem resentLog_inserted :
    observedLogFingerprint Sha256.hexDigest (resentLog.delivered firstDelivery)
        = "668993a1bf87492a4fc2a3c72df50beca055be4e91a023ab695fc90a27adc179"
      ∧ observedLogFingerprint Sha256.hexDigest (resentLog.delivered secondDelivery)
        = "bf0bc67977f7fbfd018de24d9adda92218d2e39bcbfbe6c4b3b118a933e6e2c0"
      ∧ ∃ table, Run.final (persistNext Sha256.hexDigest Except.ok)
            (some ⟨[], 1, List.nodup_nil⟩)
            [⟨0, .ok (), resentLog.delivered firstDelivery⟩,
              ⟨1, .ok (), resentLog.delivered secondDelivery⟩] = some table
          ∧ table.rows.length = 2 := by
  refine ⟨firstDelivery_fingerprint, secondDelivery_fingerprint, ?_⟩
  refine length_rows_deliveries deliveries_noCollision (by decide) rfl (fun call hcall => ?_) 1
  rcases List.mem_pair.mp hcall with rfl | rfl <;> exact ⟨⟨_, rfl⟩, by decide, rfl⟩

end Deduplication

end BaseEngine
