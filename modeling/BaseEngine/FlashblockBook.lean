import BaseEngine.Flashblocks
import BaseEngine.Lib.HexText
import BaseEngine.PoolBook

/-!
# Flashblock logs in the pool book

The stream and the book together: what `PoolBook::apply_log` makes of the
log event `dispatch` sends for a receipt log.

The book identifies a log by its transaction hash and its log index. The
stream adds a missing transaction hash to the object of a receipt log, and
nothing else, so that a `Sync` is applied exactly when the object itself
brings its index (`flashblockSync_applied_iff`).
-/

namespace BaseEngine

open Text Json PoolBook

namespace Flashblocks

variable {u256FromDecimal : String → Option Nat} {book : PoolBook} {log : Log}
  {env : Environment}

/-! ## One receipt log -/

/-- What the object of a receipt log must bring for its event to have an
identity the book accepts, and not to be a removal. -/
def Identified (object : Entries) : Prop :=
  (u64Field object "logIndex").isSome = true
    ∧ (∀ value ∈ object.lookup "transactionHash", value.asStr.isSome = true)
    ∧ (boolField object "removed").getD false = false

instance (object : Entries) : Decidable (Identified object) :=
  inferInstanceAs (Decidable (_ ∧ _ ∧ _))

/-- Only the transaction hash of an object is touched. -/
theorem lookup_enrich {key : String} (owned : TxHash × Entries)
    (hkey : key ≠ "transactionHash") : (enrich owned).lookup key = owned.2.lookup key :=
  lookup_entryOrInsert_of_ne _ _ hkey

/-- The fields of an event by which the book identifies a log. -/
theorem receiptEvent_identity (i : Nat) (owned : TxHash × Entries) :
    (receiptEvent env i owned).metadata.txHash
        = ((owned.2.lookup "transactionHash").getD (.string owned.1)).asStr
      ∧ (receiptEvent env i owned).logIndex = u64Field owned.2 "logIndex"
      ∧ (receiptEvent env i owned).removed = boolField owned.2 "removed" := by
  refine ⟨?_, ?_, ?_⟩
  · show (List.lookup _ (enrich owned)).bind Value.asStr = _
    rw [enrich, lookup_entryOrInsert_self, Option.bind_some]
  · show u64Field (enrich owned) "logIndex" = _
    rw [u64Field, lookup_enrich owned (by decide), u64Field]
  · show boolField (enrich owned) "removed" = _
    rw [boolField, lookup_enrich owned (by decide), boolField]

/-- The log has an identity and is no removal. -/
def Applicable (log : Log) : Prop :=
  (∃ id, appliedLogKey log = .ok id) ∧ log.removed.getD false = false

theorem exists_appliedLogKey_iff :
    (∃ id, appliedLogKey log = .ok id)
      ↔ log.metadata.txHash.isSome = true ∧ log.logIndex.isSome = true := by
  simp only [appliedLogKey_eq_ok_iff, Option.isSome_iff_exists]
  constructor
  · rintro ⟨id, htx, hidx⟩
    exact ⟨⟨_, htx⟩, ⟨_, hidx⟩⟩
  · rintro ⟨⟨txHash, htx⟩, ⟨logIndex, hidx⟩⟩
    exact ⟨⟨txHash, logIndex⟩, htx, hidx⟩

theorem identified_iff (i : Nat) (owned : TxHash × Entries) :
    Identified owned.2 ↔ Applicable (receiptEvent env i owned) := by
  obtain ⟨htx, hidx, hremoved⟩ := @receiptEvent_identity env i owned
  have hstr : (∀ v ∈ owned.2.lookup "transactionHash", v.asStr.isSome = true)
      ↔ (receiptEvent env i owned).metadata.txHash.isSome = true := by
    rw [htx]
    cases owned.2.lookup "transactionHash" with
    | none => simp [Value.asStr]
    | some v => simp
  unfold Applicable Identified
  rw [exists_appliedLogKey_iff, ← hstr, hidx, hremoved]
  tauto

/-- The enriched object decodes as the receipt's own does. -/
theorem receiptEvent_decoded (i : Nat) (owned : TxHash × Entries) :
    (receiptEvent env i owned).address = stringField owned.2 "address"
      ∧ (receiptEvent env i owned).decodedEvent
        = ((RawLogMessage.ofObject owned.2).decode env.codec).decodedEvent := by
  constructor
  · show stringField (enrich owned) "address" = _
    rw [stringField, lookup_enrich owned (by decide), stringField]
  · show ((RawLogMessage.ofObject (enrich owned)).decode env.codec).decodedEvent = _
    simp only [RawLogMessage.decode, RawLogMessage.decodeStructuredEvent,
      RawLogMessage.signature, RawLogMessage.ofObject, stringField,
      lookup_enrich owned (show "address" ≠ "transactionHash" by decide),
      lookup_enrich owned (show "data" ≠ "transactionHash" by decide),
      lookup_enrich owned (show "topics" ≠ "transactionHash" by decide),
      lookup_enrich owned (show "eventSignature" ≠ "transactionHash" by decide)]

/-- **Which receipt logs the book applies.** Take a receipt log that decodes
as a `Sync` with non-zero reserves, at the address of a tracked V2 pool. The
event `dispatch` sends for it is applied exactly when the log object has a
log index, no transaction hash of another type than a string, and no
`removed` mark. -/
theorem flashblockSync_applied_iff {payload : FlashblockPayload} {rawSize i : Nat}
    {owned : TxHash × Entries} {decoded : DecodedLogEvent} {address : String}
    {pool : V2PoolState} (howned : (ownedLogs payload.receipts)[i]? = some owned)
    (hsent : (dispatch env payload rawSize).1[i]? = some (.log log))
    (hdec : ((RawLogMessage.ofObject owned.2).decode env.codec).decodedEvent = some decoded)
    (hkind : decoded.kind = .v2Sync) (hpos : V2PoolState.ReservesPositive decoded)
    (haddr : stringField owned.2 "address" = some address)
    (hpool : book.pools.lookup (normalizeAddressKey address) = some (.v2 pool))
    (hmatch : eqIgnoreAsciiCase address pool.address = true) :
    (applyLog u256FromDecimal book log).2 = .ok .applied ↔ Identified owned.2 := by
  have hlog := dispatch_log howned hsent
  rw [← (receiptEvent_decoded i owned).1, ← hlog] at haddr
  rw [← (receiptEvent_decoded i owned).2, ← hlog] at hdec
  rw [identified_iff i owned, ← hlog]
  have hsync := isSync_eq_true_iff.mpr ⟨decoded, hdec, hkind⟩
  have hstep := bookStep_applyLog u256FromDecimal book log
  generalize applyLog u256FromDecimal book log = result at hstep
  cases hstep with
  | ignored _ hkeep =>
      have hother := (hkeep address pool haddr hpool hsync).2
      rw [hmatch] at hother
      cases hother
  | applied _ _ _ _ _ hid hremoved _ _ _ => exact ⟨fun _ => ⟨⟨_, hid⟩, hremoved⟩, fun _ => rfl⟩
  | reverted _ _ _ _ _ hremoved _ =>
      exact ⟨fun h => (by cases h), fun h => absurd h.2 (by simp [hremoved])⟩
  | swapped _ _ _ hdec' hkind' _ =>
      obtain rfl := Option.some.inj (hdec.symm.trans hdec')
      rw [hkind] at hkind'
      cases hkind'
  | failed _ _ hfail =>
      refine ⟨fun h => (by cases h), fun h => absurd ?_ hfail⟩
      obtain ⟨⟨id, hid⟩, hremoved⟩ := h
      refine (logApplicable_iff haddr hpool).mpr ((v2Applicable_sync hdec hkind hid).mpr ?_)
      rw [if_neg (by simp [hremoved])]
      exact fun _ => hpos

/-! ## A sample payload -/

/-- Topics and data of a `Sync` as the ABI lays them out: the signature
alone, and the reserves in a word each. Other events are not decoded. -/
def sampleCodec : EventCodec :=
  let word (bytes : List UInt8) : Nat := bytes.foldl (fun n byte => 256 * n + byte.toNat) 0
  let parseB256 (text : String) : Option Word :=
    (ofDigits 16 0 (((stripPrefix "0x" text).getD text).toList)).map (BitVec.ofNat 256)
  { parseB256
    hexDecode := fun text => hexBytes text.toList
    v2Swap := fun _ _ => none
    sync := fun topics data =>
      if some topics = (parseB256 syncSignature).map ([·]) ∧ data.length = 64
          ∧ word (data.take 32) < 2 ^ 112 ∧ word (data.drop 32) < 2 ^ 112 then
        some ⟨BitVec.ofNat 112 (word (data.take 32)), BitVec.ofNat 112 (word (data.drop 32))⟩
      else none
    v2Mint := fun _ _ => none
    v2Burn := fun _ _ => none
    v3Swap := fun _ _ => none
    v3Mint := fun _ _ => none
    v3Burn := fun _ _ => none
    v3MintSignature := "0x7a53080ba414158be7ec69b987b5fb7d07dee101fe85488f0853ae16239d0bde"
    v3BurnSignature := "0x0c396cd989a39f4459b5fa1aed6a9a8dcdbc45908acfd67e028cd568da98982c" }

def sampleEnv : Environment :=
  { chainId := 8453, codec := sampleCodec, clock := fun n => n, isOpen := fun _ => true }

/-- The object of a `Sync` of `0xpool`, with the reserves in two hexadecimal
digits and the other fields given. -/
def sampleSync (reserve0 reserve1 : String) (fields : Entries) : Entries :=
  let word (low : String) := String.ofList (List.replicate 62 '0') ++ low
  [("address", .string "0xpool"), ("data", .string ("0x" ++ word reserve0 ++ word reserve1))]
    ++ fields ++ [("topics", .array [.string syncSignature])]

/-- The receipt of a transaction with one log. -/
def sampleReceipt (log : Entries) : Value :=
  .object [("Eip1559", .object [("logs", .array [.object log])])]

def samplePayload (receipts : List (String × Value)) : FlashblockPayload :=
  { payloadId := some "0xabcd", index := 2, base := none, diff := none,
    metadata := some { blockNumber := some 16, receipts := OrderedMap.ofList receipts } }

/-- A payload with one log sends its event first. -/
theorem samplePayload_sent (txHash : TxHash) (object : Entries) :
    (ownedLogs (samplePayload [(txHash, sampleReceipt object)]).receipts)[0]?
        = some (txHash, object)
      ∧ (dispatch sampleEnv (samplePayload [(txHash, sampleReceipt object)]) 0).1[0]?
        = some (.log (receiptEvent sampleEnv 0 (txHash, object))) := by
  refine ⟨rfl, ?_⟩
  rw [dispatch_of_open fun _ => rfl]
  rfl

def sampleDecoded (reserve0 reserve1 : Nat) : DecodedLogEvent :=
  { DecodedLogEvent.ofKind .v2Sync (some "0xpool") ⟨some .uniswapV2, none⟩ with
    reserve0 := some reserve0, reserve1 := some reserve1 }

def sampleBook : PoolBook := new.insertV2Pool V2PoolState.samplePool

/-- The log index plays no part in decoding. -/
theorem sampleSync_decode (codec : EventCodec) (reserve0 reserve1 : String) (index : Value) :
    ((RawLogMessage.ofObject (sampleSync reserve0 reserve1 [("logIndex", index)])).decode
        codec).decodedEvent
      = ((RawLogMessage.ofObject (sampleSync reserve0 reserve1 [])).decode codec).decodedEvent :=
  rfl

/-- What is read off the object of the sample. -/
def sampleMessage (reserve0 reserve1 : String) : RawLogMessage :=
  { address := some "0xpool", topics := [syncSignature],
    data := some ("0x" ++ (String.ofList (List.replicate 62 '0') ++ reserve0)
      ++ (String.ofList (List.replicate 62 '0') ++ reserve1)),
    txHash := none, blockHash := none, blockNumber := none, eventSignature := none,
    protocol := none, exchange := none, logIndex := none, removed := none }

theorem ofObject_sampleSync (reserve0 reserve1 : String) :
    RawLogMessage.ofObject (sampleSync reserve0 reserve1 []) = sampleMessage reserve0 reserve1 :=
  rfl

/-- The bytes of two words that each end in one byte. -/
theorem sampleMessage_bytes {reserve0 reserve1 : String} {byte0 byte1 : UInt8}
    (h0 : hexBytes reserve0.toList = some [byte0]) (h1 : hexBytes reserve1.toList = some [byte1]) :
    RawLogMessage.decodeData sampleCodec ((sampleMessage reserve0 reserve1).data.getD "0x")
      = some (List.replicate 31 0 ++ [byte0] ++ (List.replicate 31 0 ++ [byte1])) := by
  have hzeros : hexBytes (List.replicate 62 '0') = some (List.replicate 31 0) := by decide
  rw [sampleMessage, Option.getD_some, RawLogMessage.decodeData, String.append_assoc,
    stripPrefix_append, Option.getD_some]
  show hexBytes (String.toList _) = _
  rw [String.toList_append, String.toList_append, String.toList_append, String.toList_ofList]
  exact hexBytes_append (hexBytes_append hzeros h0) (hexBytes_append hzeros h1)

theorem byte_fits_reserve (byte : UInt8) : byte.toNat < 2 ^ 112 :=
  Nat.lt_trans byte.toNat_lt (by decide)

theorem sampleCodec_sync {topic : Word}
    (htopic : sampleCodec.parseB256 syncSignature = some topic) (byte0 byte1 : UInt8) :
    sampleCodec.sync [topic] (List.replicate 31 0 ++ [byte0] ++ (List.replicate 31 0 ++ [byte1]))
      = some ⟨BitVec.ofNat 112 byte0.toNat, BitVec.ofNat 112 byte1.toNat⟩ := by
  have hword : ∀ byte : UInt8, (List.replicate 31 0 ++ [byte]).foldl
      (fun n (byte : UInt8) => 256 * n + byte.toNat) 0 = byte.toNat := by
    intro byte
    rw [List.foldl_append]
    exact Nat.zero_add _
  have htake : (List.replicate 31 0 ++ [byte0] ++ (List.replicate 31 0 ++ [byte1])).take 32
      = List.replicate 31 0 ++ [byte0] := List.take_left' (by simp)
  have hdrop : (List.replicate 31 0 ++ [byte0] ++ (List.replicate 31 0 ++ [byte1])).drop 32
      = List.replicate 31 0 ++ [byte1] := List.drop_left' (by simp)
  unfold sampleCodec at htopic ⊢
  dsimp only at htopic ⊢
  rw [if_pos, htake, hdrop, hword, hword]
  refine ⟨?_, by simp, ?_, ?_⟩
  · rw [htopic]
    rfl
  · rw [htake, hword]
    exact byte_fits_reserve byte0
  · rw [hdrop, hword]
    exact byte_fits_reserve byte1

/-- A `Sync` with the reserves in one byte each is decoded to them. -/
theorem sampleSync_decoded_of_bytes {reserve0 reserve1 : String} {byte0 byte1 : UInt8}
    (h0 : hexBytes reserve0.toList = some [byte0]) (h1 : hexBytes reserve1.toList = some [byte1]) :
    ((RawLogMessage.ofObject (sampleSync reserve0 reserve1 [])).decode
        sampleEnv.codec).decodedEvent
      = some (sampleDecoded byte0.toNat byte1.toNat) := by
  have hresolve : resolveLog (some syncSignature) (some "0xpool") = ⟨some .uniswapV2, none⟩ := by
    decide +kernel
  obtain ⟨topic, htopic⟩ : ∃ topic, sampleCodec.parseB256 syncSignature = some topic :=
    Option.isSome_iff_exists.mp (by decide)
  have htopics : RawLogMessage.decodeTopics sampleCodec
      (sampleMessage reserve0 reserve1).topics = some [topic] := by
    show [syncSignature].mapM sampleCodec.parseB256 = _
    simp [htopic]
  rw [ofObject_sampleSync]
  show RawLogMessage.decodeStructuredEvent sampleCodec (sampleMessage reserve0 reserve1)
    (some syncSignature) (resolveLog (some syncSignature) (some "0xpool")) = _
  rw [hresolve]
  unfold RawLogMessage.decodeStructuredEvent
  simp only [htopics, sampleMessage_bytes h0 h1, Option.bind_eq_bind, Option.bind_some]
  rw [if_neg (by decide), if_pos trivial, sampleCodec_sync htopic, Option.bind_some,
    BitVec.toNat_ofNat, BitVec.toNat_ofNat, Nat.mod_eq_of_lt (byte_fits_reserve byte0),
    Nat.mod_eq_of_lt (byte_fits_reserve byte1)]
  rfl

theorem sampleSync_decoded :
    ((RawLogMessage.ofObject (sampleSync "2a" "54" [])).decode sampleEnv.codec).decodedEvent
      = some (sampleDecoded 42 84) :=
  @sampleSync_decoded_of_bytes "2a" "54" 42 84 (by decide) (by decide)

theorem sampleBook_lookup : sampleBook.pools.lookup (normalizeAddressKey "0xpool")
    = some (.v2 V2PoolState.samplePool) := by
  decide

theorem applyLog_of_no_identity {address : String} {pool : V2PoolState}
    {decoded : DecodedLogEvent} {e : MarketError} (haddr : log.address = some address)
    (hpool : book.pools.lookup (normalizeAddressKey address) = some (.v2 pool))
    (hdec : log.decodedEvent = some decoded) (hkind : decoded.kind = .v2Sync)
    (hid : appliedLogKey log = .error e) :
    applyLog u256FromDecimal book log
      = (book.removePool (normalizeAddressKey address), .error e) := by
  rw [applyLog_of_v2 haddr hpool]
  simp only [applyV2Log, hdec, hkind, hid]

/-- The receipt log of the unit test, a `Sync` without a log index: its
event is sent, and the book refuses it. -/
theorem syncWithoutLogIndex_not_applied :
    ∃ log, (dispatch sampleEnv (samplePayload
          [("0xtx1", sampleReceipt (sampleSync "2a" "54" []))]) 0).1[0]? = some (.log log)
      ∧ log.decodedEvent = some (sampleDecoded 42 84) ∧ log.address = some "0xpool"
      ∧ sampleBook.pools.lookup (normalizeAddressKey "0xpool") = some (.v2 V2PoolState.samplePool)
      ∧ (applyLog (fun _ => none) sampleBook log).2 = .error .missingLogIdentity := by
  have hdec : (receiptEvent sampleEnv 0 ("0xtx1", sampleSync "2a" "54" [])).decodedEvent
      = some (sampleDecoded 42 84) := (receiptEvent_decoded 0 _).2.trans sampleSync_decoded
  have haddr : (receiptEvent sampleEnv 0 ("0xtx1", sampleSync "2a" "54" [])).address
      = some "0xpool" := (receiptEvent_decoded 0 _).1
  refine ⟨_, (samplePayload_sent _ _).2, hdec, haddr, sampleBook_lookup, ?_⟩
  have hkey : appliedLogKey (receiptEvent sampleEnv 0 ("0xtx1", sampleSync "2a" "54" []))
      = .error .missingLogIdentity := rfl
  rw [applyLog_of_no_identity haddr sampleBook_lookup hdec rfl hkey]

/-- With its index, the same log is applied. -/
theorem indexedSync_applied :
    (applyLog (fun _ => none) sampleBook (receiptEvent sampleEnv 0
      ("0xtx1", sampleSync "2a" "54" [("logIndex", .string "0x3")]))).2 = .ok .applied := by
  obtain ⟨howned, hsent⟩ := samplePayload_sent "0xtx1"
    (sampleSync "2a" "54" [("logIndex", .string "0x3")])
  have hdec := (sampleSync_decode sampleEnv.codec "2a" "54" (.string "0x3")).trans
    sampleSync_decoded
  exact (flashblockSync_applied_iff howned hsent hdec rfl
    ⟨42, 84, rfl, rfl, by decide, by decide⟩ rfl sampleBook_lookup (by decide)).mpr (by decide)

end Flashblocks

end BaseEngine
