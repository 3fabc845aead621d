import Mathlib.Data.BitVec
import BaseEngine.Lib.Abi
import BaseEngine.Lib.HexText
import BaseEngine.RawLog

/-!
# Decoding the events of the pools

`RawLogMessage::decode` of `crates/ingest/src/raw/log.rs` compares the
signature of a log, as text, with a constant for each event, and then has
the topics and the data decoded, topic 0 included. Five of the constants are
written out in the source, and two of those are not the Keccak hash of their
event.

`decodedEvent_iff`: a log that carries an event is decoded to that event
exactly when it has no signature of its own and the event is neither a mint
nor a burn of a V2 pool, or when it has the constant of its event.
-/

namespace BaseEngine

open Abi Text

/-! ## The events -/

def v2SwapLayout : EventLayout V2SwapEvent where
  signature := "Swap(address,uint256,uint256,uint256,uint256,address)"
  indexed e := [ofUint e.sender, ofUint e.target]
  unindexed e := [e.amount0In, e.amount1In, e.amount0Out, e.amount1Out]
  rebuild
    | [sender, target], [amount0In, amount1In, amount0Out, amount1Out] => do
        let sender ← toUint 160 sender
        let target ← toUint 160 target
        return { sender, amount0In, amount1In, amount0Out, amount1Out, target }
    | _, _ => none
  rebuild_eq e := by simp [toUint_ofUint]

def syncLayout : EventLayout SyncEvent where
  signature := "Sync(uint112,uint112)"
  indexed _ := []
  unindexed e := [ofUint e.reserve0, ofUint e.reserve1]
  rebuild
    | [], [reserve0, reserve1] => do
        let reserve0 ← toUint 112 reserve0
        let reserve1 ← toUint 112 reserve1
        return { reserve0, reserve1 }
    | _, _ => none
  rebuild_eq e := by simp [toUint_ofUint]

def v2MintLayout : EventLayout V2MintEvent where
  signature := "Mint(address,uint256,uint256)"
  indexed e := [ofUint e.sender]
  unindexed e := [e.amount0, e.amount1]
  rebuild
    | [sender], [amount0, amount1] => do
        let sender ← toUint 160 sender
        return { sender, amount0, amount1 }
    | _, _ => none
  rebuild_eq e := by simp [toUint_ofUint]

def v2BurnLayout : EventLayout V2BurnEvent where
  signature := "Burn(address,uint256,uint256,address)"
  indexed e := [ofUint e.sender, ofUint e.target]
  unindexed e := [e.amount0, e.amount1]
  rebuild
    | [sender, target], [amount0, amount1] => do
        let sender ← toUint 160 sender
        let target ← toUint 160 target
        return { sender, amount0, amount1, target }
    | _, _ => none
  rebuild_eq e := by simp [toUint_ofUint]

def v3SwapLayout : EventLayout V3SwapEvent where
  signature := "Swap(address,address,int256,int256,uint160,uint128,int24)"
  indexed e := [ofUint e.sender, ofUint e.recipient]
  unindexed e :=
    [e.amount0, e.amount1, ofUint e.sqrtPriceX96, ofUint e.liquidity, ofInt e.tick]
  rebuild
    | [sender, recipient], [amount0, amount1, sqrtPriceX96, liquidity, tick] => do
        let sender ← toUint 160 sender
        let recipient ← toUint 160 recipient
        let sqrtPriceX96 ← toUint 160 sqrtPriceX96
        let liquidity ← toUint 128 liquidity
        let tick ← toInt 24 tick
        return { sender, recipient, amount0, amount1, sqrtPriceX96, liquidity, tick }
    | _, _ => none
  rebuild_eq e := by simp [toUint_ofUint, toInt_ofInt]

def v3MintLayout : EventLayout V3MintEvent where
  signature := "Mint(address,address,int24,int24,uint128,uint256,uint256)"
  indexed e := [ofUint e.owner, ofInt e.tickLower, ofInt e.tickUpper]
  unindexed e := [ofUint e.sender, ofUint e.amount, e.amount0, e.amount1]
  rebuild
    | [owner, tickLower, tickUpper], [sender, amount, amount0, amount1] => do
        let owner ← toUint 160 owner
        let tickLower ← toInt 24 tickLower
        let tickUpper ← toInt 24 tickUpper
        let sender ← toUint 160 sender
        let amount ← toUint 128 amount
        return { sender, owner, tickLower, tickUpper, amount, amount0, amount1 }
    | _, _ => none
  rebuild_eq e := by simp [toUint_ofUint, toInt_ofInt]

def v3BurnLayout : EventLayout V3BurnEvent where
  signature := "Burn(address,int24,int24,uint128,uint256,uint256)"
  indexed e := [ofUint e.owner, ofInt e.tickLower, ofInt e.tickUpper]
  unindexed e := [ofUint e.amount, e.amount0, e.amount1]
  rebuild
    | [owner, tickLower, tickUpper], [amount, amount0, amount1] => do
        let owner ← toUint 160 owner
        let tickLower ← toInt 24 tickLower
        let tickUpper ← toInt 24 tickUpper
        let amount ← toUint 128 amount
        return { owner, tickLower, tickUpper, amount, amount0, amount1 }
    | _, _ => none
  rebuild_eq e := by simp [toUint_ofUint, toInt_ofInt]

/-- An event of a pool. -/
inductive PoolEvent where
  | v2Swap (event : V2SwapEvent)
  | v2Sync (event : SyncEvent)
  | v2Mint (event : V2MintEvent)
  | v2Burn (event : V2BurnEvent)
  | v3Swap (event : V3SwapEvent)
  | v3Mint (event : V3MintEvent)
  | v3Burn (event : V3BurnEvent)

namespace PoolEvent

def kind : PoolEvent → DecodedLogKind
  | .v2Swap _ => .v2Swap
  | .v2Sync _ => .v2Sync
  | .v2Mint _ => .v2Mint
  | .v2Burn _ => .v2Burn
  | .v3Swap _ => .v3Swap
  | .v3Mint _ => .v3Mint
  | .v3Burn _ => .v3Burn

/-- The Keccak hash of the event's signature. -/
def topic0 : PoolEvent → Word
  | .v2Swap _ => v2SwapLayout.topic0
  | .v2Sync _ => syncLayout.topic0
  | .v2Mint _ => v2MintLayout.topic0
  | .v2Burn _ => v2BurnLayout.topic0
  | .v3Swap _ => v3SwapLayout.topic0
  | .v3Mint _ => v3MintLayout.topic0
  | .v3Burn _ => v3BurnLayout.topic0

def topics : PoolEvent → List Word
  | .v2Swap event => v2SwapLayout.topics event
  | .v2Sync event => syncLayout.topics event
  | .v2Mint event => v2MintLayout.topics event
  | .v2Burn event => v2BurnLayout.topics event
  | .v3Swap event => v3SwapLayout.topics event
  | .v3Mint event => v3MintLayout.topics event
  | .v3Burn event => v3BurnLayout.topics event

theorem head?_topics (event : PoolEvent) : event.topics.head? = some event.topic0 := by
  cases event <;> rfl

def data : PoolEvent → List UInt8
  | .v2Swap event => v2SwapLayout.data event
  | .v2Sync event => syncLayout.data event
  | .v2Mint event => v2MintLayout.data event
  | .v2Burn event => v2BurnLayout.data event
  | .v3Swap event => v3SwapLayout.data event
  | .v3Mint event => v3MintLayout.data event
  | .v3Burn event => v3BurnLayout.data event

/-- The amounts of a V2 swap fit the decoded event. -/
def Fits : PoolEvent → Prop
  | .v2Swap event => event.amount0In.toNat < 2 ^ 128 ∧ event.amount1In.toNat < 2 ^ 128
      ∧ event.amount0Out.toNat < 2 ^ 128 ∧ event.amount1Out.toNat < 2 ^ 128
  | _ => True

/-- What an event is decoded to: its own values, with the pool and the
classification of the log. -/
def decoded (event : PoolEvent) (pool : Option Address) (resolution : RegistryMatch) :
    DecodedLogEvent :=
  let blank := DecodedLogEvent.ofKind event.kind pool resolution
  match event with
  | .v2Swap event =>
      { blank with
        sender := formatAddress event.sender, recipient := formatAddress event.target,
        amount0In := event.amount0In.toNat, amount1In := event.amount1In.toNat,
        amount0Out := event.amount0Out.toNat, amount1Out := event.amount1Out.toNat }
  | .v2Sync event =>
      { blank with reserve0 := event.reserve0.toNat, reserve1 := event.reserve1.toNat }
  | .v2Mint event =>
      { blank with
        sender := formatAddress event.sender, amount0 := toString event.amount0.toNat,
        amount1 := toString event.amount1.toNat }
  | .v2Burn event =>
      { blank with
        sender := formatAddress event.sender, recipient := formatAddress event.target,
        amount0 := toString event.amount0.toNat, amount1 := toString event.amount1.toNat }
  | .v3Swap event =>
      { blank with
        sender := formatAddress event.sender, recipient := formatAddress event.recipient,
        amount0 := toString event.amount0.toInt, amount1 := toString event.amount1.toInt,
        liquidity := event.liquidity.toNat, sqrtPriceX96 := toString event.sqrtPriceX96.toNat,
        tick := event.tick.toInt }
  | .v3Mint event =>
      { blank with
        sender := formatAddress event.sender, owner := formatAddress event.owner,
        amount0 := toString event.amount0.toNat, amount1 := toString event.amount1.toNat,
        liquidity := event.amount.toNat, tickLower := event.tickLower.toInt,
        tickUpper := event.tickUpper.toInt }
  | .v3Burn event =>
      { blank with
        owner := formatAddress event.owner, amount0 := toString event.amount0.toNat,
        amount1 := toString event.amount1.toNat, liquidity := event.amount.toNat,
        tickLower := event.tickLower.toInt, tickUpper := event.tickUpper.toInt }

end PoolEvent

/-! ## The codec and the message -/

/-- A topic as text. -/
def topicText (topic : Word) : String := "0x" ++ lowerHex 64 topic.toNat

def Lossless {event : Type} (decoder : RawLogDecoder event) (layout : EventLayout event) : Prop :=
  ∀ e, decoder (layout.topics e) (layout.data e) = some e

/-- The Ethereum library reads hexadecimal text, decodes what the contract
ABI encodes, and hashes the signatures of the two events that the source
leaves to it. -/
structure EventCodec.Faithful (codec : EventCodec) : Prop where
  parseB256 : ∀ topic, codec.parseB256 (topicText topic) = some topic
  hexDecode : ∀ bytes, codec.hexDecode (lowerHexBytes bytes) = some bytes
  v2Swap : Lossless codec.v2Swap v2SwapLayout
  sync : Lossless codec.sync syncLayout
  v2Mint : Lossless codec.v2Mint v2MintLayout
  v2Burn : Lossless codec.v2Burn v2BurnLayout
  v3Swap : Lossless codec.v3Swap v3SwapLayout
  v3Mint : Lossless codec.v3Mint v3MintLayout
  v3Burn : Lossless codec.v3Burn v3BurnLayout
  v3MintSignature : codec.v3MintSignature = topicText v3MintLayout.topic0
  v3BurnSignature : codec.v3BurnSignature = topicText v3BurnLayout.topic0

/-- The topics and the data of the log are the encoding of the event, in
lower-case hexadecimal. -/
structure RawLogMessage.Carries (message : RawLogMessage) (event : PoolEvent) : Prop where
  topics : message.topics = event.topics.map topicText
  data : message.data = some ("0x" ++ lowerHexBytes event.data)

/-- The text that the branch of a kind compares with. -/
def EventCodec.branchSignature (codec : EventCodec) : DecodedLogKind → String
  | .v2Swap => v2SwapSignature
  | .v2Sync => syncSignature
  | .v2Mint => v2MintSignature
  | .v2Burn => v2BurnSignature
  | .v3Swap => v3SwapSignature
  | .v3Mint => codec.v3MintSignature
  | .v3Burn => codec.v3BurnSignature

/-- One value for each kind, in the order of the branches. -/
def DecodedLogKind.pick {α : Type} (v2Swap v2Sync v2Mint v2Burn v3Swap v3Mint v3Burn : α) :
    DecodedLogKind → α
  | .v2Swap => v2Swap
  | .v2Sync => v2Sync
  | .v2Mint => v2Mint
  | .v2Burn => v2Burn
  | .v3Swap => v3Swap
  | .v3Mint => v3Mint
  | .v3Burn => v3Burn

/-! ## Signatures -/

/-- The hashes of the seven signatures, as text. Those of the V2 mint and
burn are not the constants of the source. -/
theorem topicText_topic0 :
    topicText v2SwapLayout.topic0 = v2SwapSignature ∧ topicText syncLayout.topic0 = syncSignature
      ∧ topicText v2MintLayout.topic0
        = "0x4c209b5fc8ad50758f13e2e1088ba56a560dff690a1c6fef26394f4c03821c4f"
      ∧ topicText v2BurnLayout.topic0
        = "0xdccd412f0b1252819cb1fd330b93224ca42612892bb3f4f789976e6d81936496"
      ∧ topicText v3SwapLayout.topic0 = v3SwapSignature
      ∧ topicText v3MintLayout.topic0
        = "0x7a53080ba414158be7ec69b987b5fb7d07dee101fe85488f0853ae16239d0bde"
      ∧ topicText v3BurnLayout.topic0
        = "0x0c396cd989a39f4459b5fa1aed6a9a8dcdbc45908acfd67e028cd568da98982c" := by
  refine ⟨?_, ?_, ?_, ?_, ?_, ?_, ?_⟩ <;> decide +kernel

/-- The texts of the branches, with the hashes that the source leaves to the
library. -/
def branchTexts : DecodedLogKind → String
  | .v2Swap => v2SwapSignature
  | .v2Sync => syncSignature
  | .v2Mint => v2MintSignature
  | .v2Burn => v2BurnSignature
  | .v3Swap => v3SwapSignature
  | .v3Mint => "0x7a53080ba414158be7ec69b987b5fb7d07dee101fe85488f0853ae16239d0bde"
  | .v3Burn => "0x0c396cd989a39f4459b5fa1aed6a9a8dcdbc45908acfd67e028cd568da98982c"

namespace EventCodec.Faithful

variable {codec : EventCodec} (hcodec : codec.Faithful)

include hcodec

theorem branchSignature_eq (kind : DecodedLogKind) :
    codec.branchSignature kind = branchTexts kind := by
  obtain ⟨-, -, -, -, -, hmint, hburn⟩ := topicText_topic0
  cases kind with
  | v3Mint => exact hcodec.v3MintSignature.trans hmint
  | v3Burn => exact hcodec.v3BurnSignature.trans hburn
  | _ => rfl

/-- Every branch has a text of its own. -/
theorem branchSignature_injective : Function.Injective codec.branchSignature := by
  intro kind kind' h
  rw [hcodec.branchSignature_eq, hcodec.branchSignature_eq] at h
  revert h
  cases kind <;> cases kind' <;> decide

/-- Comparing with the texts in the order of the branches finds the branch of
the kind. -/
theorem branches_eq_pick {α : Type} (kind : DecodedLogKind) {a b c d e f g other : α} :
    (if codec.branchSignature kind = codec.branchSignature .v2Swap then a
      else if codec.branchSignature kind = codec.branchSignature .v2Sync then b
      else if codec.branchSignature kind = codec.branchSignature .v2Mint then c
      else if codec.branchSignature kind = codec.branchSignature .v2Burn then d
      else if codec.branchSignature kind = codec.branchSignature .v3Swap then e
      else if codec.branchSignature kind = codec.branchSignature .v3Mint then f
      else if codec.branchSignature kind = codec.branchSignature .v3Burn then g
      else other) = kind.pick a b c d e f g := by
  have hinj := hcodec.branchSignature_injective
  cases kind <;> simp only [hinj.eq_iff, reduceCtorEq, if_true, if_false, DecodedLogKind.pick]

/-- The hash of a V2 mint or burn is the text of no branch. -/
theorem topicText_topic0_ne {event : PoolEvent} (h : event.kind = .v2Mint ∨ event.kind = .v2Burn)
    (kind : DecodedLogKind) : topicText event.topic0 ≠ codec.branchSignature kind := by
  obtain ⟨-, -, hmint, hburn, -, -, -⟩ := topicText_topic0
  rw [hcodec.branchSignature_eq]
  cases event with
  | v2Mint _ =>
      show topicText v2MintLayout.topic0 ≠ _
      rw [hmint]
      cases kind <;> decide
  | v2Burn _ =>
      show topicText v2BurnLayout.topic0 ≠ _
      rw [hburn]
      cases kind <;> decide
  | _ => simp [PoolEvent.kind] at h

/-- The hash of an event is the text of its branch, but for the V2 mint and
burn. -/
theorem topicText_topic0_iff (event : PoolEvent) :
    topicText event.topic0 = codec.branchSignature event.kind
      ↔ event.kind ≠ .v2Mint ∧ event.kind ≠ .v2Burn := by
  obtain ⟨hswap, hsync, -, -, hswap', -, -⟩ := topicText_topic0
  cases event with
  | v2Swap _ => exact iff_of_true hswap ⟨nofun, nofun⟩
  | v2Sync _ => exact iff_of_true hsync ⟨nofun, nofun⟩
  | v2Mint _ => exact iff_of_false (hcodec.topicText_topic0_ne (.inl rfl) _) fun h => h.1 rfl
  | v2Burn _ => exact iff_of_false (hcodec.topicText_topic0_ne (.inr rfl) _) fun h => h.2 rfl
  | v3Swap _ => exact iff_of_true hswap' ⟨nofun, nofun⟩
  | v3Mint _ => exact iff_of_true hcodec.v3MintSignature.symm ⟨nofun, nofun⟩
  | v3Burn _ => exact iff_of_true hcodec.v3BurnSignature.symm ⟨nofun, nofun⟩

/-! ## The decoder -/

theorem decodeTopics_map (topics : List Word) :
    RawLogMessage.decodeTopics codec (topics.map topicText) = some topics := by
  unfold RawLogMessage.decodeTopics
  induction topics with
  | nil => rfl
  | cons topic topics ih => simp [hcodec.parseB256, ih]

theorem decodeData_eq (bytes : List UInt8) :
    RawLogMessage.decodeData codec ("0x" ++ lowerHexBytes bytes) = some bytes := by
  rw [RawLogMessage.decodeData, stripPrefix_append, Option.getD_some, hcodec.hexDecode]

end EventCodec.Faithful

namespace RawLogMessage

variable {codec : EventCodec} {message : RawLogMessage}

/-- A decoded event comes from the branch of its kind. -/
theorem branchSignature_of_decode {signature : String} {resolution : RegistryMatch}
    {decoded : DecodedLogEvent}
    (h : message.decodeStructuredEvent codec (some signature) resolution = some decoded) :
    signature = codec.branchSignature decoded.kind := by
  obtain ⟨topics, -, h⟩ := Option.bind_eq_some_iff.mp h
  obtain ⟨data, -, h⟩ := Option.bind_eq_some_iff.mp h
  dsimp only at h
  split_ifs at h with h₁ h₂ h₃ h₄ h₅ h₆ h₇
  · obtain ⟨event, -, h⟩ := Option.bind_eq_some_iff.mp h
    obtain ⟨amount0In, -, h⟩ := Option.bind_eq_some_iff.mp h
    obtain ⟨amount1In, -, h⟩ := Option.bind_eq_some_iff.mp h
    obtain ⟨amount0Out, -, h⟩ := Option.bind_eq_some_iff.mp h
    obtain ⟨amount1Out, -, h⟩ := Option.bind_eq_some_iff.mp h
    cases h
    exact h₁
  · obtain ⟨event, -, h⟩ := Option.bind_eq_some_iff.mp h
    cases h
    exact h₂
  · obtain ⟨event, -, h⟩ := Option.bind_eq_some_iff.mp h
    cases h
    exact h₃
  · obtain ⟨event, -, h⟩ := Option.bind_eq_some_iff.mp h
    cases h
    exact h₄
  · obtain ⟨event, -, h⟩ := Option.bind_eq_some_iff.mp h
    cases h
    exact h₅
  · obtain ⟨event, -, h⟩ := Option.bind_eq_some_iff.mp h
    cases h
    exact h₆
  · obtain ⟨event, -, h⟩ := Option.bind_eq_some_iff.mp h
    cases h
    exact h₇

/-- The branch of an event's kind decodes it. -/
theorem decodeStructuredEvent_of_branch (hcodec : codec.Faithful) {event : PoolEvent}
    (hfits : event.Fits) (hcarries : message.Carries event) (resolution : RegistryMatch) :
    message.decodeStructuredEvent codec (some (codec.branchSignature event.kind)) resolution
      = some (event.decoded message.address resolution) := by
  unfold decodeStructuredEvent
  rw [hcarries.topics, hcarries.data, Option.getD_some, hcodec.decodeTopics_map,
    hcodec.decodeData_eq]
  simp only [Option.bind_eq_bind, Option.bind_some]
  refine (hcodec.branches_eq_pick event.kind).trans ?_
  cases event with
  | v2Swap event =>
      show (codec.v2Swap (v2SwapLayout.topics event) (v2SwapLayout.data event)).bind _ = _
      obtain ⟨h₀, h₁, h₂, h₃⟩ := hfits
      rw [hcodec.v2Swap event, Option.bind_some, u256ToU128_of_lt h₀, u256ToU128_of_lt h₁,
        u256ToU128_of_lt h₂, u256ToU128_of_lt h₃]
      rfl
  | v2Sync event =>
      show (codec.sync (syncLayout.topics event) (syncLayout.data event)).bind _ = _
      rw [hcodec.sync event]
      rfl
  | v2Mint event =>
      show (codec.v2Mint (v2MintLayout.topics event) (v2MintLayout.data event)).bind _ = _
      rw [hcodec.v2Mint event]
      rfl
  | v2Burn event =>
      show (codec.v2Burn (v2BurnLayout.topics event) (v2BurnLayout.data event)).bind _ = _
      rw [hcodec.v2Burn event]
      rfl
  | v3Swap event =>
      show (codec.v3Swap (v3SwapLayout.topics event) (v3SwapLayout.data event)).bind _ = _
      rw [hcodec.v3Swap event]
      rfl
  | v3Mint event =>
      show (codec.v3Mint (v3MintLayout.topics event) (v3MintLayout.data event)).bind _ = _
      rw [hcodec.v3Mint event]
      rfl
  | v3Burn event =>
      show (codec.v3Burn (v3BurnLayout.topics event) (v3BurnLayout.data event)).bind _ = _
      rw [hcodec.v3Burn event]
      rfl

end RawLogMessage

/-- A log that carries an event is decoded to it exactly when its signature
is the text of the event's branch. -/
theorem decodedEvent_iff_signature {codec : EventCodec} (hcodec : codec.Faithful)
    {event : PoolEvent} (hfits : event.Fits) {message : RawLogMessage}
    (hcarries : message.Carries event) :
    (message.decode codec).decodedEvent
        = some (event.decoded message.address (resolveLog message.signature message.address))
      ↔ message.signature = some (codec.branchSignature event.kind) := by
  show message.decodeStructuredEvent codec message.signature _ = _ ↔ _
  cases hsignature : message.signature with
  | none => exact iff_of_false nofun nofun
  | some signature =>
      constructor
      · intro h
        have hbranch := RawLogMessage.branchSignature_of_decode h
        rw [hbranch]
        cases event <;> rfl
      · intro h
        rw [h]
        exact RawLogMessage.decodeStructuredEvent_of_branch hcodec hfits hcarries _

/-- **Decoding undoes encoding.** A log that carries an event of a pool is
decoded to exactly that event when, and only when, it has no signature of its
own and the event is neither a mint nor a burn of a V2 pool, or when its own
signature is the text of the event's branch. -/
theorem decodedEvent_iff {codec : EventCodec} (hcodec : codec.Faithful) {event : PoolEvent}
    (hfits : event.Fits) {message : RawLogMessage} (hcarries : message.Carries event) :
    (message.decode codec).decodedEvent
        = some (event.decoded message.address (resolveLog message.signature message.address))
      ↔ (message.eventSignature = none ∧ event.kind ≠ .v2Mint ∧ event.kind ≠ .v2Burn)
        ∨ message.eventSignature = some (codec.branchSignature event.kind) := by
  have hhead : message.topics.head? = some (topicText event.topic0) := by
    rw [hcarries.topics, List.head?_map, event.head?_topics, Option.map_some]
  rw [decodedEvent_iff_signature hcodec hfits hcarries, RawLogMessage.signature, hhead,
    ← hcodec.topicText_topic0_iff event]
  cases message.eventSignature with
  | none => simp
  | some own => simp

/-! ## A mint of a V2 pool -/

/-- The codec that reads the layouts. -/
def layoutCodec : EventCodec :=
  { parseB256 := fun text => (fixedHex 64 text).map (BitVec.ofNat 256)
    hexDecode := fun text => hexBytes text.toList
    v2Swap := v2SwapLayout.decode, sync := syncLayout.decode, v2Mint := v2MintLayout.decode,
    v2Burn := v2BurnLayout.decode, v3Swap := v3SwapLayout.decode, v3Mint := v3MintLayout.decode,
    v3Burn := v3BurnLayout.decode
    v3MintSignature := topicText v3MintLayout.topic0
    v3BurnSignature := topicText v3BurnLayout.topic0 }

theorem lossless_decode {event : Type} (layout : EventLayout event) {decoder : RawLogDecoder event}
    (h : decoder = layout.decode) : Lossless decoder layout := by
  rw [h]
  exact layout.decode_encode

theorem layoutCodec_faithful : layoutCodec.Faithful where
  parseB256 := by
    intro topic
    have hlt : topic.toNat < 16 ^ 64 := Nat.lt_of_lt_of_eq topic.isLt (by decide)
    have hfixed : fixedHex 64 (topicText topic) = some topic.toNat :=
      fixedHex_of_mem_hexSpellings hlt (by simp [topicText, hexSpellings])
    simp [layoutCodec, hfixed]
  hexDecode bytes := hexBytes_lowerHexBytes bytes
  v2Swap := lossless_decode _ (by simp only [layoutCodec])
  sync := lossless_decode _ (by simp only [layoutCodec])
  v2Mint := lossless_decode _ (by simp only [layoutCodec])
  v2Burn := lossless_decode _ (by simp only [layoutCodec])
  v3Swap := lossless_decode _ (by simp only [layoutCodec])
  v3Mint := lossless_decode _ (by simp only [layoutCodec])
  v3Burn := lossless_decode _ (by simp only [layoutCodec])
  v3MintSignature := by simp only [layoutCodec]
  v3BurnSignature := by simp only [layoutCodec]

/-- The log of an event as a node sends it. -/
def PoolEvent.message (event : PoolEvent) : RawLogMessage :=
  { address := some "0xpool", topics := event.topics.map topicText,
    data := some ("0x" ++ lowerHexBytes event.data), txHash := none, blockHash := none,
    blockNumber := none, eventSignature := none, protocol := none, exchange := none,
    logIndex := none, removed := none }

theorem PoolEvent.carries_message (event : PoolEvent) : event.message.Carries event :=
  ⟨rfl, rfl⟩

def sampleSwap : PoolEvent :=
  .v3Swap
    { sender := 0x1111, recipient := 0x2222, amount0 := -5, amount1 := 7,
      sqrtPriceX96 := 2 ^ 96, liquidity := 1000, tick := -1 }

/-- A swap of a V3 pool comes back with its signed values. -/
theorem sampleSwap_decoded :
    ∃ resolution, (sampleSwap.message.decode layoutCodec).decodedEvent
      = some (sampleSwap.decoded (some "0xpool") resolution) := by
  have hfits : sampleSwap.Fits := trivial
  exact ⟨_, (decodedEvent_iff layoutCodec_faithful hfits sampleSwap.carries_message).mpr
    (Or.inl ⟨rfl, nofun, nofun⟩)⟩

def sampleMint : PoolEvent := .v2Mint { sender := 0x1111, amount0 := 5, amount1 := 7 }

/-- The log of a mint is not decoded. -/
theorem sampleMint_not_decoded :
    sampleMint.Fits ∧ sampleMint.message.Carries sampleMint
      ∧ (sampleMint.message.decode layoutCodec).decodedEvent = none := by
  refine ⟨trivial, sampleMint.carries_message, Option.eq_none_iff_forall_ne_some.mpr ?_⟩
  intro decoded h
  have hmint : sampleMint.kind = .v2Mint ∨ sampleMint.kind = .v2Burn := .inl rfl
  have hbranch : topicText sampleMint.topic0 = layoutCodec.branchSignature decoded.kind :=
    RawLogMessage.branchSignature_of_decode h
  exact layoutCodec_faithful.topicText_topic0_ne hmint decoded.kind hbranch

end BaseEngine
