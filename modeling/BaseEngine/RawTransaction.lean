import BaseEngine.Lib.Abi
import BaseEngine.Lib.Faulting
import BaseEngine.Lib.HexText
import BaseEngine.RawLog

/-!
# Transactions as the node sends them

`crates/ingest/src/raw/transaction.rs`: the selector of a transaction, and
the decoding of the swap calls of the two router generations. The calls are
decoded by the source's Ethereum library (`CallCodec`); thirteen functions
share eight argument lists.

The fields `from` and `to` of the source are `sender` and `target` here, and
a call of a function with one argument `params` is the record of that
argument. The selector is cut from the text of the calldata after eight
bytes, which panics inside a character (`Fault.charBoundary`).
-/

namespace BaseEngine

open Abi Faulting Text Json

/-! ## Calls -/

structure V2ExactInputCall where
  amountIn : Word
  amountOutMin : Word
  path : List EvmAddress
  target : EvmAddress
  deadline : Word

structure V2ExactEthInputCall where
  amountOutMin : Word
  path : List EvmAddress
  target : EvmAddress
  deadline : Word

structure V2ExactOutputCall where
  amountOut : Word
  amountInMax : Word
  path : List EvmAddress
  target : EvmAddress
  deadline : Word

structure V2ExactEthOutputCall where
  amountOut : Word
  path : List EvmAddress
  target : EvmAddress
  deadline : Word

structure ExactInputSingleCall where
  tokenIn : EvmAddress
  tokenOut : EvmAddress
  fee : BitVec 24
  recipient : EvmAddress
  deadline : Word
  amountIn : Word
  amountOutMinimum : Word
  sqrtPriceLimitX96 : BitVec 160

/-- Byte strings have a length of 64 bits. -/
structure ExactInputCall where
  path : List UInt8
  path_lt : path.length < 2 ^ 64
  recipient : EvmAddress
  deadline : Word
  amountIn : Word
  amountOutMinimum : Word

structure ExactOutputSingleCall where
  tokenIn : EvmAddress
  tokenOut : EvmAddress
  fee : BitVec 24
  recipient : EvmAddress
  deadline : Word
  amountOut : Word
  amountInMaximum : Word
  sqrtPriceLimitX96 : BitVec 160

structure ExactOutputCall where
  path : List UInt8
  path_lt : path.length < 2 ^ 64
  recipient : EvmAddress
  deadline : Word
  amountOut : Word
  amountInMaximum : Word

inductive V2ExactInputFunction where
  | swapExactTokensForTokens
  | swapExactTokensForTokensSupportingFeeOnTransferTokens
  | swapExactTokensForETH
  | swapExactTokensForETHSupportingFeeOnTransferTokens
deriving Repr, DecidableEq

inductive V2ExactEthInputFunction where
  | swapExactETHForTokens
  | swapExactETHForTokensSupportingFeeOnTransferTokens
deriving Repr, DecidableEq

inductive V2ExactOutputFunction where
  | swapTokensForExactTokens
  | swapTokensForExactETH
deriving Repr, DecidableEq

/-- A call decoder: calldata, selector included, to the arguments. -/
abbrev CallDecoder (call : Type) := List UInt8 → Option call

structure CallCodec where
  hexDecode : String → Option (List UInt8)
  v2ExactInput : V2ExactInputFunction → CallDecoder V2ExactInputCall
  v2ExactEthInput : V2ExactEthInputFunction → CallDecoder V2ExactEthInputCall
  v2ExactOutput : V2ExactOutputFunction → CallDecoder V2ExactOutputCall
  swapETHForExactTokens : CallDecoder V2ExactEthOutputCall
  exactInputSingle : CallDecoder ExactInputSingleCall
  exactInput : CallDecoder ExactInputCall
  exactOutputSingle : CallDecoder ExactOutputSingleCall
  exactOutput : CallDecoder ExactOutputCall

/-! ## Paths and amounts -/

def parseAmountString (raw : String) : Option Nat :=
  match stripPrefix "0x" raw with
  | some hex => parseUnsigned 16 128 hex
  | none => parseUnsigned 10 128 raw

def decodeV2Path (path : List EvmAddress) : Option (Address × Address) := do
  let first ← path.head?
  let last ← path.getLast?
  return (formatAddress first, formatAddress last)

/-- Tokens of 20 bytes with a fee of 3 bytes between any two. -/
def decodeV3Path (path : List UInt8) (reverse : Bool) : Option (Address × Address) :=
  if path.length < 43 ∨ (path.length - 20) % 23 ≠ 0 then none
  else
    let first := BitVec.ofNat 160 (ofBeBytes (path.take 20))
    let last := BitVec.ofNat 160 (ofBeBytes (path.drop (path.length - 20)))
    if reverse then some (formatAddress last, formatAddress first)
    else some (formatAddress first, formatAddress last)

/-! ## One decoder per argument list -/

section Decoders

variable (codec : CallCodec) (calldata : List UInt8) (router : Option Address)
  (resolution : RegistryMatch)

def decodeV2ExactInput (function : V2ExactInputFunction) : Option DecodedSwap := do
  let call ← codec.v2ExactInput function calldata
  let amountIn ← u256ToU128 call.amountIn
  let amountOutMinimum ← u256ToU128 call.amountOutMin
  let (tokenIn, tokenOut) ← decodeV2Path call.path
  return { pool := none, router, tokenIn, tokenOut, amountIn, amountOut := none,
           amountInMaximum := none, amountOutMinimum, exactInput := true,
           recipient := formatAddress call.target, protocol := resolution.protocol,
           exchange := resolution.exchange }

def decodeV2ExactEthInput (txValue : Option Nat) (function : V2ExactEthInputFunction) :
    Option DecodedSwap := do
  let call ← codec.v2ExactEthInput function calldata
  let amountOutMinimum ← u256ToU128 call.amountOutMin
  let (tokenIn, tokenOut) ← decodeV2Path call.path
  return { pool := none, router, tokenIn, tokenOut, amountIn := txValue, amountOut := none,
           amountInMaximum := none, amountOutMinimum, exactInput := true,
           recipient := formatAddress call.target, protocol := resolution.protocol,
           exchange := resolution.exchange }

def decodeV2ExactOutput (function : V2ExactOutputFunction) : Option DecodedSwap := do
  let call ← codec.v2ExactOutput function calldata
  let amountOut ← u256ToU128 call.amountOut
  let amountInMaximum ← u256ToU128 call.amountInMax
  let (tokenIn, tokenOut) ← decodeV2Path call.path
  return { pool := none, router, tokenIn, tokenOut, amountIn := none, amountOut,
           amountInMaximum, amountOutMinimum := none, exactInput := false,
           recipient := formatAddress call.target, protocol := resolution.protocol,
           exchange := resolution.exchange }

def decodeV2ExactEthOutput (txValue : Option Nat) : Option DecodedSwap := do
  let call ← codec.swapETHForExactTokens calldata
  let amountOut ← u256ToU128 call.amountOut
  let (tokenIn, tokenOut) ← decodeV2Path call.path
  return { pool := none, router, tokenIn, tokenOut, amountIn := none, amountOut,
           amountInMaximum := txValue, amountOutMinimum := none, exactInput := false,
           recipient := formatAddress call.target, protocol := resolution.protocol,
           exchange := resolution.exchange }

def decodeV3ExactInputSingle : Option DecodedSwap := do
  let params ← codec.exactInputSingle calldata
  let amountIn ← u256ToU128 params.amountIn
  let amountOutMinimum ← u256ToU128 params.amountOutMinimum
  return { pool := none, router, tokenIn := formatAddress params.tokenIn,
           tokenOut := formatAddress params.tokenOut, amountIn, amountOut := none,
           amountInMaximum := none, amountOutMinimum, exactInput := true,
           recipient := formatAddress params.recipient, protocol := resolution.protocol,
           exchange := resolution.exchange }

def decodeV3ExactInput : Option DecodedSwap := do
  let params ← codec.exactInput calldata
  let (tokenIn, tokenOut) ← decodeV3Path params.path false
  let amountIn ← u256ToU128 params.amountIn
  let amountOutMinimum ← u256ToU128 params.amountOutMinimum
  return { pool := none, router, tokenIn, tokenOut, amountIn, amountOut := none,
           amountInMaximum := none, amountOutMinimum, exactInput := true,
           recipient := formatAddress params.recipient, protocol := resolution.protocol,
           exchange := resolution.exchange }

def decodeV3ExactOutputSingle : Option DecodedSwap := do
  let params ← codec.exactOutputSingle calldata
  let amountOut ← u256ToU128 params.amountOut
  let amountInMaximum ← u256ToU128 params.amountInMaximum
  return { pool := none, router, tokenIn := formatAddress params.tokenIn,
           tokenOut := formatAddress params.tokenOut, amountIn := none, amountOut,
           amountInMaximum, amountOutMinimum := none, exactInput := false,
           recipient := formatAddress params.recipient, protocol := resolution.protocol,
           exchange := resolution.exchange }

def decodeV3ExactOutput : Option DecodedSwap := do
  let params ← codec.exactOutput calldata
  let (tokenIn, tokenOut) ← decodeV3Path params.path true
  let amountOut ← u256ToU128 params.amountOut
  let amountInMaximum ← u256ToU128 params.amountInMaximum
  return { pool := none, router, tokenIn, tokenOut, amountIn := none, amountOut,
           amountInMaximum, amountOutMinimum := none, exactInput := false,
           recipient := formatAddress params.recipient, protocol := resolution.protocol,
           exchange := resolution.exchange }

end Decoders

/-! ## The transaction message -/

structure RawTransactionMessage where
  txHash : Option TxHash
  sender : Option Address
  target : Option Address
  value : Option String
  input : Option String
  blockHash : Option BlockHash
  blockNumber : Option Nat
deriving Repr, DecidableEq

structure TransactionDecode where
  selector : Option String
  protocol : Option Protocol
  exchange : Option Exchange
  decodedSwap : Option DecodedSwap
deriving Repr, DecidableEq

namespace RawTransactionMessage

def ofObject (object : Entries) : RawTransactionMessage :=
  { txHash := stringField object "hash"
    sender := stringField object "from"
    target := stringField object "to"
    value := stringField object "value"
    input := stringField object "input"
    blockHash := stringField object "blockHash"
    blockNumber := u64Field object "blockNumber" }

def fromValue (value : Value) : Option RawTransactionMessage := value.asObject.map ofObject

def blockContext (self : RawTransactionMessage) : BlockContext :=
  match self.blockNumber with
  | some number => .block number self.blockHash
  | none => .pending

/-- The first eight bytes of the calldata's text, if they are digits. The
slice is taken before the digits are looked at. -/
def selector (self : RawTransactionMessage) : Except Fault (Option String) :=
  match self.input with
  | none => .ok none
  | some input =>
      let input := trim input
      let hex := (stripPrefix "0x" input).getD input
      if byteLength hex < 8 then .ok none
      else
        match takeBytes 8 hex.toList with
        | none => .error .charBoundary
        | some selector =>
            if selector.all isAsciiHexdigit then
              .ok (some ("0x" ++ toAsciiLowercase (String.ofList selector)))
            else .ok none

variable (codec : CallCodec)

def decodeCalldata (input : String) : Option (List UInt8) :=
  codec.hexDecode ((stripPrefix "0x" (trim input)).getD (trim input))

def decodeSwap (self : RawTransactionMessage) (selector : Option String)
    (resolution : RegistryMatch) : Option DecodedSwap := do
  let selector ← selector
  let input ← self.input
  let calldata ← decodeCalldata codec input
  let router := self.target
  let txValue := self.value.bind parseAmountString
  match selector with
  | "0x38ed1739" => decodeV2ExactInput codec calldata router resolution .swapExactTokensForTokens
  | "0x5c11d795" =>
      decodeV2ExactInput codec calldata router resolution
        .swapExactTokensForTokensSupportingFeeOnTransferTokens
  | "0x18cbafe5" => decodeV2ExactInput codec calldata router resolution .swapExactTokensForETH
  | "0x791ac947" =>
      decodeV2ExactInput codec calldata router resolution
        .swapExactTokensForETHSupportingFeeOnTransferTokens
  | "0x7ff36ab5" =>
      decodeV2ExactEthInput codec calldata router resolution txValue .swapExactETHForTokens
  | "0xb6f9de95" =>
      decodeV2ExactEthInput codec calldata router resolution txValue
        .swapExactETHForTokensSupportingFeeOnTransferTokens
  | "0x8803dbee" => decodeV2ExactOutput codec calldata router resolution .swapTokensForExactTokens
  | "0x4a25d94a" => decodeV2ExactOutput codec calldata router resolution .swapTokensForExactETH
  | "0xfb3bdb41" => decodeV2ExactEthOutput codec calldata router resolution txValue
  | "0x414bf389" => decodeV3ExactInputSingle codec calldata router resolution
  | "0xc04b8d59" => decodeV3ExactInput codec calldata router resolution
  | "0xdb3e2198" => decodeV3ExactOutputSingle codec calldata router resolution
  | "0xf28c0498" => decodeV3ExactOutput codec calldata router resolution
  | _ => none

def decode (self : RawTransactionMessage) : Except Fault TransactionDecode := do
  let selector ← self.selector
  let resolution := resolveTransaction selector self.target
  return { selector, protocol := resolution.protocol, exchange := resolution.exchange,
           decodedSwap := self.decodeSwap codec selector resolution }

end RawTransactionMessage

end BaseEngine
