import BaseEngine.SelectorExtraction

/-!
# Decoding swap calls

A call of one of the thirteen supported router functions, in a transaction
that carries its calldata as text, is decoded to a swap in the direction of
the trade: the exact amount and the limit of the call, or the value of the
transaction where it pays or receives ETH on the exact or limited side.

`decode_swapCall` also says which packed paths are turned down: those whose
length is not that of one token and one or more hops.
-/

namespace BaseEngine

open Abi Text

/-! ## The functions -/

def V2ExactInputFunction.signature : V2ExactInputFunction → String
  | .swapExactTokensForTokens =>
      "swapExactTokensForTokens(uint256,uint256,address[],address,uint256)"
  | .swapExactTokensForTokensSupportingFeeOnTransferTokens =>
      "swapExactTokensForTokensSupportingFeeOnTransferTokens"
        ++ "(uint256,uint256,address[],address,uint256)"
  | .swapExactTokensForETH =>
      "swapExactTokensForETH(uint256,uint256,address[],address,uint256)"
  | .swapExactTokensForETHSupportingFeeOnTransferTokens =>
      "swapExactTokensForETHSupportingFeeOnTransferTokens"
        ++ "(uint256,uint256,address[],address,uint256)"

def V2ExactEthInputFunction.signature : V2ExactEthInputFunction → String
  | .swapExactETHForTokens => "swapExactETHForTokens(uint256,address[],address,uint256)"
  | .swapExactETHForTokensSupportingFeeOnTransferTokens =>
      "swapExactETHForTokensSupportingFeeOnTransferTokens"
        ++ "(uint256,address[],address,uint256)"

def V2ExactOutputFunction.signature : V2ExactOutputFunction → String
  | .swapTokensForExactTokens =>
      "swapTokensForExactTokens(uint256,uint256,address[],address,uint256)"
  | .swapTokensForExactETH =>
      "swapTokensForExactETH(uint256,uint256,address[],address,uint256)"

/-- The words after a list's length are its elements. -/
def decodePath (count : Word) (words : List Word) : Option (List EvmAddress) :=
  if count = BitVec.ofNat 256 words.length then words.mapM (toUint 160) else none

theorem decodePath_eq (path : List EvmAddress) :
    decodePath (BitVec.ofNat 256 path.length) (path.map ofUint) = some path := by
  rw [decodePath, List.length_map, if_pos rfl, mapM_toUint_map_ofUint (by decide)]

/-- Two amounts, then the path by its offset of five words. -/
def v2ExactInputLayout (function : V2ExactInputFunction) : CallLayout V2ExactInputCall where
  signature := function.signature
  encodeArgs call := encodeWords (call.amountIn :: call.amountOutMin :: 160 :: ofUint call.target
    :: call.deadline :: BitVec.ofNat 256 call.path.length :: call.path.map ofUint)
  decodeArgs data := do
    match ← decodeWords data with
    | amountIn :: amountOutMin :: offset :: target :: deadline :: count :: words =>
        if offset = 160 then
          let target ← toUint 160 target
          let path ← decodePath count words
          return { amountIn, amountOutMin, path, target, deadline }
        else none
    | _ => none
  decodeArgs_eq call := by simp [decodeWords_encodeWords, toUint_ofUint, decodePath_eq]

/-- One amount, then the path by its offset of four words. -/
def v2ExactEthInputLayout (function : V2ExactEthInputFunction) :
    CallLayout V2ExactEthInputCall where
  signature := function.signature
  encodeArgs call := encodeWords (call.amountOutMin :: 128 :: ofUint call.target :: call.deadline
    :: BitVec.ofNat 256 call.path.length :: call.path.map ofUint)
  decodeArgs data := do
    match ← decodeWords data with
    | amountOutMin :: offset :: target :: deadline :: count :: words =>
        if offset = 128 then
          let target ← toUint 160 target
          let path ← decodePath count words
          return { amountOutMin, path, target, deadline }
        else none
    | _ => none
  decodeArgs_eq call := by simp [decodeWords_encodeWords, toUint_ofUint, decodePath_eq]

def v2ExactOutputLayout (function : V2ExactOutputFunction) : CallLayout V2ExactOutputCall where
  signature := function.signature
  encodeArgs call := encodeWords (call.amountOut :: call.amountInMax :: 160 :: ofUint call.target
    :: call.deadline :: BitVec.ofNat 256 call.path.length :: call.path.map ofUint)
  decodeArgs data := do
    match ← decodeWords data with
    | amountOut :: amountInMax :: offset :: target :: deadline :: count :: words =>
        if offset = 160 then
          let target ← toUint 160 target
          let path ← decodePath count words
          return { amountOut, amountInMax, path, target, deadline }
        else none
    | _ => none
  decodeArgs_eq call := by simp [decodeWords_encodeWords, toUint_ofUint, decodePath_eq]

def swapETHForExactTokensLayout : CallLayout V2ExactEthOutputCall where
  signature := "swapETHForExactTokens(uint256,address[],address,uint256)"
  encodeArgs call := encodeWords (call.amountOut :: 128 :: ofUint call.target :: call.deadline
    :: BitVec.ofNat 256 call.path.length :: call.path.map ofUint)
  decodeArgs data := do
    match ← decodeWords data with
    | amountOut :: offset :: target :: deadline :: count :: words =>
        if offset = 128 then
          let target ← toUint 160 target
          let path ← decodePath count words
          return { amountOut, path, target, deadline }
        else none
    | _ => none
  decodeArgs_eq call := by simp [decodeWords_encodeWords, toUint_ofUint, decodePath_eq]

def exactInputSingleLayout : CallLayout ExactInputSingleCall where
  signature :=
    "exactInputSingle((address,address,uint24,address,uint256,uint256,uint256,uint160))"
  encodeArgs params := encodeWords
    [ofUint params.tokenIn, ofUint params.tokenOut, ofUint params.fee, ofUint params.recipient,
      params.deadline, params.amountIn, params.amountOutMinimum, ofUint params.sqrtPriceLimitX96]
  decodeArgs data := do
    match ← decodeWords data with
    | [tokenIn, tokenOut, fee, recipient, deadline, amountIn, amountOutMinimum, limit] =>
        let tokenIn ← toUint 160 tokenIn
        let tokenOut ← toUint 160 tokenOut
        let fee ← toUint 24 fee
        let recipient ← toUint 160 recipient
        let sqrtPriceLimitX96 ← toUint 160 limit
        return { tokenIn, tokenOut, fee, recipient, deadline, amountIn, amountOutMinimum,
                 sqrtPriceLimitX96 }
    | _ => none
  decodeArgs_eq params := by simp [decodeWords_encodeWords, toUint_ofUint]

def exactOutputSingleLayout : CallLayout ExactOutputSingleCall where
  signature :=
    "exactOutputSingle((address,address,uint24,address,uint256,uint256,uint256,uint160))"
  encodeArgs params := encodeWords
    [ofUint params.tokenIn, ofUint params.tokenOut, ofUint params.fee, ofUint params.recipient,
      params.deadline, params.amountOut, params.amountInMaximum, ofUint params.sqrtPriceLimitX96]
  decodeArgs data := do
    match ← decodeWords data with
    | [tokenIn, tokenOut, fee, recipient, deadline, amountOut, amountInMaximum, limit] =>
        let tokenIn ← toUint 160 tokenIn
        let tokenOut ← toUint 160 tokenOut
        let fee ← toUint 24 fee
        let recipient ← toUint 160 recipient
        let sqrtPriceLimitX96 ← toUint 160 limit
        return { tokenIn, tokenOut, fee, recipient, deadline, amountOut, amountInMaximum,
                 sqrtPriceLimitX96 }
    | _ => none
  decodeArgs_eq params := by simp [decodeWords_encodeWords, toUint_ofUint]

/-- A tuple of a byte string and four words, by its offset: the head of five
words, the length of the string, and its bytes in whole words. -/
def encodePathParams (path : List UInt8) (recipient : EvmAddress)
    (deadline first second : Word) : List UInt8 :=
  encodeWords [32, 160, ofUint recipient, deadline, first, second,
    BitVec.ofNat 256 path.length] ++ padBytes path

def decodePathParams (data : List UInt8) :
    Option (List UInt8 × EvmAddress × Word × Word × Word) := do
  match ← decodeWords (data.take 224) with
  | [outer, offset, recipient, deadline, first, second, count] =>
      let path := (data.drop 224).take count.toNat
      if outer = 32 ∧ offset = 160 ∧ data.drop 224 = padBytes path then
        let recipient ← toUint 160 recipient
        return (path, recipient, deadline, first, second)
      else none
  | _ => none

theorem decodePathParams_eq {path : List UInt8} (hpath : path.length < 2 ^ 64)
    (recipient : EvmAddress) (deadline first second : Word) :
    decodePathParams (encodePathParams path recipient deadline first second)
      = some (path, recipient, deadline, first, second) := by
  have hhead : ∀ words : List Word, words.length = 7 → (encodeWords words).length = 224 := by
    intro words hwords
    rw [length_encodeWords, hwords]
  have htake : (padBytes path).take (BitVec.ofNat 256 path.length).toNat = path := by
    rw [BitVec.toNat_ofNat, Nat.mod_eq_of_lt (by omega)]
    exact List.take_left
  unfold decodePathParams encodePathParams
  rw [List.take_left' (hhead _ rfl), List.drop_left' (hhead _ rfl), decodeWords_encodeWords]
  simp only [Option.bind_eq_bind, Option.bind_some, htake, and_self, if_true]
  rw [toUint_ofUint (by decide)]
  rfl

def exactInputLayout : CallLayout ExactInputCall where
  signature := "exactInput((bytes,address,uint256,uint256,uint256))"
  encodeArgs params := encodePathParams params.path params.recipient params.deadline
    params.amountIn params.amountOutMinimum
  decodeArgs data := do
    let (path, recipient, deadline, amountIn, amountOutMinimum) ← decodePathParams data
    if path_lt : path.length < 2 ^ 64 then
      return { path, path_lt, recipient, deadline, amountIn, amountOutMinimum }
    else none
  decodeArgs_eq params := by
    rw [decodePathParams_eq params.path_lt]
    exact dif_pos params.path_lt

def exactOutputLayout : CallLayout ExactOutputCall where
  signature := "exactOutput((bytes,address,uint256,uint256,uint256))"
  encodeArgs params := encodePathParams params.path params.recipient params.deadline
    params.amountOut params.amountInMaximum
  decodeArgs data := do
    let (path, recipient, deadline, amountOut, amountInMaximum) ← decodePathParams data
    if path_lt : path.length < 2 ^ 64 then
      return { path, path_lt, recipient, deadline, amountOut, amountInMaximum }
    else none
  decodeArgs_eq params := by
    rw [decodePathParams_eq params.path_lt]
    exact dif_pos params.path_lt

/-! ## Calls and what they trade -/

/-- A call of a supported function. -/
inductive SwapCall where
  | v2ExactInput (function : V2ExactInputFunction) (call : V2ExactInputCall)
  | v2ExactEthInput (function : V2ExactEthInputFunction) (call : V2ExactEthInputCall)
  | v2ExactOutput (function : V2ExactOutputFunction) (call : V2ExactOutputCall)
  | swapETHForExactTokens (call : V2ExactEthOutputCall)
  | exactInputSingle (params : ExactInputSingleCall)
  | exactInput (params : ExactInputCall)
  | exactOutputSingle (params : ExactOutputSingleCall)
  | exactOutput (params : ExactOutputCall)

/-- A trade through V3 pools: a token, and for every hop the fee of the pool
and the token after it. -/
structure Route where
  start : EvmAddress
  hops : List (BitVec 24 × EvmAddress)

namespace Route

def finishFrom (start : EvmAddress) : List (BitVec 24 × EvmAddress) → EvmAddress
  | [] => start
  | hop :: hops => finishFrom hop.2 hops

/-- The token the route ends in. -/
def finish (route : Route) : EvmAddress := finishFrom route.start route.hops

def packHop (hop : BitVec 24 × EvmAddress) : List UInt8 :=
  toBeBytes 3 hop.1.toNat ++ toBeBytes 20 hop.2.toNat

/-- The bytes of a path. -/
def pack (route : Route) : List UInt8 :=
  toBeBytes 20 route.start.toNat ++ route.hops.flatMap packHop

def reverseOnto (start : EvmAddress) :
    List (BitVec 24 × EvmAddress) → List (BitVec 24 × EvmAddress) → Route
  | [], done => ⟨start, done⟩
  | hop :: hops, done => reverseOnto hop.2 hops ((hop.1, start) :: done)

/-- The same pools in the other direction. -/
def reverse (route : Route) : Route := reverseOnto route.start route.hops []

end Route

namespace SwapCall

def calldata : SwapCall → List UInt8
  | .v2ExactInput function call => (v2ExactInputLayout function).encode call
  | .v2ExactEthInput function call => (v2ExactEthInputLayout function).encode call
  | .v2ExactOutput function call => (v2ExactOutputLayout function).encode call
  | .swapETHForExactTokens call => swapETHForExactTokensLayout.encode call
  | .exactInputSingle params => exactInputSingleLayout.encode params
  | .exactInput params => exactInputLayout.encode params
  | .exactOutputSingle params => exactOutputSingleLayout.encode params
  | .exactOutput params => exactOutputLayout.encode params

/-- The tokens a call trades, in the direction of the trade: the ends of its
path, which `exactOutput` packs backwards. -/
def Trades (tokenIn tokenOut : EvmAddress) : SwapCall → Prop
  | .v2ExactInput _ call => call.path.head? = some tokenIn ∧ call.path.getLast? = some tokenOut
  | .v2ExactEthInput _ call => call.path.head? = some tokenIn ∧ call.path.getLast? = some tokenOut
  | .v2ExactOutput _ call => call.path.head? = some tokenIn ∧ call.path.getLast? = some tokenOut
  | .swapETHForExactTokens call =>
      call.path.head? = some tokenIn ∧ call.path.getLast? = some tokenOut
  | .exactInputSingle params => params.tokenIn = tokenIn ∧ params.tokenOut = tokenOut
  | .exactInput params => ∃ route : Route, route.hops ≠ [] ∧ params.path = route.pack
      ∧ route.start = tokenIn ∧ route.finish = tokenOut
  | .exactOutputSingle params => params.tokenIn = tokenIn ∧ params.tokenOut = tokenOut
  | .exactOutput params => ∃ route : Route, route.hops ≠ [] ∧ params.path = route.reverse.pack
      ∧ route.start = tokenIn ∧ route.finish = tokenOut

def isExactInput : SwapCall → Bool
  | .v2ExactInput _ _ | .v2ExactEthInput _ _ | .exactInputSingle _ | .exactInput _ => true
  | .v2ExactOutput _ _ | .swapETHForExactTokens _ | .exactOutputSingle _ | .exactOutput _ => false

/-- The input of an exact input, and the output of an exact output. -/
def exactAmount (value : Nat) : SwapCall → Nat
  | .v2ExactInput _ call => call.amountIn.toNat
  | .v2ExactEthInput _ _ => value
  | .v2ExactOutput _ call => call.amountOut.toNat
  | .swapETHForExactTokens call => call.amountOut.toNat
  | .exactInputSingle params => params.amountIn.toNat
  | .exactInput params => params.amountIn.toNat
  | .exactOutputSingle params => params.amountOut.toNat
  | .exactOutput params => params.amountOut.toNat

/-- The least output of an exact input, and the most input of an exact
output. -/
def limitAmount (value : Nat) : SwapCall → Nat
  | .v2ExactInput _ call => call.amountOutMin.toNat
  | .v2ExactEthInput _ call => call.amountOutMin.toNat
  | .v2ExactOutput _ call => call.amountInMax.toNat
  | .swapETHForExactTokens _ => value
  | .exactInputSingle params => params.amountOutMinimum.toNat
  | .exactInput params => params.amountOutMinimum.toNat
  | .exactOutputSingle params => params.amountInMaximum.toNat
  | .exactOutput params => params.amountInMaximum.toNat

/-- The value of the transaction is one of the amounts. -/
def paysEth : SwapCall → Bool
  | .v2ExactEthInput _ _ | .swapETHForExactTokens _ => true
  | _ => false

def recipient : SwapCall → EvmAddress
  | .v2ExactInput _ call => call.target
  | .v2ExactEthInput _ call => call.target
  | .v2ExactOutput _ call => call.target
  | .swapETHForExactTokens call => call.target
  | .exactInputSingle params => params.recipient
  | .exactInput params => params.recipient
  | .exactOutputSingle params => params.recipient
  | .exactOutput params => params.recipient

/-- The packed path of a call through several V3 pools. -/
def packedPath : SwapCall → Option (List UInt8)
  | .exactInput params => some params.path
  | .exactOutput params => some params.path
  | _ => none

/-- What a call is decoded to. -/
def decoded (call : SwapCall) (value : Nat) (tokenIn tokenOut : EvmAddress)
    (router : Option Address) (resolution : RegistryMatch) : DecodedSwap :=
  let exact := call.exactAmount value
  let limit := call.limitAmount value
  { pool := none, router, tokenIn := formatAddress tokenIn, tokenOut := formatAddress tokenOut,
    amountIn := if call.isExactInput then some exact else none,
    amountOut := if call.isExactInput then none else some exact,
    amountInMaximum := if call.isExactInput then none else some limit,
    amountOutMinimum := if call.isExactInput then some limit else none,
    exactInput := call.isExactInput, recipient := formatAddress call.recipient,
    protocol := resolution.protocol, exchange := resolution.exchange }

end SwapCall

/-! ## The codec and the message -/

/-- The Ethereum library reads hexadecimal text in either case and decodes
what the contract ABI encodes. -/
structure CallCodec.Faithful (codec : CallCodec) : Prop where
  hexDecode : ∀ text bytes, Spells text bytes → codec.hexDecode text = some bytes
  v2ExactInput : ∀ function call,
    codec.v2ExactInput function ((v2ExactInputLayout function).encode call) = some call
  v2ExactEthInput : ∀ function call,
    codec.v2ExactEthInput function ((v2ExactEthInputLayout function).encode call) = some call
  v2ExactOutput : ∀ function call,
    codec.v2ExactOutput function ((v2ExactOutputLayout function).encode call) = some call
  swapETHForExactTokens : ∀ call,
    codec.swapETHForExactTokens (swapETHForExactTokensLayout.encode call) = some call
  exactInputSingle : ∀ params,
    codec.exactInputSingle (exactInputSingleLayout.encode params) = some params
  exactInput : ∀ params, codec.exactInput (exactInputLayout.encode params) = some params
  exactOutputSingle : ∀ params,
    codec.exactOutputSingle (exactOutputSingleLayout.encode params) = some params
  exactOutput : ∀ params, codec.exactOutput (exactOutputLayout.encode params) = some params

/-- The numeral of a number, in hexadecimal or in decimal. -/
def Numeral (raw : String) (n : Nat) : Prop :=
  raw = "0x" ++ String.ofList (Nat.toDigits 16 n) ∨ raw = toString n

theorem parseAmountString_of_numeral {raw : String} {n : Nat} (h : Numeral raw n)
    (hn : n < 2 ^ 128) : parseAmountString raw = some n := by
  unfold parseAmountString
  rcases h with rfl | rfl
  · rw [stripPrefix_append]
    exact parseUnsigned_toDigits (by decide) (by decide) hn
  · have hdigits : toString n = String.ofList (Nat.toDigits 10 n) :=
      Nat.toString_eq_ofList_toDigits
    have hstrip : stripPrefix "0x" (toString n) = none := by
      apply @stripPrefix_of_digits 10 _ (by decide)
      intro c hc
      rw [hdigits, String.toList_ofList] at hc
      exact isSome_digitIn_of_mem (ofDigits_toDigits (by decide) (by decide) n) hc
    rw [hstrip, hdigits]
    exact parseUnsigned_toDigits (by decide) (by decide) hn

namespace RawTransactionMessage

/-- The input of the transaction is the calldata of the call, in digits of
either case, with or without `0x`. -/
def Carries (message : RawTransactionMessage) (call : SwapCall) : Prop :=
  ∃ input digits, message.input = some input ∧ Spells digits call.calldata
    ∧ (input = "0x" ++ digits ∨ input = digits)

/-- The value of the transaction is the numeral of the number. -/
def Pays (message : RawTransactionMessage) (value : Nat) : Prop :=
  ∃ raw, message.value = some raw ∧ Numeral raw value

/-- The selector of a transaction is spelled by its first four bytes. -/
theorem selector_eq {message : RawTransactionMessage} {input digits : String}
    {bytes : List UInt8} (hinput : message.input = some input) (hspells : Spells digits bytes)
    (hdigits : input = "0x" ++ digits ∨ input = digits) (hlength : 4 ≤ bytes.length) :
    message.selector = .ok (some ("0x" ++ lowerHexBytes (bytes.take 4))) := by
  have hcount := hspells.length
  refine (selector_eq_some_iff hinput).mpr ⟨digits.toList.take 8, ?_, by rw [← hspells.take 4]⟩
  rw [calldataText, hspells.strip_eq hdigits]
  refine ⟨List.take_prefix .., List.length_take_of_le (by omega), ?_⟩
  intro c hc
  exact hspells.isSome_digitIn (List.mem_of_mem_take hc)

end RawTransactionMessage

/-! ## Selectors -/

/-- The texts that the source compares the selector of a function with. -/
def V2ExactInputFunction.selectorText : V2ExactInputFunction → String
  | .swapExactTokensForTokens => "0x38ed1739"
  | .swapExactTokensForTokensSupportingFeeOnTransferTokens => "0x5c11d795"
  | .swapExactTokensForETH => "0x18cbafe5"
  | .swapExactTokensForETHSupportingFeeOnTransferTokens => "0x791ac947"

def V2ExactEthInputFunction.selectorText : V2ExactEthInputFunction → String
  | .swapExactETHForTokens => "0x7ff36ab5"
  | .swapExactETHForTokensSupportingFeeOnTransferTokens => "0xb6f9de95"

def V2ExactOutputFunction.selectorText : V2ExactOutputFunction → String
  | .swapTokensForExactTokens => "0x8803dbee"
  | .swapTokensForExactETH => "0x4a25d94a"

def SwapCall.selectorText : SwapCall → String
  | .v2ExactInput function _ => function.selectorText
  | .v2ExactEthInput function _ => function.selectorText
  | .v2ExactOutput function _ => function.selectorText
  | .swapETHForExactTokens _ => "0xfb3bdb41"
  | .exactInputSingle _ => "0x414bf389"
  | .exactInput _ => "0xc04b8d59"
  | .exactOutputSingle _ => "0xdb3e2198"
  | .exactOutput _ => "0xf28c0498"

def selectorOf {call : Type} (layout : CallLayout call) : String :=
  "0x" ++ lowerHexBytes layout.selector

theorem selectorOf_v2ExactInput (function : V2ExactInputFunction) :
    selectorOf (v2ExactInputLayout function) = function.selectorText := by
  cases function <;> decide +kernel

theorem selectorOf_v2ExactEthInput (function : V2ExactEthInputFunction) :
    selectorOf (v2ExactEthInputLayout function) = function.selectorText := by
  cases function <;> decide +kernel

theorem selectorOf_v2ExactOutput (function : V2ExactOutputFunction) :
    selectorOf (v2ExactOutputLayout function) = function.selectorText := by
  cases function <;> decide +kernel

theorem selectorOf_others :
    selectorOf swapETHForExactTokensLayout = "0xfb3bdb41"
      ∧ selectorOf exactInputSingleLayout = "0x414bf389"
      ∧ selectorOf exactInputLayout = "0xc04b8d59"
      ∧ selectorOf exactOutputSingleLayout = "0xdb3e2198"
      ∧ selectorOf exactOutputLayout = "0xf28c0498" := by
  refine ⟨?_, ?_, ?_, ?_, ?_⟩ <;> decide +kernel

/-- The constants of the source are the first bytes of the Keccak hashes. -/
theorem SwapCall.selectorText_eq (call : SwapCall) :
    "0x" ++ lowerHexBytes (call.calldata.take 4) = call.selectorText := by
  have htake : ∀ {args : Type} (layout : CallLayout args) (c : args),
      "0x" ++ lowerHexBytes ((layout.encode c).take 4) = selectorOf layout := by
    intro args layout c
    rw [CallLayout.encode, List.take_left' layout.length_selector, selectorOf]
  obtain ⟨hethOutput, hinputSingle, hinput, houtputSingle, houtput⟩ := selectorOf_others
  cases call with
  | v2ExactInput function call => exact (htake _ call).trans (selectorOf_v2ExactInput function)
  | v2ExactEthInput function call =>
      exact (htake _ call).trans (selectorOf_v2ExactEthInput function)
  | v2ExactOutput function call => exact (htake _ call).trans (selectorOf_v2ExactOutput function)
  | swapETHForExactTokens call => exact (htake _ call).trans hethOutput
  | exactInputSingle params => exact (htake _ params).trans hinputSingle
  | exactInput params => exact (htake _ params).trans hinput
  | exactOutputSingle params => exact (htake _ params).trans houtputSingle
  | exactOutput params => exact (htake _ params).trans houtput

/-! ## Paths -/

namespace Route

theorem length_pack (route : Route) : route.pack.length = 20 + 23 * route.hops.length := by
  have hhop : ∀ hops : List (BitVec 24 × EvmAddress),
      (hops.flatMap packHop).length = 23 * hops.length := by
    intro hops
    induction hops with
    | nil => rfl
    | cons hop hops ih =>
        rw [List.flatMap_cons, List.length_append, ih, packHop, List.length_append,
          length_toBeBytes, length_toBeBytes, List.length_cons]
        omega
  rw [pack, List.length_append, length_toBeBytes, hhop]

/-- A packed path ends in the token it leads to. -/
theorem exists_pack_eq (start : EvmAddress) (hops : List (BitVec 24 × EvmAddress)) :
    ∃ front, pack ⟨start, hops⟩ = front ++ toBeBytes 20 (finishFrom start hops).toNat := by
  induction hops generalizing start with
  | nil =>
      refine ⟨[], ?_⟩
      rw [pack, List.flatMap_nil, List.append_nil, List.nil_append, finishFrom]
  | cons hop hops ih =>
      obtain ⟨front, hfront⟩ := ih hop.2
      refine ⟨toBeBytes 20 start.toNat ++ toBeBytes 3 hop.1.toNat ++ front, ?_⟩
      rw [finishFrom, List.append_assoc, ← hfront]
      simp [pack, packHop]

theorem reverseOnto_ends (start : EvmAddress) (hops done : List (BitVec 24 × EvmAddress)) :
    (reverseOnto start hops done).start = finishFrom start hops
      ∧ (reverseOnto start hops done).finish = finishFrom start done
      ∧ (reverseOnto start hops done).hops.length = hops.length + done.length := by
  induction hops generalizing start done with
  | nil => exact ⟨rfl, rfl, (Nat.zero_add _).symm⟩
  | cons hop hops ih =>
      obtain ⟨hstart, hfinish, hlength⟩ := ih hop.2 ((hop.1, start) :: done)
      refine ⟨hstart, hfinish, hlength.trans ?_⟩
      simp only [List.length_cons]
      omega

/-- The way back starts where the route ends, and ends where it starts. -/
theorem reverse_ends {route : Route} (hhops : route.hops ≠ []) :
    route.reverse.start = route.finish ∧ route.reverse.finish = route.start
      ∧ route.reverse.hops ≠ [] := by
  obtain ⟨hstart, hfinish, hlength⟩ := reverseOnto_ends route.start route.hops []
  refine ⟨hstart, hfinish, List.ne_nil_of_length_pos ?_⟩
  have hpos := List.length_pos_of_ne_nil hhops
  exact hlength ▸ Nat.lt_add_right _ hpos

end Route

/-- The length of one token and one or more hops. -/
def PathLength (n : Nat) : Prop := ∃ k, 1 ≤ k ∧ n = 20 + 23 * k

theorem decodeV3Path_eq_none_iff (path : List UInt8) (reverse : Bool) :
    decodeV3Path path reverse = none ↔ ¬ PathLength path.length := by
  have hlength : (path.length < 43 ∨ (path.length - 20) % 23 ≠ 0) ↔ ¬ PathLength path.length := by
    constructor
    · rintro h ⟨k, hk, hlength⟩
      omega
    · intro h
      by_contra hnot
      exact h ⟨(path.length - 20) / 23, by omega, by omega⟩
  rw [← hlength, decodeV3Path]
  by_cases h : path.length < 43 ∨ (path.length - 20) % 23 ≠ 0
  · rw [if_pos h]
    exact iff_of_true rfl h
  · rw [if_neg h]
    cases reverse <;> exact iff_of_false nofun h

theorem decodeV3Path_pack {route : Route} (hhops : route.hops ≠ []) (reverse : Bool) :
    decodeV3Path route.pack reverse
      = if reverse then some (formatAddress route.finish, formatAddress route.start)
        else some (formatAddress route.start, formatAddress route.finish) := by
  have hpos := List.length_pos_of_ne_nil hhops
  have hlength := route.length_pack
  obtain ⟨front, hfront⟩ := Route.exists_pack_eq route.start route.hops
  have hfirst : route.pack.take 20 = toBeBytes 20 route.start.toNat :=
    List.take_left' (length_toBeBytes _ _)
  have hlast : route.pack.drop (route.pack.length - 20) = toBeBytes 20 route.finish.toNat := by
    have hpack : route.pack = front ++ toBeBytes 20 route.finish.toNat := hfront
    rw [hpack, List.drop_left']
    rw [List.length_append, length_toBeBytes, Nat.add_sub_cancel]
  unfold decodeV3Path
  rw [if_neg (by omega), hfirst, hlast, ofNat_ofBeBytes (by decide),
    ofNat_ofBeBytes (by decide)]

theorem decodeV2Path_of_ends {path : List EvmAddress} {first last : EvmAddress}
    (h : path.head? = some first ∧ path.getLast? = some last) :
    decodeV2Path path = some (formatAddress first, formatAddress last) := by
  rw [decodeV2Path, h.1, h.2]
  rfl

/-! ## The decoders -/

/-- The decoder of the branch of a call. -/
def SwapCall.branch (codec : CallCodec) (calldata : List UInt8) (router : Option Address)
    (resolution : RegistryMatch) (txValue : Option Nat) : SwapCall → Option DecodedSwap
  | .v2ExactInput function _ => decodeV2ExactInput codec calldata router resolution function
  | .v2ExactEthInput function _ =>
      decodeV2ExactEthInput codec calldata router resolution txValue function
  | .v2ExactOutput function _ => decodeV2ExactOutput codec calldata router resolution function
  | .swapETHForExactTokens _ => decodeV2ExactEthOutput codec calldata router resolution txValue
  | .exactInputSingle _ => decodeV3ExactInputSingle codec calldata router resolution
  | .exactInput _ => decodeV3ExactInput codec calldata router resolution
  | .exactOutputSingle _ => decodeV3ExactOutputSingle codec calldata router resolution
  | .exactOutput _ => decodeV3ExactOutput codec calldata router resolution

/-- The selector of a call leads to its branch. -/
theorem RawTransactionMessage.decodeSwap_selectorText {codec : CallCodec}
    {message : RawTransactionMessage} {input : String} {calldata : List UInt8} (call : SwapCall)
    (resolution : RegistryMatch) (hinput : message.input = some input)
    (hcalldata : decodeCalldata codec input = some calldata) :
    message.decodeSwap codec (some call.selectorText) resolution
      = call.branch codec calldata message.target resolution
          (message.value.bind parseAmountString) := by
  unfold decodeSwap
  rw [hinput]
  simp only [Option.bind_eq_bind, Option.bind_some, hcalldata]
  cases call with
  | v2ExactInput function call => cases function <;> rfl
  | v2ExactEthInput function call => cases function <;> rfl
  | v2ExactOutput function call => cases function <;> rfl
  | _ => rfl

/-- The branch of a call decodes its calldata to what it trades. -/
theorem SwapCall.branch_of_trades {codec : CallCodec} (hcodec : codec.Faithful) {call : SwapCall}
    {value : Nat} {txValue : Option Nat} {tokenIn tokenOut : EvmAddress}
    (hvalue : call.paysEth = true → txValue = some value)
    (hexact : call.exactAmount value < 2 ^ 128) (hlimit : call.limitAmount value < 2 ^ 128)
    (htrades : call.Trades tokenIn tokenOut) (router : Option Address)
    (resolution : RegistryMatch) :
    call.branch codec call.calldata router resolution txValue
      = some (call.decoded value tokenIn tokenOut router resolution) := by
  cases call with
  | v2ExactInput function call =>
      rw [branch, calldata, decodeV2ExactInput, hcodec.v2ExactInput,
        Option.bind_eq_bind, Option.bind_some, u256ToU128_of_lt hexact,
        u256ToU128_of_lt hlimit, decodeV2Path_of_ends htrades]
      rfl
  | v2ExactEthInput function call =>
      rw [branch, calldata, decodeV2ExactEthInput, hcodec.v2ExactEthInput,
        Option.bind_eq_bind, Option.bind_some, u256ToU128_of_lt hlimit,
        decodeV2Path_of_ends htrades, hvalue rfl]
      rfl
  | v2ExactOutput function call =>
      rw [branch, calldata, decodeV2ExactOutput, hcodec.v2ExactOutput,
        Option.bind_eq_bind, Option.bind_some, u256ToU128_of_lt hexact,
        u256ToU128_of_lt hlimit, decodeV2Path_of_ends htrades]
      rfl
  | swapETHForExactTokens call =>
      rw [branch, calldata, decodeV2ExactEthOutput, hcodec.swapETHForExactTokens,
        Option.bind_eq_bind, Option.bind_some, u256ToU128_of_lt hexact,
        decodeV2Path_of_ends htrades, hvalue rfl]
      rfl
  | exactInputSingle params =>
      obtain ⟨rfl, rfl⟩ := htrades
      rw [branch, calldata, decodeV3ExactInputSingle, hcodec.exactInputSingle,
        Option.bind_eq_bind, Option.bind_some, u256ToU128_of_lt hexact,
        u256ToU128_of_lt hlimit]
      rfl
  | exactInput params =>
      obtain ⟨route, hhops, hpath, rfl, rfl⟩ := htrades
      rw [branch, calldata, decodeV3ExactInput, hcodec.exactInput,
        Option.bind_eq_bind, Option.bind_some, hpath, decodeV3Path_pack hhops,
        u256ToU128_of_lt hexact, u256ToU128_of_lt hlimit]
      rfl
  | exactOutputSingle params =>
      obtain ⟨rfl, rfl⟩ := htrades
      rw [branch, calldata, decodeV3ExactOutputSingle, hcodec.exactOutputSingle,
        Option.bind_eq_bind, Option.bind_some, u256ToU128_of_lt hexact,
        u256ToU128_of_lt hlimit]
      rfl
  | exactOutput params =>
      obtain ⟨route, hhops, hpath, rfl, rfl⟩ := htrades
      obtain ⟨hstart, hfinish, hback⟩ := Route.reverse_ends hhops
      rw [branch, calldata, decodeV3ExactOutput, hcodec.exactOutput,
        Option.bind_eq_bind, Option.bind_some, hpath, decodeV3Path_pack hback, hstart, hfinish,
        u256ToU128_of_lt hexact, u256ToU128_of_lt hlimit]
      rfl

/-- The branch of a call with a packed path turns down the paths of another
length. -/
theorem SwapCall.branch_eq_none_iff {codec : CallCodec} (hcodec : codec.Faithful)
    {call : SwapCall} {value : Nat} {path : List UInt8} (hpath : call.packedPath = some path)
    (hexact : call.exactAmount value < 2 ^ 128) (hlimit : call.limitAmount value < 2 ^ 128)
    (router : Option Address) (resolution : RegistryMatch) (txValue : Option Nat) :
    call.branch codec call.calldata router resolution txValue = none
      ↔ ¬ PathLength path.length := by
  cases call with
  | exactInput params =>
      obtain rfl : params.path = path := Option.some.inj hpath
      rw [← decodeV3Path_eq_none_iff params.path false]
      rw [branch, calldata, decodeV3ExactInput, hcodec.exactInput,
        Option.bind_eq_bind, Option.bind_some, u256ToU128_of_lt hexact,
        u256ToU128_of_lt hlimit]
      cases decodeV3Path params.path false with
      | none => exact iff_of_true rfl rfl
      | some tokens => exact iff_of_false nofun nofun
  | exactOutput params =>
      obtain rfl : params.path = path := Option.some.inj hpath
      rw [← decodeV3Path_eq_none_iff params.path true]
      rw [branch, calldata, decodeV3ExactOutput, hcodec.exactOutput,
        Option.bind_eq_bind, Option.bind_some, u256ToU128_of_lt hexact,
        u256ToU128_of_lt hlimit]
      cases decodeV3Path params.path true with
      | none => exact iff_of_true rfl rfl
      | some tokens => exact iff_of_false nofun nofun
  | _ => cases hpath

/-! ## The transaction -/

theorem SwapCall.four_le_length_calldata (call : SwapCall) : 4 ≤ call.calldata.length := by
  have hencode : ∀ {args : Type} (layout : CallLayout args) (c : args),
      4 ≤ (layout.encode c).length := by
    intro args layout c
    rw [CallLayout.encode, List.length_append, layout.length_selector]
    exact Nat.le_add_right _ _
  cases call <;> exact hencode _ _

namespace RawTransactionMessage

theorem decodeCalldata_of_spells {codec : CallCodec} (hcodec : codec.Faithful)
    {input digits : String} {bytes : List UInt8} (hspells : Spells digits bytes)
    (hdigits : input = "0x" ++ digits ∨ input = digits) :
    decodeCalldata codec input = some bytes := by
  rw [decodeCalldata, hspells.strip_eq hdigits, hcodec.hexDecode digits bytes hspells]

/-- The decoding of a transaction that carries a call is that of its
branch. -/
theorem decode_eq_branch {codec : CallCodec} (hcodec : codec.Faithful)
    {message : RawTransactionMessage} {call : SwapCall} (hcarries : message.Carries call) :
    ∃ resolution : RegistryMatch, message.decode codec
      = .ok { selector := some call.selectorText, protocol := resolution.protocol,
              exchange := resolution.exchange,
              decodedSwap := call.branch codec call.calldata message.target resolution
                (message.value.bind parseAmountString) } := by
  obtain ⟨input, digits, hinput, hspells, hdigits⟩ := hcarries
  have hselector : message.selector = .ok (some call.selectorText) := by
    rw [selector_eq hinput hspells hdigits call.four_le_length_calldata, call.selectorText_eq]
  have hcalldata := decodeCalldata_of_spells hcodec hspells hdigits
  refine ⟨resolveTransaction (some call.selectorText) message.target, ?_⟩
  unfold decode
  rw [hselector, ← decodeSwap_selectorText call _ hinput hcalldata]
  rfl

/-- A transaction that carries a call is decoded to the swap of the call, and
only a packed path of another length is turned down. -/
theorem decode_swapCall {codec : CallCodec} (hcodec : codec.Faithful)
    {message : RawTransactionMessage} {call : SwapCall} {value : Nat}
    (hcarries : message.Carries call) (hvalue : call.paysEth = true → message.Pays value)
    (hexact : call.exactAmount value < 2 ^ 128) (hlimit : call.limitAmount value < 2 ^ 128) :
    ∃ decoded, message.decode codec = .ok decoded
      ∧ (∀ tokenIn tokenOut, call.Trades tokenIn tokenOut →
          decoded.decodedSwap = some (call.decoded value tokenIn tokenOut message.target
            ⟨decoded.protocol, decoded.exchange⟩))
      ∧ ∀ path, call.packedPath = some path →
          (decoded.decodedSwap = none ↔ ¬ PathLength path.length) := by
  obtain ⟨resolution, hdecode⟩ := decode_eq_branch hcodec hcarries
  refine ⟨_, hdecode, ?_, ?_⟩
  · intro tokenIn tokenOut htrades
    refine SwapCall.branch_of_trades hcodec ?_ hexact hlimit htrades _ _
    intro hpays
    obtain ⟨raw, hraw, hnumeral⟩ := hvalue hpays
    -- the value is one of the two amounts of a call that pays or refunds ETH
    have hfits : value < 2 ^ 128 := by
      cases call with
      | v2ExactEthInput function call => exact hexact
      | swapETHForExactTokens call => exact hlimit
      | _ => cases hpays
    rw [hraw, Option.bind_some, parseAmountString_of_numeral hnumeral hfits]
  · intro path hpath
    exact SwapCall.branch_eq_none_iff hcodec hpath hexact hlimit _ _ _

end RawTransactionMessage

/-! ## Two transactions -/

/-- The library's reading of hexadecimal text, and decoders from the
layouts. -/
def layoutCallCodec : CallCodec where
  hexDecode text := hexBytes text.toList
  v2ExactInput function := (v2ExactInputLayout function).decode
  v2ExactEthInput function := (v2ExactEthInputLayout function).decode
  v2ExactOutput function := (v2ExactOutputLayout function).decode
  swapETHForExactTokens := swapETHForExactTokensLayout.decode
  exactInputSingle := exactInputSingleLayout.decode
  exactInput := exactInputLayout.decode
  exactOutputSingle := exactOutputSingleLayout.decode
  exactOutput := exactOutputLayout.decode

theorem decode_encode_of_eq {call : Type} (layout : CallLayout call) {decoder : CallDecoder call}
    (h : decoder = layout.decode) (c : call) : decoder (layout.encode c) = some c := by
  rw [h]
  exact layout.decode_encode c

theorem layoutCallCodec_faithful : layoutCallCodec.Faithful where
  hexDecode _ _ hspells := hspells.hexBytes_eq
  v2ExactInput _ := decode_encode_of_eq _ (by simp only [layoutCallCodec])
  v2ExactEthInput _ := decode_encode_of_eq _ (by simp only [layoutCallCodec])
  v2ExactOutput _ := decode_encode_of_eq _ (by simp only [layoutCallCodec])
  swapETHForExactTokens := decode_encode_of_eq _ (by simp only [layoutCallCodec])
  exactInputSingle := decode_encode_of_eq _ (by simp only [layoutCallCodec])
  exactInput := decode_encode_of_eq _ (by simp only [layoutCallCodec])
  exactOutputSingle := decode_encode_of_eq _ (by simp only [layoutCallCodec])
  exactOutput := decode_encode_of_eq _ (by simp only [layoutCallCodec])

/-- The transaction of a call as a node sends it. -/
def SwapCall.message (call : SwapCall) (value : Nat) : RawTransactionMessage :=
  { txHash := none, sender := none, target := some "0xrouter", value := some (toString value),
    input := some ("0x" ++ lowerHexBytes call.calldata), blockHash := none, blockNumber := none }

theorem SwapCall.carries_message (call : SwapCall) (value : Nat) :
    (call.message value).Carries call :=
  ⟨_, _, rfl, spells_lowerHexBytes _, .inl rfl⟩

theorem SwapCall.pays_message (call : SwapCall) (value : Nat) : (call.message value).Pays value :=
  ⟨_, rfl, .inr rfl⟩

/-- Three tokens through two pools. -/
def sampleRoute : Route := ⟨0x1111, [(500, 0x2222), (3000, 0x3333)]⟩

theorem length_sampleRoute_pack_lt : sampleRoute.reverse.pack.length < 2 ^ 64 := by
  rw [Route.length_pack]
  decide

def sampleExactOutput : SwapCall :=
  .exactOutput
    { path := sampleRoute.reverse.pack, path_lt := length_sampleRoute_pack_lt, recipient := 0x4444,
      deadline := 100, amountOut := 7, amountInMaximum := 9 }

def sampleEthOutput : SwapCall :=
  .swapETHForExactTokens
    { amountOut := 7, path := [0x1111, 0x2222], target := 0x4444, deadline := 100 }

/-- A path that is packed backwards is decoded in the direction of the trade,
and the value of a transaction bounds the ETH it pays. -/
theorem sampleCalls_decoded :
    (∃ decoded, (sampleExactOutput.message 0).decode layoutCallCodec = .ok decoded
      ∧ decoded.decodedSwap = some (sampleExactOutput.decoded 0 0x1111 0x3333 (some "0xrouter")
          ⟨decoded.protocol, decoded.exchange⟩))
    ∧ ∃ decoded, (sampleEthOutput.message 9).decode layoutCallCodec = .ok decoded
      ∧ decoded.decodedSwap = some (sampleEthOutput.decoded 9 0x1111 0x2222 (some "0xrouter")
          ⟨decoded.protocol, decoded.exchange⟩) := by
  constructor
  · obtain ⟨decoded, hdecode, htrades, -⟩ :=
      RawTransactionMessage.decode_swapCall layoutCallCodec_faithful
        (sampleExactOutput.carries_message 0) (fun _ => sampleExactOutput.pays_message 0)
        (by decide) (by decide)
    exact ⟨decoded, hdecode, htrades _ _ ⟨sampleRoute, nofun, rfl, rfl, rfl⟩⟩
  · obtain ⟨decoded, hdecode, htrades, -⟩ :=
      RawTransactionMessage.decode_swapCall layoutCallCodec_faithful
        (sampleEthOutput.carries_message 9) (fun _ => sampleEthOutput.pays_message 9)
        (by decide) (by decide)
    exact ⟨decoded, hdecode, htrades _ _ ⟨rfl, rfl⟩⟩

end BaseEngine
