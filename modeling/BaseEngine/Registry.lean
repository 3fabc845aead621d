import BaseEngine.Lib.Text
import BaseEngine.Types

/-!
# Protocol and exchange tables

The lookup tables of `crates/registry` that classify a log or a transaction:
known contract addresses, event signatures and function selectors. An address
says more than a signature, so it comes first where both are known
(`resolveLog`, `resolveTransaction`).
-/

namespace BaseEngine

open Text

structure RegistryMatch where
  protocol : Option Protocol
  exchange : Option Exchange
deriving Repr, DecidableEq

def RegistryMatch.merge (self fallback : RegistryMatch) : RegistryMatch :=
  { protocol := self.protocol <|> fallback.protocol
    exchange := self.exchange <|> fallback.exchange }

/-- A row of either table: the key, in normal form, and what it stands for. -/
structure RegistryEntry where
  key : String
  protocol : Option Protocol
  exchange : Option Exchange
deriving Repr, DecidableEq

def addressBook : List RegistryEntry :=
  [ ⟨"0x4752ba5dbc23f44d87826276bf6fd6b1c372ad24", some .uniswapV2, none⟩,
    ⟨"0x2626664c2603336e57b271c5c0b26f421741e481", some .uniswapV3, none⟩,
    ⟨"0x198ef79f1f515f02dfe9e3115ed9fc07183f02fc", some .uniswapV4, none⟩,
    ⟨"0x33128a8fc17869897dce68ed026d694621f6fdfd", some .uniswapV3, none⟩,
    ⟨"0xfda619b6d20975be80a10332cd39b9a4b0faa8bb", some .uniswapV2, some .baseSwap⟩,
    ⟨"0x327df1e6de05895d2ab08513aadd9313fe505d86", some .uniswapV2, some .baseSwap⟩,
    ⟨"0x3e84d913803b02a4a7f027165e8ca42c14c0fde7", some .uniswapV2, some .alienBase⟩,
    ⟨"0x8c1a3cf8f83074169fe5d7ad50b978e1cd6b37c7", some .uniswapV2, some .alienBase⟩,
    ⟨"0x0fd83557b2be93617c9c1c1b6fd549401c74558c", some .uniswapV3, some .alienBase⟩,
    ⟨"0xb20c411fc84fbb27e78608c24d0056d974ea9411", some .uniswapV3, some .alienBase⟩,
    ⟨"0xcf77a3ba9a5ca399b7c97c74d54e5b1beb874e43", some .aerodrome, some .aerodrome⟩,
    ⟨"0x6cb442acf35158d5eda88fe602221b67b400be3e", some .aerodrome, some .aerodrome⟩,
    ⟨"0x678aa4bf4e210cf2166753e054d5b7c31cc7fa86", some .uniswapV3, some .pancakeSwap⟩,
    ⟨"0xf66dea7b3e897cd44a5a231c61b6b4423d613259", some .virtuals, some .virtuals⟩,
    ⟨"0x0b3e328455c4059eeb9e3f84b5543f74e24e7e1b", some .virtuals, some .virtuals⟩ ]

def v2SwapSignature : String :=
  "0xd78ad95fa46c994b6551d0da85fc275fe613ce37657fb8d5e3d130840159d822"

def syncSignature : String :=
  "0x1c411e9a96e071241c2f21f7726b17ae89e3cab4c78be50e062b03a9fffbbad1"

def v2MintSignature : String :=
  "0x4c209b5fc8ad50758f13e2e108bdbdff36c9b4a5d2f30f6a7c2a25d13f0f5e6d"

def v2BurnSignature : String :=
  "0xdccd412f0b1252819a70d2cd3248e4723d18f7e41ee2b5f7f8ef4e3d5be2f4d8"

def v3SwapSignature : String :=
  "0xc42079f94a6350d7e6235f29174924f928cc2ac818eb64fed8004e115fbcca67"

def eventSignatureEntries : List RegistryEntry :=
  [ ⟨v2SwapSignature, some .uniswapV2, none⟩,
    ⟨syncSignature, some .uniswapV2, none⟩,
    ⟨v2MintSignature, some .uniswapV2, none⟩,
    ⟨v2BurnSignature, some .uniswapV2, none⟩,
    ⟨v3SwapSignature, some .uniswapV3, none⟩ ]

/-- White space and one `0x` dropped, the rest checked to be hexadecimal and
lowered. -/
def normalizeHex (value : String) : Option String :=
  let trimmed := trim value
  let hex := (stripPrefix "0x" trimmed).getD trimmed
  if hex.toList = [] ∨ ¬ hex.toList.all isAsciiHexdigit then none
  else some ("0x" ++ toAsciiLowercase hex)

/-- A table is searched for the normal form of the key. -/
def registryLookup (table : List RegistryEntry) (value : String) : Option RegistryEntry :=
  (normalizeHex value).bind fun normalized => table.find? (·.key == normalized)

def addressMetadata (address : String) : Option RegistryEntry :=
  registryLookup addressBook address

def protocolFromAddress (address : String) : Option Protocol :=
  (addressMetadata address).bind (·.protocol)

def exchangeFromAddress (address : String) : Option Exchange :=
  (addressMetadata address).bind (·.exchange)

def eventSignatureEntry (eventSignature : String) : Option RegistryEntry :=
  registryLookup eventSignatureEntries eventSignature

def protocolFromEventSignature (eventSignature : String) : Option Protocol :=
  (eventSignatureEntry eventSignature).bind (·.protocol)

def exchangeFromEventSignature (eventSignature : String) : Option Exchange :=
  (eventSignatureEntry eventSignature).bind (·.exchange)

def selectorEntries : List RegistryEntry :=
  [ ⟨"0x38ed1739", some .uniswapV2, none⟩,
    ⟨"0x8803dbee", some .uniswapV2, none⟩,
    ⟨"0x7ff36ab5", some .uniswapV2, none⟩,
    ⟨"0xfb3bdb41", some .uniswapV2, none⟩,
    ⟨"0x18cbafe5", some .uniswapV2, none⟩,
    ⟨"0x4a25d94a", some .uniswapV2, none⟩,
    ⟨"0x5c11d795", some .uniswapV2, none⟩,
    ⟨"0xb6f9de95", some .uniswapV2, none⟩,
    ⟨"0x791ac947", some .uniswapV2, none⟩,
    ⟨"0x414bf389", some .uniswapV3, none⟩,
    ⟨"0xc04b8d59", some .uniswapV3, none⟩,
    ⟨"0xdb3e2198", some .uniswapV3, none⟩,
    ⟨"0xf28c0498", some .uniswapV3, none⟩,
    ⟨"0xac9650d8", some .uniswapV3, none⟩,
    ⟨"0x3593564c", some .uniswapV4, none⟩,
    ⟨"0x24856bc3", some .uniswapV4, none⟩ ]

def selectorEntry (selector : String) : Option RegistryEntry :=
  registryLookup selectorEntries selector

def protocolFromSelector (selector : String) : Option Protocol :=
  (selectorEntry selector).bind (·.protocol)

def exchangeFromSelector (selector : String) : Option Exchange :=
  (selectorEntry selector).bind (·.exchange)

def resolveTransaction (selector target : Option String) : RegistryMatch :=
  let fromAddress : RegistryMatch :=
    ⟨target.bind protocolFromAddress, target.bind exchangeFromAddress⟩
  let fromSelector : RegistryMatch :=
    ⟨selector.bind protocolFromSelector, selector.bind exchangeFromSelector⟩
  fromAddress.merge fromSelector

def resolveLog (eventSignature address : Option String) : RegistryMatch :=
  let fromAddress : RegistryMatch :=
    ⟨address.bind protocolFromAddress, address.bind exchangeFromAddress⟩
  let fromEvent : RegistryMatch :=
    ⟨eventSignature.bind protocolFromEventSignature,
      eventSignature.bind exchangeFromEventSignature⟩
  fromAddress.merge fromEvent

end BaseEngine
