import BaseEngine.Config
import BaseEngine.Lib.Sha256
import BaseEngine.Risk
import BaseEngine.Submit

/-!
# Token lists and the spelling of addresses

`RiskPolicy::from_config` of `crates/decision/src/risk.rs` puts the lists of
the configuration in lower case, and the gate compares strings. An address
has two lower-case spellings, with and without `0x`. The configuration and
the calldata builder take either, the gate takes them for two tokens.

`tokenSound_iff`: a configuration keeps denied tokens out, however they are
spelled, exactly when it blocks both spellings of each of them.
-/

namespace BaseEngine

open Fallible Text

/-! ## The policy of a configuration -/

def parseAmount (raw : String) : Except ErrorChain Nat :=
  (parseDecimal 128 raw).mapError fun err => ["invalid amount `" ++ raw ++ "`: " ++ err]

theorem parseAmount_eq_ok_iff {raw : String} {amount : Nat} :
    parseAmount raw = .ok amount ↔ parseUnsigned 10 128 raw = some amount :=
  mapError_eq_ok_iff.trans parseDecimal_eq_ok_iff

namespace RiskPolicy

def fromConfig (config : RiskConfig) : Except ErrorChain RiskPolicy := do
  let minNetProfitWei ← (parseDecimal 128 config.minNetProfitWei).mapError fun err =>
    ["invalid RISK_MIN_NET_PROFIT_WEI: " ++ err]
  let maxTradeNotionalWei ← config.maxTradeNotionalWei.mapM parseAmount
  let maxPerBlockNotionalWei ← config.maxPerBlockNotionalWei.mapM parseAmount
  let maxDailyNotionalWei ← config.maxDailyNotionalWei.mapM parseAmount
  return {
    minNetProfitWei, minProfitBps := config.minProfitBps, maxTradeNotionalWei,
    maxPerBlockNotionalWei, maxDailyNotionalWei, maxSlippageBps := config.maxSlippageBps,
    tokenAllowlist := (config.tokenAllowlist.map toAsciiLowercase).toFinset,
    tokenDenylist := (config.tokenDenylist.map toAsciiLowercase).toFinset,
    maxConsecutiveReverts := config.maxConsecutiveReverts,
    killSwitchPath := config.killSwitchPath }

/-- What a policy keeps of its configuration. -/
structure OfConfig (config : RiskConfig) (policy : RiskPolicy) : Prop where
  minNetProfit : parseUnsigned 10 128 config.minNetProfitWei = some policy.minNetProfitWei
  maxDaily : config.maxDailyNotionalWei.mapM parseAmount = .ok policy.maxDailyNotionalWei
  allowlist : policy.tokenAllowlist = (config.tokenAllowlist.map toAsciiLowercase).toFinset
  denylist : policy.tokenDenylist = (config.tokenDenylist.map toAsciiLowercase).toFinset

theorem ofConfig_of_fromConfig {config : RiskConfig} {policy : RiskPolicy}
    (h : fromConfig config = .ok policy) : OfConfig config policy := by
  obtain ⟨minNetProfit, hmin, h⟩ := bind_eq_ok_iff.mp h
  obtain ⟨maxTrade, -, h⟩ := bind_eq_ok_iff.mp h
  obtain ⟨maxPerBlock, -, h⟩ := bind_eq_ok_iff.mp h
  obtain ⟨maxDaily, hdaily, h⟩ := bind_eq_ok_iff.mp h
  obtain rfl := Except.ok.inj h
  exact ⟨parseDecimal_eq_ok_iff.mp (mapError_eq_ok_iff.mp hmin), hdaily, rfl, rfl⟩

theorem mapM_parseAmount {key : String} {raw : Option String}
    (h : parseU128IfSome key raw = .ok ()) : ∃ amount, raw.mapM parseAmount = .ok amount := by
  cases raw with
  | none => exact ⟨none, rfl⟩
  | some value =>
      obtain ⟨n, hn, -⟩ := bind_eq_ok_iff.mp h
      have hamount := parseAmount_eq_ok_iff.mpr (okOr_eq_ok hn)
      exact ⟨some n, by simp [hamount]⟩

/-- A validated configuration has a policy. -/
theorem exists_fromConfig {config : RiskConfig} {execution : ExecutionConfig}
    (h : config.validate execution = .ok ()) : ∃ policy, fromConfig config = .ok policy := by
  obtain ⟨minNetProfit, hmin, h⟩ := bind_eq_ok_iff.mp h
  obtain ⟨_, htrade, h⟩ := bind_eq_ok_iff.mp h
  obtain ⟨_, hblock, h⟩ := bind_eq_ok_iff.mp h
  obtain ⟨_, hdaily, -⟩ := bind_eq_ok_iff.mp h
  obtain ⟨maxTrade, htrade⟩ := mapM_parseAmount htrade
  obtain ⟨maxPerBlock, hblock⟩ := mapM_parseAmount hblock
  obtain ⟨maxDaily, hdaily⟩ := mapM_parseAmount hdaily
  have hmin' := parseDecimal_eq_ok_iff.mpr (okOr_eq_ok hmin)
  unfold fromConfig
  rw [mapError_eq_ok_iff.mpr hmin', ok_bind, htrade, ok_bind, hblock, ok_bind, hdaily, ok_bind]
  exact ⟨_, rfl⟩

end RiskPolicy

/-- Every entry of the two lists of a validated configuration is an address. -/
theorem RiskConfig.isValidAddress_of_validate {config : RiskConfig} {execution : ExecutionConfig}
    (h : config.validate execution = .ok ()) {entry : String}
    (hentry : entry ∈ config.tokenAllowlist ++ config.tokenDenylist) :
    isValidAddress entry = true := by
  obtain ⟨_, -, h⟩ := bind_eq_ok_iff.mp h
  obtain ⟨_, -, h⟩ := bind_eq_ok_iff.mp h
  obtain ⟨_, -, h⟩ := bind_eq_ok_iff.mp h
  obtain ⟨_, -, h⟩ := bind_eq_ok_iff.mp h
  obtain ⟨_, -, h⟩ := bind_eq_ok_iff.mp h
  obtain ⟨_, -, h⟩ := bind_eq_ok_iff.mp h
  obtain ⟨_, -, h⟩ := bind_eq_ok_iff.mp h
  obtain ⟨_, -, h⟩ := bind_eq_ok_iff.mp h
  have hall := not_of_rejectIf h
  by_contra hinvalid
  exact hall ⟨entry, hentry, Bool.eq_false_iff.mpr hinvalid⟩

/-! ## Spellings of an address -/

/-- The strings, in lower case, that denote the address. -/
def spellings (address : EvmAddress) : List String := hexSpellings 40 address.toNat

theorem fixedHex_of_hexAddress {text : String} {address : EvmAddress}
    (h : hexAddress text = .ok address) : fixedHex 40 text = some address.toNat := by
  unfold hexAddress at h
  cases hn : fixedHex 40 text with
  | none =>
      rw [hn] at h
      cases h
  | some n =>
      rw [hn] at h
      obtain rfl := Except.ok.inj h
      have hlt : n < 2 ^ 160 := Nat.lt_of_lt_of_eq (fixedHex_lt hn) (by norm_num)
      rw [BitVec.toNat_ofNat, Nat.mod_eq_of_lt hlt]

theorem lowercase_mem_spellings {text : String} {address : EvmAddress}
    (h : hexAddress text = .ok address) : toAsciiLowercase text ∈ spellings address :=
  mem_hexSpellings_of_fixedHex (fixedHex_of_hexAddress h)

theorem hexAddress_of_mem_spellings {text : String} {address : EvmAddress}
    (h : text ∈ spellings address) : hexAddress text = .ok address := by
  have hlt : address.toNat < 16 ^ 40 := Nat.lt_of_lt_of_eq address.isLt (by norm_num)
  unfold hexAddress
  rw [fixedHex_of_mem_hexSpellings hlt h]
  simp

theorem hexAddress_of_isValidAddress {text : String} (h : isValidAddress text = true) :
    ∃ address, hexAddress text = .ok address := by
  obtain ⟨hlength, hdigits⟩ := (Bool.and_eq_true _ _).mp h
  obtain ⟨n, hn⟩ := @ofDigits_isSome 16 0 _ (List.all_eq_true.mp hdigits)
  refine ⟨BitVec.ofNat 160 n, ?_⟩
  unfold hexAddress fixedHex
  dsimp only
  rw [if_pos (of_decide_eq_true hlength), hn]

/-! ## The gate -/

/-- The settlement token and the tokens of the legs. -/
def Opportunity.tokens (opportunity : Opportunity) : List String :=
  opportunity.settlementToken :: opportunity.route.flatMap fun leg => [leg.tokenIn, leg.tokenOut]

/-- Dropping a repetition loses no element. -/
theorem mem_destutter_ne {α : Type} [DecidableEq α] {a b : α} {l : List α} :
    a ∈ l.destutter' (· ≠ ·) b ↔ a = b ∨ a ∈ l := by
  induction l generalizing b with
  | nil => simp
  | cons c l ih =>
      by_cases hbc : b = c
      · subst hbc
        rw [List.destutter'_cons_neg _ (by simp), ih, List.mem_cons]
        tauto
      · rw [List.destutter'_cons_pos _ hbc, List.mem_cons, ih, List.mem_cons]

theorem mem_opportunityTokenIter {opportunity : Opportunity} {token : String} :
    token ∈ opportunityTokenIter opportunity ↔ token ∈ opportunity.tokens := by
  unfold opportunityTokenIter
  rw [← (List.perm_insertionSort (· ≤ ·) opportunity.tokens).mem_iff]
  show token ∈ (opportunity.tokens.insertionSort (· ≤ ·)).destutter (· ≠ ·) ↔ _
  cases opportunity.tokens.insertionSort (· ≤ ·) with
  | nil => simp
  | cons first rest => rw [List.destutter_cons', mem_destutter_ne, List.mem_cons]

namespace RiskPolicy

variable {sha256 : List UInt8 → String} {config : RiskConfig} {policy : RiskPolicy}
  {reading : Reading} {opp : Opportunity} {sim : SimulationResult} {state : RiskState}

/-- An accepted opportunity passed the gate with each of its tokens. -/
theorem tokenGate_of_accepted (h : (policy.assess sha256 reading opp sim state).1.accepted = true)
    {token : String} (htoken : token ∈ opp.tokens) : policy.tokenGate token = none := by
  obtain ⟨hpasses, -⟩ := passes_of_accepted sha256 h
  exact hpasses.tokens token (mem_opportunityTokenIter.mpr htoken)

theorem tokenGate_eq_none_iff {token : String} :
    policy.tokenGate token = none ↔ toAsciiLowercase token ∉ policy.tokenDenylist
      ∧ (policy.tokenAllowlist ≠ ∅ → toAsciiLowercase token ∈ policy.tokenAllowlist) := by
  unfold tokenGate
  dsimp only
  split_ifs with hdenied hunlisted
  · simp [hdenied]
  · simp [hdenied, hunlisted]
  · simp only [hdenied, not_false_eq_true, true_and, true_iff]
    tauto

end RiskPolicy

/-! ## Lists that cover every spelling -/

/-- The lists of the configuration stop a token of this lower-case spelling. -/
def RiskConfig.Blocks (config : RiskConfig) (spelling : String) : Prop :=
  spelling ∈ config.tokenDenylist.map toAsciiLowercase
    ∨ (config.tokenAllowlist ≠ [] ∧ spelling ∉ config.tokenAllowlist.map toAsciiLowercase)

instance (config : RiskConfig) (spelling : String) : Decidable (config.Blocks spelling) :=
  inferInstanceAs (Decidable (_ ∨ _))

/-- Both spellings of every denied address are stopped. -/
def RiskConfig.SpelledOut (config : RiskConfig) : Prop :=
  ∀ entry ∈ config.tokenDenylist, ∀ address, hexAddress entry = .ok address →
    ∀ spelling ∈ spellings address, config.Blocks spelling

/-- What the policy of the configuration accepts has no token with a denied
address and, when there is an allowlist, only tokens with allowed ones. -/
def RiskConfig.TokenSound (parseAddress : String → Except String EvmAddress)
    (sha256 : List UInt8 → String) (config : RiskConfig) : Prop :=
  ∀ policy reading opp sim state, RiskPolicy.fromConfig config = .ok policy →
    (∀ token ∈ opp.tokens, ∃ address, parseAddress token = .ok address) →
    (policy.assess sha256 reading opp sim state).1.accepted = true →
    ∀ token ∈ opp.tokens, ∀ address, parseAddress token = .ok address →
      (∀ entry ∈ config.tokenDenylist, parseAddress entry ≠ .ok address)
        ∧ (config.tokenAllowlist ≠ [] →
          ∃ entry ∈ config.tokenAllowlist, parseAddress entry = .ok address)

/-- The parser takes 40 hexadecimal digits in any case, with or without
`0x`, and nothing else. -/
def HexAddresses (parseAddress : String → Except String EvmAddress) : Prop :=
  ∀ text address, parseAddress text = .ok address ↔ hexAddress text = .ok address

theorem RiskPolicy.OfConfig.tokenGate_eq_none_iff {config : RiskConfig} {policy : RiskPolicy}
    (h : RiskPolicy.OfConfig config policy) {token : String} :
    policy.tokenGate token = none ↔ ¬ config.Blocks (toAsciiLowercase token) := by
  have hempty : (config.tokenAllowlist.map toAsciiLowercase).toFinset = ∅
      ↔ config.tokenAllowlist = [] := by simp
  rw [RiskPolicy.tokenGate_eq_none_iff, h.allowlist, h.denylist]
  unfold RiskConfig.Blocks
  simp only [List.mem_toFinset, ne_eq, hempty]
  tauto

/-- An opportunity over nothing but the token, which every gate but that of
the tokens lets pass. -/
def RiskConfig.probe (token : String) : Opportunity :=
  { id := "probe", kind := .twoLegLoop, blockContext := .pending, settlementToken := token,
    inputAmount := 0, expectedOutputAmount := 0, expectedNetProfit := 0, route := [],
    triggerTxHash := none }

/-- A simulation with the largest profit there is. -/
def RiskConfig.probeSimulation : SimulationResult :=
  { opportunityId := "probe", accepted := true, expectedGrossProfit := u128Max,
    expectedNetProfit := u128Max, gasEstimate := 0, gasCostWei := 0, l1DataFee := 0, notes := [] }

theorem RiskPolicy.OfConfig.minNetProfit_le {config : RiskConfig} {policy : RiskPolicy}
    (h : RiskPolicy.OfConfig config policy) : policy.minNetProfitWei ≤ u128Max := by
  have hparse := h.minNetProfit
  unfold parseUnsigned at hparse
  dsimp only at hparse
  split_ifs at hparse with hdigits
  have hlt := of_decide_eq_true (Option.filter_eq_some_iff.mp hparse).2
  unfold u128Max
  omega

theorem RiskPolicy.OfConfig.statelessReject_probe {config : RiskConfig} {policy : RiskPolicy}
    (h : RiskPolicy.OfConfig config policy) {token : String}
    (htoken : policy.tokenGate token = none) :
    policy.statelessReject false (RiskConfig.probe token) RiskConfig.probeSimulation = none := by
  refine statelessReject_eq_none_iff.mpr ⟨.inr rfl, rfl, h.minNetProfit_le, ?_, ?_, ?_, ?_⟩
  · simp [Machine.saturatingMul, RiskConfig.probe]
  · exact fun cap _ => Nat.zero_le cap
  · intro t ht
    obtain rfl : t = token := by simpa [RiskConfig.probe, Opportunity.tokens] using
      mem_opportunityTokenIter.mp ht
    exact htoken
  · exact fun _ => Nat.zero_le _

theorem RiskPolicy.OfConfig.probe_accepted {config : RiskConfig} {policy : RiskPolicy}
    (h : RiskPolicy.OfConfig config policy) (sha256 : List UInt8 → String) {token : String}
    (htoken : policy.tokenGate token = none) :
    (policy.assess sha256 ⟨0, false⟩ (RiskConfig.probe token) RiskConfig.probeSimulation
      RiskState.default).1.accepted = true := by
  have hbreaker : ¬ policy.breakerTripped RiskState.default := by
    rintro ⟨hle, hpos⟩
    exact absurd (Nat.le_zero.mp hle) (Nat.ne_of_gt hpos)
  have hcap : ∀ cap : Option Nat, exceededCap cap 0 = none := fun cap =>
    exceededCap_eq_none_iff.mpr fun c _ => Nat.zero_le c
  rw [assess_of_gates sha256 (h.statelessReject_probe htoken) rfl hbreaker (hcap _) (hcap _)]
  rfl

section Spelling

variable {parseAddress : String → Except String EvmAddress} {sha256 : List UInt8 → String}
  {config : RiskConfig} {execution : ExecutionConfig}

/-- A spelling of a denied address that the lists let through gets a probe
accepted. -/
theorem RiskConfig.TokenSound.spelledOut (hsound : config.TokenSound parseAddress sha256)
    (hparse : HexAddresses parseAddress) (hvalid : config.validate execution = .ok ()) :
    config.SpelledOut := by
  intro entry hentry address haddress spelling hspelling
  obtain ⟨policy, hpolicy⟩ := RiskPolicy.exists_fromConfig hvalid
  have hof := RiskPolicy.ofConfig_of_fromConfig hpolicy
  by_contra hopen
  have hgate : policy.tokenGate spelling = none := by
    rw [hof.tokenGate_eq_none_iff, toAsciiLowercase_of_mem_hexSpellings hspelling]
    exact hopen
  have hspelled : parseAddress spelling = .ok address :=
    (hparse _ _).mpr (hexAddress_of_mem_spellings hspelling)
  have htokens : ∀ token ∈ (RiskConfig.probe spelling).tokens,
      ∃ address, parseAddress token = .ok address := by
    intro token htoken
    obtain rfl : token = spelling := by simpa [RiskConfig.probe, Opportunity.tokens] using htoken
    exact ⟨address, hspelled⟩
  have hdenied := hsound policy _ _ _ _ hpolicy htokens (hof.probe_accepted sha256 hgate) spelling
    (by simp [RiskConfig.probe, Opportunity.tokens]) address hspelled
  exact hdenied.1 entry hentry ((hparse _ _).mpr haddress)

/-- A token on the allowlist, in whatever case, has the address of an entry. -/
theorem RiskConfig.exists_allowed (hvalid : config.validate execution = .ok ()) {token : String}
    {address : EvmAddress} (hhex : hexAddress token = .ok address)
    (hlisted : toAsciiLowercase token ∈ config.tokenAllowlist.map toAsciiLowercase) :
    ∃ entry ∈ config.tokenAllowlist, hexAddress entry = .ok address := by
  obtain ⟨entry, hentry, hlower⟩ := List.mem_map.mp hlisted
  have hvalidEntry := RiskConfig.isValidAddress_of_validate hvalid
    (List.mem_append_left _ hentry)
  obtain ⟨address', haddress'⟩ := hexAddress_of_isValidAddress hvalidEntry
  -- a lower-case spelling denotes one address
  have hsame : hexAddress (toAsciiLowercase token) = .ok address :=
    hexAddress_of_mem_spellings (lowercase_mem_spellings hhex)
  have hsame' : hexAddress (toAsciiLowercase entry) = .ok address' :=
    hexAddress_of_mem_spellings (lowercase_mem_spellings haddress')
  rw [hlower, hsame] at hsame'
  obtain rfl := Except.ok.inj hsame'
  exact ⟨entry, hentry, haddress'⟩

theorem RiskConfig.SpelledOut.tokenSound (hspelled : config.SpelledOut)
    (hparse : HexAddresses parseAddress) (hvalid : config.validate execution = .ok ()) :
    config.TokenSound parseAddress sha256 := by
  intro policy reading opp sim state hpolicy _ haccepted token htoken address haddress
  have hof := RiskPolicy.ofConfig_of_fromConfig hpolicy
  have hhex := (hparse _ _).mp haddress
  have hopen : ¬ config.Blocks (toAsciiLowercase token) :=
    hof.tokenGate_eq_none_iff.mp (RiskPolicy.tokenGate_of_accepted haccepted htoken)
  refine ⟨fun entry hentry hdenied => ?_, fun hlist => ?_⟩
  · exact hopen (hspelled entry hentry address ((hparse _ _).mp hdenied) _
      (lowercase_mem_spellings hhex))
  · have hlisted : toAsciiLowercase token ∈ config.tokenAllowlist.map toAsciiLowercase := by
      by_contra hunlisted
      exact hopen (Or.inr ⟨hlist, hunlisted⟩)
    obtain ⟨entry, hentry, haddress'⟩ := RiskConfig.exists_allowed hvalid hhex hlisted
    exact ⟨entry, hentry, (hparse _ _).mpr haddress'⟩

end Spelling

/-- **Token lists and spelling.** The policy of a validated configuration is
sound for addresses, however they are spelled, exactly when its lists stop
both spellings of every denied address. -/
theorem tokenSound_iff {parseAddress : String → Except String EvmAddress}
    (hparse : HexAddresses parseAddress) (sha256 : List UInt8 → String) {config : RiskConfig}
    {execution : ExecutionConfig} (hvalid : config.validate execution = .ok ()) :
    config.TokenSound parseAddress sha256 ↔ config.SpelledOut := by
  constructor
  · intro hsound
    exact hsound.spelledOut hparse hvalid
  · intro hspelled
    exact hspelled.tokenSound hparse hvalid

/-- Execution that submits nothing, with the defaults of the source. -/
def ExecutionConfig.shadowDefaults : ExecutionConfig :=
  { routerAddress := none, planDeadlineSecs := 30, useFlashloan := true }

/-- A denylist with both spellings of its address. -/
def RiskConfig.bothSpellings : RiskConfig :=
  { tokenDenylist := ["0x4200000000000000000000000000000000000006",
      "4200000000000000000000000000000000000006"] }

theorem bothSpellings_tokenSound :
    RiskConfig.bothSpellings.TokenSound hexAddress Sha256.hexDigest := by
  have hvalid : RiskConfig.bothSpellings.validate ExecutionConfig.shadowDefaults = .ok () := by
    decide +kernel
  refine (tokenSound_iff (fun _ _ => Iff.rfl) Sha256.hexDigest hvalid).mpr ?_
  intro entry hentry address haddress
  have hweth : hexAddress entry = .ok 0x4200000000000000000000000000000000000006 := by
    rcases List.mem_pair.mp hentry with rfl | rfl
    · decide +kernel
    · decide +kernel
  obtain rfl := Except.ok.inj (hweth.symm.trans haddress)
  decide +kernel

/-- A denylist without `0x`, which validation takes all the same. -/
def RiskConfig.unprefixed : RiskConfig :=
  { tokenDenylist := ["4200000000000000000000000000000000000006"] }

def RiskPolicy.unprefixed : RiskPolicy :=
  { minNetProfitWei := 0, minProfitBps := 0, maxTradeNotionalWei := none,
    maxPerBlockNotionalWei := none, maxDailyNotionalWei := none, maxSlippageBps := 100,
    tokenAllowlist := ∅, tokenDenylist := {"4200000000000000000000000000000000000006"},
    maxConsecutiveReverts := 3, killSwitchPath := none }

/-- A loop over the denied token, spelled as the chain's logs spell it. -/
def RiskConfig.deniedLoop : Opportunity :=
  { id := "loop", kind := .twoLegLoop, blockContext := .block 1 none,
    settlementToken := "0x4200000000000000000000000000000000000006", inputAmount := 1000,
    expectedOutputAmount := 1100, expectedNetProfit := 100,
    route := [
      { venue := some .aerodrome, protocol := some .uniswapV2,
        target := "0x1111111111111111111111111111111111111111",
        poolAddress := some "0x1111111111111111111111111111111111111111",
        tokenIn := "0x4200000000000000000000000000000000000006",
        tokenOut := "0x3333333333333333333333333333333333333333", amountIn := some 1000,
        minAmountOut := some 1050 },
      { venue := some .aerodrome, protocol := some .uniswapV2,
        target := "0x2222222222222222222222222222222222222222",
        poolAddress := some "0x2222222222222222222222222222222222222222",
        tokenIn := "0x3333333333333333333333333333333333333333",
        tokenOut := "0x4200000000000000000000000000000000000006", amountIn := some 1050,
        minAmountOut := some 1100 }],
    triggerTxHash := none }

/-- The loop over the denied token is accepted. -/
theorem unprefixed_not_tokenSound :
    RiskConfig.unprefixed.validate ExecutionConfig.shadowDefaults = .ok ()
      ∧ ¬ RiskConfig.unprefixed.TokenSound hexAddress Sha256.hexDigest := by
  have hpolicy : RiskPolicy.fromConfig RiskConfig.unprefixed = .ok RiskPolicy.unprefixed := by
    decide +kernel
  have htokens : ∀ token ∈ RiskConfig.deniedLoop.tokens, (hexAddress token).isOk = true := by
    decide +kernel
  have haccepted : (RiskPolicy.unprefixed.assess Sha256.hexDigest ⟨1700000000, false⟩
      RiskConfig.deniedLoop
      { opportunityId := "loop", accepted := true, expectedGrossProfit := 100,
        expectedNetProfit := 100, gasEstimate := 180000, gasCostWei := 0, l1DataFee := 0,
        notes := [] } RiskState.default).1.accepted = true := by
    decide +kernel
  have hweth : hexAddress "0x4200000000000000000000000000000000000006"
      = .ok 0x4200000000000000000000000000000000000006 := by decide
  refine ⟨by decide, fun hsound => ?_⟩
  have hdenied := hsound _ _ _ _ _ hpolicy (fun token htoken => isOk_iff.mp (htokens token htoken))
    haccepted _ List.mem_cons_self _ hweth
  exact hdenied.1 _ (List.mem_singleton.mpr rfl) (by decide)

end BaseEngine
