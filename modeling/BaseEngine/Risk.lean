import Mathlib.Data.Finset.Basic
import Mathlib.Data.List.Destutter
import Mathlib.Data.List.Sort
import BaseEngine.Decision

/-!
# The risk engine

`RiskEngine` of `crates/decision/src/risk.rs`: the stateless gates in
their order, the stateful ones (operator kill switch, circuit breaker,
per-block and daily notional), and the state they read and commit to.

What an assessment takes from outside is its `Reading`: the clock, and
whether the kill-switch file exists. SHA-256 is the parameter `sha256`,
from bytes to the lower-case hexadecimal digest.

`assess_cases` says once what an assessment can do: deny and leave the
state, deny after pruning the daily entries, or accept and commit.
-/

namespace BaseEngine

open Machine Text

def secondsPerDay : Nat := 24 * 60 * 60

structure RiskPolicy where
  minNetProfitWei : Nat
  minProfitBps : Nat
  maxTradeNotionalWei : Option Nat
  maxPerBlockNotionalWei : Option Nat
  maxDailyNotionalWei : Option Nat
  maxSlippageBps : Nat
  tokenAllowlist : Finset String
  tokenDenylist : Finset String
  maxConsecutiveReverts : Nat
  killSwitchPath : Option String
deriving DecidableEq

/-- `dailyEntries` is the queue of times and notionals, oldest first. -/
structure RiskState where
  blockNotional : Option (Nat × Nat)
  dailyEntries : List (Nat × Nat)
  dailyTotal : Nat
  consecutiveReverts : Nat
  operatorKilled : Bool
deriving Repr, DecidableEq

/-- What the outside world answers during an assessment. -/
structure Reading where
  nowUnixSecs : Nat
  killSwitchFile : Bool
deriving Repr, DecidableEq

def RiskState.default : RiskState :=
  { blockNotional := none, dailyEntries := [], dailyTotal := 0, consecutiveReverts := 0,
    operatorKilled := false }

/-! ## Stateless gates -/

/-- The tokens an opportunity touches, sorted and without repetition. -/
def opportunityTokenIter (opportunity : Opportunity) : List String :=
  ((opportunity.settlementToken
      :: opportunity.route.flatMap fun leg => [leg.tokenIn, leg.tokenOut]).insertionSort
    (· ≤ ·)).destutter (· ≠ ·)

namespace RiskPolicy

def killSwitchGate (policy : RiskPolicy) (killSwitchFile : Bool) : Option String :=
  match policy.killSwitchPath with
  | none => none
  | some path =>
      if killSwitchFile then some s!"kill switch file is present at {path}" else none

def simulationGate (simulation : SimulationResult) : Option String :=
  if simulation.accepted then none else some "simulation rejected the opportunity"

def netProfitGate (policy : RiskPolicy) (simulation : SimulationResult) : Option String :=
  let profit := simulation.expectedNetProfit
  let minimum := policy.minNetProfitWei
  if profit < minimum then
    some s!"expected net profit {profit} is below the minimum {minimum}"
  else none

def profitBpsGate (policy : RiskPolicy) (opportunity : Opportunity)
    (simulation : SimulationResult) : Option String :=
  if 0 < policy.minProfitBps ∧ 0 < opportunity.inputAmount then
    let profit := simulation.expectedNetProfit
    let bps := policy.minProfitBps
    let bpsThreshold := saturatingMul 128 opportunity.inputAmount bps / 10000
    if profit < bpsThreshold then
      some s!"expected net profit {profit} is below {bps} bps of notional ({bpsThreshold})"
    else none
  else none

def tradeNotionalGate (policy : RiskPolicy) (opportunity : Opportunity) : Option String :=
  match policy.maxTradeNotionalWei with
  | none => none
  | some cap =>
      let notional := opportunity.inputAmount
      if cap < notional then some s!"trade notional {notional} exceeds per-trade cap {cap}"
      else none

def tokenGate (policy : RiskPolicy) (token : String) : Option String :=
  let normalized := toAsciiLowercase token
  if normalized ∈ policy.tokenDenylist then some s!"token {token} is on the denylist"
  else if policy.tokenAllowlist ≠ ∅ ∧ normalized ∉ policy.tokenAllowlist then
    some s!"token {token} is not on the allowlist"
  else none

def slippageGate (policy : RiskPolicy) (opportunity : Opportunity) : Option String :=
  if policy.maxSlippageBps < 10000
      ∧ opportunity.expectedOutputAmount < opportunity.inputAmount then
    let bps := policy.maxSlippageBps
    let shortfall := saturatingSub opportunity.inputAmount opportunity.expectedOutputAmount
    let capValue := saturatingMul 128 opportunity.inputAmount bps / 10000
    if capValue < shortfall then
      some s!"path shortfall {shortfall} exceeds {bps} bps of notional"
    else none
  else none

/-- The reason of the first gate that trips. -/
def statelessReject (policy : RiskPolicy) (killSwitchFile : Bool)
    (opportunity : Opportunity) (simulation : SimulationResult) : Option String :=
  (policy.killSwitchGate killSwitchFile).or <|
  (simulationGate simulation).or <|
  (policy.netProfitGate simulation).or <|
  (policy.profitBpsGate opportunity simulation).or <|
  (policy.tradeNotionalGate opportunity).or <|
  ((opportunityTokenIter opportunity).findSome? policy.tokenGate).or <|
  policy.slippageGate opportunity

/-! ### One condition for each gate -/

section Gates

variable {policy : RiskPolicy} {killSwitchFile : Bool} {opp : Opportunity}
  {sim : SimulationResult}

theorem killSwitchGate_eq_none_iff :
    policy.killSwitchGate killSwitchFile = none
      ↔ policy.killSwitchPath = none ∨ killSwitchFile = false := by
  unfold killSwitchGate
  cases policy.killSwitchPath with
  | none => simp
  | some path => cases killSwitchFile <;> simp

theorem simulationGate_eq_none_iff : simulationGate sim = none ↔ sim.accepted = true := by
  unfold simulationGate
  split <;> simp_all

theorem netProfitGate_eq_none_iff :
    policy.netProfitGate sim = none ↔ policy.minNetProfitWei ≤ sim.expectedNetProfit := by
  unfold netProfitGate
  dsimp only
  split <;> simp <;> omega

/-- The gate is off for a floor or a notional of zero, and then the share is
zero too. -/
theorem profitBpsGate_eq_none_iff :
    policy.profitBpsGate opp sim = none
      ↔ saturatingMul 128 opp.inputAmount policy.minProfitBps / 10000
        ≤ sim.expectedNetProfit := by
  unfold profitBpsGate
  dsimp only
  by_cases hon : 0 < policy.minProfitBps ∧ 0 < opp.inputAmount
  · rw [if_pos hon]
    split <;> simp <;> omega
  · have hzero : opp.inputAmount * policy.minProfitBps = 0 := by
      rw [Nat.mul_eq_zero]
      omega
    rw [if_neg hon, saturatingMul, hzero]
    simp

theorem tradeNotionalGate_eq_none_iff :
    policy.tradeNotionalGate opp = none
      ↔ ∀ cap, policy.maxTradeNotionalWei = some cap → opp.inputAmount ≤ cap := by
  unfold tradeNotionalGate
  cases policy.maxTradeNotionalWei with
  | none => simp
  | some cap =>
      dsimp only
      split <;> simp <;> omega

/-- The gate is off for an output that is not below the input, and then
nothing is lost. -/
theorem slippageGate_eq_none_iff :
    policy.slippageGate opp = none
      ↔ (policy.maxSlippageBps < 10000 →
          opp.inputAmount - opp.expectedOutputAmount
            ≤ saturatingMul 128 opp.inputAmount policy.maxSlippageBps / 10000) := by
  unfold slippageGate
  dsimp only
  rw [saturatingSub]
  by_cases hon : policy.maxSlippageBps < 10000
      ∧ opp.expectedOutputAmount < opp.inputAmount
  · rw [if_pos hon]
    split <;> simp [hon.1] <;> omega
  · rw [if_neg hon]
    simp only [true_iff]
    intro hlow
    have hnone : opp.inputAmount - opp.expectedOutputAmount = 0 := by omega
    rw [hnone]
    exact Nat.zero_le _

/-- What has passed the stateless gates. -/
structure Passes (policy : RiskPolicy) (killSwitchFile : Bool) (opp : Opportunity)
    (sim : SimulationResult) : Prop where
  killSwitch : policy.killSwitchPath = none ∨ killSwitchFile = false
  simulated : sim.accepted = true
  netProfit : policy.minNetProfitWei ≤ sim.expectedNetProfit
  profitBps : saturatingMul 128 opp.inputAmount policy.minProfitBps / 10000
    ≤ sim.expectedNetProfit
  tradeNotional : ∀ cap, policy.maxTradeNotionalWei = some cap → opp.inputAmount ≤ cap
  tokens : ∀ token ∈ opportunityTokenIter opp, policy.tokenGate token = none
  slippage : policy.maxSlippageBps < 10000 → opp.inputAmount - opp.expectedOutputAmount
    ≤ saturatingMul 128 opp.inputAmount policy.maxSlippageBps / 10000

theorem statelessReject_eq_none_iff :
    policy.statelessReject killSwitchFile opp sim = none
      ↔ policy.Passes killSwitchFile opp sim := by
  unfold statelessReject
  simp only [Option.or_eq_none_iff, killSwitchGate_eq_none_iff, simulationGate_eq_none_iff,
    netProfitGate_eq_none_iff, profitBpsGate_eq_none_iff, tradeNotionalGate_eq_none_iff,
    List.findSome?_eq_none_iff, slippageGate_eq_none_iff]
  constructor
  · rintro ⟨hkill, hsim, hnet, hbps, htrade, htokens, hslippage⟩
    exact ⟨hkill, hsim, hnet, hbps, htrade, htokens, hslippage⟩
  · intro h
    exact ⟨h.killSwitch, h.simulated, h.netProfit, h.profitBps, h.tradeNotional, h.tokens,
      h.slippage⟩

end Gates

end RiskPolicy

/-! ## State -/

/-- The loop over the queue; the total is whatever an amount can be subtracted
from. -/
def pruneLoop {τ : Type} (subtract : τ → Nat → τ) (horizon : Nat) :
    List (Nat × Nat) → τ → List (Nat × Nat) × τ
  | [], total => ([], total)
  | (ts, amount) :: rest, total =>
      if ts < horizon then pruneLoop subtract horizon rest (subtract total amount)
      else ((ts, amount) :: rest, total)

def pruneDailyEntries (state : RiskState) (now : Nat) : RiskState :=
  let horizon := saturatingSub now secondsPerDay
  let pruned := pruneLoop saturatingSub horizon state.dailyEntries state.dailyTotal
  { state with dailyEntries := pruned.1, dailyTotal := pruned.2 }

/-- The bucket of the per-block cap; all pre-confirmed opportunities share
the largest block number. -/
def blockKey : BlockContext → Nat
  | .block number _ => number
  | .pending => u64Max

namespace RiskState

def blockUsed (state : RiskState) (block : Nat) : Nat :=
  match state.blockNotional with
  | some (current, used) => if current = block then used else 0
  | none => 0

def triggerKillSwitch (state : RiskState) : RiskState :=
  { state with operatorKilled := true }

def recordOutcome (state : RiskState) (success : Bool) : RiskState :=
  if success then { state with consecutiveReverts := 0 }
  else { state with consecutiveReverts := saturatingAdd 32 state.consecutiveReverts 1 }

/-- Count the notional of an accepted opportunity. -/
def commit (state : RiskState) (block now amount : Nat) : RiskState :=
  { state with
      blockNotional := some (block, saturatingAdd 128 (state.blockUsed block) amount),
      dailyEntries := state.dailyEntries ++ [(now, amount)],
      dailyTotal := saturatingAdd 128 state.dailyTotal amount }

end RiskState

/-! ## Assessment -/

/-- The `width` bytes of a number, least significant first. -/
def toLeBytes : Nat → Nat → List UInt8
  | 0, _ => []
  | width + 1, n => UInt8.ofNat (n % 256) :: toLeBytes width (n / 256)

@[simp] theorem length_toLeBytes (width n : Nat) : (toLeBytes width n).length = width := by
  induction width generalizing n with
  | zero => rfl
  | succ width ih => simp [toLeBytes, ih]

theorem toLeBytes_inj {width n m : Nat} (hn : n < 256 ^ width) (hm : m < 256 ^ width)
    (h : toLeBytes width n = toLeBytes width m) : n = m := by
  induction width generalizing n m with
  | zero => omega
  | succ width ih =>
      rw [pow_succ] at hn hm
      rw [toLeBytes, toLeBytes, List.cons.injEq] at h
      obtain ⟨hlow, hhigh⟩ := h
      have hlow : n % 256 = m % 256 := by
        have := congrArg UInt8.toNat hlow
        simpa using this
      have hhigh : n / 256 = m / 256 := ih (by omega) (by omega) hhigh
      omega

/-- What the risk hash is taken of. -/
def riskHashInput (opportunity : Opportunity) (simulation : SimulationResult)
    (minSurplus : Nat) : List UInt8 :=
  opportunity.id.toUTF8.data.toList ++ toLeBytes 16 opportunity.expectedOutputAmount
    ++ toLeBytes 16 simulation.expectedNetProfit ++ toLeBytes 16 simulation.gasCostWei
    ++ toLeBytes 16 simulation.l1DataFee ++ toLeBytes 16 minSurplus

namespace RiskPolicy

variable (sha256 : List UInt8 → String)

def decision (policy : RiskPolicy) (opportunity : Opportunity)
    (simulation : SimulationResult) (reason : Option String) : RiskDecision :=
  { opportunityId := opportunity.id, accepted := reason.isNone, reason,
    riskHash := sha256 (riskHashInput opportunity simulation policy.minNetProfitWei),
    minSurplus := policy.minNetProfitWei }

def deny (policy : RiskPolicy) (opportunity : Opportunity) (simulation : SimulationResult)
    (reason : String) : RiskDecision :=
  policy.decision sha256 opportunity simulation (some reason)

/-- The breaker is off when its bound is zero. -/
def breakerTripped (policy : RiskPolicy) (state : RiskState) : Prop :=
  policy.maxConsecutiveReverts ≤ state.consecutiveReverts ∧ 0 < policy.maxConsecutiveReverts

instance (policy : RiskPolicy) (state : RiskState) :
    Decidable (policy.breakerTripped state) :=
  inferInstanceAs (Decidable (_ ∧ _))

/-- The cap, when there is one and the projected notional is above it. -/
def exceededCap (cap : Option Nat) (projected : Nat) : Option Nat :=
  cap.filter fun cap => decide (cap < projected)

/-- The checks before the daily window is touched. -/
def reject (policy : RiskPolicy) (reading : Reading) (opportunity : Opportunity)
    (simulation : SimulationResult) (state : RiskState) : Option String :=
  match policy.statelessReject reading.killSwitchFile opportunity simulation with
  | some reason => some reason
  | none =>
      if state.operatorKilled then some "operator kill switch is engaged"
      else if policy.breakerTripped state then
        let reverts := state.consecutiveReverts
        some s!"circuit breaker tripped after {reverts} consecutive reverts"
      else
        let projected := saturatingAdd 128 (state.blockUsed (blockKey opportunity.blockContext))
          opportunity.inputAmount
        (exceededCap policy.maxPerBlockNotionalWei projected).map fun cap =>
          s!"per-block notional {projected} would exceed cap {cap}"

/-- The check of the daily cap, on the pruned window. -/
def dailyReject (policy : RiskPolicy) (opportunity : Opportunity) (pruned : RiskState) :
    Option String :=
  let projected := saturatingAdd 128 pruned.dailyTotal opportunity.inputAmount
  (exceededCap policy.maxDailyNotionalWei projected).map fun cap =>
    s!"daily notional {projected} would exceed cap {cap}"

def assess (policy : RiskPolicy) (reading : Reading) (opportunity : Opportunity)
    (simulation : SimulationResult) (state : RiskState) : RiskDecision × RiskState :=
  let now := reading.nowUnixSecs
  let deny := policy.deny sha256 opportunity simulation
  match policy.reject reading opportunity simulation state with
  | some reason => (deny reason, state)
  | none =>
      let pruned := pruneDailyEntries state now
      match policy.dailyReject opportunity pruned with
      | some reason => (deny reason, pruned)
      | none =>
          (policy.decision sha256 opportunity simulation none,
            pruned.commit (blockKey opportunity.blockContext) now opportunity.inputAmount)

theorem reject_eq_none_iff {policy : RiskPolicy} {reading : Reading} {opp : Opportunity}
    {sim : SimulationResult} {state : RiskState} :
    policy.reject reading opp sim state = none
      ↔ policy.statelessReject reading.killSwitchFile opp sim = none
        ∧ state.operatorKilled = false ∧ ¬ policy.breakerTripped state
        ∧ exceededCap policy.maxPerBlockNotionalWei
          (saturatingAdd 128 (state.blockUsed (blockKey opp.blockContext)) opp.inputAmount)
            = none := by
  unfold reject
  cases policy.statelessReject reading.killSwitchFile opp sim with
  | some reason => simp
  | none =>
      by_cases hkilled : state.operatorKilled = true
      · simp [hkilled]
      · by_cases hbreaker : policy.breakerTripped state
        · simp [hkilled, hbreaker]
        · simp [hkilled, hbreaker]

theorem dailyReject_eq_none_iff {policy : RiskPolicy} {opp : Opportunity} {pruned : RiskState} :
    policy.dailyReject opp pruned = none
      ↔ exceededCap policy.maxDailyNotionalWei
        (saturatingAdd 128 pruned.dailyTotal opp.inputAmount) = none := by
  unfold dailyReject
  exact Option.map_eq_none_iff

/-! ## What an assessment can do -/

/-- The three ways an assessment ends. -/
inductive Assessed (policy : RiskPolicy) (reading : Reading) (opp : Opportunity)
    (sim : SimulationResult) (state : RiskState) : RiskDecision × RiskState → Prop
  | denied {reason : String} :
      Assessed policy reading opp sim state (policy.deny sha256 opp sim reason, state)
  | deniedDaily {reason : String}
      (hstateless : policy.statelessReject reading.killSwitchFile opp sim = none) :
      Assessed policy reading opp sim state
        (policy.deny sha256 opp sim reason, pruneDailyEntries state reading.nowUnixSecs)
  | accepted (hstateless : policy.statelessReject reading.killSwitchFile opp sim = none)
      (hkilled : state.operatorKilled = false) (hbreaker : ¬ policy.breakerTripped state)
      (hblock : exceededCap policy.maxPerBlockNotionalWei
        (saturatingAdd 128 (state.blockUsed (blockKey opp.blockContext)) opp.inputAmount) = none)
      (hdaily : exceededCap policy.maxDailyNotionalWei
        (saturatingAdd 128 (pruneDailyEntries state reading.nowUnixSecs).dailyTotal
          opp.inputAmount) = none) :
      Assessed policy reading opp sim state
        (policy.decision sha256 opp sim none,
          (pruneDailyEntries state reading.nowUnixSecs).commit (blockKey opp.blockContext)
            reading.nowUnixSecs opp.inputAmount)

theorem assess_cases (policy : RiskPolicy) (reading : Reading) (opp : Opportunity)
    (sim : SimulationResult) (state : RiskState) :
    Assessed sha256 policy reading opp sim state
      (policy.assess sha256 reading opp sim state) := by
  unfold assess
  dsimp only
  cases hreject : policy.reject reading opp sim state with
  | some reason => exact .denied
  | none =>
      obtain ⟨hstateless, hkilled, hbreaker, hblock⟩ := reject_eq_none_iff.mp hreject
      dsimp only
      cases hdaily : policy.dailyReject opp (pruneDailyEntries state reading.nowUnixSecs) with
      | some reason => exact .deniedDaily hstateless
      | none =>
          exact .accepted hstateless hkilled hbreaker hblock (dailyReject_eq_none_iff.mp hdaily)

/-- Every decision carries the hash of what it was taken on. -/
theorem riskHash_assess (policy : RiskPolicy) (reading : Reading) (opp : Opportunity)
    (sim : SimulationResult) (state : RiskState) :
    (policy.assess sha256 reading opp sim state).1.riskHash
      = sha256 (riskHashInput opp sim policy.minNetProfitWei) := by
  have hcases := assess_cases sha256 policy reading opp sim state
  generalize policy.assess sha256 reading opp sim state = result at hcases ⊢
  cases hcases with
  | denied => rfl
  | deniedDaily _ => rfl
  | accepted _ _ _ _ _ => rfl

/-- Whatever passes every gate is accepted. -/
theorem assess_of_gates {policy : RiskPolicy} {reading : Reading} {opp : Opportunity}
    {sim : SimulationResult} {state : RiskState}
    (hstateless : policy.statelessReject reading.killSwitchFile opp sim = none)
    (hkilled : state.operatorKilled = false) (hbreaker : ¬ policy.breakerTripped state)
    (hblock : exceededCap policy.maxPerBlockNotionalWei
      (saturatingAdd 128 (state.blockUsed (blockKey opp.blockContext)) opp.inputAmount) = none)
    (hdaily : exceededCap policy.maxDailyNotionalWei
      (saturatingAdd 128 (pruneDailyEntries state reading.nowUnixSecs).dailyTotal
        opp.inputAmount) = none) :
    policy.assess sha256 reading opp sim state
      = (policy.decision sha256 opp sim none,
          (pruneDailyEntries state reading.nowUnixSecs).commit (blockKey opp.blockContext)
            reading.nowUnixSecs opp.inputAmount) := by
  have hreject := reject_eq_none_iff.mpr ⟨hstateless, hkilled, hbreaker, hblock⟩
  unfold assess
  simp only [hreject, dailyReject_eq_none_iff.mpr hdaily]

theorem exceededCap_eq_none_iff {cap : Option Nat} {projected : Nat} :
    exceededCap cap projected = none ↔ ∀ c, cap = some c → projected ≤ c := by
  cases cap with
  | none => simp [exceededCap]
  | some c => simp [exceededCap, Option.filter]

/-- An accepted opportunity passed the stateless gates, and the decision
carries the profit floor. -/
theorem passes_of_accepted {policy : RiskPolicy} {reading : Reading} {opp : Opportunity}
    {sim : SimulationResult} {state : RiskState}
    (h : (policy.assess sha256 reading opp sim state).1.accepted = true) :
    policy.Passes reading.killSwitchFile opp sim
      ∧ (policy.assess sha256 reading opp sim state).1.minSurplus = policy.minNetProfitWei := by
  have hcases := assess_cases sha256 policy reading opp sim state
  generalize policy.assess sha256 reading opp sim state = result at h hcases
  cases hcases with
  | denied => cases h
  | deniedDaily _ => cases h
  | accepted hstateless _ _ _ _ => exact ⟨statelessReject_eq_none_iff.mp hstateless, rfl⟩

theorem assess_accepted {policy : RiskPolicy} {reading : Reading} {opp : Opportunity}
    {sim : SimulationResult} {state : RiskState}
    (h : (policy.assess sha256 reading opp sim state).1.accepted = true) :
    sim.accepted = true ∧ policy.minNetProfitWei ≤ sim.expectedNetProfit
      ∧ (policy.assess sha256 reading opp sim state).1.minSurplus = policy.minNetProfitWei := by
  obtain ⟨hpasses, hsurplus⟩ := passes_of_accepted sha256 h
  exact ⟨hpasses.simulated, hpasses.netProfit, hsurplus⟩

end RiskPolicy

end BaseEngine
