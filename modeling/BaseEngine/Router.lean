import BaseEngine.Lib.Abi
import BaseEngine.Lib.Fallible
import BaseEngine.Lib.Machine
import BaseEngine.Types

/-!
# The execution router

`BaseExecutionRouter.sol`: the route engine with its three venue adapters,
the two entry points and the flash-loan callback. A call that reverts is an
error and has no state; a call that completes returns the world after it.

Everything outside the contract's code (tokens, venues, the vault, the ABI
coder and the hash of the loan's user data) is a `Chain`, whose calls may do
anything to the world, the router's own storage included, or revert. The
contracts it inherits from are a parameter too, with named assumptions
(`Inherited`).

`runRoute_ok` says what a completed route implies, for any number of steps;
`receiveFlashLoan_ok` what a completed callback implies.
-/

namespace BaseEngine

open Abi Fallible Machine

abbrev Bytes32 := BitVec 256

inductive VenueKind where
  | unsupported
  | uniswapV2
  | uniswapV3Single
  | aerodromeV2
deriving Repr, DecidableEq

structure RouteStep where
  venueKind : VenueKind
  target : EvmAddress
  tokenIn : EvmAddress
  tokenOut : EvmAddress
  fee : Nat
  minAmountOut : Nat
  extraData : List UInt8
deriving Repr, DecidableEq

structure ExecutionPlan where
  settlementToken : EvmAddress
  fundingAmount : Nat
  minRepayAmount : Nat
  minSurplus : Nat
  deadline : Nat
  steps : List RouteStep
  riskHash : Bytes32
deriving Repr, DecidableEq

/-- The contract's own errors, the two kinds of failure the compiler adds,
the inherited guards, and an external call's revert data passed on. -/
inductive RouterError where
  | executorNotAuthorized
  | planExpired (deadline nowTimestamp : Nat)
  | emptyRoute
  | unsupportedVenue (venueKind : VenueKind)
  | invalidRouteToken (stepIndex : Nat) (expected actual : EvmAddress)
  | insufficientStepOutput (stepIndex amountOut minAmountOut : Nat)
  | insufficientSettlement (amountOut minimumAmountOut : Nat)
  | unexpectedFlashLoanCaller (caller : EvmAddress)
  | unexpectedFlashLoanFee (fee : Nat)
  | unexpectedFlashLoanToken (expected actual : EvmAddress)
  | unexpectedFlashLoanAmount (expected actual : Nat)
  | unexpectedFlashLoanArrayLength
  | loanFingerprintMismatch (expected actual : Bytes32)
  | flashLoanContextActive
  | enforcedPause
  | expectedPause
  | reentrantCall
  | ownableUnauthorizedAccount (account : EvmAddress)
  | ownableInvalidOwner (owner : EvmAddress)
  | arithmeticPanic
  | abiDecode
  | external (data : List UInt8)
deriving Repr, DecidableEq

structure RouterStorage where
  owner : EvmAddress
  paused : Bool
  entered : Bool
  executors : EvmAddress → Bool
  activeLoanFingerprint : Bytes32

/-- The router's storage and everything else. -/
structure World (ω : Type) where
  storage : RouterStorage
  rest : ω

structure ExactInputSingleParams where
  tokenIn : EvmAddress
  tokenOut : EvmAddress
  fee : Nat
  recipient : EvmAddress
  deadline : Nat
  amountIn : Nat
  amountOutMinimum : Nat
  sqrtPriceLimitX96 : Nat
deriving Repr, DecidableEq

structure AerodromeRoute where
  source : EvmAddress
  destination : EvmAddress
  stable : Bool
  factory : EvmAddress
deriving Repr, DecidableEq

/-- An external call: the world after it with its answer, or revert data. -/
abbrev Call (ω α : Type) := World ω → Except (List UInt8) (World ω × α)

/-- What the router calls, and the ABI coder and hash of its user data. -/
structure Chain (ω UserData : Type) where
  forceApprove : (token spender : EvmAddress) → (amount : Nat) → Call ω Unit
  safeTransfer : (token recipient : EvmAddress) → (amount : Nat) → Call ω Unit
  safeTransferFrom : (token source recipient : EvmAddress) → (amount : Nat) → Call ω Unit
  exactInputSingle : (target : EvmAddress) → ExactInputSingleParams → Call ω Nat
  swapExactTokensForTokens : (target : EvmAddress) → (amountIn amountOutMin : Nat) →
    (path : List EvmAddress) → (recipient : EvmAddress) → (deadline : Nat) → Call ω (List Nat)
  swapAerodrome : (target : EvmAddress) → (amountIn amountOutMin : Nat) →
    (routes : List AerodromeRoute) → (recipient : EvmAddress) → (deadline : Nat) →
    Call ω (List Nat)
  flashLoan : (vault recipient : EvmAddress) → (tokens : List EvmAddress) →
    (amounts : List Nat) → UserData → Call ω Unit
  encodeUserData : EvmAddress → ExecutionPlan → UserData
  decodeUserData : UserData → Option (EvmAddress × ExecutionPlan)
  keccak256 : UserData → Bytes32

structure Msg where
  sender : EvmAddress
  timestamp : Nat
deriving Repr, DecidableEq

/-- The reentrancy lock and the loan context are the ones of `s`. -/
def RouterStorage.SameContext (s s' : RouterStorage) : Prop :=
  s'.entered = s.entered ∧ s'.activeLoanFingerprint = s.activeLoanFingerprint

/-- What the router inherits from OpenZeppelin's `Ownable`, `Pausable` and
`ReentrancyGuard`, whose code is not part of the repository: the modifiers and
functions, and what they are assumed to do. -/
structure Inherited where
  onlyOwner : Msg → RouterStorage → Except RouterError Unit
  whenNotPaused : RouterStorage → Except RouterError Unit
  -- `nonReentrant` before and after the body it wraps
  nonReentrantBefore : RouterStorage → Except RouterError RouterStorage
  nonReentrantAfter : RouterStorage → RouterStorage
  pause : RouterStorage → Except RouterError RouterStorage
  unpause : RouterStorage → Except RouterError RouterStorage
  transferOwnership : Msg → (newOwner : EvmAddress) → RouterStorage →
    Except RouterError RouterStorage
  renounceOwnership : Msg → RouterStorage → Except RouterError RouterStorage
  locks : ∀ {s s'}, nonReentrantBefore s = .ok s' →
    s.entered = false ∧ s' = { s with entered := true }
  unlocks : ∀ s, nonReentrantAfter s = { s with entered := false }
  pause_keeps : ∀ {s s'}, pause s = .ok s' → s.SameContext s'
  unpause_keeps : ∀ {s s'}, unpause s = .ok s' → s.SameContext s'
  transferOwnership_keeps : ∀ {msg newOwner s s'}, transferOwnership msg newOwner s = .ok s' →
    s.SameContext s'
  renounceOwnership_keeps : ∀ {msg s s'}, renounceOwnership msg s = .ok s' → s.SameContext s'

/-- The contract's own address, the vault it was deployed with and what it
inherits. -/
structure RouterContract where
  self : EvmAddress
  balancerVault : EvmAddress
  inherited : Inherited

/-- What a completed plan reports. -/
structure PlanExecuted where
  caller : EvmAddress
  settlementToken : EvmAddress
  fundingAmount : Nat
  amountOut : Nat
  surplus : Nat
  flashLoaned : Bool
  riskHash : Bytes32
deriving Repr, DecidableEq

variable {ω UserData : Type} (chain : Chain ω UserData) (contract : RouterContract)

/-- An external call from the contract's code: a revert is passed on. -/
def callOut {α : Type} (call : Call ω α) (w : World ω) : Except RouterError (World ω × α) :=
  (call w).mapError RouterError.external

/-- Subtraction and addition of Solidity 0.8, which panic. -/
def addUint (a b : Nat) : Except RouterError Nat := okOr (checkedAdd 256 a b) .arithmeticPanic

def subUint (a b : Nat) : Except RouterError Nat := okOr (checkedSub a b) .arithmeticPanic

/-- `abi.decode(data, (bool, address))`: both words must be in range. -/
def abiDecodeBoolAddress (data : List UInt8) : Option (Bool × EvmAddress) :=
  let flag := ofBeBytes (data.take 32)
  let address := ofBeBytes ((data.drop 32).take 32)
  if 64 ≤ data.length ∧ flag ≤ 1 ∧ address < 2 ^ 160 then
    some (decide (flag = 1), BitVec.ofNat 160 address)
  else none

/-! ## The route engine -/

def swapUniswapV3Single (step : RouteStep) (amountIn deadline : Nat) (w : World ω) :
    Except RouterError (World ω × Nat) := do
  let (w, _) ← callOut (chain.forceApprove step.tokenIn step.target amountIn) w
  callOut (chain.exactInputSingle step.target
    { tokenIn := step.tokenIn, tokenOut := step.tokenOut, fee := step.fee,
      recipient := contract.self, deadline, amountIn,
      amountOutMinimum := step.minAmountOut, sqrtPriceLimitX96 := 0 }) w

/-- The index of the last amount underflows when there is none. -/
def swapUniswapV2 (step : RouteStep) (amountIn deadline : Nat) (w : World ω) :
    Except RouterError (World ω × Nat) := do
  let (w, _) ← callOut (chain.forceApprove step.tokenIn step.target amountIn) w
  let (w, amounts) ← callOut (chain.swapExactTokensForTokens step.target amountIn
    step.minAmountOut [step.tokenIn, step.tokenOut] contract.self deadline) w
  let out ← okOr amounts.getLast? .arithmeticPanic
  return (w, out)

def swapAerodromeV2 (step : RouteStep) (amountIn deadline : Nat) (w : World ω) :
    Except RouterError (World ω × Nat) := do
  let (stable, factory) ← okOr (abiDecodeBoolAddress step.extraData) .abiDecode
  let (w, _) ← callOut (chain.forceApprove step.tokenIn step.target amountIn) w
  let (w, amounts) ← callOut (chain.swapAerodrome step.target amountIn step.minAmountOut
    [{ source := step.tokenIn, destination := step.tokenOut, stable, factory }]
    contract.self deadline) w
  let out ← okOr amounts.getLast? .arithmeticPanic
  return (w, out)

def executeStep (step : RouteStep) (amountIn deadline : Nat) (w : World ω) :
    Except RouterError (World ω × Nat) :=
  match step.venueKind with
  | .uniswapV3Single => swapUniswapV3Single chain contract step amountIn deadline w
  | .uniswapV2 => swapUniswapV2 chain contract step amountIn deadline w
  | .aerodromeV2 => swapAerodromeV2 chain contract step amountIn deadline w
  | .unsupported => .error (.unsupportedVenue step.venueKind)

/-- The loop of `_runRoute` from step `index` on: the token and the amount
in hand when it ends. -/
def runSteps (deadline : Nat) : (index : Nat) → List RouteStep → EvmAddress → Nat → World ω →
    Except RouterError (World ω × EvmAddress × Nat)
  | _, [], currentToken, currentAmount, w => .ok (w, currentToken, currentAmount)
  | index, step :: rest, currentToken, currentAmount, w =>
      if step.tokenIn ≠ currentToken then
        .error (.invalidRouteToken index currentToken step.tokenIn)
      else do
        let (w, nextAmount) ← executeStep chain contract step currentAmount deadline w
        if nextAmount < step.minAmountOut then
          .error (.insufficientStepOutput index nextAmount step.minAmountOut)
        else runSteps deadline (index + 1) rest step.tokenOut nextAmount w

def runRoute (plan : ExecutionPlan) (startingAmount : Nat) (w : World ω) :
    Except RouterError (World ω × Nat) :=
  if plan.steps = [] then .error .emptyRoute
  else do
    let (w, currentToken, currentAmount) ←
      runSteps chain contract plan.deadline 0 plan.steps plan.settlementToken startingAmount w
    if currentToken ≠ plan.settlementToken then
      .error (.invalidRouteToken plan.steps.length plan.settlementToken currentToken)
    else return (w, currentAmount)

/-- The route and the check both entry points make on its output. -/
def runRouteChecked (plan : ExecutionPlan) (w : World ω) :
    Except RouterError (World ω × Nat) := do
  let (w, amountOut) ← runRoute chain contract plan plan.fundingAmount w
  let minimumSettlement ← addUint plan.minRepayAmount plan.minSurplus
  if amountOut < minimumSettlement then
    .error (.insufficientSettlement amountOut minimumSettlement)
  else return (w, amountOut)

/-! ## Entry points and callback -/

def setFingerprint (fingerprint : Bytes32) (w : World ω) : World ω :=
  { w with storage := { w.storage with activeLoanFingerprint := fingerprint } }

def setEntered (entered : Bool) (w : World ω) : World ω :=
  { w with storage := { w.storage with entered } }

def onlyExecutor (msg : Msg) (s : RouterStorage) : Except RouterError Unit :=
  if s.executors msg.sender = false ∧ msg.sender ≠ s.owner then .error .executorNotAuthorized
  else .ok ()

def checkDeadline (msg : Msg) (deadline : Nat) : Except RouterError Unit :=
  if deadline < msg.timestamp then .error (.planExpired deadline msg.timestamp) else .ok ()

/-- The modifiers `onlyExecutor`, `whenNotPaused` and `nonReentrant`, then
the deadline and the loan context, which both entry points check first. -/
def enterPlan (msg : Msg) (plan : ExecutionPlan) (w : World ω) :
    Except RouterError (World ω) := do
  onlyExecutor msg w.storage
  contract.inherited.whenNotPaused w.storage
  let s ← contract.inherited.nonReentrantBefore w.storage
  checkDeadline msg plan.deadline
  if s.activeLoanFingerprint ≠ 0 then .error .flashLoanContextActive
  else return { w with storage := s }

/-- The end of `nonReentrant`. -/
def leavePlan (w : World ω) : World ω :=
  { w with storage := contract.inherited.nonReentrantAfter w.storage }

def executePlan (msg : Msg) (plan : ExecutionPlan) (w : World ω) :
    Except RouterError (World ω × PlanExecuted) := do
  let w ← enterPlan contract msg plan w
  let (w, _) ← callOut
    (chain.safeTransferFrom plan.settlementToken msg.sender contract.self plan.fundingAmount) w
  let (w, amountOut) ← runRouteChecked chain contract plan w
  let (w, _) ← callOut (chain.safeTransfer plan.settlementToken msg.sender amountOut) w
  let surplus ← subUint amountOut plan.minRepayAmount
  return (leavePlan contract w,
    { caller := msg.sender, settlementToken := plan.settlementToken,
      fundingAmount := plan.fundingAmount, amountOut, surplus, flashLoaned := false,
      riskHash := plan.riskHash })

def executePlanWithFlashLoan (msg : Msg) (plan : ExecutionPlan) (w : World ω) :
    Except RouterError (World ω) := do
  let w ← enterPlan contract msg plan w
  let userData := chain.encodeUserData msg.sender plan
  let fingerprint := chain.keccak256 userData
  let (w, _) ← callOut (chain.flashLoan contract.balancerVault contract.self
    [plan.settlementToken] [plan.fundingAmount] userData) (setFingerprint fingerprint w)
  if w.storage.activeLoanFingerprint ≠ 0 then
    .error (.loanFingerprintMismatch 0 fingerprint)
  else return leavePlan contract w

/-- The caller gets what is left of the output, if anything. -/
def paySurplus (token loanCaller : EvmAddress) (surplus : Nat) (w : World ω) :
    Except RouterError (World ω) :=
  if 0 < surplus then do
    let (w, _) ← callOut (chain.safeTransfer token loanCaller surplus) w
    return w
  else .ok w

def receiveFlashLoan (msg : Msg) (tokens : List EvmAddress) (amounts feeAmounts : List Nat)
    (userData : UserData) (w : World ω) : Except RouterError (World ω × PlanExecuted) :=
  if msg.sender ≠ contract.balancerVault then .error (.unexpectedFlashLoanCaller msg.sender)
  else
    let expected := w.storage.activeLoanFingerprint
    let fingerprint := chain.keccak256 userData
    if expected = 0 ∨ expected ≠ fingerprint then
      .error (.loanFingerprintMismatch expected fingerprint)
    else do
      let w := setFingerprint 0 w
      let (loanCaller, plan) ← okOr (chain.decodeUserData userData) .abiDecode
      match tokens, amounts, feeAmounts with
      | [token], [amount], [fee] =>
          if token ≠ plan.settlementToken then
            .error (.unexpectedFlashLoanToken plan.settlementToken token)
          else if amount ≠ plan.fundingAmount then
            .error (.unexpectedFlashLoanAmount plan.fundingAmount amount)
          else if fee ≠ 0 then .error (.unexpectedFlashLoanFee fee)
          else do
            let (w, amountOut) ← runRouteChecked chain contract plan w
            let (w, _) ← callOut
              (chain.safeTransfer token contract.balancerVault plan.fundingAmount) w
            let surplus ← subUint amountOut plan.fundingAmount
            let w ← paySurplus chain token loanCaller surplus w
            return (w,
              { caller := loanCaller, settlementToken := plan.settlementToken,
                fundingAmount := plan.fundingAmount, amountOut, surplus, flashLoaned := true,
                riskHash := plan.riskHash })
      | _, _, _ => .error .unexpectedFlashLoanArrayLength

/-! ## Administration -/

def setExecutor (msg : Msg) (executor : EvmAddress) (allowed : Bool) (s : RouterStorage) :
    Except RouterError RouterStorage := do
  contract.inherited.onlyOwner msg s
  return { s with executors := Function.update s.executors executor allowed }

def pause (msg : Msg) (s : RouterStorage) : Except RouterError RouterStorage := do
  contract.inherited.onlyOwner msg s
  contract.inherited.pause s

def unpause (msg : Msg) (s : RouterStorage) : Except RouterError RouterStorage := do
  contract.inherited.onlyOwner msg s
  contract.inherited.unpause s

def rescueToken (msg : Msg) (token recipient : EvmAddress) (amount : Nat) (w : World ω) :
    Except RouterError (World ω) := do
  contract.inherited.onlyOwner msg w.storage
  let (w, _) ← callOut (chain.safeTransfer token recipient amount) w
  return w

/-! ## What a completed route implies -/

variable {chain contract}

/-- The loop ends with the last step's token and at least its minimum. -/
theorem runSteps_ok {deadline index : Nat} {steps : List RouteStep}
    {token token' : EvmAddress} {amount amount' : Nat} {w w' : World ω} {last : RouteStep}
    (h : runSteps chain contract deadline index steps token amount w = .ok (w', token', amount'))
    (hlast : steps.getLast? = some last) :
    last.minAmountOut ≤ amount' ∧ token' = last.tokenOut := by
  induction steps generalizing index token amount w with
  | nil => cases hlast
  | cons step rest ih =>
      rw [runSteps] at h
      by_cases htoken : step.tokenIn ≠ token
      · rw [if_pos htoken] at h; cases h
      · rw [if_neg htoken] at h
        obtain ⟨⟨w₁, next⟩, -, h⟩ := bind_eq_ok_iff.mp h
        by_cases hlow : next < step.minAmountOut
        · simp only [if_pos hlow] at h; cases h
        · simp only [if_neg hlow] at h
          cases rest with
          | nil =>
              rw [runSteps] at h
              cases h
              obtain rfl : step = last := Option.some.inj hlast
              exact ⟨Nat.le_of_not_lt hlow, rfl⟩
          | cons step' rest' =>
              rw [List.getLast?_cons_cons] at hlast
              exact ih h hlast

theorem runRoute_ok {plan : ExecutionPlan} {amount out : Nat} {w w' : World ω}
    (h : runRoute chain contract plan amount w = .ok (w', out)) :
    ∃ last, plan.steps.getLast? = some last ∧ last.minAmountOut ≤ out
      ∧ last.tokenOut = plan.settlementToken := by
  unfold runRoute at h
  by_cases hempty : plan.steps = []
  · rw [if_pos hempty] at h; cases h
  · rw [if_neg hempty] at h
    obtain ⟨⟨w₁, token, current⟩, hsteps, h⟩ := bind_eq_ok_iff.mp h
    by_cases htoken : token ≠ plan.settlementToken
    · simp only [if_pos htoken] at h; cases h
    · simp only [if_neg htoken] at h
      cases h
      have hlast := List.getLast?_eq_some_getLast hempty
      obtain ⟨hmin, htok⟩ := runSteps_ok hsteps hlast
      rw [ne_eq, not_not] at htoken
      exact ⟨_, hlast, hmin, htok.symm.trans htoken⟩

theorem runRouteChecked_ok {plan : ExecutionPlan} {out : Nat} {w w' : World ω}
    (h : runRouteChecked chain contract plan w = .ok (w', out)) :
    (∃ w₁, runRoute chain contract plan plan.fundingAmount w = .ok (w₁, out))
      ∧ plan.minRepayAmount + plan.minSurplus ≤ out := by
  obtain ⟨⟨w₁, amountOut⟩, hroute, h⟩ := bind_eq_ok_iff.mp h
  obtain ⟨minimum, hmin, h⟩ := okOr_bind_eq_ok_iff.mp h
  obtain ⟨-, rfl⟩ := checkedAdd_eq_some_iff.mp hmin
  by_cases hlow : amountOut < plan.minRepayAmount + plan.minSurplus
  · simp only [if_pos hlow] at h; cases h
  · simp only [if_neg hlow] at h
    cases h
    exact ⟨⟨_, hroute⟩, Nat.le_of_not_lt hlow⟩

/-- A plan that is let in finds the lock free and no loan context, and takes
the lock. -/
theorem enterPlan_cases {msg : Msg} {plan : ExecutionPlan} {w w' : World ω}
    (h : enterPlan contract msg plan w = .ok w') :
    w.storage.entered = false ∧ w.storage.activeLoanFingerprint = 0 ∧ w' = setEntered true w := by
  obtain ⟨-, -, h⟩ := bind_eq_ok_iff.mp h
  obtain ⟨-, -, h⟩ := bind_eq_ok_iff.mp h
  obtain ⟨s, hlock, h⟩ := bind_eq_ok_iff.mp h
  obtain ⟨-, -, h⟩ := bind_eq_ok_iff.mp h
  obtain ⟨hentered, rfl⟩ := contract.inherited.locks hlock
  split_ifs at h with hactive
  cases h
  exact ⟨hentered, not_not.mp hactive, rfl⟩

theorem enterPlan_ok {msg : Msg} {plan : ExecutionPlan} {w w' : World ω}
    (h : enterPlan contract msg plan w = .ok w') : w' = setEntered true w :=
  (enterPlan_cases h).2.2

theorem enterPlan_fingerprint {msg : Msg} {plan : ExecutionPlan} {w w' : World ω}
    (h : enterPlan contract msg plan w = .ok w') : w.storage.activeLoanFingerprint = 0 :=
  (enterPlan_cases h).2.1

theorem leavePlan_eq (w : World ω) : leavePlan contract w = setEntered false w := by
  unfold leavePlan setEntered
  rw [contract.inherited.unlocks]

/-- What has happened when the callback completes. -/
structure CallbackRun (chain : Chain ω UserData) (contract : RouterContract)
    (loanCaller : EvmAddress) (plan : ExecutionPlan) (w w' : World ω) (event : PlanExecuted) :
    Prop where
  steps : ∃ w₁ w₂, runRouteChecked chain contract plan (setFingerprint 0 w)
      = .ok (w₁, event.amountOut)
    ∧ callOut (chain.safeTransfer plan.settlementToken contract.balancerVault
        plan.fundingAmount) w₁ = .ok (w₂, ())
    ∧ paySurplus chain plan.settlementToken loanCaller event.surplus w₂ = .ok w'
  covers : plan.fundingAmount ≤ event.amountOut
  surplus : event.surplus = event.amountOut - plan.fundingAmount
  funding : event.fundingAmount = plan.fundingAmount

theorem receiveFlashLoan_run {msg : Msg} {tokens : List EvmAddress} {amounts fees : List Nat}
    {userData : UserData} {w w' : World ω} {event : PlanExecuted}
    (h : receiveFlashLoan chain contract msg tokens amounts fees userData w = .ok (w', event)) :
    ∃ loanCaller plan, chain.decodeUserData userData = some (loanCaller, plan)
      ∧ tokens = [plan.settlementToken] ∧ amounts = [plan.fundingAmount]
      ∧ CallbackRun chain contract loanCaller plan w w' event := by
  unfold receiveFlashLoan at h
  by_cases hsender : msg.sender ≠ contract.balancerVault
  · rw [if_pos hsender] at h; cases h
  · rw [if_neg hsender] at h
    dsimp only at h
    split at h
    · cases h
    · obtain ⟨⟨loanCaller, plan⟩, hdec, h⟩ := okOr_bind_eq_ok_iff.mp h
      dsimp only at h
      split at h
      · next token amount fee =>
          split_ifs at h with htoken hamount hfee
          rw [ne_eq, not_not] at htoken hamount
          subst htoken hamount
          obtain ⟨⟨w₁, amountOut⟩, hroute, h⟩ := bind_eq_ok_iff.mp h
          obtain ⟨⟨w₂, _⟩, htransfer, h⟩ := bind_eq_ok_iff.mp h
          obtain ⟨surplus, hsub, h⟩ := okOr_bind_eq_ok_iff.mp h
          obtain ⟨hle, rfl⟩ := checkedSub_eq_some_iff.mp hsub
          obtain ⟨w₃, hpay, h⟩ := bind_eq_ok_iff.mp h
          cases h
          exact ⟨loanCaller, plan, hdec, rfl, rfl, ⟨w₁, w₂, hroute, htransfer, hpay⟩, hle, rfl,
            rfl⟩
      · cases h

/-- The callback for the loan that the router is waiting for. -/
theorem receiveFlashLoan_expected {msg : Msg} {userData : UserData} {w : World ω}
    {loanCaller : EvmAddress} {plan : ExecutionPlan}
    (hsender : msg.sender = contract.balancerVault)
    (hexpected : w.storage.activeLoanFingerprint = chain.keccak256 userData)
    (hnonzero : chain.keccak256 userData ≠ 0)
    (hdec : chain.decodeUserData userData = some (loanCaller, plan)) :
    receiveFlashLoan chain contract msg [plan.settlementToken] [plan.fundingAmount] [0]
        userData w
      = (do
        let (w, amountOut) ← runRouteChecked chain contract plan (setFingerprint 0 w)
        let (w, _) ← callOut (chain.safeTransfer plan.settlementToken contract.balancerVault
          plan.fundingAmount) w
        let surplus ← subUint amountOut plan.fundingAmount
        let w ← paySurplus chain plan.settlementToken loanCaller surplus w
        return (w,
          { caller := loanCaller, settlementToken := plan.settlementToken,
            fundingAmount := plan.fundingAmount, amountOut, surplus, flashLoaned := true,
            riskHash := plan.riskHash })) := by
  have hguard : ¬(w.storage.activeLoanFingerprint = 0
      ∨ w.storage.activeLoanFingerprint ≠ chain.keccak256 userData) := by
    rw [hexpected]
    exact not_or.mpr ⟨hnonzero, fun h => h rfl⟩
  unfold receiveFlashLoan
  dsimp only
  rw [if_neg (not_not.mpr hsender), if_neg hguard, hdec, okOr_some, ok_bind]
  dsimp only
  rw [if_neg (not_not.mpr rfl), if_neg (not_not.mpr rfl), if_neg (not_not.mpr rfl)]

/-- **A completed callback.** The plan in the user data has been run on its
funding amount and has passed the settlement check, and what is reported is
its output. -/
theorem receiveFlashLoan_ok {msg : Msg} {tokens : List EvmAddress} {amounts fees : List Nat}
    {userData : UserData} {w w' : World ω} {event : PlanExecuted} {caller : EvmAddress}
    {plan : ExecutionPlan} (hdec : chain.decodeUserData userData = some (caller, plan))
    (h : receiveFlashLoan chain contract msg tokens amounts fees userData w = .ok (w', event)) :
    (∃ w₁ w₂, runRouteChecked chain contract plan w₁ = .ok (w₂, event.amountOut))
      ∧ event.fundingAmount = plan.fundingAmount ∧ plan.fundingAmount ≤ event.amountOut
      ∧ event.surplus = event.amountOut - plan.fundingAmount := by
  obtain ⟨caller', plan', hdec', -, -, hrun⟩ := receiveFlashLoan_run h
  rw [hdec] at hdec'
  cases hdec'
  obtain ⟨w₁, w₂, hroute, -, -⟩ := hrun.steps
  exact ⟨⟨_, w₁, hroute⟩, hrun.funding, hrun.covers, hrun.surplus⟩

/-! ## Routes the validator lets through -/

/-- The errors by which `_runRoute` itself rejects a route. -/
def RouterError.isRouteError : RouterError → Bool
  | .emptyRoute => true
  | .unsupportedVenue _ => true
  | .invalidRouteToken _ _ _ => true
  | .insufficientStepOutput _ _ _ => true
  | _ => false

/-- The steps hand each other their tokens, from `token` to `token'`. -/
def Connected : EvmAddress → List RouteStep → EvmAddress → Prop
  | token, [], token' => token = token'
  | token, step :: rest, token' => step.tokenIn = token ∧ Connected step.tokenOut rest token'

variable (chain contract) in
/-- Every step of this run that returns, returns at least its minimum. -/
def MeetsMinimums (deadline : Nat) : List RouteStep → Nat → World ω → Prop
  | [], _, _ => True
  | step :: rest, amount, w =>
      ∀ w' out, executeStep chain contract step amount deadline w = .ok (w', out) →
        step.minAmountOut ≤ out ∧ MeetsMinimums deadline rest out w'

theorem callOut_error {α : Type} {call : Call ω α} {w : World ω} {e : RouterError}
    (h : callOut call w = .error e) : e.isRouteError = false := by
  unfold callOut at h
  cases hcall : call w with
  | error data =>
      rw [hcall] at h
      cases h
      rfl
  | ok _ => rw [hcall] at h; cases h

/-- A supported venue fails by what it is called on, never with an error of
the route check. -/
theorem executeStep_error {step : RouteStep} {amount deadline : Nat} {w : World ω}
    {e : RouterError} (hvenue : step.venueKind ≠ .unsupported)
    (h : executeStep chain contract step amount deadline w = .error e) :
    e.isRouteError = false := by
  unfold executeStep at h
  cases hkind : step.venueKind with
  | unsupported => exact absurd hkind hvenue
  | uniswapV3Single =>
      rw [hkind] at h
      rcases bind_eq_error h with h | ⟨⟨w₁, _⟩, -, h⟩
      · exact callOut_error h
      · exact callOut_error h
  | uniswapV2 =>
      rw [hkind] at h
      rcases bind_eq_error h with h | ⟨⟨w₁, _⟩, -, h⟩
      · exact callOut_error h
      · rcases bind_eq_error h with h | ⟨⟨w₂, amounts⟩, -, h⟩
        · exact callOut_error h
        · rcases bind_eq_error h with h | ⟨out, -, h⟩
          · rw [okOr_eq_error h]; rfl
          · cases h
  | aerodromeV2 =>
      rw [hkind] at h
      rcases bind_eq_error h with h | ⟨⟨stable, factory⟩, -, h⟩
      · rw [okOr_eq_error h]; rfl
      · rcases bind_eq_error h with h | ⟨⟨w₁, _⟩, -, h⟩
        · exact callOut_error h
        · rcases bind_eq_error h with h | ⟨⟨w₂, amounts⟩, -, h⟩
          · exact callOut_error h
          · rcases bind_eq_error h with h | ⟨out, -, h⟩
            · rw [okOr_eq_error h]; rfl
            · cases h

/-- The loop over connected steps on supported venues: it fails only by
what it calls, and otherwise ends in the last token. -/
theorem runSteps_of_connected {deadline index : Nat} {steps : List RouteStep}
    {token token' : EvmAddress} {amount : Nat} {w : World ω}
    (hconn : Connected token steps token')
    (hvenue : ∀ step ∈ steps, step.venueKind ≠ .unsupported)
    (hmin : MeetsMinimums chain contract deadline steps amount w) :
    (∃ w' out, runSteps chain contract deadline index steps token amount w = .ok (w', token', out))
      ∨ ∃ e, runSteps chain contract deadline index steps token amount w = .error e
          ∧ e.isRouteError = false := by
  induction steps generalizing index token amount w with
  | nil =>
      have htoken : token = token' := hconn
      subst htoken
      exact Or.inl ⟨w, amount, rfl⟩
  | cons step rest ih =>
      obtain ⟨htoken, hrest⟩ := hconn
      rw [runSteps, if_neg (not_not.mpr htoken)]
      cases hstep : executeStep chain contract step amount deadline w with
      | error e =>
          exact Or.inr ⟨e, rfl, executeStep_error (hvenue step List.mem_cons_self) hstep⟩
      | ok result =>
          obtain ⟨w', out⟩ := result
          obtain ⟨hle, hmin'⟩ := hmin w' out hstep
          have hvenue' : ∀ s ∈ rest, s.venueKind ≠ .unsupported := by
            intro s hs
            exact hvenue s (List.mem_cons_of_mem step hs)
          simp only [ok_bind, if_neg (Nat.not_lt.mpr hle)]
          exact ih hrest hvenue' hmin'

theorem runRoute_of_connected {plan : ExecutionPlan} {amount : Nat} {w : World ω}
    (hne : plan.steps ≠ [])
    (hconn : Connected plan.settlementToken plan.steps plan.settlementToken)
    (hvenue : ∀ step ∈ plan.steps, step.venueKind ≠ .unsupported)
    (hmin : MeetsMinimums chain contract plan.deadline plan.steps amount w)
    {e : RouterError} (h : runRoute chain contract plan amount w = .error e) :
    e.isRouteError = false := by
  unfold runRoute at h
  rw [if_neg hne] at h
  rcases runSteps_of_connected hconn hvenue hmin with ⟨w', out, hok⟩ | ⟨e', herr, hroute⟩
  · rw [hok] at h
    simp only [ok_bind, ne_eq, not_true_eq_false, if_false] at h
    cases h
  · rw [herr] at h
    cases h
    exact hroute

/-! ## Sample guards -/

/-- Guards that do what `Inherited` assumes, for the samples. -/
def sampleGuards : Inherited where
  onlyOwner msg s :=
    if msg.sender ≠ s.owner then .error (.ownableUnauthorizedAccount msg.sender) else .ok ()
  whenNotPaused s := if s.paused then .error .enforcedPause else .ok ()
  nonReentrantBefore s :=
    if s.entered then .error .reentrantCall else .ok { s with entered := true }
  nonReentrantAfter s := { s with entered := false }
  pause s := if s.paused then .error .enforcedPause else .ok { s with paused := true }
  unpause s := if s.paused then .ok { s with paused := false } else .error .expectedPause
  transferOwnership msg newOwner s :=
    if msg.sender ≠ s.owner then .error (.ownableUnauthorizedAccount msg.sender)
    else if newOwner = 0 then .error (.ownableInvalidOwner 0)
    else .ok { s with owner := newOwner }
  renounceOwnership msg s :=
    if msg.sender ≠ s.owner then .error (.ownableUnauthorizedAccount msg.sender)
    else .ok { s with owner := 0 }
  locks := by
    intro s s' h
    split_ifs at h with hentered
    exact ⟨Bool.eq_false_iff.mpr hentered, (Except.ok.inj h).symm⟩
  unlocks _ := rfl
  pause_keeps := by
    intro s s' h
    split_ifs at h
    cases h
    exact ⟨rfl, rfl⟩
  unpause_keeps := by
    intro s s' h
    split_ifs at h
    cases h
    exact ⟨rfl, rfl⟩
  transferOwnership_keeps := by
    intro msg newOwner s s' h
    split_ifs at h
    cases h
    exact ⟨rfl, rfl⟩
  renounceOwnership_keeps := by
    intro msg s s' h
    split_ifs at h
    cases h
    exact ⟨rfl, rfl⟩

end BaseEngine
