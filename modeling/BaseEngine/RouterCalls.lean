import BaseEngine.Lib.Reentrant
import BaseEngine.Router

/-!
# The router as re-entrant code

`Router` runs an entry point to its end, with the calls it makes as functions
of the world. Here the same entry points are programs that stop at every
external call, so that what happens to the router in between can be any
sequence of further calls to it.

`runCode` answers the calls of a program from a `Chain`. The `run_*` theorems
say that this gives back the functions of `Router`, `run_dispatchEntry` for all
entry points at once, so what is proved of the programs is about the same
contract.
-/

namespace BaseEngine

open Fallible Reentrant

variable {ω UserData α β : Type}

/-- The external calls of the router's code. -/
inductive Request (UserData : Type) where
  | forceApprove (token spender : EvmAddress) (amount : Nat)
  | safeTransfer (token recipient : EvmAddress) (amount : Nat)
  | safeTransferFrom (token source recipient : EvmAddress) (amount : Nat)
  | exactInputSingle (target : EvmAddress) (params : ExactInputSingleParams)
  | swapExactTokensForTokens (target : EvmAddress) (amountIn amountOutMin : Nat)
      (path : List EvmAddress) (recipient : EvmAddress) (deadline : Nat)
  | swapAerodrome (target : EvmAddress) (amountIn amountOutMin : Nat)
      (routes : List AerodromeRoute) (recipient : EvmAddress) (deadline : Nat)
  | flashLoan (vault recipient : EvmAddress) (tokens : List EvmAddress) (amounts : List Nat)
      (userData : UserData)

def Answer : Request UserData → Type
  | .exactInputSingle _ _ => Nat
  | .swapExactTokensForTokens _ _ _ _ _ _ => List Nat
  | .swapAerodrome _ _ _ _ _ _ => List Nat
  | _ => Unit

/-- The ABI coder and the hash of a loan's user data. -/
structure LoanCoder (UserData : Type) where
  encodeUserData : EvmAddress → ExecutionPlan → UserData
  decodeUserData : UserData → Option (EvmAddress × ExecutionPlan)
  keccak256 : UserData → Bytes32

abbrev Chain.coder (chain : Chain ω UserData) : LoanCoder UserData :=
  { encodeUserData := chain.encodeUserData, decodeUserData := chain.decodeUserData,
    keccak256 := chain.keccak256 }

abbrev RouterCode (UserData α : Type) :=
  Code RouterStorage RouterError (Request UserData) Answer α

abbrev RouterProg (UserData : Type) :=
  Prog RouterStorage RouterError (Request UserData) Answer

/-! ## The entry points as programs -/

namespace RouterProg

open Prog

def forceApprove (token spender : EvmAddress) (amount : Nat) : RouterProg UserData Unit :=
  call (Request.forceApprove token spender amount)

def safeTransfer (token recipient : EvmAddress) (amount : Nat) : RouterProg UserData Unit :=
  call (Request.safeTransfer token recipient amount)

def safeTransferFrom (token source recipient : EvmAddress) (amount : Nat) :
    RouterProg UserData Unit :=
  call (Request.safeTransferFrom token source recipient amount)

def exactInputSingle (target : EvmAddress) (params : ExactInputSingleParams) :
    RouterProg UserData Nat :=
  call (Request.exactInputSingle target params)

def swapExactTokensForTokens (target : EvmAddress) (amountIn amountOutMin : Nat)
    (path : List EvmAddress) (recipient : EvmAddress) (deadline : Nat) :
    RouterProg UserData (List Nat) :=
  call (Request.swapExactTokensForTokens target amountIn amountOutMin path recipient deadline)

def swapAerodrome (target : EvmAddress) (amountIn amountOutMin : Nat)
    (routes : List AerodromeRoute) (recipient : EvmAddress) (deadline : Nat) :
    RouterProg UserData (List Nat) :=
  call (Request.swapAerodrome target amountIn amountOutMin routes recipient deadline)

def flashLoan (vault recipient : EvmAddress) (tokens : List EvmAddress) (amounts : List Nat)
    (userData : UserData) : RouterProg UserData Unit :=
  call (Request.flashLoan vault recipient tokens amounts userData)

def swapUniswapV3Single (contract : RouterContract) (step : RouteStep)
    (amountIn deadline : Nat) : RouterProg UserData Nat := do
  forceApprove step.tokenIn step.target amountIn
  exactInputSingle step.target
    { tokenIn := step.tokenIn, tokenOut := step.tokenOut, fee := step.fee,
      recipient := contract.self, deadline, amountIn,
      amountOutMinimum := step.minAmountOut, sqrtPriceLimitX96 := 0 }

def swapUniswapV2 (contract : RouterContract) (step : RouteStep)
    (amountIn deadline : Nat) : RouterProg UserData Nat := do
  forceApprove step.tokenIn step.target amountIn
  let amounts ← swapExactTokensForTokens step.target amountIn step.minAmountOut
    [step.tokenIn, step.tokenOut] contract.self deadline
  orRevert (okOr amounts.getLast? .arithmeticPanic)

def swapAerodromeV2 (contract : RouterContract) (step : RouteStep)
    (amountIn deadline : Nat) : RouterProg UserData Nat := do
  let (stable, factory) ← orRevert (okOr (abiDecodeBoolAddress step.extraData) .abiDecode)
  forceApprove step.tokenIn step.target amountIn
  let amounts ← swapAerodrome step.target amountIn step.minAmountOut
    [{ source := step.tokenIn, destination := step.tokenOut, stable, factory }]
    contract.self deadline
  orRevert (okOr amounts.getLast? .arithmeticPanic)

def executeStep (contract : RouterContract) (step : RouteStep) (amountIn deadline : Nat) :
    RouterProg UserData Nat :=
  match step.venueKind with
  | .uniswapV3Single => swapUniswapV3Single contract step amountIn deadline
  | .uniswapV2 => swapUniswapV2 contract step amountIn deadline
  | .aerodromeV2 => swapAerodromeV2 contract step amountIn deadline
  | .unsupported => revert (.unsupportedVenue step.venueKind)

def runSteps (contract : RouterContract) (deadline : Nat) :
    (index : Nat) → List RouteStep → EvmAddress → Nat → RouterProg UserData (EvmAddress × Nat)
  | _, [], currentToken, currentAmount => pure (currentToken, currentAmount)
  | index, step :: rest, currentToken, currentAmount =>
      if step.tokenIn ≠ currentToken then
        revert (.invalidRouteToken index currentToken step.tokenIn)
      else do
        let nextAmount ← executeStep contract step currentAmount deadline
        if nextAmount < step.minAmountOut then
          revert (.insufficientStepOutput index nextAmount step.minAmountOut)
        else runSteps contract deadline (index + 1) rest step.tokenOut nextAmount

def runRoute (contract : RouterContract) (plan : ExecutionPlan) (startingAmount : Nat) :
    RouterProg UserData Nat :=
  if plan.steps = [] then revert .emptyRoute
  else do
    let (currentToken, currentAmount) ←
      runSteps contract plan.deadline 0 plan.steps plan.settlementToken startingAmount
    if currentToken ≠ plan.settlementToken then
      revert (.invalidRouteToken plan.steps.length plan.settlementToken currentToken)
    else pure currentAmount

def runRouteChecked (contract : RouterContract) (plan : ExecutionPlan) :
    RouterProg UserData Nat := do
  let amountOut ← runRoute contract plan plan.fundingAmount
  let minimumSettlement ← orRevert (addUint plan.minRepayAmount plan.minSurplus)
  if amountOut < minimumSettlement then
    revert (.insufficientSettlement amountOut minimumSettlement)
  else pure amountOut

def enterPlan (contract : RouterContract) (msg : Msg) (plan : ExecutionPlan) :
    RouterProg UserData Unit :=
  update fun s =>
    (BaseEngine.enterPlan contract msg plan { storage := s, rest := () }).map World.storage

def leavePlan (contract : RouterContract) : RouterProg UserData Unit :=
  update fun s => .ok (contract.inherited.nonReentrantAfter s)

def setFingerprint (fingerprint : Bytes32) : RouterProg UserData Unit :=
  update fun s => .ok { s with activeLoanFingerprint := fingerprint }

/-- What the self-funded entry point does once it has been entered. -/
def runSelfFunded (contract : RouterContract) (msg : Msg) (plan : ExecutionPlan) :
    RouterProg UserData PlanExecuted := do
  safeTransferFrom plan.settlementToken msg.sender contract.self plan.fundingAmount
  let amountOut ← runRouteChecked contract plan
  safeTransfer plan.settlementToken msg.sender amountOut
  let surplus ← orRevert (subUint amountOut plan.minRepayAmount)
  leavePlan contract
  pure { caller := msg.sender, settlementToken := plan.settlementToken,
         fundingAmount := plan.fundingAmount, amountOut, surplus, flashLoaned := false,
         riskHash := plan.riskHash }

def executePlan (contract : RouterContract) (msg : Msg) (plan : ExecutionPlan) :
    RouterProg UserData PlanExecuted := do
  enterPlan contract msg plan
  runSelfFunded contract msg plan

variable (coder : LoanCoder UserData)

/-- What the flash-loan entry point does once it has been entered. -/
def borrow (contract : RouterContract) (msg : Msg) (plan : ExecutionPlan) :
    RouterProg UserData Unit := do
  let userData := coder.encodeUserData msg.sender plan
  let fingerprint := coder.keccak256 userData
  setFingerprint fingerprint
  flashLoan contract.balancerVault contract.self [plan.settlementToken]
    [plan.fundingAmount] userData
  let s ← get
  if s.activeLoanFingerprint ≠ 0 then revert (.loanFingerprintMismatch 0 fingerprint)
  else leavePlan contract

def executePlanWithFlashLoan (contract : RouterContract) (msg : Msg) (plan : ExecutionPlan) :
    RouterProg UserData Unit := do
  enterPlan contract msg plan
  borrow coder contract msg plan

def paySurplus (token loanCaller : EvmAddress) (surplus : Nat) : RouterProg UserData Unit :=
  if 0 < surplus then safeTransfer token loanCaller surplus else pure ()

/-- What the callback does with the decoded user data. -/
def runLoan (contract : RouterContract) (tokens : List EvmAddress)
    (amounts feeAmounts : List Nat) (loanCaller : EvmAddress) (plan : ExecutionPlan) :
    RouterProg UserData PlanExecuted :=
  match tokens, amounts, feeAmounts with
  | [token], [amount], [fee] =>
      if token ≠ plan.settlementToken then
        revert (.unexpectedFlashLoanToken plan.settlementToken token)
      else if amount ≠ plan.fundingAmount then
        revert (.unexpectedFlashLoanAmount plan.fundingAmount amount)
      else if fee ≠ 0 then revert (.unexpectedFlashLoanFee fee)
      else do
        let amountOut ← runRouteChecked contract plan
        safeTransfer token contract.balancerVault plan.fundingAmount
        let surplus ← orRevert (subUint amountOut plan.fundingAmount)
        paySurplus token loanCaller surplus
        pure { caller := loanCaller, settlementToken := plan.settlementToken,
               fundingAmount := plan.fundingAmount, amountOut, surplus, flashLoaned := true,
               riskHash := plan.riskHash }
  | _, _, _ => revert .unexpectedFlashLoanArrayLength

def receiveFlashLoan (contract : RouterContract) (msg : Msg) (tokens : List EvmAddress)
    (amounts feeAmounts : List Nat) (userData : UserData) :
    RouterProg UserData PlanExecuted := do
  let s ← get
  let expected := s.activeLoanFingerprint
  let fingerprint := coder.keccak256 userData
  if msg.sender ≠ contract.balancerVault then revert (.unexpectedFlashLoanCaller msg.sender)
  else if expected = 0 ∨ expected ≠ fingerprint then
    revert (.loanFingerprintMismatch expected fingerprint)
  else do
    setFingerprint 0
    let (loanCaller, plan) ← orRevert (okOr (coder.decodeUserData userData) .abiDecode)
    runLoan contract tokens amounts feeAmounts loanCaller plan

def rescueToken (contract : RouterContract) (msg : Msg) (token recipient : EvmAddress)
    (amount : Nat) : RouterProg UserData Unit := do
  update fun s => (contract.inherited.onlyOwner msg s).map fun _ => s
  safeTransfer token recipient amount

end RouterProg

/-- The calls anyone can make to the router that may change its storage. -/
inductive EntryPoint (UserData : Type) where
  | executePlan (msg : Msg) (plan : ExecutionPlan)
  | executePlanWithFlashLoan (msg : Msg) (plan : ExecutionPlan)
  | receiveFlashLoan (msg : Msg) (tokens : List EvmAddress) (amounts feeAmounts : List Nat)
      (userData : UserData)
  | setExecutor (msg : Msg) (executor : EvmAddress) (allowed : Bool)
  | pause (msg : Msg)
  | unpause (msg : Msg)
  | rescueToken (msg : Msg) (token recipient : EvmAddress) (amount : Nat)
  | transferOwnership (msg : Msg) (newOwner : EvmAddress)
  | renounceOwnership (msg : Msg)

/-- The code behind each entry point, with the plan it reports. -/
def dispatchEntry (coder : LoanCoder UserData) (contract : RouterContract) :
    EntryPoint UserData → RouterProg UserData (Option PlanExecuted)
  | .executePlan msg plan => do
      let event ← RouterProg.executePlan contract msg plan
      pure (some event)
  | .executePlanWithFlashLoan msg plan => do
      RouterProg.executePlanWithFlashLoan coder contract msg plan
      pure none
  | .receiveFlashLoan msg tokens amounts feeAmounts userData => do
      let event ←
        RouterProg.receiveFlashLoan coder contract msg tokens amounts feeAmounts userData
      pure (some event)
  | .setExecutor msg executor allowed => do
      Prog.update (setExecutor contract msg executor allowed)
      pure none
  | .pause msg => do
      Prog.update (pause contract msg)
      pure none
  | .unpause msg => do
      Prog.update (unpause contract msg)
      pure none
  | .rescueToken msg token recipient amount => do
      RouterProg.rescueToken contract msg token recipient amount
      pure none
  | .transferOwnership msg newOwner => do
      Prog.update (contract.inherited.transferOwnership msg newOwner)
      pure none
  | .renounceOwnership msg => do
      Prog.update (contract.inherited.renounceOwnership msg)
      pure none

/-- The entry points as functions of the world. -/
def callEntry (chain : Chain ω UserData) (contract : RouterContract) (call : EntryPoint UserData)
    (w : World ω) : Except RouterError (World ω × Option PlanExecuted) :=
  match call with
  | .executePlan msg plan => do
      let (w, event) ← executePlan chain contract msg plan w
      return (w, some event)
  | .executePlanWithFlashLoan msg plan => do
      let w ← executePlanWithFlashLoan chain contract msg plan w
      return (w, none)
  | .receiveFlashLoan msg tokens amounts feeAmounts userData => do
      let (w, event) ← receiveFlashLoan chain contract msg tokens amounts feeAmounts userData w
      return (w, some event)
  | .setExecutor msg executor allowed => do
      let s ← setExecutor contract msg executor allowed w.storage
      return ({ w with storage := s }, none)
  | .pause msg => do
      let s ← pause contract msg w.storage
      return ({ w with storage := s }, none)
  | .unpause msg => do
      let s ← unpause contract msg w.storage
      return ({ w with storage := s }, none)
  | .rescueToken msg token recipient amount => do
      let w ← rescueToken chain contract msg token recipient amount w
      return (w, none)
  | .transferOwnership msg newOwner => do
      let s ← contract.inherited.transferOwnership msg newOwner w.storage
      return ({ w with storage := s }, none)
  | .renounceOwnership msg => do
      let s ← contract.inherited.renounceOwnership msg w.storage
      return ({ w with storage := s }, none)

/-! ## The programs on a chain -/

section Refinement

variable (chain : Chain ω UserData)

def serve : (req : Request UserData) → Call ω (Answer req)
  | .forceApprove token spender amount => chain.forceApprove token spender amount
  | .safeTransfer token recipient amount => chain.safeTransfer token recipient amount
  | .safeTransferFrom token source recipient amount =>
      chain.safeTransferFrom token source recipient amount
  | .exactInputSingle target params => chain.exactInputSingle target params
  | .swapExactTokensForTokens target amountIn amountOutMin path recipient deadline =>
      chain.swapExactTokensForTokens target amountIn amountOutMin path recipient deadline
  | .swapAerodrome target amountIn amountOutMin routes recipient deadline =>
      chain.swapAerodrome target amountIn amountOutMin routes recipient deadline
  | .flashLoan vault recipient tokens amounts userData =>
      chain.flashLoan vault recipient tokens amounts userData

def runCode : RouterCode UserData α → ω → Except RouterError (World ω × α)
  | .done s a, rest => .ok ({ storage := s, rest }, a)
  | .revert e, _ => .error e
  | .call req s resume, rest => do
      let (w, a) ← callOut (serve chain req) { storage := s, rest }
      runCode (resume a w.storage) w.rest

/-- A program with every external call answered by the chain. -/
def runOn (p : RouterProg UserData α) (w : World ω) : Except RouterError (World ω × α) :=
  runCode chain (p w.storage) w.rest

variable {chain}

@[simp] theorem runOn_pure (a : α) (w : World ω) :
    runOn chain (pure a : RouterProg UserData α) w = .ok (w, a) := rfl

@[simp] theorem runOn_revert (e : RouterError) (w : World ω) :
    runOn chain (Prog.revert e : RouterProg UserData α) w = .error e := rfl

@[simp] theorem runOn_get (w : World ω) :
    runOn chain (Prog.get : RouterProg UserData RouterStorage) w = .ok (w, w.storage) := rfl

@[simp] theorem runOn_call (req : Request UserData) (w : World ω) :
    runOn chain (Prog.call req : RouterProg UserData _) w = callOut (serve chain req) w := by
  show (callOut (serve chain req) w >>= fun r => .ok (r.1, r.2)) = _
  cases callOut (serve chain req) w with
  | error e => rfl
  | ok r => rfl

@[simp] theorem runOn_orRevert (x : Except RouterError α) (w : World ω) :
    runOn chain (Prog.orRevert x : RouterProg UserData α) w = x >>= fun a => .ok (w, a) := by
  cases x with
  | error e => rfl
  | ok a => rfl

@[simp] theorem runOn_update (f : RouterStorage → Except RouterError RouterStorage)
    (w : World ω) :
    runOn chain (Prog.update f : RouterProg UserData Unit) w
      = f w.storage >>= fun s => .ok ({ w with storage := s }, ()) := by
  show runCode chain (Prog.update f w.storage) w.rest = _
  unfold Prog.update
  cases f w.storage with
  | error e => rfl
  | ok s => rfl

@[simp] theorem runOn_bind (p : RouterProg UserData α) (f : α → RouterProg UserData β)
    (w : World ω) :
    runOn chain (p >>= f) w = runOn chain p w >>= fun r => runOn chain (f r.2) r.1 := by
  have key : ∀ (c : RouterCode UserData α) (rest : ω),
      runCode chain (c.bind f) rest
        = runCode chain c rest >>= fun r => runOn chain (f r.2) r.1 := by
    intro c
    induction c with
    | done s a => exact fun _ => rfl
    | revert e => exact fun _ => rfl
    | call req s resume ih =>
        intro rest
        simp only [Code.bind, runCode]
        cases callOut (serve chain req) { storage := s, rest } with
        | error e => rfl
        | ok r => exact ih r.2 r.1.storage r.1.rest
  exact key (p w.storage) w.rest

section Requests

variable (token spender source recipient target vault : EvmAddress) (amount amountIn min : Nat)
  (deadline : Nat) (w : World ω)

@[simp] theorem runOn_forceApprove :
    runOn chain (RouterProg.forceApprove token spender amount) w
      = callOut (chain.forceApprove token spender amount) w := runOn_call _ w

@[simp] theorem runOn_safeTransfer :
    runOn chain (RouterProg.safeTransfer token recipient amount) w
      = callOut (chain.safeTransfer token recipient amount) w := runOn_call _ w

@[simp] theorem runOn_safeTransferFrom :
    runOn chain (RouterProg.safeTransferFrom token source recipient amount) w
      = callOut (chain.safeTransferFrom token source recipient amount) w := runOn_call _ w

@[simp] theorem runOn_exactInputSingle (params : ExactInputSingleParams) :
    runOn chain (RouterProg.exactInputSingle target params) w
      = callOut (chain.exactInputSingle target params) w := runOn_call _ w

@[simp] theorem runOn_swapExactTokensForTokens (path : List EvmAddress) :
    runOn chain
        (RouterProg.swapExactTokensForTokens target amountIn min path recipient deadline) w
      = callOut (chain.swapExactTokensForTokens target amountIn min path recipient deadline) w :=
  runOn_call _ w

@[simp] theorem runOn_swapAerodrome (routes : List AerodromeRoute) :
    runOn chain (RouterProg.swapAerodrome target amountIn min routes recipient deadline) w
      = callOut (chain.swapAerodrome target amountIn min routes recipient deadline) w :=
  runOn_call _ w

@[simp] theorem runOn_flashLoan (tokens : List EvmAddress) (amounts : List Nat)
    (userData : UserData) :
    runOn chain (RouterProg.flashLoan vault recipient tokens amounts userData) w
      = callOut (chain.flashLoan vault recipient tokens amounts userData) w := runOn_call _ w

end Requests

variable {contract : RouterContract}

theorem run_executeStep (step : RouteStep) (amountIn deadline : Nat) (w : World ω) :
    runOn chain (RouterProg.executeStep contract step amountIn deadline) w
      = executeStep chain contract step amountIn deadline w := by
  unfold RouterProg.executeStep executeStep
  cases step.venueKind with
  | unsupported => rfl
  | uniswapV3Single => simp [RouterProg.swapUniswapV3Single, swapUniswapV3Single]
  | uniswapV2 => simp [RouterProg.swapUniswapV2, swapUniswapV2]; rfl
  | aerodromeV2 => simp [RouterProg.swapAerodromeV2, swapAerodromeV2]; rfl

theorem run_runSteps (deadline : Nat) (steps : List RouteStep) (index : Nat)
    (token : EvmAddress) (amount : Nat) (w : World ω) :
    runOn chain (RouterProg.runSteps contract deadline index steps token amount) w
      = runSteps chain contract deadline index steps token amount w := by
  induction steps generalizing index token amount w with
  | nil => rfl
  | cons step rest ih =>
      rw [RouterProg.runSteps, runSteps]
      split_ifs with htoken
      · rfl
      · rw [runOn_bind, run_executeStep]
        cases executeStep chain contract step amount deadline w with
        | error e => rfl
        | ok r =>
            simp only [ok_bind]
            split_ifs with hlow
            · rfl
            · exact ih _ _ _ _

theorem run_runRoute (plan : ExecutionPlan) (amount : Nat) (w : World ω) :
    runOn chain (RouterProg.runRoute contract plan amount) w
      = runRoute chain contract plan amount w := by
  unfold RouterProg.runRoute runRoute
  split_ifs with hempty
  · rfl
  · rw [runOn_bind, run_runSteps]
    cases runSteps chain contract plan.deadline 0 plan.steps plan.settlementToken amount w with
    | error e => rfl
    | ok r =>
        simp only [ok_bind]
        split_ifs with htoken
        · rfl
        · rfl

theorem run_runRouteChecked (plan : ExecutionPlan) (w : World ω) :
    runOn chain (RouterProg.runRouteChecked contract plan) w
      = runRouteChecked chain contract plan w := by
  unfold RouterProg.runRouteChecked runRouteChecked
  rw [runOn_bind, run_runRoute]
  cases runRoute chain contract plan plan.fundingAmount w with
  | error e => rfl
  | ok r =>
      simp only [ok_bind, runOn_bind, runOn_orRevert]
      cases addUint plan.minRepayAmount plan.minSurplus with
      | error e => rfl
      | ok minimum =>
          simp only [ok_bind]
          split_ifs with hlow
          · rfl
          · rfl

theorem run_enterPlan (msg : Msg) (plan : ExecutionPlan) (w : World ω) :
    runOn chain (RouterProg.enterPlan contract msg plan) w
      = enterPlan contract msg plan w >>= fun w' => .ok (w', ()) := by
  unfold RouterProg.enterPlan enterPlan
  rw [runOn_update]
  dsimp only
  cases onlyExecutor msg w.storage with
  | error e => rfl
  | ok u =>
      cases contract.inherited.whenNotPaused w.storage with
      | error e => rfl
      | ok u =>
          cases contract.inherited.nonReentrantBefore w.storage with
          | error e => rfl
          | ok s =>
              cases checkDeadline msg plan.deadline with
              | error e => rfl
              | ok u =>
                  simp only [ok_bind]
                  split_ifs with hactive
                  · rfl
                  · rfl

/-- **The self-funded entry point as a program.** -/
theorem run_executePlan (msg : Msg) (plan : ExecutionPlan) (w : World ω) :
    runOn chain (RouterProg.executePlan contract msg plan) w
      = executePlan chain contract msg plan w := by
  unfold RouterProg.executePlan RouterProg.runSelfFunded executePlan
  simp only [runOn_bind, run_enterPlan, run_runRouteChecked, runOn_safeTransferFrom,
    runOn_safeTransfer, runOn_orRevert, bind_assoc, ok_bind, runOn_pure]
  rfl

/-- **The flash-loan entry point as a program.** -/
theorem run_executePlanWithFlashLoan (msg : Msg) (plan : ExecutionPlan) (w : World ω) :
    runOn chain (RouterProg.executePlanWithFlashLoan chain.coder contract msg plan) w
      = executePlanWithFlashLoan chain contract msg plan w >>= fun w' => .ok (w', ()) := by
  unfold RouterProg.executePlanWithFlashLoan RouterProg.borrow executePlanWithFlashLoan
  simp only [runOn_bind, run_enterPlan, RouterProg.setFingerprint, runOn_update, bind_assoc,
    ok_bind, runOn_flashLoan, runOn_get]
  congr 1
  funext w₁
  congr 1
  funext r
  split_ifs with hset
  · rfl
  · rfl

theorem run_paySurplus (token loanCaller : EvmAddress) (surplus : Nat) (w : World ω) :
    runOn chain (RouterProg.paySurplus token loanCaller surplus) w
      = paySurplus chain token loanCaller surplus w >>= fun w' => .ok (w', ()) := by
  unfold RouterProg.paySurplus paySurplus
  split_ifs with hpos
  · rw [runOn_safeTransfer, bind_assoc]
    cases callOut (chain.safeTransfer token loanCaller surplus) w with
    | error e => rfl
    | ok r => rfl
  · rfl

/-- **The callback as a program.** -/
theorem run_receiveFlashLoan (msg : Msg) (tokens : List EvmAddress)
    (amounts feeAmounts : List Nat) (userData : UserData) (w : World ω) :
    runOn chain (RouterProg.receiveFlashLoan chain.coder contract msg tokens amounts feeAmounts
        userData) w
      = receiveFlashLoan chain contract msg tokens amounts feeAmounts userData w := by
  unfold RouterProg.receiveFlashLoan receiveFlashLoan
  simp only [runOn_bind, runOn_get, ok_bind]
  by_cases hsender : msg.sender ≠ contract.balancerVault
  · rw [if_pos hsender, if_pos hsender]
    rfl
  · rw [if_neg hsender, if_neg hsender]
    by_cases hprint : w.storage.activeLoanFingerprint = 0
        ∨ w.storage.activeLoanFingerprint ≠ chain.keccak256 userData
    · rw [if_pos hprint, if_pos hprint]
      rfl
    · rw [if_neg hprint, if_neg hprint]
      simp only [runOn_bind, RouterProg.setFingerprint, runOn_update, ok_bind, runOn_orRevert,
        bind_assoc]
      cases chain.decodeUserData userData with
      | none => rfl
      | some decoded =>
          simp only [okOr_some, ok_bind]
          unfold RouterProg.runLoan
          -- one token, one amount and one fee, or an error
          rcases tokens with _ | ⟨token, _ | ⟨token', tokens⟩⟩
          · rfl
          · rcases amounts with _ | ⟨amount, _ | ⟨amount', amounts⟩⟩
            · rfl
            · rcases feeAmounts with _ | ⟨fee, _ | ⟨fee', feeAmounts⟩⟩
              · rfl
              · dsimp only
                split_ifs with htoken hamount hfee
                · rfl
                · rfl
                · rfl
                · simp only [runOn_bind, run_runRouteChecked, runOn_safeTransfer, runOn_orRevert,
                    run_paySurplus, bind_assoc, ok_bind, runOn_pure]
                  rfl
              · rfl
            · rfl
          · rfl

theorem run_rescueToken (msg : Msg) (token recipient : EvmAddress) (amount : Nat)
    (w : World ω) :
    runOn chain (RouterProg.rescueToken contract msg token recipient amount) w
      = rescueToken chain contract msg token recipient amount w >>= fun w' => .ok (w', ()) := by
  unfold RouterProg.rescueToken rescueToken
  rw [runOn_bind, runOn_update]
  cases contract.inherited.onlyOwner msg w.storage with
  | error e => rfl
  | ok u =>
      simp only [Except.map, ok_bind, runOn_safeTransfer, bind_assoc]
      cases callOut (chain.safeTransfer token recipient amount) w with
      | error e => rfl
      | ok r => rfl

/-- **The programs are the functions of `Router`.** -/
theorem run_dispatchEntry (call : EntryPoint UserData) (w : World ω) :
    runOn chain (dispatchEntry chain.coder contract call) w = callEntry chain contract call w := by
  cases call with
  | executePlan msg plan =>
      simp only [dispatchEntry, callEntry, runOn_bind, run_executePlan]
      rfl
  | executePlanWithFlashLoan msg plan =>
      simp only [dispatchEntry, callEntry, runOn_bind, run_executePlanWithFlashLoan, bind_assoc]
      rfl
  | receiveFlashLoan msg tokens amounts feeAmounts userData =>
      simp only [dispatchEntry, callEntry, runOn_bind, run_receiveFlashLoan]
      rfl
  | rescueToken msg token recipient amount =>
      simp only [dispatchEntry, callEntry, runOn_bind, run_rescueToken, bind_assoc]
      rfl
  | _ =>
      simp only [dispatchEntry, callEntry, runOn_bind, runOn_update, bind_assoc]
      rfl

end Refinement

/-! ## A sample plan -/

def twoLegPlan : ExecutionPlan :=
  { settlementToken := 0x4200000000000000000000000000000000000006,
    fundingAmount := 1000000, minRepayAmount := 1000000, minSurplus := 1,
    deadline := 1700000030,
    steps :=
      [ { venueKind := .uniswapV2, target := 0x1111111111111111111111111111111111111111,
          tokenIn := 0x4200000000000000000000000000000000000006,
          tokenOut := 0x3333333333333333333333333333333333333333, fee := 0,
          minAmountOut := 1, extraData := [] },
        { venueKind := .uniswapV3Single, target := 0x2222222222222222222222222222222222222222,
          tokenIn := 0x3333333333333333333333333333333333333333,
          tokenOut := 0x4200000000000000000000000000000000000006, fee := 500,
          minAmountOut := 1, extraData := [] } ],
    riskHash := 0xe357fefc88a574608aedf857c111706f4dd28d0b0a424b2f635238079852687a }

def planExecutor : EvmAddress := 0x8888888888888888888888888888888888888888

/-- Hashes as Keccak-256 does on the one user data that the sample uses,
`abi.encode(planExecutor, twoLegPlan)`. -/
def planCoder : LoanCoder (EvmAddress × ExecutionPlan) :=
  { encodeUserData := Prod.mk, decodeUserData := some,
    keccak256 := fun _ => 0xf90945d6b5d62a33707a5962891552fb2d1d3668d6f9e34ee42a748fb542f4b3 }

def baseRouter : RouterContract :=
  { self := 0x5555555555555555555555555555555555555555,
    balancerVault := 0xba12222222228d8ba445958a75a0704d566bf2c8,
    inherited := sampleGuards }

end BaseEngine
