import BaseEngine.Lib.Erc20
import BaseEngine.RouterCalls

/-!
# The router among tokens, venues and a vault

A `Chain` on which the tokens are standard ERC-20s and the vault is the test
suite's `MockBalancerVault` at a fee of zero. A venue is any function of the
world: in a call it makes token operations in the name of anyone but the
router, may change the router's storage and its own memory, and answers what
it likes. All it cannot do is act as the router.

The vault's flash loan calls back into the router. The events that the router
emits there are kept in the market, since the caller of `flashLoan` does not
see them.
-/

namespace BaseEngine

open Fallible Erc20

variable {σ UserData α : Type}

abbrev TokenLedger := Ledger EvmAddress EvmAddress

abbrev TokenOp := Op EvmAddress EvmAddress

structure Market (σ : Type) where
  ledger : TokenLedger
  memory : σ
  timestamp : Nat
  events : List PlanExecuted

/-- What a venue does when it is called by the router at `router`. -/
structure Fill (router : EvmAddress) (σ α : Type) where
  ops : List TokenOp
  storage : RouterStorage
  memory : σ
  answer : α
  foreign : ∀ op ∈ ops, op.actor ≠ router

abbrev VenueCall (router : EvmAddress) (σ α : Type) :=
  World (Market σ) → Except (List UInt8) (Fill router σ α)

structure Venues (router : EvmAddress) (σ : Type) where
  exactInputSingle : (target : EvmAddress) → ExactInputSingleParams → VenueCall router σ Nat
  swapExactTokensForTokens : (target : EvmAddress) → (amountIn amountOutMin : Nat) →
    (path : List EvmAddress) → (recipient : EvmAddress) → (deadline : Nat) →
    VenueCall router σ (List Nat)
  swapAerodrome : (target : EvmAddress) → (amountIn amountOutMin : Nat) →
    (routes : List AerodromeRoute) → (recipient : EvmAddress) → (deadline : Nat) →
    VenueCall router σ (List Nat)

def World.withLedger (w : World (Market σ)) (ledger : TokenLedger) : World (Market σ) :=
  { w with rest := { w.rest with ledger } }

/-- The balance of an account. -/
def World.balance (w : World (Market σ)) (token account : EvmAddress) : Nat :=
  w.rest.ledger.balance token account

/-- A token call, which reverts or leaves a new ledger. -/
def onLedger (f : TokenLedger → Option TokenLedger) : Call (Market σ) Unit := fun w => do
  let ledger ← okOr (f w.rest.ledger) []
  return (w.withLedger ledger, ())

/-- A venue's call goes through when its token operations do. -/
def visit {router : EvmAddress} (venue : VenueCall router σ α) : Call (Market σ) α := fun w => do
  let fill ← venue w
  let ledger ← okOr (runOps fill.ops w.rest.ledger) []
  return ({ storage := fill.storage, rest := { w.rest with ledger, memory := fill.memory } },
    fill.answer)

/-- The router's world without a vault. -/
def tokenChain (contract : RouterContract) (venues : Venues contract.self σ)
    (coder : LoanCoder UserData) : Chain (Market σ) UserData :=
  { forceApprove := fun token spender amount =>
      onLedger fun l => some (l.approve token contract.self spender amount),
    safeTransfer := fun token recipient amount =>
      onLedger fun l => l.transfer token contract.self recipient amount,
    safeTransferFrom := fun token source recipient amount =>
      onLedger fun l => l.transferFrom token contract.self source recipient amount,
    exactInputSingle := fun target params => visit (venues.exactInputSingle target params),
    swapExactTokensForTokens := fun target amountIn amountOutMin path recipient deadline =>
      visit (venues.swapExactTokensForTokens target amountIn amountOutMin path recipient deadline),
    swapAerodrome := fun target amountIn amountOutMin routes recipient deadline =>
      visit (venues.swapAerodrome target amountIn amountOutMin routes recipient deadline),
    flashLoan := fun _ _ _ _ _ _ => .error [],
    encodeUserData := coder.encodeUserData,
    decodeUserData := coder.decodeUserData,
    keccak256 := coder.keccak256 }

/-! ## The vault -/

/-- The first loop of `flashLoan`: the balances before the loan, and every
token lent. -/
def lend (vault recipient : EvmAddress) :
    List EvmAddress → List Nat → TokenLedger → Option (TokenLedger × List Nat)
  | [], _, l => some (l, [])
  | _ :: _, [], _ => none
  | token :: tokens, amount :: amounts, l => do
      let preBalance := l.balance token vault
      let l ← l.transfer token vault recipient amount
      let (l, preBalances) ← lend vault recipient tokens amounts l
      return (l, preBalance :: preBalances)

/-- The second loop: every token is back. -/
def repaid (vault : EvmAddress) (l : TokenLedger) : List EvmAddress → List Nat → Bool
  | token :: tokens, preBalance :: preBalances =>
      decide (preBalance ≤ l.balance token vault) && repaid vault l tokens preBalances
  | _, _ => true

/-- `MockBalancerVault.flashLoan` at a fee of zero, calling back a recipient. -/
def vaultFlashLoan (vault recipient : EvmAddress)
    (callback : Msg → List EvmAddress → List Nat → List Nat → UserData → World (Market σ) →
      Except RouterError (World (Market σ) × PlanExecuted))
    (tokens : List EvmAddress) (amounts : List Nat) (userData : UserData) :
    Call (Market σ) Unit := fun w => do
  let (ledger, preBalances) ← okOr (lend vault recipient tokens amounts w.rest.ledger) []
  let feeAmounts := tokens.map fun _ => 0
  let (w, event) ← (callback { sender := vault, timestamp := w.rest.timestamp } tokens amounts
    feeAmounts userData (w.withLedger ledger)).mapError fun _ => []
  if repaid vault w.rest.ledger tokens preBalances then
    return ({ w with rest := { w.rest with events := w.rest.events ++ [event] } }, ())
  else .error []

/-- The router's world with its vault. -/
def marketChain (contract : RouterContract) (venues : Venues contract.self σ)
    (coder : LoanCoder UserData) : Chain (Market σ) UserData :=
  { tokenChain contract venues coder with
    flashLoan := fun vault recipient => vaultFlashLoan vault recipient
      (receiveFlashLoan (tokenChain contract venues coder) contract) }

section SameContract

variable {contract : RouterContract} {venues : Venues contract.self σ}
  {coder : LoanCoder UserData}

theorem runSteps_marketChain (deadline : Nat) (steps : List RouteStep) (index : Nat)
    (token : EvmAddress) (amount : Nat) (w : World (Market σ)) :
    runSteps (marketChain contract venues coder) contract deadline index steps token amount w
      = runSteps (tokenChain contract venues coder) contract deadline index steps token
          amount w := by
  induction steps generalizing index token amount w with
  | nil => rfl
  | cons step rest ih =>
      rw [runSteps, runSteps]
      simp only [ih]
      rfl

theorem runRouteChecked_marketChain (plan : ExecutionPlan) (w : World (Market σ)) :
    runRouteChecked (marketChain contract venues coder) contract plan w
      = runRouteChecked (tokenChain contract venues coder) contract plan w := by
  unfold runRouteChecked runRoute
  rw [runSteps_marketChain]

/-- Self-funded plans do not need the vault. -/
theorem executePlan_marketChain (msg : Msg) (plan : ExecutionPlan) (w : World (Market σ)) :
    executePlan (marketChain contract venues coder) contract msg plan w
      = executePlan (tokenChain contract venues coder) contract msg plan w := by
  unfold executePlan
  simp only [runRouteChecked_marketChain]
  rfl

/-- What the vault calls back is the router of this market. -/
theorem receiveFlashLoan_marketChain (msg : Msg) (tokens : List EvmAddress)
    (amounts fees : List Nat) (userData : UserData) (w : World (Market σ)) :
    receiveFlashLoan (marketChain contract venues coder) contract msg tokens amounts fees
        userData w
      = receiveFlashLoan (tokenChain contract venues coder) contract msg tokens amounts fees
          userData w := by
  unfold receiveFlashLoan
  simp only [runRouteChecked_marketChain]
  rfl

end SameContract

/-! ## What the calls do -/

theorem callOut_ok {ω : Type} {call : Call ω α} {w : World ω} {r : World ω × α}
    (h : callOut call w = .ok r) : call w = .ok r := mapError_eq_ok_iff.mp h

theorem onLedger_ok {f : TokenLedger → Option TokenLedger} {w w' : World (Market σ)} {u : Unit}
    (h : onLedger f w = .ok (w', u)) : ∃ l, f w.rest.ledger = some l ∧ w' = w.withLedger l := by
  obtain ⟨l, hl, h⟩ := okOr_bind_eq_ok_iff.mp h
  cases h
  exact ⟨l, hl, rfl⟩

theorem callOut_onLedger (f : TokenLedger → Option TokenLedger) (w : World (Market σ)) :
    callOut (onLedger f) w
      = (okOr (f w.rest.ledger) (RouterError.external [])).map
          fun l => (w.withLedger l, ()) := by
  unfold callOut onLedger
  cases f w.rest.ledger <;> rfl

theorem lend_one (vault recipient token : EvmAddress) (amount : Nat) (l : TokenLedger) :
    lend vault recipient [token] [amount] l
      = (l.transfer token vault recipient amount).map fun l' => (l', [l.balance token vault]) := by
  unfold lend
  cases l.transfer token vault recipient amount <;> rfl

section TokenCalls

variable {contract : RouterContract} {venues : Venues contract.self σ}
  {coder : LoanCoder UserData} {token source recipient spender : EvmAddress} {amount : Nat}
  {w w' : World (Market σ)} {u : Unit}

theorem forceApprove_ok
    (h : callOut ((tokenChain contract venues coder).forceApprove token spender amount) w
      = .ok (w', u)) :
    w' = w.withLedger (w.rest.ledger.approve token contract.self spender amount) := by
  have hcall : onLedger (fun l => some (l.approve token contract.self spender amount)) w
      = .ok (w', u) := callOut_ok h
  obtain ⟨l, hl, rfl⟩ := onLedger_ok hcall
  rw [Option.some.inj hl]

theorem safeTransfer_ok
    (h : callOut ((tokenChain contract venues coder).safeTransfer token recipient amount) w
      = .ok (w', u)) :
    ∃ l, w.rest.ledger.transfer token contract.self recipient amount = some l
      ∧ w' = w.withLedger l := by
  have hcall : onLedger (fun l => l.transfer token contract.self recipient amount) w
      = .ok (w', u) := callOut_ok h
  exact onLedger_ok hcall

theorem safeTransferFrom_ok
    (h : callOut ((tokenChain contract venues coder).safeTransferFrom token source recipient
      amount) w = .ok (w', u)) :
    ∃ l, w.rest.ledger.transferFrom token contract.self source recipient amount = some l
      ∧ w' = w.withLedger l := by
  have hcall : onLedger (fun l => l.transferFrom token contract.self source recipient amount) w
      = .ok (w', u) := callOut_ok h
  exact onLedger_ok hcall

/-- The surplus is paid, unless there is none. -/
theorem paySurplus_ok
    (h : paySurplus (tokenChain contract venues coder) token recipient amount w = .ok w') :
    (∃ l, w.rest.ledger.transfer token contract.self recipient amount = some l
        ∧ w' = w.withLedger l)
      ∨ amount = 0 ∧ w' = w := by
  unfold paySurplus at h
  by_cases hpos : 0 < amount
  · rw [if_pos hpos] at h
    obtain ⟨⟨w₁, u⟩, hpay, h⟩ := bind_eq_ok_iff.mp h
    cases h
    exact Or.inl (safeTransfer_ok hpay)
  · rw [if_neg hpos] at h
    cases h
    exact Or.inr ⟨Nat.eq_zero_of_not_pos hpos, rfl⟩

theorem safeTransfer_eq (token recipient : EvmAddress) (amount : Nat) (w : World (Market σ)) :
    callOut ((tokenChain contract venues coder).safeTransfer token recipient amount) w
      = (okOr (w.rest.ledger.transfer token contract.self recipient amount)
          (.external [])).map fun l => (w.withLedger l, ()) :=
  callOut_onLedger (fun l => l.transfer token contract.self recipient amount) w

theorem safeTransferFrom_eq (token source recipient : EvmAddress) (amount : Nat)
    (w : World (Market σ)) :
    callOut ((tokenChain contract venues coder).safeTransferFrom token source recipient amount) w
      = (okOr (w.rest.ledger.transferFrom token contract.self source recipient amount)
          (.external [])).map fun l => (w.withLedger l, ()) :=
  callOut_onLedger (fun l => l.transferFrom token contract.self source recipient amount) w

end TokenCalls

theorem visit_ok {router : EvmAddress} {venue : VenueCall router σ α} {w w' : World (Market σ)}
    {a : α} (h : visit venue w = .ok (w', a)) :
    ∃ fill l, venue w = .ok fill ∧ runOps fill.ops w.rest.ledger = some l
      ∧ w' = { storage := fill.storage, rest := { w.rest with ledger := l, memory := fill.memory } }
      ∧ a = fill.answer := by
  obtain ⟨fill, hfill, h⟩ := bind_eq_ok_iff.mp h
  obtain ⟨l, hl, h⟩ := okOr_bind_eq_ok_iff.mp h
  cases h
  exact ⟨fill, l, hfill, hl, rfl, rfl⟩

/-- The vault's loan of one token. -/
theorem vaultFlashLoan_ok {vault recipient token : EvmAddress} {amount : Nat}
    {callback : Msg → List EvmAddress → List Nat → List Nat → UserData → World (Market σ) →
      Except RouterError (World (Market σ) × PlanExecuted)}
    {userData : UserData} {w w' : World (Market σ)} {u : Unit}
    (h : vaultFlashLoan vault recipient callback [token] [amount] userData w = .ok (w', u)) :
    ∃ l w₁ event, w.rest.ledger.transfer token vault recipient amount = some l
      ∧ callback { sender := vault, timestamp := w.rest.timestamp } [token] [amount] [0] userData
          (w.withLedger l) = .ok (w₁, event)
      ∧ w.balance token vault ≤ w₁.balance token vault
      ∧ w' = { w₁ with rest := { w₁.rest with events := w₁.rest.events ++ [event] } } := by
  obtain ⟨⟨l, preBalances⟩, hlend, h⟩ := okOr_bind_eq_ok_iff.mp h
  obtain ⟨l₁, hmove, hlend⟩ := Option.bind_eq_some_iff.mp hlend
  cases hlend
  obtain ⟨⟨w₁, event⟩, hcallback, h⟩ := bind_eq_ok_iff.mp h
  dsimp only at h
  split_ifs at h with hrepaid
  cases h
  refine ⟨l, w₁, event, hmove, mapError_eq_ok_iff.mp hcallback, ?_, rfl⟩
  simpa [repaid, World.balance] using hrepaid

/-! ## A sample market -/

section Sample

def wethToken : EvmAddress := 0x4200000000000000000000000000000000000006

def v2Venue : EvmAddress := 0x1111111111111111111111111111111111111111

def v3Venue : EvmAddress := 0x2222222222222222222222222222222222222222

/-- A venue that is paid `pulled` and pays out `delivered`, after some other
pulls from the router. -/
def swapVenue (router target tokenIn tokenOut : EvmAddress) (pulled delivered : Nat)
    (otherPulls : List (EvmAddress × Nat)) (answer : α) : VenueCall router Unit α := fun w =>
  if h : target = router then .error []
  else .ok
    { ops := otherPulls.map (fun (token, amount) => .transferFrom token target router target amount)
        ++ [.transferFrom tokenIn target router target pulled,
            .transfer tokenOut target router delivered],
      storage := w.storage, memory := (), answer,
      foreign := by
        intro op hop
        simp only [List.mem_append, List.mem_map, List.mem_cons, List.not_mem_nil,
          or_false] at hop
        rcases hop with ⟨pull, -, rfl⟩ | rfl | rfl
        · exact h
        · exact h
        · exact h }

/-- The V2 venue pays 2000000 of its output token; the V3 venue pays and
reports what it is set to. -/
def mockVenues (delivered reported : Nat) (otherPulls : List (EvmAddress × Nat)) :
    Venues baseRouter.self Unit :=
  { exactInputSingle := fun target params =>
      swapVenue baseRouter.self target params.tokenIn params.tokenOut params.amountIn delivered
        otherPulls reported,
    swapExactTokensForTokens := fun target amountIn _ path _ _ =>
      swapVenue baseRouter.self target (path.headD 0) (path.getLastD 0) amountIn 2000000 []
        [amountIn, 2000000],
    swapAerodrome := fun _ _ _ _ _ _ _ => .error [] }

/-- The caller can fund the plan, the vault can lend for it, the venues can
pay, and the router holds `inventory` of both tokens, with `leftover` WETH
still allowed to the V3 venue. -/
def mockLedger (inventory leftover : Fin (2 ^ 256)) : TokenLedger :=
  { balance := fun token account =>
      if account = baseRouter.self then inventory
      else if token = wethToken then 3000000
      else if account = v2Venue then 5000000
      else 0,
    allowance := fun token owner spender =>
      if token = wethToken ∧ owner = planExecutor ∧ spender = baseRouter.self then 1000000
      else if token = wethToken ∧ owner = baseRouter.self ∧ spender = v3Venue then leftover
      else 0,
    balance_lt := by
      intro token account
      split_ifs
      · exact inventory.isLt
      · decide
      · decide
      · decide }

def mockWorld (inventory leftover : Fin (2 ^ 256)) : World (Market Unit) :=
  { storage :=
      { owner := 7, paused := false, entered := false,
        executors := fun account => decide (account = planExecutor),
        activeLoanFingerprint := 0 },
    rest := { ledger := mockLedger inventory leftover, memory := (), timestamp := 1700000000,
              events := [] } }

def planMsg : Msg := { sender := planExecutor, timestamp := 1700000000 }

end Sample

end BaseEngine
