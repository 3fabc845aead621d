import BaseEngine.RouterMarket
import Mathlib.Data.FinEnum

/-!
# The router's inventory

Tokens may sit on the router: surpluses that a venue delivered and did not
report, or what `rescueToken` is there for. The router measures nothing: it
approves, swaps and pays by the numbers that venues return. So what it holds
is safe exactly as far as venues report no more than they deliver, and as far
as no old allowance is outstanding.

The invariant of the route is `Covers`: at every step the router holds its
free inventory, what it has granted, and the amount in hand.
-/

namespace BaseEngine

open Fallible Erc20

variable {σ UserData : Type}

/-- No venue reports more of the output token than it has delivered. -/
structure Venues.Truthful {router : EvmAddress} (venues : Venues router σ) : Prop where
  exactInputSingle : ∀ target params w fill,
    venues.exactInputSingle target params w = .ok fill →
      fill.answer ≤ delivered router params.tokenOut fill.ops
  swapExactTokensForTokens : ∀ target amountIn amountOutMin path recipient deadline w fill,
    venues.swapExactTokensForTokens target amountIn amountOutMin path recipient deadline w
      = .ok fill → ∀ token ∈ path.getLast?, ∀ out ∈ fill.answer.getLast?,
        out ≤ delivered router token fill.ops
  swapAerodrome : ∀ target amountIn amountOutMin routes recipient deadline w fill,
    venues.swapAerodrome target amountIn amountOutMin routes recipient deadline w
      = .ok fill → ∀ route ∈ routes.getLast?, ∀ out ∈ fill.answer.getLast?,
        out ≤ delivered router route.destination fill.ops

/-- Nothing but `amount` of `token`. -/
def inHand (token : EvmAddress) (amount : Nat) : EvmAddress → Nat :=
  adding (fun _ => 0) token amount

section Route

variable {contract : RouterContract} {venues : Venues contract.self σ}
  {coder : LoanCoder UserData} {base : EvmAddress → Nat}

/-- A venue that has delivered what it reports. -/
theorem covers_visit {α : Type} {venue : VenueCall contract.self σ α} {w w' : World (Market σ)}
    {a : α} {token : EvmAddress} {out : Nat}
    (h : Covers w.rest.ledger contract.self base fun _ => 0)
    (hvisit : visit venue w = .ok (w', a))
    (hout : ∀ fill, venue w = .ok fill → fill.answer = a →
      out ≤ delivered contract.self token fill.ops) :
    Covers w'.rest.ledger contract.self base (inHand token out) := by
  obtain ⟨fill, l, hfill, hops, rfl, rfl⟩ := visit_ok hvisit
  refine (h.runOps fill.foreign hops).mono fun t => ?_
  unfold inHand adding
  by_cases ht : t = token
  · rw [if_pos ht, ht]
    exact Nat.add_le_add_left (hout fill hfill rfl) _
  · rw [if_neg ht]
    exact Nat.le_add_right _ _

/-- **One step.** The amount in hand becomes the amount that is reported. -/
theorem covers_executeStep (htruth : venues.Truthful) {step : RouteStep}
    {amountIn deadline out : Nat} {w w' : World (Market σ)}
    (h : Covers w.rest.ledger contract.self base (inHand step.tokenIn amountIn))
    (hstep : executeStep (tokenChain contract venues coder) contract step amountIn deadline w
      = .ok (w', out)) :
    Covers w'.rest.ledger contract.self base (inHand step.tokenOut out) := by
  -- every adapter first approves what is in hand
  have happrove : ∀ {w₁ : World (Market σ)} {u : Unit},
      callOut ((tokenChain contract venues coder).forceApprove step.tokenIn step.target
        amountIn) w = .ok (w₁, u) →
      Covers w₁.rest.ledger contract.self base fun _ => 0 := by
    intro w₁ u happ
    rw [forceApprove_ok happ]
    exact h.approve
  unfold executeStep at hstep
  cases hkind : step.venueKind with
  | unsupported => rw [hkind] at hstep; cases hstep
  | uniswapV3Single =>
      rw [hkind] at hstep
      obtain ⟨⟨w₁, u⟩, happ, hswap⟩ := bind_eq_ok_iff.mp hstep
      refine covers_visit (happrove happ) (callOut_ok hswap) fun fill hfill hanswer => ?_
      rw [← hanswer]
      exact htruth.exactInputSingle _ _ _ _ hfill
  | uniswapV2 =>
      rw [hkind] at hstep
      obtain ⟨⟨w₁, u⟩, happ, hstep⟩ := bind_eq_ok_iff.mp hstep
      obtain ⟨⟨w₂, amounts⟩, hswap, hstep⟩ := bind_eq_ok_iff.mp hstep
      obtain ⟨last, hlast, hstep⟩ := okOr_bind_eq_ok_iff.mp hstep
      cases hstep
      refine covers_visit (happrove happ) (callOut_ok hswap) fun fill hfill hanswer => ?_
      exact htruth.swapExactTokensForTokens _ _ _ _ _ _ _ _ hfill _ rfl _ (hanswer ▸ hlast)
  | aerodromeV2 =>
      rw [hkind] at hstep
      obtain ⟨⟨stable, factory⟩, -, hstep⟩ := okOr_bind_eq_ok_iff.mp hstep
      obtain ⟨⟨w₁, u⟩, happ, hstep⟩ := bind_eq_ok_iff.mp hstep
      obtain ⟨⟨w₂, amounts⟩, hswap, hstep⟩ := bind_eq_ok_iff.mp hstep
      obtain ⟨last, hlast, hstep⟩ := okOr_bind_eq_ok_iff.mp hstep
      cases hstep
      refine covers_visit (happrove happ) (callOut_ok hswap) fun fill hfill hanswer => ?_
      exact htruth.swapAerodrome _ _ _ _ _ _ _ _ hfill _ rfl _ (hanswer ▸ hlast)

/-- **Any number of steps.** -/
theorem covers_runSteps (htruth : venues.Truthful) {deadline index : Nat}
    {steps : List RouteStep} {token token' : EvmAddress} {amount out : Nat}
    {w w' : World (Market σ)}
    (h : Covers w.rest.ledger contract.self base (inHand token amount))
    (hrun : runSteps (tokenChain contract venues coder) contract deadline index steps token
      amount w = .ok (w', token', out)) :
    Covers w'.rest.ledger contract.self base (inHand token' out) := by
  induction steps generalizing index token amount w with
  | nil =>
      cases hrun
      exact h
  | cons step rest ih =>
      rw [runSteps] at hrun
      split_ifs at hrun with htoken
      rw [ne_eq, not_not] at htoken
      subst htoken
      obtain ⟨⟨w₁, next⟩, hstep, hrun⟩ := bind_eq_ok_iff.mp hrun
      dsimp only at hrun
      split_ifs at hrun with hlow
      exact ih (covers_executeStep htruth h hstep) hrun

theorem covers_runRouteChecked (htruth : venues.Truthful) {plan : ExecutionPlan} {out : Nat}
    {w w' : World (Market σ)}
    (h : Covers w.rest.ledger contract.self base
      (inHand plan.settlementToken plan.fundingAmount))
    (hrun : runRouteChecked (tokenChain contract venues coder) contract plan w
      = .ok (w', out)) :
    Covers w'.rest.ledger contract.self base (inHand plan.settlementToken out) := by
  obtain ⟨⟨w₁, amountOut⟩, hroute, hcheck⟩ := bind_eq_ok_iff.mp hrun
  obtain ⟨minimum, -, hcheck⟩ := bind_eq_ok_iff.mp hcheck
  split_ifs at hcheck with hlow
  cases hcheck
  unfold runRoute at hroute
  split_ifs at hroute with hempty
  obtain ⟨⟨w₂, token, amount⟩, hsteps, hroute⟩ := bind_eq_ok_iff.mp hroute
  dsimp only at hroute
  split_ifs at hroute with htoken
  rw [ne_eq, not_not] at htoken
  subst htoken
  cases hroute
  exact covers_runSteps htruth h hsteps

/-- **The self-funded plan.** It takes in what it starts with and pays out
what it ends with. -/
theorem covers_executePlan (htruth : venues.Truthful) {msg : Msg} {plan : ExecutionPlan}
    {event : PlanExecuted} {w w' : World (Market σ)} (hcaller : msg.sender ≠ contract.self)
    (h : Covers w.rest.ledger contract.self base fun _ => 0)
    (hrun : executePlan (marketChain contract venues coder) contract msg plan w
      = .ok (w', event)) :
    Covers w'.rest.ledger contract.self base fun _ => 0 := by
  rw [executePlan_marketChain] at hrun
  obtain ⟨w₁, henter, hrun⟩ := bind_eq_ok_iff.mp hrun
  obtain rfl := enterPlan_ok henter
  obtain ⟨⟨w₂, u⟩, hfund, hrun⟩ := bind_eq_ok_iff.mp hrun
  obtain ⟨⟨w₃, out⟩, hroute, hrun⟩ := bind_eq_ok_iff.mp hrun
  obtain ⟨⟨w₄, u'⟩, hpay, hrun⟩ := bind_eq_ok_iff.mp hrun
  obtain ⟨surplus, -, hrun⟩ := bind_eq_ok_iff.mp hrun
  cases hrun
  obtain ⟨l, hl, rfl⟩ := safeTransferFrom_ok hfund
  obtain ⟨l', hl', rfl⟩ := safeTransfer_ok hpay
  obtain ⟨l₁, hspend, hmove⟩ := Option.bind_eq_some_iff.mp hl
  have hfunded : Covers l contract.self base
      (inHand plan.settlementToken plan.fundingAmount) := by
    have hspent : Covers l₁ contract.self base fun _ => 0 := by
      rcases Ledger.spend_cases hspend with ⟨-, rfl⟩ | ⟨-, rfl⟩
      · exact h
      · exact h.approve_of_ne hcaller
    have hreceived := hspent.receive hcaller hmove
    rwa [if_pos rfl] at hreceived
  have hout := covers_runRouteChecked htruth (w := (setEntered true w).withLedger l) hfunded
    hroute
  exact hout.pay hl'

/-- **The callback.** It is called with the loan in hand and pays all of the
output out, to the vault and to the caller. -/
theorem covers_callbackRun (htruth : venues.Truthful) {loanCaller : EvmAddress}
    {plan : ExecutionPlan} {event : PlanExecuted} {w w' : World (Market σ)}
    (h : Covers w.rest.ledger contract.self base
      (inHand plan.settlementToken plan.fundingAmount))
    (hrun : CallbackRun (tokenChain contract venues coder) contract loanCaller plan w w' event) :
    Covers w'.rest.ledger contract.self base fun _ => 0 := by
  obtain ⟨w₁, w₂, hroute, hrepay, hsurplus⟩ := hrun.steps
  have hout := covers_runRouteChecked htruth (w := setFingerprint 0 w) h hroute
  obtain ⟨l, hl, rfl⟩ := safeTransfer_ok hrepay
  -- the output is the loan and the surplus
  have hsplit : Covers w₁.rest.ledger contract.self base
      (adding (inHand plan.settlementToken event.surplus) plan.settlementToken
        plan.fundingAmount) := by
    refine hout.mono fun t => ?_
    have := hrun.covers
    have := hrun.surplus
    unfold inHand adding
    split_ifs <;> omega
  have hrest := hsplit.pay hl
  rcases paySurplus_ok hsurplus with ⟨l', hl', rfl⟩ | ⟨-, rfl⟩
  · exact hrest.pay hl'
  · exact hrest.mono fun _ => Nat.zero_le _

/-- **The flash-loan plan.** -/
theorem covers_executePlanWithFlashLoan (htruth : venues.Truthful) {msg : Msg}
    {plan : ExecutionPlan} {w w' : World (Market σ)}
    (hvault : contract.balancerVault ≠ contract.self)
    (h : Covers w.rest.ledger contract.self base fun _ => 0)
    (hrun : executePlanWithFlashLoan (marketChain contract venues coder) contract msg plan w
      = .ok w') :
    Covers w'.rest.ledger contract.self base fun _ => 0 := by
  obtain ⟨w₁, henter, hrun⟩ := bind_eq_ok_iff.mp hrun
  obtain rfl := enterPlan_ok henter
  obtain ⟨⟨w₂, u⟩, hloan, hrun⟩ := bind_eq_ok_iff.mp hrun
  dsimp only at hrun
  split_ifs at hrun with hprint
  cases hrun
  obtain ⟨l, w₃, event, hlent, hcallback, -, rfl⟩ := vaultFlashLoan_ok (callOut_ok hloan)
  obtain ⟨loanCaller, plan', -, htoken, hamount, hcall⟩ := receiveFlashLoan_run hcallback
  obtain ⟨htoken', -⟩ := List.cons.inj htoken
  obtain ⟨hamount', -⟩ := List.cons.inj hamount
  have hreceived := Covers.receive (l := w.rest.ledger) h hvault hlent
  rw [if_pos rfl, htoken', hamount'] at hreceived
  have hend : Covers w₃.rest.ledger contract.self base fun _ => 0 := by
    refine covers_callbackRun htruth ?_ hcall
    exact hreceived
  exact hend

variable (contract) in
/-- For every token, the router holds at least what it held. -/
def KeepsInventory (w w' : World (Market σ)) : Prop :=
  ∀ token, w.balance token contract.self ≤ w'.balance token contract.self

variable (contract) in
/-- For every token, what the router holds beyond the allowances it has
outstanding has not shrunk. Without outstanding allowances its balances have
not. -/
def KeepsFreeInventory (w w' : World (Market σ)) : Prop :=
  (∀ token, free w.rest.ledger contract.self token ≤ free w'.rest.ledger contract.self token)
    ∧ ((∀ token spender, w.rest.ledger.allowance token contract.self spender = 0) →
        KeepsInventory contract w w')

theorem keepsFreeInventory_of_covers {w w' : World (Market σ)}
    (h : Covers w'.rest.ledger contract.self (free w.rest.ledger contract.self) fun _ => 0) :
    KeepsFreeInventory contract w w' := by
  refine ⟨h.free_le, fun hnone token => ?_⟩
  have hgranted : granted w.rest.ledger contract.self token = 0 :=
    Finset.sum_eq_zero fun spender _ => hnone token spender
  have hle := h.free_le token
  unfold free at hle
  rw [hgranted, Nat.sub_zero] at hle
  exact le_trans hle (Nat.sub_le _ _)

/-- **The router keeps its inventory** among venues that report no more than
they deliver, whatever they pull within their allowances. -/
theorem inventory_kept (htruth : venues.Truthful) {msg : Msg} {plan : ExecutionPlan}
    {w : World (Market σ)} (hcaller : msg.sender ≠ contract.self)
    (hvault : contract.balancerVault ≠ contract.self) :
    (∀ w' event, executePlan (marketChain contract venues coder) contract msg plan w
        = .ok (w', event) → KeepsFreeInventory contract w w')
      ∧ ∀ w', executePlanWithFlashLoan (marketChain contract venues coder) contract msg plan w
          = .ok w' → KeepsFreeInventory contract w w' := by
  constructor
  · intro w' event hrun
    exact keepsFreeInventory_of_covers (covers_executePlan htruth hcaller covers_free hrun)
  · intro w' hrun
    exact keepsFreeInventory_of_covers
      (covers_executePlanWithFlashLoan htruth hvault covers_free hrun)

end Route

section Sample

theorem mockVenues_truthful {delivered reported : Nat} {otherPulls : List (EvmAddress × Nat)}
    (h : reported ≤ delivered) : (mockVenues delivered reported otherPulls).Truthful := by
  -- the last operation of a swap is its delivery
  have hswap : ∀ {α : Type} {target tokenIn tokenOut : EvmAddress} {pulled out : Nat}
      {pulls : List (EvmAddress × Nat)} {answer : α} {w : World (Market Unit)}
      {fill : Fill baseRouter.self Unit α},
      swapVenue baseRouter.self target tokenIn tokenOut pulled out pulls answer w = .ok fill →
      out ≤ Erc20.delivered baseRouter.self tokenOut fill.ops ∧ fill.answer = answer := by
    intro α target tokenIn tokenOut pulled out pulls answer w fill hfill
    unfold swapVenue at hfill
    split_ifs at hfill with htarget
    cases hfill
    refine ⟨?_, rfl⟩
    simp [Erc20.delivered, Op.delivers, htarget]
  constructor
  · intro target params w fill hfill
    obtain ⟨hle, hanswer⟩ := hswap hfill
    rw [hanswer]
    exact le_trans h hle
  · intro target amountIn amountOutMin path recipient deadline w fill hfill token htoken out hout
    obtain ⟨hle, hanswer⟩ := hswap hfill
    rw [hanswer] at hout
    obtain rfl : 2000000 = out := Option.some.inj hout
    obtain rfl : path.getLastD 0 = token := by
      rw [List.getLastD_eq_getLast?, Option.mem_def.mp htoken]
      rfl
    exact hle
  · intro target amountIn amountOutMin routes recipient deadline w fill hfill
    cases hfill

/-- A router with inventory and truthful venues: both ways of funding the plan
complete and leave the inventory as it was. -/
theorem truthfulVenues_inventory_kept :
    (∃ w' event, executePlan (marketChain baseRouter (mockVenues 1000007 1000007 []) planCoder)
        baseRouter planMsg twoLegPlan (mockWorld 2000000 0) = .ok (w', event)
      ∧ KeepsInventory baseRouter (mockWorld 2000000 0) w')
      ∧ ∃ w', executePlanWithFlashLoan
          (marketChain baseRouter (mockVenues 1000007 1000007 []) planCoder) baseRouter planMsg
          twoLegPlan (mockWorld 2000000 0) = .ok w'
        ∧ KeepsInventory baseRouter (mockWorld 2000000 0) w' := by
  have htruth : (mockVenues 1000007 1000007 []).Truthful := mockVenues_truthful (le_refl _)
  have hcaller : planMsg.sender ≠ baseRouter.self := by decide
  have hvault : baseRouter.balancerVault ≠ baseRouter.self := by decide
  have hnone : ∀ token spender, (mockWorld 2000000 0).rest.ledger.allowance token
      baseRouter.self spender = 0 := by
    intro token spender
    have hself : baseRouter.self ≠ planExecutor := by decide
    simp [mockWorld, mockLedger, hself]
  obtain ⟨⟨w', event⟩, hplan⟩ := isOk_iff.mp (show (executePlan
    (marketChain baseRouter (mockVenues 1000007 1000007 []) planCoder) baseRouter planMsg
    twoLegPlan (mockWorld 2000000 0)).isOk = true by decide)
  obtain ⟨w'', hloan⟩ := isOk_iff.mp (show (executePlanWithFlashLoan
    (marketChain baseRouter (mockVenues 1000007 1000007 []) planCoder) baseRouter planMsg
    twoLegPlan (mockWorld 2000000 0)).isOk = true by decide)
  exact ⟨⟨w', event, hplan, ((inventory_kept htruth hcaller hvault).1 w' event hplan).2 hnone⟩,
    w'', hloan, ((inventory_kept htruth hcaller hvault).2 w'' hloan).2 hnone⟩

theorem exists_not_kept {α : Type} {run : Except RouterError α} {after : α → World (Market Unit)}
    {w : World (Market Unit)} {left : Nat}
    (hrun : run.map (fun r => (after r).balance wethToken baseRouter.self) = .ok left)
    (hlost : left < w.balance wethToken baseRouter.self) :
    ∃ r, run = .ok r ∧ ¬ KeepsInventory baseRouter w (after r) := by
  cases run with
  | error e => cases hrun
  | ok r =>
      refine ⟨r, rfl, fun hkept => ?_⟩
      have hleft : (after r).balance wethToken baseRouter.self = left := Except.ok.inj hrun
      exact absurd (hkept wethToken) (by rw [hleft]; exact Nat.not_le.mpr hlost)

/-- The other way: a venue that reports what it does not deliver makes the
router pay from its inventory, on both ways of funding the plan; and a
truthful venue takes what an old allowance still lets it take. -/
theorem untruthfulVenue_bleeds :
    (¬ ∀ w' event, executePlan (marketChain baseRouter (mockVenues 0 1000007 []) planCoder)
        baseRouter planMsg twoLegPlan (mockWorld 2000000 0) = .ok (w', event) →
      KeepsInventory baseRouter (mockWorld 2000000 0) w')
    ∧ (¬ ∀ w', executePlanWithFlashLoan
        (marketChain baseRouter (mockVenues 0 1000007 []) planCoder) baseRouter planMsg
        twoLegPlan (mockWorld 2000000 0) = .ok w' →
      KeepsInventory baseRouter (mockWorld 2000000 0) w')
    ∧ ¬ ∀ w' event, executePlan
        (marketChain baseRouter (mockVenues 1000007 1000007 [(wethToken, 40)]) planCoder)
        baseRouter planMsg twoLegPlan (mockWorld 2000000 50) = .ok (w', event) →
      KeepsInventory baseRouter (mockWorld 2000000 50) w' := by
  refine ⟨fun h => ?_, fun h => ?_, fun h => ?_⟩
  · obtain ⟨⟨w', event⟩, hrun, hnot⟩ := exists_not_kept (w := mockWorld 2000000 0)
      (show (executePlan (marketChain baseRouter (mockVenues 0 1000007 []) planCoder) baseRouter
        planMsg twoLegPlan (mockWorld 2000000 0)).map
          (fun r => r.1.balance wethToken baseRouter.self) = .ok 999993 by decide)
      (by decide)
    exact hnot (h w' event hrun)
  · obtain ⟨w', hrun, hnot⟩ := exists_not_kept (w := mockWorld 2000000 0)
      (show (executePlanWithFlashLoan (marketChain baseRouter (mockVenues 0 1000007 []) planCoder)
        baseRouter planMsg twoLegPlan (mockWorld 2000000 0)).map
          (fun r => r.balance wethToken baseRouter.self) = .ok 999993 by decide)
      (by decide)
    exact hnot (h w' hrun)
  · obtain ⟨⟨w', event⟩, hrun, hnot⟩ := exists_not_kept (w := mockWorld 2000000 50)
      (show (executePlan (marketChain baseRouter (mockVenues 1000007 1000007 [(wethToken, 40)])
        planCoder) baseRouter planMsg twoLegPlan (mockWorld 2000000 50)).map
          (fun r => r.1.balance wethToken baseRouter.self) = .ok 1999960 by decide)
      (by decide)
    exact hnot (h w' event hrun)

end Sample

end BaseEngine
