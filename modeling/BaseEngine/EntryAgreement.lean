import BaseEngine.Lib.Agree
import BaseEngine.RouterMarket

/-!
# The two entry points agree

A plan that repays exactly its funding does the same whether the caller funds
it (`executePlan`) or the vault lends to it (`executePlanWithFlashLoan`).

The two runs are followed side by side. On the way the worlds differ only in
who has paid for the route: the caller is behind by the funding in the first
run, the vault in the second (`Parallel`). Venues cannot tell (`Blind`), so
each step of the route keeps the difference, and the payments at the end
settle it.
-/

namespace BaseEngine

open Fallible Erc20 Machine

variable {σ UserData α : Type} {contract : RouterContract} {venues : Venues contract.self σ}
  {coder : LoanCoder UserData} {router caller vault : EvmAddress}

/-! ## Venues that do not look at the parties -/

/-- Worlds that differ only in what belongs to the caller and the vault. -/
structure SameBut (caller vault : EvmAddress) (w₁ w₂ : World (Market σ)) : Prop where
  storage : w₁.storage = w₂.storage
  memory : w₁.rest.memory = w₂.rest.memory
  timestamp : w₁.rest.timestamp = w₂.rest.timestamp
  ledger : AgreeOff (fun a => a = caller ∨ a = vault) w₁.rest.ledger w₂.rest.ledger

/-- A call has done the same in both worlds. It may have paid the caller or
the vault, the same in both, but nobody takes from the vault. -/
structure SameEffect (caller vault : EvmAddress) (w₁ w₂ : World (Market σ))
    (r₁ r₂ : World (Market σ) × α) : Prop where
  answer : r₁.2 = r₂.2
  same : SameBut caller vault r₁.1 r₂.1
  fingerprint : r₁.1.storage.activeLoanFingerprint = w₁.storage.activeLoanFingerprint
  toCaller : ∀ token, r₁.1.balance token caller + w₂.balance token caller
    = r₂.1.balance token caller + w₁.balance token caller
  toVault : ∀ token, r₁.1.balance token vault + w₂.balance token vault
    = r₂.1.balance token vault + w₁.balance token vault
  vault_le : ∀ token, w₁.balance token vault ≤ r₁.1.balance token vault

/-- What a call does depends on neither the caller nor the vault. -/
def Blind (caller vault : EvmAddress) (venue : VenueCall router σ α) : Prop :=
  ∀ w₁ w₂, SameBut caller vault w₁ w₂ →
    Agree (SameEffect caller vault w₁ w₂) (visit venue w₁) (visit venue w₂)

/-- A call does not involve the vault. -/
def Spares (vault : EvmAddress) (venue : VenueCall router σ α) : Prop :=
  ∀ w w' a, visit venue w = .ok (w', a) → ∀ token, w'.balance token vault = w.balance token vault

/-- `P` holds of the call that the router makes in a step, whatever amount
it has in hand. -/
def Venues.AtStep (venues : Venues contract.self σ)
    (P : ∀ {α : Type}, VenueCall contract.self σ α → Prop) (step : RouteStep)
    (deadline : Nat) : Prop :=
  ∀ amountIn, match step.venueKind with
    | .uniswapV3Single => P (venues.exactInputSingle step.target
        { tokenIn := step.tokenIn, tokenOut := step.tokenOut, fee := step.fee,
          recipient := contract.self, deadline, amountIn,
          amountOutMinimum := step.minAmountOut, sqrtPriceLimitX96 := 0 })
    | .uniswapV2 => P (venues.swapExactTokensForTokens step.target amountIn step.minAmountOut
        [step.tokenIn, step.tokenOut] contract.self deadline)
    | .aerodromeV2 => ∀ stable factory, P (venues.swapAerodrome step.target amountIn
        step.minAmountOut
        [{ source := step.tokenIn, destination := step.tokenOut, stable, factory }]
        contract.self deadline)
    | .unsupported => True

/-- A call that makes the same operations and gives the same answer in every
world. -/
def Fixed (ops : List TokenOp) (answer : α) (venue : VenueCall router σ α) : Prop :=
  ∀ w, ∃ fill, venue w = .ok fill ∧ fill.ops = ops ∧ fill.answer = answer
    ∧ fill.storage = w.storage ∧ fill.memory = w.rest.memory

/-- Such calls are blind when their operations are among others. -/
theorem Fixed.blind {ops : List TokenOp} {answer : α} {venue : VenueCall router σ α}
    (h : Fixed ops answer venue)
    (hops : ∀ op ∈ ops, ∀ a ∈ op.parties, ¬(a = caller ∨ a = vault)) :
    Blind caller vault venue := by
  intro w₁ w₂ hsame
  obtain ⟨fill₁, hfill₁, hops₁, hanswer₁, hstorage₁, hmemory₁⟩ := h w₁
  obtain ⟨fill₂, hfill₂, hops₂, hanswer₂, hstorage₂, hmemory₂⟩ := h w₂
  unfold visit
  rw [hfill₁, hfill₂, ok_bind, ok_bind, hops₁, hops₂]
  have hrel := hsame.ledger.runOps hops
  generalize runOps ops w₁.rest.ledger = o₁, runOps ops w₂.rest.ledger = o₂ at hrel
  cases hrel with
  | none => exact agree_error _ _
  | some hmove =>
      rename_i l₁ l₂
      have hcaller₁ : ∀ t, l₁.balance t caller = w₁.balance t caller :=
        fun t => hmove.left t caller (Or.inl rfl)
      have hcaller₂ : ∀ t, l₂.balance t caller = w₂.balance t caller :=
        fun t => hmove.right t caller (Or.inl rfl)
      have hvault₁ : ∀ t, l₁.balance t vault = w₁.balance t vault :=
        fun t => hmove.left t vault (Or.inr rfl)
      have hvault₂ : ∀ t, l₂.balance t vault = w₂.balance t vault :=
        fun t => hmove.right t vault (Or.inr rfl)
      refine ⟨hanswer₁.trans hanswer₂.symm, ⟨?_, ?_, hsame.timestamp, hmove.same⟩, ?_,
        fun t => ?_, fun t => ?_, fun t => ?_⟩
      · exact hstorage₁.trans (hsame.storage.trans hstorage₂.symm)
      · exact hmemory₁.trans (hsame.memory.trans hmemory₂.symm)
      · exact congrArg RouterStorage.activeLoanFingerprint hstorage₁
      · show l₁.balance t caller + _ = l₂.balance t caller + _
        rw [hcaller₁, hcaller₂, Nat.add_comm]
      · show l₁.balance t vault + _ = l₂.balance t vault + _
        rw [hvault₁, hvault₂, Nat.add_comm]
      · exact (hvault₁ t).ge

theorem Fixed.spares {ops : List TokenOp} {answer : α} {venue : VenueCall router σ α}
    (h : Fixed ops answer venue) (hops : ∀ op ∈ ops, ∀ a ∈ op.parties, a ≠ vault) :
    Spares vault venue := by
  intro w w' a hvisit token
  obtain ⟨fill, hfill, hfillOps, -⟩ := h w
  obtain ⟨fill', l, hfill', hrun, rfl, -⟩ := visit_ok hvisit
  obtain rfl : fill = fill' := Except.ok.inj (hfill.symm.trans hfill')
  have hself : AgreeOff (fun a => a = vault) w.rest.ledger w.rest.ledger :=
    ⟨fun _ _ _ => rfl, fun _ _ _ _ => rfl⟩
  have hrel := hself.runOps hops
  rw [← hfillOps, hrun] at hrel
  cases hrel with
  | some hmove => exact hmove.left token vault rfl

/-! ## The route, side by side -/

/-- The caller has paid `lent` in the first run, the vault in the second,
since both left `start`. -/
structure Parallel (contract : RouterContract) (caller : EvmAddress) (lent : EvmAddress → Nat)
    (spared : Prop) (start w₁ w₂ : World (Market σ)) : Prop where
  same : SameBut caller contract.balancerVault w₁ w₂
  fingerprint : w₁.storage.activeLoanFingerprint = 0
  behind : ∀ token, w₁.balance token caller + lent token = w₂.balance token caller
  lentOut : ∀ token, w₂.balance token contract.balancerVault + lent token
    = w₁.balance token contract.balancerVault
  vault_le : ∀ token,
    start.balance token contract.balancerVault ≤ w₁.balance token contract.balancerVault
  vault_eq : spared → ∀ token,
    w₁.balance token contract.balancerVault = start.balance token contract.balancerVault
  events : w₂.rest.events = start.rest.events

/-- Both runs have come to the same value, side by side. -/
def Abreast (contract : RouterContract) (caller : EvmAddress) (lent : EvmAddress → Nat)
    (spared : Prop) (start : World (Market σ)) (r₁ r₂ : World (Market σ) × α) : Prop :=
  Parallel contract caller lent spared start r₁.1 r₂.1 ∧ r₁.2 = r₂.2

section Route

variable {lent : EvmAddress → Nat} {spared : Prop} {start w₁ w₂ : World (Market σ)}
  {deadline : Nat}

/-- What the route needs of a venue's call. -/
def Unseeing (contract : RouterContract) (caller : EvmAddress) (spared : Prop) {α : Type}
    (venue : VenueCall contract.self σ α) : Prop :=
  Blind caller contract.balancerVault venue
    ∧ (spared → Spares contract.balancerVault venue)

theorem atStep_unseeing {step : RouteStep}
    (hblind : venues.AtStep (Blind caller contract.balancerVault) step deadline)
    (hspares : spared → venues.AtStep (Spares contract.balancerVault) step deadline) :
    venues.AtStep (Unseeing contract caller spared) step deadline := by
  intro amountIn
  have hb := hblind amountIn
  have hs := fun h => hspares h amountIn
  cases hkind : step.venueKind with
  | unsupported => trivial
  | uniswapV3Single =>
      rw [hkind] at hb hs
      exact ⟨hb, hs⟩
  | uniswapV2 =>
      rw [hkind] at hb hs
      exact ⟨hb, hs⟩
  | aerodromeV2 =>
      rw [hkind] at hb hs
      exact fun stable factory => ⟨hb stable factory, fun h => hs h stable factory⟩

theorem Parallel.visit {venue : VenueCall contract.self σ α}
    (h : Parallel contract caller lent spared start w₁ w₂)
    (hvenue : Unseeing contract caller spared venue) :
    Agree (Abreast contract caller lent spared start)
      (visit venue w₁) (visit venue w₂) := by
  have hagree := hvenue.1 w₁ w₂ h.same
  refine agree_of_iff hagree.isOk_iff ?_
  rintro ⟨w₁', a₁⟩ ⟨w₂', a₂⟩ h₁ h₂
  have heffect := hagree.of_ok h₁ h₂
  refine ⟨⟨heffect.same, heffect.fingerprint.trans h.fingerprint, fun t => ?_, fun t => ?_,
    fun t => (h.vault_le t).trans (heffect.vault_le t), fun hspared t => ?_, ?_⟩,
    heffect.answer⟩
  · have hmoved := heffect.toCaller t
    have hbehind := h.behind t
    dsimp only at hmoved ⊢
    omega
  · have hmoved := heffect.toVault t
    have hlent := h.lentOut t
    dsimp only at hmoved ⊢
    omega
  · exact (hvenue.2 hspared w₁ w₁' a₁ h₁ t).trans (h.vault_eq hspared t)
  · obtain ⟨fill, l, -, -, rfl, -⟩ := visit_ok h₂
    exact h.events

theorem Parallel.forceApprove (h : Parallel contract caller lent spared start w₁ w₂)
    (token spender : EvmAddress) (amount : Nat) :
    Agree (fun r₁ r₂ => Parallel contract caller lent spared start r₁.1 r₂.1)
      (callOut ((tokenChain contract venues coder).forceApprove token spender amount) w₁)
      (callOut ((tokenChain contract venues coder).forceApprove token spender amount) w₂) := by
  show Parallel contract caller lent spared start
    (w₁.withLedger (w₁.rest.ledger.approve token contract.self spender amount))
    (w₂.withLedger (w₂.rest.ledger.approve token contract.self spender amount))
  exact ⟨⟨h.same.storage, h.same.memory, h.same.timestamp, (h.same.ledger.approve ..).same⟩,
    h.fingerprint, h.behind, h.lentOut, h.vault_le, h.vault_eq, h.events⟩

/-- The V2 adapters take the last of the amounts. -/
theorem agree_lastAmount {r₁ r₂ : World (Market σ) × List Nat}
    (h : Abreast contract caller lent spared start r₁ r₂) :
    Agree (Abreast contract caller lent spared start)
      (do let out ← okOr r₁.2.getLast? RouterError.arithmeticPanic; return (r₁.1, out))
      (do let out ← okOr r₂.2.getLast? RouterError.arithmeticPanic; return (r₂.1, out)) := by
  rw [h.2]
  cases r₂.2.getLast? with
  | none => exact agree_error _ _
  | some out => exact ⟨h.1, rfl⟩

/-- Step: a step of the route keeps the two runs together. -/
theorem Parallel.executeStep {step : RouteStep}
    (h : Parallel contract caller lent spared start w₁ w₂)
    (hvenue : venues.AtStep (Unseeing contract caller spared) step deadline) (amountIn : Nat) :
    Agree (Abreast contract caller lent spared start)
      (executeStep (tokenChain contract venues coder) contract step amountIn deadline w₁)
      (executeStep (tokenChain contract venues coder) contract step amountIn deadline w₂) := by
  have hcall := hvenue amountIn
  unfold BaseEngine.executeStep
  cases hkind : step.venueKind with
  | unsupported => exact agree_error _ _
  | uniswapV3Single =>
      rw [hkind] at hcall
      refine (h.forceApprove step.tokenIn step.target amountIn).bind fun r₁ r₂ _ _ hr => ?_
      exact (hr.visit hcall).mapError _ _
  | uniswapV2 =>
      rw [hkind] at hcall
      refine (h.forceApprove step.tokenIn step.target amountIn).bind fun r₁ r₂ _ _ hr => ?_
      exact ((hr.visit hcall).mapError _ _).bind fun _ _ _ _ hlast => agree_lastAmount hlast
  | aerodromeV2 =>
      rw [hkind] at hcall
      unfold swapAerodromeV2
      cases abiDecodeBoolAddress step.extraData with
      | none => exact agree_error _ _
      | some data =>
          rw [okOr_some, ok_bind, ok_bind]
          refine (h.forceApprove step.tokenIn step.target amountIn).bind fun r₁ r₂ _ _ hr => ?_
          exact ((hr.visit (hcall data.1 data.2)).mapError _ _).bind
            fun _ _ _ _ hlast => agree_lastAmount hlast

/-- Run: so does the loop. -/
theorem Parallel.runSteps {steps : List RouteStep} {index : Nat} {token : EvmAddress}
    {amount : Nat} (h : Parallel contract caller lent spared start w₁ w₂)
    (hvenues : ∀ step ∈ steps, venues.AtStep (Unseeing contract caller spared) step deadline) :
    Agree (Abreast contract caller lent spared start)
      (runSteps (tokenChain contract venues coder) contract deadline index steps token amount w₁)
      (runSteps (tokenChain contract venues coder) contract deadline index steps token amount
        w₂) := by
  induction steps generalizing index token amount w₁ w₂ with
  | nil => exact ⟨h, rfl⟩
  | cons step rest ih =>
      simp only [BaseEngine.runSteps]
      refine agree_ite_error fun _ => ?_
      refine (h.executeStep (hvenues step (List.mem_cons_self ..)) amount).bind ?_
      rintro ⟨w₁', next⟩ ⟨w₂', next'⟩ - - ⟨hparallel, rfl⟩
      exact agree_ite_error fun _ =>
        ih hparallel fun s hs => hvenues s (List.mem_cons_of_mem _ hs)

theorem Parallel.runRouteChecked {plan : ExecutionPlan}
    (h : Parallel contract caller lent spared start w₁ w₂)
    (hvenues : ∀ step ∈ plan.steps,
      venues.AtStep (Unseeing contract caller spared) step plan.deadline) :
    Agree (Abreast contract caller lent spared start)
      (runRouteChecked (tokenChain contract venues coder) contract plan w₁)
      (runRouteChecked (tokenChain contract venues coder) contract plan w₂) := by
  have hroute : Agree (Abreast contract caller lent spared start)
      (runRoute (tokenChain contract venues coder) contract plan plan.fundingAmount w₁)
      (runRoute (tokenChain contract venues coder) contract plan plan.fundingAmount w₂) := by
    unfold runRoute
    refine agree_ite_error fun _ => ?_
    refine (h.runSteps hvenues).bind ?_
    rintro ⟨w₁', token, amount⟩ ⟨w₂', token', amount'⟩ - - ⟨hparallel, heq⟩
    cases heq
    exact agree_ite_error fun _ => ⟨hparallel, rfl⟩
  refine hroute.bind ?_
  rintro ⟨w₁', out⟩ ⟨w₂', out'⟩ - - ⟨hparallel, rfl⟩
  cases addUint plan.minRepayAmount plan.minSurplus with
  | error e => exact agree_error _ _
  | ok minimum =>
      simp only [ok_bind]
      exact agree_ite_error fun _ => ⟨hparallel, rfl⟩

end Route

/-! ## Funding -/

/-- What the vault has lent for a plan. -/
def loanOf (plan : ExecutionPlan) (token : EvmAddress) : Nat :=
  if token = plan.settlementToken then plan.fundingAmount else 0

section Ends

variable {plan : ExecutionPlan} {spared : Prop} {w₀ start w₁ w₂ : World (Market σ)}

/-- The worlds after either way of funding. -/
theorem parallel_funded {l l₁ l₂ : TokenLedger} (hself : caller ≠ contract.self)
    (hcaller : caller ≠ contract.balancerVault)
    (hvault : contract.balancerVault ≠ contract.self)
    (hfp : w₀.storage.activeLoanFingerprint = 0)
    (hbalance : l.balance = w₀.rest.ledger.balance)
    (hallowance : ∀ t owner s, owner ≠ caller →
      l.allowance t owner s = w₀.rest.ledger.allowance t owner s)
    (h₁ : l.transfer plan.settlementToken caller contract.self plan.fundingAmount = some l₁)
    (h₂ : w₀.rest.ledger.transfer plan.settlementToken contract.balancerVault contract.self
      plan.fundingAmount = some l₂) :
    Parallel contract caller (loanOf plan) spared w₀ (w₀.withLedger l₁) (w₀.withLedger l₂) := by
  obtain ⟨-, hallow₁, hbal₁⟩ := Ledger.transfer_some h₁
  obtain ⟨-, hallow₂, hbal₂⟩ := Ledger.transfer_some h₂
  rw [hbalance] at hbal₁
  have hvault₁ : ∀ t, l₁.balance t contract.balancerVault
      = w₀.balance t contract.balancerVault := by
    intro t
    have h := hbal₁ t contract.balancerVault
    simp only [hcaller, hvault.symm, and_false, if_false, Nat.add_zero] at h
    exact h
  refine ⟨⟨rfl, rfl, rfl, fun t a ha => ?_, fun t owner s ho => ?_⟩, hfp, fun t => ?_,
    fun t => ?_, fun t => (hvault₁ t).ge, fun _ t => hvault₁ t, rfl⟩
  · have hl := hbal₁ t a
    have hr := hbal₂ t a
    rw [not_or] at ha
    simp only [Ne.symm ha.1, Ne.symm ha.2, and_false, if_false, Nat.add_zero] at hl hr
    exact hl.trans hr.symm
  · show l₁.allowance t owner s = l₂.allowance t owner s
    rw [hallow₁, hallow₂]
    exact hallowance t owner s fun h => ho (Or.inl h)
  · have hl := hbal₁ t caller
    have hr := hbal₂ t caller
    simp only [hself.symm, hcaller.symm, and_false, and_true, if_false, Nat.add_zero] at hl hr
    exact hl.trans hr.symm
  · have hr := hbal₂ t contract.balancerVault
    simp only [hvault.symm, and_false, and_true, if_false, Nat.add_zero] at hr
    exact hr.trans (hvault₁ t).symm

variable (spared) in
/-- Both ways of funding need only room for it in the router's balance. -/
theorem agree_funding (hself : caller ≠ contract.self)
    (hcaller : caller ≠ contract.balancerVault)
    (hvault : contract.balancerVault ≠ contract.self)
    (hfp : w₀.storage.activeLoanFingerprint = 0)
    (hholds : plan.fundingAmount ≤ w₀.balance plan.settlementToken caller)
    (hallowed : plan.fundingAmount
      ≤ w₀.rest.ledger.allowance plan.settlementToken caller contract.self)
    (hlends : plan.fundingAmount ≤ w₀.balance plan.settlementToken contract.balancerVault) :
    Agree (fun r₁ r₂ => Parallel contract caller (loanOf plan) spared w₀ r₁.1
          (w₀.withLedger r₂.1)
        ∧ r₂.2 = [w₀.balance plan.settlementToken contract.balancerVault])
      (callOut ((tokenChain contract venues coder).safeTransferFrom plan.settlementToken caller
        contract.self plan.fundingAmount) w₀)
      (okOr (lend contract.balancerVault contract.self [plan.settlementToken]
        [plan.fundingAmount] w₀.rest.ledger) ([] : List UInt8)) := by
  obtain ⟨l, hspend, hbalance, hallowance⟩ := Ledger.spend_of_le hallowed
  have hfirst : (∃ l₁, l.transfer plan.settlementToken caller contract.self plan.fundingAmount
      = some l₁) ↔ w₀.balance plan.settlementToken contract.self + plan.fundingAmount
        < 2 ^ 256 := by
    rw [Ledger.transfer_isSome_iff, hbalance]
    exact ⟨fun h => h.2 hself.symm, fun h => ⟨hholds, fun _ => h⟩⟩
  have hsecond : (∃ l₂, w₀.rest.ledger.transfer plan.settlementToken contract.balancerVault
      contract.self plan.fundingAmount = some l₂)
        ↔ w₀.balance plan.settlementToken contract.self + plan.fundingAmount < 2 ^ 256 := by
    rw [Ledger.transfer_isSome_iff]
    exact ⟨fun h => h.2 hvault.symm, fun h => ⟨hlends, fun _ => h⟩⟩
  have hpull : w₀.rest.ledger.transferFrom plan.settlementToken contract.self caller
      contract.self plan.fundingAmount
      = l.transfer plan.settlementToken caller contract.self plan.fundingAmount := by
    unfold Ledger.transferFrom
    rw [hspend, Option.bind_some]
  rw [safeTransferFrom_eq, hpull, lend_one]
  by_cases hroom : w₀.balance plan.settlementToken contract.self + plan.fundingAmount < 2 ^ 256
  · obtain ⟨l₁, h₁⟩ := hfirst.mpr hroom
    obtain ⟨l₂, h₂⟩ := hsecond.mpr hroom
    rw [h₁, h₂]
    exact ⟨parallel_funded hself hcaller hvault hfp hbalance hallowance h₁ h₂, rfl⟩
  · have hnone₁ : l.transfer plan.settlementToken caller contract.self plan.fundingAmount
        = none := Option.eq_none_iff_forall_ne_some.mpr fun l₁ h => hroom (hfirst.mp ⟨l₁, h⟩)
    have hnone₂ : w₀.rest.ledger.transfer plan.settlementToken contract.balancerVault
        contract.self plan.fundingAmount = none :=
      Option.eq_none_iff_forall_ne_some.mpr fun l₂ h => hroom (hsecond.mp ⟨l₂, h⟩)
    rw [hnone₁, hnone₂]
    exact agree_error _ _

/-! ## Settlement -/

/-- `amount` of `token` has moved, and nothing else. -/
structure Paid (source dest token : EvmAddress) (amount : Nat) (w w' : World (Market σ)) :
    Prop where
  storage : w'.storage = w.storage
  events : w'.rest.events = w.rest.events
  balance : ∀ t a, w'.balance t a + (if t = token ∧ source = a then amount else 0)
    = w.balance t a + (if t = token ∧ dest = a then amount else 0)

/-- A third account keeps what it has. -/
theorem Paid.balance_of_ne {source dest token a : EvmAddress} {amount : Nat}
    {w w' : World (Market σ)} (h : Paid source dest token amount w w') (hsource : source ≠ a)
    (hdest : dest ≠ a) (t : EvmAddress) : w'.balance t a = w.balance t a := by
  simpa only [hsource, hdest, and_false, if_false, Nat.add_zero] using h.balance t a

section Payments

variable {token dest : EvmAddress} {amount : Nat} {w w' : World (Market σ)}

variable (venues coder token amount w) in
theorem safeTransfer_isOk_iff (hdest : dest ≠ contract.self) :
    (∃ r, callOut ((tokenChain contract venues coder).safeTransfer token dest amount) w = .ok r)
      ↔ amount ≤ w.balance token contract.self
        ∧ w.balance token dest + amount < 2 ^ 256 := by
  have hiff : (∃ l, w.rest.ledger.transfer token contract.self dest amount = some l)
      ↔ amount ≤ w.balance token contract.self
        ∧ w.balance token dest + amount < 2 ^ 256 := by
    rw [Ledger.transfer_isSome_iff]
    exact and_congr_right fun _ => ⟨fun h => h hdest, fun h _ => h⟩
  rw [safeTransfer_eq, ← hiff]
  cases w.rest.ledger.transfer token contract.self dest amount with
  | none =>
      constructor
      · rintro ⟨r, h⟩
        cases h
      · rintro ⟨l, h⟩
        cases h
  | some l => exact ⟨fun _ => ⟨l, rfl⟩, fun _ => ⟨_, rfl⟩⟩

theorem safeTransfer_paid {u : Unit}
    (h : callOut ((tokenChain contract venues coder).safeTransfer token dest amount) w
      = .ok (w', u)) : Paid contract.self dest token amount w w' := by
  obtain ⟨l, hmove, rfl⟩ := safeTransfer_ok h
  obtain ⟨-, -, hbal⟩ := Ledger.transfer_some hmove
  exact ⟨rfl, rfl, hbal⟩

variable (venues coder token amount w) in
/-- Paying no surplus is like paying a surplus of nothing. -/
theorem paySurplus_isOk_iff (hdest : dest ≠ contract.self) :
    (∃ w', paySurplus (tokenChain contract venues coder) token dest amount w = .ok w')
      ↔ amount ≤ w.balance token contract.self
        ∧ w.balance token dest + amount < 2 ^ 256 := by
  unfold paySurplus
  by_cases hpos : 0 < amount
  · rw [if_pos hpos, ← safeTransfer_isOk_iff venues coder token amount w hdest]
    constructor
    · rintro ⟨w', h⟩
      obtain ⟨r, hr, -⟩ := bind_eq_ok_iff.mp h
      exact ⟨r, hr⟩
    · rintro ⟨r, hr⟩
      exact ⟨r.1, by rw [hr]; rfl⟩
  · have hroom : w.balance token dest < 2 ^ 256 := w.rest.ledger.balance_lt token dest
    rw [if_neg hpos]
    constructor
    · intro _
      omega
    · intro _
      exact ⟨w, rfl⟩

theorem paySurplus_paid
    (h : paySurplus (tokenChain contract venues coder) token dest amount w = .ok w') :
    Paid contract.self dest token amount w w' := by
  rcases paySurplus_ok h with ⟨l, hmove, rfl⟩ | ⟨rfl, rfl⟩
  · obtain ⟨-, -, hbal⟩ := Ledger.transfer_some hmove
    exact ⟨rfl, rfl, hbal⟩
  · refine ⟨rfl, rfl, fun t a => ?_⟩
    rw [ite_self, ite_self]

end Payments

/-- The two runs have come together again. -/
structure Settled (contract : RouterContract) (caller : EvmAddress) (spared : Prop)
    (start : World (Market σ)) (r₁ r₂ : World (Market σ) × PlanExecuted) : Prop where
  toCaller : ∀ token, r₁.1.balance token caller = r₂.1.balance token caller
  toRouter : ∀ token, r₁.1.balance token contract.self = r₂.1.balance token contract.self
  toVault : ∀ token,
    r₁.1.balance token contract.balancerVault = r₂.1.balance token contract.balancerVault
  vault_le : ∀ token,
    start.balance token contract.balancerVault ≤ r₂.1.balance token contract.balancerVault
  vault_eq : spared → ∀ token,
    r₂.1.balance token contract.balancerVault = start.balance token contract.balancerVault
  event : r₂.2 = { r₁.2 with flashLoaned := true }
  fingerprint : r₂.1.storage.activeLoanFingerprint = 0
  events : r₂.1.rest.events = start.rest.events

/-- Where the payments of both runs have been made, the worlds agree. -/
theorem Parallel.settled {out : Nat} {w₁' w₂' w₂'' : World (Market σ)}
    (h : Parallel contract caller (loanOf plan) spared start w₁ w₂)
    (hself : caller ≠ contract.self) (hcaller : caller ≠ contract.balancerVault)
    (hvault : contract.balancerVault ≠ contract.self)
    (hrepay : plan.minRepayAmount = plan.fundingAmount) (hout : plan.fundingAmount ≤ out)
    (hpaid : Paid contract.self caller plan.settlementToken out w₁ w₁')
    (hback : Paid contract.self contract.balancerVault plan.settlementToken plan.fundingAmount
      w₂ w₂')
    (hrest : Paid contract.self caller plan.settlementToken (out - plan.fundingAmount) w₂' w₂'') :
    Settled contract caller spared start
      (setEntered false w₁',
        { caller, settlementToken := plan.settlementToken, fundingAmount := plan.fundingAmount,
          amountOut := out, surplus := out - plan.minRepayAmount, flashLoaned := false,
          riskHash := plan.riskHash })
      (w₂'',
        { caller, settlementToken := plan.settlementToken, fundingAmount := plan.fundingAmount,
          amountOut := out, surplus := out - plan.fundingAmount, flashLoaned := true,
          riskHash := plan.riskHash }) := by
  have hreturned : ∀ t, w₂''.balance t contract.balancerVault
      = w₁.balance t contract.balancerVault := by
    intro t
    have hb := hback.balance t contract.balancerVault
    simp only [hvault.symm, and_false, and_true, if_false, Nat.add_zero] at hb
    have hl := h.lentOut t
    unfold loanOf at hl
    rw [hrest.balance_of_ne hvault.symm hcaller]
    omega
  refine ⟨fun t => ?_, fun t => ?_, fun t => ?_, fun t => ?_, fun hspared t => ?_, ?_, ?_, ?_⟩
  · have hp := hpaid.balance t caller
    have hb := hback.balance_of_ne hself.symm hcaller.symm t
    have hr := hrest.balance t caller
    simp only [hself.symm, and_false, and_true, if_false, Nat.add_zero] at hp hr
    have hbehind := h.behind t
    unfold loanOf at hbehind
    show w₁'.balance t caller = w₂''.balance t caller
    split_ifs at hp hr hbehind <;> omega
  · have hp := hpaid.balance t contract.self
    have hb := hback.balance t contract.self
    have hr := hrest.balance t contract.self
    simp only [hself, hvault, and_false, and_true, if_false, Nat.add_zero] at hp hb hr
    have hsame : w₁.balance t contract.self = w₂.balance t contract.self :=
      h.same.ledger.balance t contract.self
        (not_or.mpr ⟨hself.symm, hvault.symm⟩)
    show w₁'.balance t contract.self = w₂''.balance t contract.self
    split_ifs at hp hb hr <;> omega
  · exact (hpaid.balance_of_ne hvault.symm hcaller t).trans (hreturned t).symm
  · rw [hreturned]
    exact h.vault_le t
  · rw [hreturned]
    exact h.vault_eq hspared t
  · rw [hrepay]
  · show w₂''.storage.activeLoanFingerprint = 0
    rw [hrest.storage, hback.storage, ← h.same.storage]
    exact h.fingerprint
  · show w₂''.rest.events = start.rest.events
    rw [hrest.events, hback.events]
    exact h.events

theorem subUint_of_le {a b : Nat} (h : b ≤ a) : subUint a b = .ok (a - b) := by
  unfold subUint
  rw [checkedSub_eq_some_iff.mpr ⟨h, rfl⟩]
  rfl

/-- The payments of the two runs go through together: in both, the router
has to hold the output and the caller to have room for it. -/
theorem Parallel.settle {out : Nat}
    (h : Parallel contract caller (loanOf plan) spared start w₁ w₂)
    (hself : caller ≠ contract.self) (hcaller : caller ≠ contract.balancerVault)
    (hvault : contract.balancerVault ≠ contract.self)
    (hrepay : plan.minRepayAmount = plan.fundingAmount) (hout : plan.fundingAmount ≤ out) :
    Agree (Settled contract caller spared start)
      (do
        let (w, _) ← callOut ((tokenChain contract venues coder).safeTransfer
          plan.settlementToken caller out) w₁
        let surplus ← subUint out plan.minRepayAmount
        return (setEntered false w,
          { caller, settlementToken := plan.settlementToken,
            fundingAmount := plan.fundingAmount, amountOut := out, surplus,
            flashLoaned := false, riskHash := plan.riskHash }))
      (do
        let (w, _) ← callOut ((tokenChain contract venues coder).safeTransfer
          plan.settlementToken contract.balancerVault plan.fundingAmount) w₂
        let surplus ← subUint out plan.fundingAmount
        let w ← paySurplus (tokenChain contract venues coder) plan.settlementToken caller
          surplus w
        return (w,
          { caller, settlementToken := plan.settlementToken,
            fundingAmount := plan.fundingAmount, amountOut := out, surplus,
            flashLoaned := true, riskHash := plan.riskHash })) := by
  have hsame : w₁.balance plan.settlementToken contract.self
      = w₂.balance plan.settlementToken contract.self :=
    h.same.ledger.balance _ _ (not_or.mpr ⟨hself.symm, hvault.symm⟩)
  have hbehind := h.behind plan.settlementToken
  have hlent := h.lentOut plan.settlementToken
  rw [loanOf, if_pos rfl] at hbehind hlent
  have hroom : w₁.balance plan.settlementToken contract.balancerVault < 2 ^ 256 :=
    w₁.rest.ledger.balance_lt _ _
  simp only [subUint_of_le hout, subUint_of_le (hrepay.le.trans hout), ok_bind]
  have hpay := safeTransfer_isOk_iff venues coder plan.settlementToken out w₁ hself
  have hback := safeTransfer_isOk_iff venues coder plan.settlementToken plan.fundingAmount w₂
    hvault
  cases hrepaid : callOut ((tokenChain contract venues coder).safeTransfer plan.settlementToken
      contract.balancerVault plan.fundingAmount) w₂ with
  | error e =>
      -- a router that cannot repay the loan cannot pay the output either
      cases hpaid : callOut ((tokenChain contract venues coder).safeTransfer
          plan.settlementToken caller out) w₁ with
      | error e' => exact agree_error _ _
      | ok r =>
          have hholds := hpay.mp ⟨r, hpaid⟩
          obtain ⟨r', hr'⟩ := hback.mpr (by omega)
          rw [hrepaid] at hr'
          cases hr'
  | ok r =>
      have hpaidBack := safeTransfer_paid hrepaid
      have hrouter := hpaidBack.balance plan.settlementToken contract.self
      have hown := hpaidBack.balance plan.settlementToken caller
      simp only [hself.symm, hvault, hcaller.symm, and_false, and_true, if_true, if_false,
        Nat.add_zero] at hrouter hown
      have hiff : (∃ r₁, callOut ((tokenChain contract venues coder).safeTransfer
            plan.settlementToken caller out) w₁ = .ok r₁)
          ↔ ∃ w, paySurplus (tokenChain contract venues coder) plan.settlementToken caller
            (out - plan.fundingAmount) r.1 = .ok w := by
        rw [hpay, paySurplus_isOk_iff venues coder _ _ _ hself]
        omega
      refine Agree.bind (R := fun r₁ w => Paid contract.self caller plan.settlementToken out w₁
          r₁.1 ∧ Paid contract.self caller plan.settlementToken (out - plan.fundingAmount) r.1 w)
        (agree_of_iff hiff fun r₁ w h₁ h₂ => ⟨safeTransfer_paid h₁, paySurplus_paid h₂⟩) ?_
      rintro r₁ w - - ⟨hfirst, hsecond⟩
      exact h.settled hself hcaller hvault hrepay hout hfirst hpaidBack hsecond

end Ends

/-! ## The entry points -/

/-- Both runs leave the caller, the router and the vault with the same
balances, and report the same up to the kind of funding. -/
structure SameOutcome (contract : RouterContract) (caller : EvmAddress)
    (start : World (Market σ)) (r₁ : World (Market σ) × PlanExecuted)
    (w₂ : World (Market σ)) : Prop where
  toCaller : ∀ token, r₁.1.balance token caller = w₂.balance token caller
  toRouter : ∀ token, r₁.1.balance token contract.self = w₂.balance token contract.self
  toVault : ∀ token,
    r₁.1.balance token contract.balancerVault = w₂.balance token contract.balancerVault
  event : w₂.rest.events = start.rest.events ++ [{ r₁.2 with flashLoaned := true }]

/-- From the moment both runs have entered to the end of the loan. -/
theorem agree_loan {msg : Msg} {plan : ExecutionPlan} (spared : Prop) {w₀ : World (Market σ)}
    {userData : UserData} (hrepay : plan.minRepayAmount = plan.fundingAmount)
    (hself : msg.sender ≠ contract.self) (hcaller : msg.sender ≠ contract.balancerVault)
    (hvault : contract.balancerVault ≠ contract.self)
    (hfp : w₀.storage.activeLoanFingerprint = 0)
    (hholds : plan.fundingAmount ≤ w₀.balance plan.settlementToken msg.sender)
    (hallowed : plan.fundingAmount
      ≤ w₀.rest.ledger.allowance plan.settlementToken msg.sender contract.self)
    (hlends : plan.fundingAmount ≤ w₀.balance plan.settlementToken contract.balancerVault)
    (hvenues : ∀ step ∈ plan.steps,
      venues.AtStep (Unseeing contract msg.sender spared) step plan.deadline)
    (hdecode : coder.decodeUserData userData = some (msg.sender, plan))
    (hhash : coder.keccak256 userData ≠ 0) :
    Agree
      (fun r₁ (r₂ : World (Market σ) × Unit) => SameOutcome contract msg.sender w₀ r₁ r₂.1
        ∧ (spared → ∀ token, r₂.1.balance token contract.balancerVault
            = w₀.balance token contract.balancerVault)
        ∧ r₂.1.storage.activeLoanFingerprint = 0)
      (do
        let (w, _) ← callOut ((tokenChain contract venues coder).safeTransferFrom
          plan.settlementToken msg.sender contract.self plan.fundingAmount) w₀
        let (w, amountOut) ← runRouteChecked (tokenChain contract venues coder) contract plan w
        let (w, _) ← callOut ((tokenChain contract venues coder).safeTransfer
          plan.settlementToken msg.sender amountOut) w
        let surplus ← subUint amountOut plan.minRepayAmount
        return (setEntered false w,
          { caller := msg.sender, settlementToken := plan.settlementToken,
            fundingAmount := plan.fundingAmount, amountOut, surplus, flashLoaned := false,
            riskHash := plan.riskHash }))
      (vaultFlashLoan contract.balancerVault contract.self
        (receiveFlashLoan (tokenChain contract venues coder) contract) [plan.settlementToken]
        [plan.fundingAmount] userData (setFingerprint (coder.keccak256 userData) w₀)) := by
  have hcleared : ∀ l, setFingerprint 0
      ((setFingerprint (coder.keccak256 userData) w₀).withLedger l) = w₀.withLedger l := by
    intro l
    unfold setFingerprint World.withLedger
    rw [← hfp]
  unfold vaultFlashLoan
  refine (agree_funding spared hself hcaller hvault hfp hholds hallowed hlends).bind ?_
  rintro ⟨w₁, u⟩ ⟨l, preBalances⟩ - - ⟨hparallel, rfl⟩
  refine Agree.bind_right (R := Settled contract msg.sender spared w₀)
    (Agree.mapError_right _ ?_) ?_
  · have hcallback : receiveFlashLoan (tokenChain contract venues coder) contract
        { sender := contract.balancerVault,
          timestamp := (setFingerprint (coder.keccak256 userData) w₀).rest.timestamp }
        [plan.settlementToken] [plan.fundingAmount] ([plan.settlementToken].map fun _ => 0)
        userData ((setFingerprint (coder.keccak256 userData) w₀).withLedger l) = _ :=
      receiveFlashLoan_expected rfl rfl hhash hdecode
    rw [hcleared] at hcallback
    rw [hcallback]
    refine (hparallel.runRouteChecked hvenues).bind ?_
    rintro ⟨w₁', out⟩ ⟨w₂', out'⟩ hrun - ⟨hp, rfl⟩
    have hout := (runRouteChecked_ok hrun).2
    exact hp.settle hself hcaller hvault hrepay (by omega)
  · rintro ⟨w₁', event⟩ ⟨w₂', event'⟩ - hsettled
    have hrepaid : repaid contract.balancerVault w₂'.rest.ledger [plan.settlementToken]
        [w₀.balance plan.settlementToken contract.balancerVault] = true := by
      rw [repaid, Bool.and_eq_true, decide_eq_true_eq]
      exact ⟨hsettled.vault_le plan.settlementToken, rfl⟩
    dsimp only
    rw [if_pos hrepaid]
    refine ⟨⟨hsettled.toCaller, hsettled.toRouter, hsettled.toVault, ?_⟩, hsettled.vault_eq,
      hsettled.fingerprint⟩
    have hevent : event' = { event with flashLoaned := true } := hsettled.event
    have hevents : w₂'.rest.events = w₀.rest.events := hsettled.events
    show w₂'.rest.events ++ [event'] = w₀.rest.events ++ [{ event with flashLoaned := true }]
    rw [hevents, hevent]

/-- **The two entry points agree.** For a plan that repays its funding, and
venues that do not look at the caller or the vault, they revert together or
complete with the same outcome; where the venues spare the vault, its
balances are the ones it started with. -/
theorem entryPoints_agree {msg : Msg} {plan : ExecutionPlan} {w : World (Market σ)}
    (hrepay : plan.minRepayAmount = plan.fundingAmount)
    (hself : msg.sender ≠ contract.self) (hcaller : msg.sender ≠ contract.balancerVault)
    (hvault : contract.balancerVault ≠ contract.self)
    (hholds : plan.fundingAmount ≤ w.balance plan.settlementToken msg.sender)
    (hallowed : plan.fundingAmount
      ≤ w.rest.ledger.allowance plan.settlementToken msg.sender contract.self)
    (hlends : plan.fundingAmount ≤ w.balance plan.settlementToken contract.balancerVault)
    (hvenues : ∀ step ∈ plan.steps,
      venues.AtStep (Blind msg.sender contract.balancerVault) step plan.deadline)
    (hdecode : coder.decodeUserData (coder.encodeUserData msg.sender plan)
      = some (msg.sender, plan))
    (hhash : coder.keccak256 (coder.encodeUserData msg.sender plan) ≠ 0) :
    Agree
      (fun r₁ w₂ => SameOutcome contract msg.sender w r₁ w₂
        ∧ ((∀ step ∈ plan.steps,
              venues.AtStep (Spares contract.balancerVault) step plan.deadline) →
            ∀ token, w₂.balance token contract.balancerVault
              = w.balance token contract.balancerVault))
      (executePlan (marketChain contract venues coder) contract msg plan w)
      (executePlanWithFlashLoan (marketChain contract venues coder) contract msg plan w) := by
  rw [executePlan_marketChain]
  unfold executePlan executePlanWithFlashLoan
  cases henter : enterPlan contract msg plan w with
  | error e => exact agree_error _ _
  | ok w₀ =>
      have hclear := enterPlan_fingerprint henter
      have hfp : (setEntered true w).storage.activeLoanFingerprint = 0 := hclear
      obtain rfl := enterPlan_ok henter
      simp only [ok_bind, leavePlan_eq]
      have hloan := agree_loan (∀ step ∈ plan.steps,
          venues.AtStep (Spares contract.balancerVault) step plan.deadline)
        hrepay hself hcaller hvault hfp hholds hallowed hlends
        (fun step hstep => atStep_unseeing (hvenues step hstep) fun h => h step hstep) hdecode
        hhash
      refine Agree.bind_right (Agree.mapError_right _ hloan) ?_
      rintro r₁ ⟨w₂, u⟩ - ⟨houtcome, hspared, hended⟩
      rw [if_neg (not_not.mpr hended)]
      exact ⟨⟨houtcome.toCaller, houtcome.toRouter, houtcome.toVault, houtcome.event⟩, hspared⟩

section Sample

theorem swapVenue_fixed {target tokenIn tokenOut : EvmAddress} {pulled delivered : Nat}
    {answer : α} (htarget : target ≠ baseRouter.self) :
    Fixed [.transferFrom tokenIn target baseRouter.self target pulled,
        .transfer tokenOut target baseRouter.self delivered] answer
      (swapVenue baseRouter.self target tokenIn tokenOut pulled delivered [] answer) := by
  intro w
  unfold swapVenue
  rw [dif_neg htarget]
  exact ⟨_, rfl, rfl, rfl, rfl, rfl⟩

/-- The venues of the sample trade with the router only. -/
theorem swapVenue_parties {target tokenIn tokenOut a : EvmAddress} {pulled delivered : Nat}
    {op : TokenOp}
    (hop : op ∈ ([.transferFrom tokenIn target baseRouter.self target pulled,
      .transfer tokenOut target baseRouter.self delivered] : List TokenOp))
    (ha : a ∈ op.parties) : a = target ∨ a = baseRouter.self := by
  simp only [List.mem_cons, List.not_mem_nil, or_false] at hop
  rcases hop with rfl | rfl
  · simpa [Op.parties, or_comm] using ha
  · simpa [Op.parties] using ha

theorem swapVenue_blind {target tokenIn tokenOut : EvmAddress} {pulled delivered : Nat}
    {answer : α} (htarget : target ≠ baseRouter.self) (hcaller : target ≠ planExecutor)
    (hvault : target ≠ baseRouter.balancerVault) :
    Blind planExecutor baseRouter.balancerVault
      (swapVenue baseRouter.self target tokenIn tokenOut pulled delivered [] answer) := by
  refine (swapVenue_fixed htarget).blind fun op hop a ha => ?_
  rcases swapVenue_parties hop ha with rfl | rfl
  · exact not_or.mpr ⟨hcaller, hvault⟩
  · decide

theorem swapVenue_spares {target tokenIn tokenOut : EvmAddress} {pulled delivered : Nat}
    {answer : α} (htarget : target ≠ baseRouter.self)
    (hvault : target ≠ baseRouter.balancerVault) :
    Spares baseRouter.balancerVault
      (swapVenue baseRouter.self target tokenIn tokenOut pulled delivered [] answer) := by
  refine (swapVenue_fixed htarget).spares fun op hop a ha => ?_
  rcases swapVenue_parties hop ha with rfl | rfl
  · exact hvault
  · decide

theorem mockVenues_atStep {P : ∀ {α : Type}, VenueCall baseRouter.self Unit α → Prop}
    {step : RouteStep} {out reported deadline : Nat}
    (hkind : step.venueKind ≠ .aerodromeV2)
    (hswap : ∀ {α : Type} {tokenIn tokenOut : EvmAddress} {pulled delivered : Nat} {answer : α},
      P (swapVenue baseRouter.self step.target tokenIn tokenOut pulled delivered [] answer)) :
    (mockVenues out reported []).AtStep P step deadline := by
  intro amountIn
  cases h : step.venueKind with
  | unsupported => trivial
  | uniswapV3Single => exact hswap
  | uniswapV2 => exact hswap
  | aerodromeV2 => exact absurd h hkind

/-- In the sample market both ways of funding the plan complete with a
surplus of 7 and leave the vault with what it had. -/
theorem mockMarket_entryPoints_agree :
    ∃ r₁ w₂, executePlan (marketChain baseRouter (mockVenues 1000007 1000007 []) planCoder)
        baseRouter planMsg twoLegPlan (mockWorld 0 0) = .ok r₁
      ∧ executePlanWithFlashLoan
          (marketChain baseRouter (mockVenues 1000007 1000007 []) planCoder) baseRouter planMsg
          twoLegPlan (mockWorld 0 0) = .ok w₂
      ∧ SameOutcome baseRouter planExecutor (mockWorld 0 0) r₁ w₂
      ∧ (∀ token, w₂.balance token baseRouter.balancerVault
          = (mockWorld 0 0).balance token baseRouter.balancerVault)
      ∧ r₁.2.surplus = 7 := by
  have hsteps : ∀ step ∈ twoLegPlan.steps, step.venueKind ≠ .aerodromeV2
      ∧ step.target ≠ baseRouter.self ∧ step.target ≠ planExecutor
      ∧ step.target ≠ baseRouter.balancerVault := by decide
  have hagree : Agree _
      (executePlan (marketChain baseRouter (mockVenues 1000007 1000007 []) planCoder) baseRouter
        planMsg twoLegPlan (mockWorld 0 0))
      (executePlanWithFlashLoan (marketChain baseRouter (mockVenues 1000007 1000007 []) planCoder)
        baseRouter planMsg twoLegPlan (mockWorld 0 0)) :=
    entryPoints_agree rfl (by decide) (by decide) (by decide) (by decide) (by decide)
      (by decide)
      (fun step hstep => by
        obtain ⟨hkind, hself, hcaller, hvault⟩ := hsteps step hstep
        exact mockVenues_atStep hkind (swapVenue_blind hself hcaller hvault))
      rfl (by decide)
  have hspares : ∀ step ∈ twoLegPlan.steps, (mockVenues 1000007 1000007 []).AtStep
      (Spares baseRouter.balancerVault) step twoLegPlan.deadline := by
    intro step hstep
    obtain ⟨hkind, hself, -, hvault⟩ := hsteps step hstep
    exact mockVenues_atStep hkind (swapVenue_spares hself hvault)
  have hsurplus : (executePlan (marketChain baseRouter (mockVenues 1000007 1000007 []) planCoder)
      baseRouter planMsg twoLegPlan (mockWorld 0 0)).map (fun r => r.2.surplus) = .ok 7 := by
    decide
  cases hplan : executePlan (marketChain baseRouter (mockVenues 1000007 1000007 []) planCoder)
      baseRouter planMsg twoLegPlan (mockWorld 0 0) with
  | error e =>
      rw [hplan] at hsurplus
      cases hsurplus
  | ok r₁ =>
      obtain ⟨w₂, hloan⟩ := hagree.isOk_iff.mp ⟨r₁, hplan⟩
      obtain ⟨houtcome, hspared⟩ := hagree.of_ok hplan hloan
      rw [hplan] at hsurplus
      exact ⟨r₁, w₂, rfl, hloan, houtcome, hspared hspares, Except.ok.inj hsurplus⟩

end Sample

end BaseEngine
