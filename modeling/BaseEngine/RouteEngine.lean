import Mathlib.Data.List.Chain
import BaseEngine.RouterCalls

/-!
# The route engine among venues that answer

A chain on which every call succeeds and the venues give out a given sequence
of amounts, whatever they do to the router's storage (`scriptedChain`). It
writes down the calls that are made to it.

The loop of `_runRoute` walks through the route as long as every step fits
(`Walks`): `runSteps_of_walks` and `walks_of_runSteps`. `runRoute_completes_iff` says
the same of the whole route in terms of the plan. Beside what the plan links
together, a step on Aerodrome needs data that decodes.
-/

namespace BaseEngine

open Fallible

variable {UserData : Type}

/-! ## Scripted venues -/

/-- The amount a venue gives out, and those before it where a venue returns
the amounts along a path. -/
structure VenueAnswer where
  before : List Nat
  amount : Nat
deriving Repr, DecidableEq

def VenueAnswer.amounts (answer : VenueAnswer) : List Nat := answer.before ++ [answer.amount]

/-- The answers still to come and the calls made so far. -/
structure Script (UserData : Type) where
  answers : List VenueAnswer
  calls : List (Request UserData)

namespace Script

variable (after : RouterStorage → RouterStorage)

/-- A call that succeeds. -/
def note (req : Request UserData) : Call (Script UserData) Unit := fun w =>
  .ok ({ storage := after w.storage,
         rest := { w.rest with calls := w.rest.calls ++ [req] } }, ())

/-- A call at a venue takes the next answer. -/
def answer {α : Type} (req : Request UserData) (read : VenueAnswer → α) :
    Call (Script UserData) α := fun w =>
  match w.rest.answers with
  | [] => .error []
  | next :: answers =>
      .ok ({ storage := after w.storage,
             rest := { answers, calls := w.rest.calls ++ [req] } }, read next)

end Script

def scriptedChain (coder : LoanCoder UserData) (after : RouterStorage → RouterStorage) :
    Chain (Script UserData) UserData where
  forceApprove token spender amount := Script.note after (.forceApprove token spender amount)
  safeTransfer token recipient amount := Script.note after (.safeTransfer token recipient amount)
  safeTransferFrom token source recipient amount :=
    Script.note after (.safeTransferFrom token source recipient amount)
  exactInputSingle target params :=
    Script.answer after (.exactInputSingle target params) VenueAnswer.amount
  swapExactTokensForTokens target amountIn amountOutMin path recipient deadline :=
    Script.answer after
      (.swapExactTokensForTokens target amountIn amountOutMin path recipient deadline)
      VenueAnswer.amounts
  swapAerodrome target amountIn amountOutMin routes recipient deadline :=
    Script.answer after (.swapAerodrome target amountIn amountOutMin routes recipient deadline)
      VenueAnswer.amounts
  flashLoan vault recipient tokens amounts userData :=
    Script.note after (.flashLoan vault recipient tokens amounts userData)
  encodeUserData := coder.encodeUserData
  decodeUserData := coder.decodeUserData
  keccak256 := coder.keccak256

/-! ## One step -/

section Step

variable (contract : RouterContract) (deadline : Nat)

/-- The approval and the call at the venue of a step. -/
def venueCalls (step : RouteStep) (amountIn : Nat) : List (Request UserData) :=
  match step.venueKind, abiDecodeBoolAddress step.extraData with
  | .uniswapV3Single, _ =>
      [.forceApprove step.tokenIn step.target amountIn,
        .exactInputSingle step.target
          { tokenIn := step.tokenIn, tokenOut := step.tokenOut, fee := step.fee,
            recipient := contract.self, deadline, amountIn,
            amountOutMinimum := step.minAmountOut, sqrtPriceLimitX96 := 0 }]
  | .uniswapV2, _ =>
      [.forceApprove step.tokenIn step.target amountIn,
        .swapExactTokensForTokens step.target amountIn step.minAmountOut
          [step.tokenIn, step.tokenOut] contract.self deadline]
  | .aerodromeV2, some (stable, factory) =>
      [.forceApprove step.tokenIn step.target amountIn,
        .swapAerodrome step.target amountIn step.minAmountOut
          [{ source := step.tokenIn, destination := step.tokenOut, stable, factory }]
          contract.self deadline]
  | _, _ => []

/-- The step reaches its venue. -/
structure Runs (step : RouteStep) : Prop where
  supported : step.venueKind ≠ .unsupported
  decodes : step.venueKind = .aerodromeV2 → (abiDecodeBoolAddress step.extraData).isSome = true

variable {contract deadline} {coder : LoanCoder UserData} {after : RouterStorage → RouterStorage}
  {step : RouteStep}

theorem executeStep_scripted (h : Runs step) (amountIn : Nat) (storage : RouterStorage)
    (next : VenueAnswer) (answers : List VenueAnswer) (calls : List (Request UserData)) :
    executeStep (scriptedChain coder after) contract step amountIn deadline
        ⟨storage, ⟨next :: answers, calls⟩⟩
      = .ok (⟨after (after storage),
          ⟨answers, calls ++ venueCalls contract deadline step amountIn⟩⟩, next.amount) := by
  have hlast : okOr next.amounts.getLast? RouterError.arithmeticPanic = .ok next.amount := by
    rw [VenueAnswer.amounts, List.getLast?_append_cons, List.getLast?_singleton, okOr_some]
  unfold executeStep venueCalls
  cases hkind : step.venueKind with
  | unsupported => exact absurd hkind h.supported
  | uniswapV3Single =>
      simp [swapUniswapV3Single, callOut, scriptedChain, Script.note, Script.answer,
        Except.mapError]
  | uniswapV2 =>
      simp [swapUniswapV2, callOut, scriptedChain, Script.note, Script.answer,
        Except.mapError, hlast]
  | aerodromeV2 =>
      obtain ⟨pair, hpair⟩ := Option.isSome_iff_exists.mp (h.decodes hkind)
      simp [swapAerodromeV2, callOut, scriptedChain, Script.note, Script.answer,
        Except.mapError, hlast, hpair]

/-- Such a step reverts before it calls anything. -/
theorem executeStep_stuck (h : ¬ Runs step) (amountIn : Nat) (w : World (Script UserData)) :
    ∃ e, executeStep (scriptedChain coder after) contract step amountIn deadline w = .error e := by
  unfold executeStep
  cases hkind : step.venueKind with
  | unsupported => exact ⟨_, rfl⟩
  | uniswapV3Single => exact absurd ⟨by simp [hkind], by simp [hkind]⟩ h
  | uniswapV2 => exact absurd ⟨by simp [hkind], by simp [hkind]⟩ h
  | aerodromeV2 =>
      cases hdata : abiDecodeBoolAddress step.extraData with
      | some pair => exact absurd ⟨by simp [hkind], by simp [hdata]⟩ h
      | none => exact ⟨.abiDecode, by simp only [swapAerodromeV2, hdata, okOr_none, error_bind]⟩

end Step

/-! ## The loop -/

/-- The loop goes through the steps from `token` to `token'`: each starts at
the token in hand, reaches its venue and is given enough. -/
inductive Walks : EvmAddress → List RouteStep → List VenueAnswer → EvmAddress → Prop where
  | nil {token : EvmAddress} : Walks token [] [] token
  | cons {token token' : EvmAddress} {step : RouteStep} {rest : List RouteStep}
      {next : VenueAnswer} {answers : List VenueAnswer}
      (joined : step.tokenIn = token) (runs : Runs step)
      (enough : step.minAmountOut ≤ next.amount)
      (tail : Walks step.tokenOut rest answers token') :
      Walks token (step :: rest) (next :: answers) token'

/-- The calls of steps that are entered with `amounts`. -/
def routeCalls (contract : RouterContract) (deadline : Nat) (steps : List RouteStep)
    (amounts : List Nat) : List (Request UserData) :=
  (steps.zip amounts).flatMap fun pair => venueCalls contract deadline pair.1 pair.2

section Loop

variable {contract : RouterContract} {deadline : Nat} {coder : LoanCoder UserData}
  {after : RouterStorage → RouterStorage} {token token' : EvmAddress} {steps : List RouteStep}
  {answers : List VenueAnswer} {calls : List (Request UserData)}

theorem runSteps_of_walks (h : Walks token steps answers token') (index amount : Nat)
    (storage : RouterStorage) :
    ∃ storage', runSteps (scriptedChain coder after) contract deadline index steps token amount
        ⟨storage, ⟨answers, calls⟩⟩
      = .ok (⟨storage', ⟨[], calls ++ routeCalls contract deadline steps
          (amount :: answers.map VenueAnswer.amount)⟩⟩,
          token', (answers.map VenueAnswer.amount).getLastD amount) := by
  induction h generalizing index amount storage calls with
  | nil => exact ⟨storage, by simp [runSteps, routeCalls]⟩
  | @cons token token' step rest next answers joined runs enough tail ih =>
      obtain ⟨storage', hrest⟩ :=
        @ih (calls ++ venueCalls contract deadline step amount) (index + 1) next.amount
          (after (after storage))
      refine ⟨storage', ?_⟩
      rw [runSteps, if_neg (not_not.mpr joined), executeStep_scripted runs, ok_bind]
      simp only [if_neg (Nat.not_lt.mpr enough), hrest, routeCalls, List.map_cons,
        List.zip_cons_cons, List.flatMap_cons, List.getLastD_cons, List.append_assoc]

theorem walks_of_runSteps {index amount amount' : Nat} {storage : RouterStorage}
    {w' : World (Script UserData)} (hlength : answers.length = steps.length)
    (h : runSteps (scriptedChain coder after) contract deadline index steps token amount
      ⟨storage, ⟨answers, calls⟩⟩ = .ok (w', token', amount')) :
    Walks token steps answers token' := by
  induction steps generalizing index token amount storage answers calls with
  | nil =>
      obtain rfl := List.length_eq_zero_iff.mp hlength
      rw [runSteps] at h
      cases h
      exact .nil
  | cons step rest ih =>
      obtain ⟨next, answers, rfl⟩ := List.exists_cons_of_length_eq_add_one hlength
      rw [runSteps] at h
      by_cases joined : step.tokenIn ≠ token
      · rw [if_pos joined] at h; cases h
      · rw [if_neg joined] at h
        by_cases runs : Runs step
        · rw [executeStep_scripted runs, ok_bind] at h
          by_cases hlow : next.amount < step.minAmountOut
          · simp only [if_pos hlow] at h; cases h
          · simp only [if_neg hlow] at h
            exact .cons (not_not.mp joined) runs (Nat.le_of_not_lt hlow)
              (ih (Nat.succ.inj hlength) h)
        · obtain ⟨e, hstuck⟩ := executeStep_stuck runs amount ⟨storage, ⟨next :: answers, calls⟩⟩
          rw [hstuck, error_bind] at h
          cases h

end Loop

/-- The walk in terms of the whole route. -/
theorem walks_iff {steps : List RouteStep} {answers : List VenueAnswer} {token token' : EvmAddress}
    (hlength : answers.length = steps.length) :
    Walks token steps answers token' ↔ (∀ step ∈ steps, Runs step)
      ∧ (∀ pair ∈ steps.zip (answers.map VenueAnswer.amount), pair.1.minAmountOut ≤ pair.2)
      ∧ (∀ step ∈ steps.head?, step.tokenIn = token)
      ∧ steps.IsChain (fun step next => next.tokenIn = step.tokenOut)
      ∧ (steps.map RouteStep.tokenOut).getLastD token = token' := by
  induction steps generalizing token answers with
  | nil =>
      obtain rfl := List.length_eq_zero_iff.mp hlength
      constructor
      · rintro ⟨⟩; simp
      · rintro ⟨-, -, -, -, rfl⟩; exact .nil
  | cons step rest ih =>
      obtain ⟨next, answers, rfl⟩ := List.exists_cons_of_length_eq_add_one hlength
      have htail := @ih answers step.tokenOut (Nat.succ.inj hlength)
      simp only [List.mem_cons, forall_eq_or_imp, List.map_cons, List.zip_cons_cons,
        List.head?_cons, Option.mem_some_iff, forall_eq', List.isChain_cons, List.getLastD_cons]
      constructor
      · intro h
        cases h with
        | cons joined runs enough tail =>
            obtain ⟨hruns, henough, hfirst, hchain, hlast⟩ := htail.mp tail
            exact ⟨⟨runs, hruns⟩, ⟨enough, henough⟩, joined, ⟨hfirst, hchain⟩, hlast⟩
      · rintro ⟨⟨runs, hruns⟩, ⟨enough, henough⟩, joined, ⟨hfirst, hchain⟩, hlast⟩
        exact .cons joined runs enough (htail.mpr ⟨hruns, henough, hfirst, hchain, hlast⟩)

/-! ## The route -/

/-- The route starts and ends at the settlement token, its steps join, their
venues are supported and give out `amounts` that are enough. -/
structure LinkedRoute (plan : ExecutionPlan) (amounts : List Nat) : Prop where
  nonempty : plan.steps ≠ []
  supported : ∀ step ∈ plan.steps, step.venueKind ≠ .unsupported
  first : ∀ step ∈ plan.steps.head?, step.tokenIn = plan.settlementToken
  joined : plan.steps.IsChain fun step next => next.tokenIn = step.tokenOut
  enough : ∀ pair ∈ plan.steps.zip amounts, pair.1.minAmountOut ≤ pair.2
  last : ∀ step ∈ plan.steps.getLast?, step.tokenOut = plan.settlementToken

/-- Every step on Aerodrome says which kind of pool and which factory it is for. -/
def AerodromeDecodes (plan : ExecutionPlan) : Prop :=
  ∀ step ∈ plan.steps, step.venueKind = .aerodromeV2 →
    (abiDecodeBoolAddress step.extraData).isSome = true

theorem getLastD_tokenOut {steps : List RouteStep} (h : steps ≠ []) (token : EvmAddress) :
    (steps.map RouteStep.tokenOut).getLastD token = (steps.getLast h).tokenOut := by
  rw [List.getLastD_eq_getLast?, List.getLast?_map, List.getLast?_eq_some_getLast h]
  rfl

theorem walks_iff_linkedRoute {plan : ExecutionPlan} {answers : List VenueAnswer}
    (hlength : answers.length = plan.steps.length) (hempty : plan.steps ≠ []) :
    Walks plan.settlementToken plan.steps answers plan.settlementToken
      ↔ LinkedRoute plan (answers.map VenueAnswer.amount) ∧ AerodromeDecodes plan := by
  rw [walks_iff hlength, getLastD_tokenOut hempty]
  constructor
  · rintro ⟨hruns, henough, hfirst, hjoined, hlast⟩
    refine ⟨⟨hempty, fun step hstep => (hruns step hstep).supported, hfirst, hjoined, henough,
      fun step hstep => ?_⟩, fun step hstep => (hruns step hstep).decodes⟩
    rw [List.getLast?_eq_some_getLast hempty, Option.mem_some_iff] at hstep
    rw [← hstep, hlast]
  · rintro ⟨hroute, hdecodes⟩
    exact ⟨fun step hstep => ⟨hroute.supported step hstep, hdecodes step hstep⟩, hroute.enough,
      hroute.first, hroute.joined, hroute.last _ (List.getLast?_eq_some_getLast hempty)⟩

section Route

variable {contract : RouterContract} {coder : LoanCoder UserData}
  {after : RouterStorage → RouterStorage} {plan : ExecutionPlan} {startingAmount : Nat}
  {storage : RouterStorage} {answers : List VenueAnswer}

theorem runRoute_of_walks (hempty : plan.steps ≠ [])
    (h : Walks plan.settlementToken plan.steps answers plan.settlementToken) :
    ∃ storage', runRoute (scriptedChain coder after) contract plan startingAmount
        ⟨storage, ⟨answers, []⟩⟩
      = .ok (⟨storage', ⟨[], routeCalls contract plan.deadline plan.steps
          (startingAmount :: answers.map VenueAnswer.amount)⟩⟩,
          (answers.map VenueAnswer.amount).getLastD startingAmount) := by
  obtain ⟨storage', hsteps⟩ := runSteps_of_walks h 0 startingAmount storage
  refine ⟨storage', ?_⟩
  rw [runRoute, if_neg hempty, hsteps, ok_bind]
  simp only [ne_eq, not_true_eq_false, if_false, List.nil_append]
  rfl

theorem walks_of_runRoute {w : World (Script UserData)} {out : Nat}
    (hlength : answers.length = plan.steps.length)
    (h : runRoute (scriptedChain coder after) contract plan startingAmount
      ⟨storage, ⟨answers, []⟩⟩ = .ok (w, out)) :
    plan.steps ≠ [] ∧ Walks plan.settlementToken plan.steps answers plan.settlementToken := by
  unfold runRoute at h
  by_cases hempty : plan.steps = []
  · rw [if_pos hempty] at h; cases h
  · rw [if_neg hempty] at h
    obtain ⟨⟨w₁, token, amount⟩, hsteps, h⟩ := bind_eq_ok_iff.mp h
    have hwalks := walks_of_runSteps hlength hsteps
    by_cases htoken : token ≠ plan.settlementToken
    · simp only [if_pos htoken] at h; cases h
    · rw [not_not.mp htoken] at hwalks
      exact ⟨hempty, hwalks⟩

end Route

/-- Among venues that answer, a route completes exactly when it is linked and
its Aerodrome steps decode. It then returns the last amount, and every venue has
been approved and called once, in order, with what the one before it gave out. -/
theorem runRoute_completes_iff (coder : LoanCoder UserData)
    (after : RouterStorage → RouterStorage) (contract : RouterContract) (plan : ExecutionPlan)
    (startingAmount : Nat) (storage : RouterStorage) {answers : List VenueAnswer}
    (hlength : answers.length = plan.steps.length) :
    ((∃ w out, runRoute (scriptedChain coder after) contract plan startingAmount
        ⟨storage, ⟨answers, []⟩⟩ = .ok (w, out))
      ↔ LinkedRoute plan (answers.map VenueAnswer.amount) ∧ AerodromeDecodes plan)
    ∧ ∀ w out, runRoute (scriptedChain coder after) contract plan startingAmount
        ⟨storage, ⟨answers, []⟩⟩ = .ok (w, out) →
      (answers.map VenueAnswer.amount).getLast? = some out
      ∧ w.rest.calls = routeCalls contract plan.deadline plan.steps
          (startingAmount :: answers.map VenueAnswer.amount) := by
  constructor
  · constructor
    · rintro ⟨w, out, h⟩
      obtain ⟨hempty, hwalks⟩ := walks_of_runRoute hlength h
      exact (walks_iff_linkedRoute hlength hempty).mp hwalks
    · intro h
      have hwalks := (walks_iff_linkedRoute hlength h.1.nonempty).mpr h
      obtain ⟨storage', hrun⟩ := runRoute_of_walks h.1.nonempty hwalks
      exact ⟨_, _, hrun⟩
  · intro w out h
    obtain ⟨hempty, hwalks⟩ := walks_of_runRoute hlength h
    obtain ⟨storage', hrun⟩ := runRoute_of_walks hempty hwalks
    rw [hrun] at h
    cases h
    have hanswers : answers.map VenueAnswer.amount ≠ [] := by
      rw [ne_eq, List.map_eq_nil_iff, ← List.length_eq_zero_iff, hlength]
      exact fun hzero => hempty (List.length_eq_zero_iff.mp hzero)
    rw [List.getLastD_eq_getLast?, List.getLast?_eq_some_getLast hanswers]
    exact ⟨rfl, rfl⟩

/-- The plan's steps on Aerodrome, with no data. -/
def bareAerodromePlan : ExecutionPlan :=
  { twoLegPlan with
    steps := twoLegPlan.steps.map fun step => { step with venueKind := .aerodromeV2 } }

def quietStorage : RouterStorage :=
  { owner := planExecutor, executors := fun _ => false, paused := false, entered := true,
    activeLoanFingerprint := 0 }

theorem twoLegPlan_completes :
    ∃ w, runRoute (scriptedChain planCoder id) baseRouter twoLegPlan 1000000
        ⟨quietStorage, ⟨[⟨[1000000], 998000⟩, ⟨[], 1000500⟩], []⟩⟩ = .ok (w, 1000500)
      ∧ w.rest.calls = routeCalls baseRouter 1700000030 twoLegPlan.steps
          [1000000, 998000, 1000500] := by
  have hspec := runRoute_completes_iff planCoder id baseRouter twoLegPlan 1000000 quietStorage
    (show [⟨[1000000], 998000⟩, ⟨[], 1000500⟩].length = twoLegPlan.steps.length from rfl)
  have hroute : LinkedRoute twoLegPlan [998000, 1000500] :=
    ⟨by decide, by decide, by decide, by decide, by decide, by decide⟩
  obtain ⟨w, out, h⟩ := hspec.1.mpr ⟨hroute, by unfold AerodromeDecodes; decide⟩
  obtain ⟨hout, hcalls⟩ := hspec.2 w out h
  cases hout
  exact ⟨w, h, hcalls⟩

/-- The route is linked and its venues would answer, but the first step has
no data to decode. -/
theorem bareAerodromePlan_reverts :
    LinkedRoute bareAerodromePlan [998000, 1000500]
      ∧ runRoute (scriptedChain planCoder id) baseRouter bareAerodromePlan 1000000
          ⟨quietStorage, ⟨[⟨[1000000], 998000⟩, ⟨[998000], 1000500⟩], []⟩⟩
        = .error .abiDecode :=
  ⟨⟨by decide, by decide, by decide, by decide, by decide, by decide⟩, rfl⟩

end BaseEngine
