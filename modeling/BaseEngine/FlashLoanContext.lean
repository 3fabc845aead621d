import BaseEngine.Lib.Reentrant
import BaseEngine.RouteEngine
import Mathlib.Data.Set.Function

/-!
# The flash-loan context

`_activeLoanFingerprint` guards the callback: it is set before the vault is
called, cleared by the callback before it calls anyone, and must be clear when
the vault returns. This file proves what that achieves against any callers,
venues, tokens and vault, which may call back into the router in any nesting
and revert at any point.

While no loan is in progress the fingerprint is zero. While one is, the
reentrancy lock keeps every other plan out, and the loan is awaiting its
callback, in it, or past it; `LoanPhase` says what the log and the storage
look like in each. What a callback does is read off the calls it makes and
what they return (`LoanRan`): the route, the repayment and the surplus.
`flashLoanContext` is read off that invariant.
-/

namespace BaseEngine

open Fallible Reentrant

variable {UserData : Type}

/-! ## What the programs ask for -/

abbrev RouterInteraction (UserData : Type) := Interaction (Request UserData) Answer

/-- The amount a venue gave out: the last one, where it returns the amounts
along a path. -/
def paidOut : RouterInteraction UserData → Option Nat
  | ⟨.exactInputSingle _ _, out⟩ => some (show Nat from out)
  | ⟨.swapExactTokensForTokens _ _ _ _ _ _, amounts⟩ => (show List Nat from amounts).getLast?
  | ⟨.swapAerodrome _ _ _ _ _ _, amounts⟩ => (show List Nat from amounts).getLast?
  | _ => none

abbrev outputs (asked : List (RouterInteraction UserData)) : List Nat := asked.filterMap paidOut

/-- The exchanges of a route that started with `startingAmount` and ended with
`out`: every venue approved and called once, in order, with what the one before
it gave out, and nobody else called. -/
structure RouteRan (contract : RouterContract) (plan : ExecutionPlan) (startingAmount : Nat)
    (asked : List (RouterInteraction UserData)) (out : Nat) : Prop where
  linked : LinkedRoute plan (outputs asked)
  decodes : AerodromeDecodes plan
  answered : (outputs asked).length = plan.steps.length
  requests : asked.map Interaction.req
    = routeCalls contract plan.deadline plan.steps (startingAmount :: outputs asked)
  output : (outputs asked).getLast? = some out

/-- The exchanges and the event of the callback of a loan that `caller` took
for `plan`: the route on the amount borrowed, an output that is enough, the
loan paid back to the vault and what is left paid to the caller. -/
structure LoanRan (contract : RouterContract) (caller : EvmAddress) (plan : ExecutionPlan)
    (asked : List (RouterInteraction UserData)) (event : PlanExecuted) : Prop where
  exchanges : ∃ route, RouteRan contract plan plan.fundingAmount route event.amountOut
    ∧ asked = route
        ++ ⟨.safeTransfer plan.settlementToken contract.balancerVault plan.fundingAmount, ()⟩
        :: if 0 < event.surplus then
            [⟨.safeTransfer plan.settlementToken caller event.surplus, ()⟩]
          else []
  enough : plan.minRepayAmount + plan.minSurplus ≤ event.amountOut
  covers : plan.fundingAmount ≤ event.amountOut
  reported : event =
    { caller, settlementToken := plan.settlementToken, fundingAmount := plan.fundingAmount,
      amountOut := event.amountOut, surplus := event.amountOut - plan.fundingAmount,
      flashLoaned := true, riskHash := plan.riskHash }

section Quiet

variable (contract : RouterContract)

theorem quiet_executeStep (step : RouteStep) (amountIn deadline : Nat) :
    Prog.Quiet
      (fun asked out => Runs step
        ∧ asked.map Interaction.req = venueCalls contract deadline step amountIn
        ∧ outputs asked = [out])
      (RouterProg.executeStep contract step amountIn deadline : RouterProg UserData Nat) := by
  have hlast : ∀ {amounts : List Nat} {out : Nat},
      okOr amounts.getLast? RouterError.arithmeticPanic = .ok out →
      amounts.getLast? = some out := fun h => okOr_eq_ok_iff.mp h
  unfold RouterProg.executeStep
  cases hkind : step.venueKind with
  | unsupported => exact Prog.quiet_revert _
  | uniswapV3Single =>
      have hruns : Runs step := ⟨by simp [hkind], by simp [hkind]⟩
      refine (Prog.quiet_call _).bind fun _ u happrove => (Prog.quiet_call _).imp ?_
      rintro _ out rfl
      subst happrove
      exact ⟨hruns, by simp [venueCalls, hkind], rfl⟩
  | uniswapV2 =>
      have hruns : Runs step := ⟨by simp [hkind], by simp [hkind]⟩
      refine (Prog.quiet_call _).bind fun _ u happrove => ?_
      refine (Prog.quiet_call _).bind fun _ amounts hswap => (Prog.quiet_orRevert _).imp ?_
      rintro _ out ⟨rfl, hout⟩
      subst happrove hswap
      refine ⟨hruns, by simp [venueCalls, hkind], ?_⟩
      exact (List.filterMap_cons_none rfl).trans (List.filterMap_cons_some (hlast hout))
  | aerodromeV2 =>
      refine (Prog.quiet_orRevert _).bind fun _ pair hpair => ?_
      obtain ⟨rfl, hpair⟩ := hpair
      have hdec : abiDecodeBoolAddress step.extraData = some pair := okOr_eq_ok_iff.mp hpair
      have hruns : Runs step := ⟨by simp [hkind], by simp [hdec]⟩
      refine (Prog.quiet_call _).bind fun _ u happrove => ?_
      refine (Prog.quiet_call _).bind fun _ amounts hswap => (Prog.quiet_orRevert _).imp ?_
      rintro _ out ⟨rfl, hout⟩
      subst happrove hswap
      refine ⟨hruns, by simp [venueCalls, hkind, hdec], ?_⟩
      exact (List.filterMap_cons_none rfl).trans (List.filterMap_cons_some (hlast hout))

/-- The loop walks through the steps on what their venues gave out. -/
theorem quiet_runSteps (deadline : Nat) (steps : List RouteStep) (index : Nat)
    (token : EvmAddress) (amount : Nat) :
    Prog.Quiet
      (fun asked r => Walks token steps ((outputs asked).map (VenueAnswer.mk [])) r.1
        ∧ asked.map Interaction.req = routeCalls contract deadline steps (amount :: outputs asked)
        ∧ (outputs asked).length = steps.length ∧ (outputs asked).getLastD amount = r.2)
      (RouterProg.runSteps contract deadline index steps token amount :
        RouterProg UserData (EvmAddress × Nat)) := by
  induction steps generalizing index token amount with
  | nil => exact Prog.quiet_pure ⟨.nil, rfl, rfl, rfl⟩
  | cons step rest ih =>
      rw [RouterProg.runSteps]
      split_ifs with htoken
      · exact Prog.quiet_revert _
      · refine (quiet_executeStep contract step amount deadline).bind fun own next hstep => ?_
        obtain ⟨hruns, hasked, hout⟩ := hstep
        split_ifs with hlow
        · exact Prog.quiet_revert _
        · refine (ih _ _ _).imp ?_
          rintro more ⟨token', out⟩ ⟨hwalks, hrest, hlength, hlast⟩
          have hall : outputs (own ++ more) = next :: outputs more := by
            rw [outputs, List.filterMap_append, show own.filterMap paidOut = [next] from hout]
            rfl
          rw [hall]
          refine ⟨.cons (not_not.mp htoken) hruns (Nat.le_of_not_lt hlow) hwalks, ?_, ?_, ?_⟩
          · rw [List.map_append, hasked, hrest]
            rfl
          · rw [List.length_cons, hlength, List.length_cons]
          · rw [List.getLastD_cons]
            exact hlast

theorem quiet_runRoute (plan : ExecutionPlan) (startingAmount : Nat) :
    Prog.Quiet (RouteRan contract plan startingAmount)
      (RouterProg.runRoute contract plan startingAmount : RouterProg UserData Nat) := by
  unfold RouterProg.runRoute
  split_ifs with hempty
  · exact Prog.quiet_revert _
  · refine (quiet_runSteps contract _ _ _ _ _).bind fun own r hsteps => ?_
    obtain ⟨token, amount⟩ := r
    obtain ⟨hwalks, hasked, hlength, hlast⟩ := hsteps
    dsimp only at hwalks hlast ⊢
    split_ifs with htoken
    · exact Prog.quiet_revert _
    · refine Prog.quiet_pure ?_
      rw [not_not.mp htoken] at hwalks
      have hcount : ((outputs own).map (VenueAnswer.mk [])).length = plan.steps.length := by
        rw [List.length_map, hlength]
      have hamounts : ((outputs own).map (VenueAnswer.mk [])).map VenueAnswer.amount
          = outputs own := by simp [Function.comp_def]
      have hroute := (walks_iff_linkedRoute hcount hempty).mp hwalks
      rw [hamounts] at hroute
      rw [List.append_nil]
      refine ⟨hroute.1, hroute.2, hlength, hasked, ?_⟩
      have hne : outputs own ≠ [] := by
        intro hnil
        rw [hnil] at hlength
        exact hempty (List.length_eq_zero_iff.mp hlength.symm)
      rw [← hlast, List.getLastD_eq_getLast?, List.getLast?_eq_some_getLast hne]
      rfl

theorem quiet_runRouteChecked (plan : ExecutionPlan) :
    Prog.Quiet
      (fun asked out => RouteRan contract plan plan.fundingAmount asked out
        ∧ plan.minRepayAmount + plan.minSurplus ≤ out)
      (RouterProg.runRouteChecked contract plan : RouterProg UserData Nat) := by
  refine (quiet_runRoute contract plan plan.fundingAmount).bind fun own out hroute => ?_
  refine (Prog.quiet_orRevert _).bind fun _ minimum hmin => ?_
  obtain ⟨rfl, hmin⟩ := hmin
  obtain ⟨-, rfl⟩ := Machine.checkedAdd_eq_some_iff.mp (okOr_eq_ok_iff.mp hmin)
  split_ifs with hlow
  · exact Prog.quiet_revert _
  · refine Prog.quiet_pure ?_
    simp only [List.append_nil]
    exact ⟨hroute, Nat.le_of_not_lt hlow⟩

theorem quiet_paySurplus (token loanCaller : EvmAddress) (surplus : Nat) :
    Prog.Quiet
      (fun asked _ => asked
        = if 0 < surplus then [⟨.safeTransfer token loanCaller surplus, ()⟩] else [])
      (RouterProg.paySurplus token loanCaller surplus : RouterProg UserData Unit) := by
  unfold RouterProg.paySurplus
  split_ifs with hpos
  · exact Prog.quiet_call _
  · exact Prog.quiet_pure rfl

/-- **What the callback does with its loan.** -/
theorem quiet_runLoan (tokens : List EvmAddress) (amounts fees : List Nat)
    (loanCaller : EvmAddress) (plan : ExecutionPlan) :
    Prog.Quiet
      (fun asked event => tokens = [plan.settlementToken] ∧ amounts = [plan.fundingAmount]
        ∧ fees = [0] ∧ LoanRan contract loanCaller plan asked event)
      (RouterProg.runLoan contract tokens amounts fees loanCaller plan :
        RouterProg UserData PlanExecuted) := by
  unfold RouterProg.runLoan
  split
  · split_ifs with htoken hamount hfee
    · exact Prog.quiet_revert _
    · exact Prog.quiet_revert _
    · exact Prog.quiet_revert _
    · rw [ne_eq, not_not] at htoken hamount hfee
      subst htoken hamount hfee
      refine (quiet_runRouteChecked contract plan).bind fun route amountOut hroute => ?_
      refine (Prog.quiet_call _).bind fun _ u hrepay => ?_
      refine (Prog.quiet_orRevert _).bind fun _ surplus hsub => ?_
      obtain ⟨rfl, hsub⟩ := hsub
      obtain ⟨hle, rfl⟩ := Machine.checkedSub_eq_some_iff.mp (okOr_eq_ok_iff.mp hsub)
      refine (quiet_paySurplus _ _ _).bind fun rest u' hrest => Prog.quiet_pure ?_
      subst hrepay hrest
      exact ⟨rfl, rfl, rfl, ⟨route, hroute.1, by rw [List.append_nil]; rfl⟩, hroute.2, hle, rfl⟩
  · exact Prog.quiet_revert _

end Quiet

/-! ## What is in progress -/

/-- What an entry point is to the loan context. -/
inductive Role where
  | selfFunded
  | loan (caller : EvmAddress) (plan : ExecutionPlan)
  | callback
  | other

def EntryPoint.role : EntryPoint UserData → Role
  | .executePlan _ _ => .selfFunded
  | .executePlanWithFlashLoan msg plan => .loan msg.sender plan
  | .receiveFlashLoan _ _ _ _ _ => .callback
  | _ => .other

abbrev RouterCompleted (UserData : Type) :=
  Completed (Request UserData) Answer (EntryPoint UserData) (Option PlanExecuted)

abbrev CallLog (UserData : Type) := List (RouterCompleted UserData)

abbrev RouterSnapshot (UserData : Type) :=
  Snapshot RouterStorage (Request UserData) Answer (EntryPoint UserData) (Option PlanExecuted)

/-- The plan in progress: a loan with the log it began with. -/
inductive InFlight (UserData : Type) where
  | idle
  | selfFunded
  | loan (caller : EvmAddress) (plan : ExecutionPlan) (start : CallLog UserData)

def inFlight : List (EntryPoint UserData × CallLog UserData) → InFlight UserData
  | [] => .idle
  | (call, start) :: rest =>
      match call.role with
      | .selfFunded => .selfFunded
      | .loan caller plan => .loan caller plan start
      | _ => inFlight rest

/-- A callback is in progress within the plan in progress. -/
def inCallback : List (EntryPoint UserData × CallLog UserData) → Bool
  | [] => false
  | (call, _) :: rest =>
      match call.role with
      | .callback => true
      | .other => inCallback rest
      | _ => false

def isCallback (entry : RouterCompleted UserData) : Bool :=
  match entry.call.role with
  | .callback => true
  | _ => false

/-- The completed callbacks of a log. -/
def callbacks (log : CallLog UserData) : CallLog UserData := log.filter isCallback

theorem callbacks_append (l₁ l₂ : CallLog UserData) :
    callbacks (l₁ ++ l₂) = callbacks l₁ ++ callbacks l₂ := List.filter_append ..

/-- Plans never nest, and a callback runs within a loan, once at a time. -/
def Nested : List (EntryPoint UserData × CallLog UserData) → Prop
  | [] => True
  | (call, _) :: rest =>
      Nested rest ∧
        match call.role with
        | .selfFunded => inFlight rest = .idle
        | .loan _ _ => inFlight rest = .idle
        | .callback => (∃ caller plan start, inFlight rest = .loan caller plan start)
            ∧ inCallback rest = false
        | .other => True

variable (coder : LoanCoder UserData) (contract : RouterContract) (used : Set UserData)

/-- The vault's callback for the loan that `caller` took for `plan`, and what
that loan is for. -/
def ServesLoan (caller : EvmAddress) (plan : ExecutionPlan) (callback : RouterCompleted UserData) :
    Prop :=
  ∃ msg event, msg.sender = contract.balancerVault
    ∧ callback.call = .receiveFlashLoan msg [plan.settlementToken] [plan.fundingAmount] [0]
        (coder.encodeUserData caller plan)
    ∧ callback.result = some event ∧ LoanRan contract caller plan callback.asked event

/-- A loan awaits its callback, is in it, or is past it. -/
inductive LoanPhase (caller : EvmAddress) (plan : ExecutionPlan) (during : CallLog UserData) :
    (calling : Bool) → (fingerprint : Bytes32) → Prop where
  | awaiting (hnone : callbacks during = []) :
      LoanPhase caller plan during false
        (coder.keccak256 (coder.encodeUserData caller plan))
  | calling (hnone : callbacks during = []) : LoanPhase caller plan during true 0
  | settled (callback : RouterCompleted UserData) (hone : callbacks during = [callback])
      (hserves : ServesLoan coder contract caller plan callback) :
      LoanPhase caller plan during false 0

/-- The storage and the log fit the calls in progress. -/
def InContext (calls : List (EntryPoint UserData × CallLog UserData))
    (now : RouterSnapshot UserData) : Prop :=
  Nested calls ∧
    match inFlight calls with
    | .idle => now.storage.entered = false ∧ now.storage.activeLoanFingerprint = 0
    | .selfFunded => now.storage.entered = true ∧ now.storage.activeLoanFingerprint = 0
    | .loan caller plan start =>
        now.storage.entered = true ∧ coder.encodeUserData caller plan ∈ used
          ∧ ∃ during, now.log = start ++ during
            ∧ LoanPhase coder contract caller plan during (inCallback calls)
                now.storage.activeLoanFingerprint

/-- How a call completes, from the storage its last burst began with. -/
def Completes (call : EntryPoint UserData)
    (rest : List (EntryPoint UserData × CallLog UserData))
    (asked : List (RouterInteraction UserData)) (s s' : RouterStorage)
    (event : Option PlanExecuted) : Prop :=
  match call.role with
  | .selfFunded => s' = { s with entered := false }
  | .loan _ _ => s.activeLoanFingerprint = 0 ∧ s' = { s with entered := false }
  | .callback => s' = s
      ∧ ∀ caller plan start, inFlight rest = .loan caller plan start →
          ServesLoan coder contract caller plan ⟨call, asked, event⟩
  | .other => s.SameContext s'

/-- The user data a call hashes. -/
def EntryPoint.userData : EntryPoint UserData → Option UserData
  | .executePlanWithFlashLoan msg plan => some (coder.encodeUserData msg.sender plan)
  | .receiveFlashLoan _ _ _ _ userData => some userData
  | _ => none

/-- What is assumed of the coder and the hash, on the user data that occur. -/
structure LoanCoder.Sound : Prop where
  roundTrip : ∀ caller plan,
    coder.decodeUserData (coder.encodeUserData caller plan) = some (caller, plan)
  injective : Set.InjOn coder.keccak256 used
  nonzero : ∀ userData ∈ used, coder.keccak256 userData ≠ 0

variable {coder contract used}

theorem LoanPhase.append {caller : EvmAddress} {plan : ExecutionPlan}
    {during more : CallLog UserData} {calling : Bool} {fingerprint : Bytes32}
    (h : LoanPhase coder contract caller plan during calling fingerprint)
    (hmore : callbacks more = []) :
    LoanPhase coder contract caller plan (during ++ more) calling fingerprint := by
  have hsame : callbacks (during ++ more) = callbacks during := by
    rw [callbacks_append, hmore, List.append_nil]
  cases h with
  | awaiting hnone => exact .awaiting (hsame.trans hnone)
  | calling hnone => exact .calling (hsame.trans hnone)
  | settled callback hone hserves => exact .settled callback (hsame.trans hone) hserves

theorem LoanPhase.of_calling {caller : EvmAddress} {plan : ExecutionPlan}
    {during : CallLog UserData} {fingerprint : Bytes32}
    (h : LoanPhase coder contract caller plan during true fingerprint) :
    callbacks during = [] ∧ fingerprint = 0 := by
  cases h with
  | calling hnone => exact ⟨hnone, rfl⟩

theorem LoanPhase.of_ne_zero {caller : EvmAddress} {plan : ExecutionPlan}
    {during : CallLog UserData} {calling : Bool} {fingerprint : Bytes32}
    (h : LoanPhase coder contract caller plan during calling fingerprint) (hset : fingerprint ≠ 0) :
    calling = false ∧ callbacks during = []
      ∧ fingerprint = coder.keccak256 (coder.encodeUserData caller plan) := by
  cases h with
  | awaiting hnone => exact ⟨rfl, hnone, rfl⟩
  | calling hnone => exact absurd rfl hset
  | settled callback hone hserves => exact absurd rfl hset

theorem LoanPhase.of_zero {caller : EvmAddress} {plan : ExecutionPlan}
    {during : CallLog UserData} (h : LoanPhase coder contract caller plan during false 0)
    (hne : coder.keccak256 (coder.encodeUserData caller plan) ≠ 0) :
    ∃ callback, callbacks during = [callback] ∧ ServesLoan coder contract caller plan callback := by
  generalize hzero : (0 : Bytes32) = fingerprint at h
  generalize hcalling : false = calling at h
  cases h with
  | awaiting hnone => exact absurd hzero.symm hne
  | calling hnone => cases hcalling
  | settled callback hone hserves => exact ⟨callback, hone, hserves⟩

/-- A call that completes as it should leaves the calls below it in context. -/
theorem inContext_done (call : EntryPoint UserData) (start : CallLog UserData)
    (rest : List (EntryPoint UserData × CallLog UserData))
    (asked : List (RouterInteraction UserData)) (s s' : RouterStorage) (log : CallLog UserData)
    (event : Option PlanExecuted)
    (h : InContext coder contract used ((call, start) :: rest) { storage := s, log })
    (hpost : Completes coder contract call rest asked s s' event) :
    InContext coder contract used rest
      { storage := s', log := log ++ [⟨call, asked, event⟩] } := by
  obtain ⟨⟨hrest, hrole⟩, hstate⟩ := h
  refine ⟨hrest, ?_⟩
  unfold Completes at hpost
  unfold inFlight at hstate
  cases hcall : call.role with
  | selfFunded =>
      simp only [hcall] at hrole hstate hpost
      rw [hrole, hpost]
      exact ⟨rfl, hstate.2⟩
  | loan caller plan =>
      simp only [hcall] at hrole hstate hpost
      rw [hrole, hpost.2]
      exact ⟨rfl, hpost.1⟩
  | callback =>
      simp only [hcall] at hrole hstate hpost
      obtain ⟨⟨caller, plan, start', hloan⟩, hout⟩ := hrole
      obtain ⟨rfl, hserves⟩ := hpost
      simp only [hloan] at hstate ⊢
      obtain ⟨hentered, hused, during, rfl, hphase⟩ := hstate
      refine ⟨hentered, hused, during ++ [⟨call, asked, event⟩], List.append_assoc .., ?_⟩
      have hcalling : inCallback ((call, start) :: rest) = true := by simp [inCallback, hcall]
      have hone : callbacks [⟨call, asked, event⟩] = [⟨call, asked, event⟩] := by
        simp [callbacks, isCallback, hcall]
      rw [hcalling] at hphase
      rw [hout, hphase.of_calling.2]
      refine .settled ⟨call, asked, event⟩ ?_ (hserves caller plan start' hloan)
      rw [callbacks_append, hphase.of_calling.1, hone]
      rfl
  | other =>
      simp only [hcall] at hstate hpost
      obtain ⟨hentered, hprint⟩ := hpost
      have hsame : inCallback ((call, start) :: rest) = inCallback rest := by
        simp [inCallback, hcall]
      cases hflight : inFlight rest with
      | idle => simpa only [hflight, hentered, hprint] using hstate
      | selfFunded => simpa only [hflight, hentered, hprint] using hstate
      | loan caller plan start' =>
          simp only [hflight, hsame] at hstate
          obtain ⟨hlock, hused, during, rfl, hphase⟩ := hstate
          have hnone : callbacks [⟨call, asked, event⟩] = [] := by
            simp [callbacks, isCallback, hcall]
          refine ⟨hentered.trans hlock, hused, during ++ [⟨call, asked, event⟩],
            List.append_assoc .., ?_⟩
          rw [hprint]
          exact hphase.append hnone

/-! ## What entering does -/

theorem enter_cases (msg : Msg) (plan : ExecutionPlan) (s : RouterStorage) :
    (∃ e, (RouterProg.enterPlan contract msg plan : RouterProg UserData Unit) s = .revert e)
      ∨ s.entered = false ∧ s.activeLoanFingerprint = 0
        ∧ (RouterProg.enterPlan contract msg plan : RouterProg UserData Unit) s
            = .done { s with entered := true } () := by
  unfold RouterProg.enterPlan Prog.update
  dsimp only
  cases henter : enterPlan contract msg plan { storage := s, rest := () } with
  | error e => exact Or.inl ⟨e, rfl⟩
  | ok w =>
      obtain ⟨hentered, hprint, rfl⟩ := enterPlan_cases henter
      exact Or.inr ⟨hentered, hprint, rfl⟩

theorem InContext.idle {calls : List (EntryPoint UserData × CallLog UserData)}
    {now : RouterSnapshot UserData}
    (h : InContext coder contract used calls now) (hentered : now.storage.entered = false) :
    inFlight calls = .idle := by
  have hstate := h.2
  cases hflight : inFlight calls with
  | idle => rfl
  | selfFunded =>
      rw [hflight] at hstate
      exact absurd (hentered.symm.trans hstate.1) Bool.false_ne_true
  | loan caller plan start =>
      rw [hflight] at hstate
      exact absurd (hentered.symm.trans hstate.1) Bool.false_ne_true

theorem InContext.push {calls : List (EntryPoint UserData × CallLog UserData)}
    {now : RouterSnapshot UserData} {call : EntryPoint UserData}
    {start : CallLog UserData} (h : InContext coder contract used calls now)
    (hcall : call.role = .other) : InContext coder contract used ((call, start) :: calls) now := by
  have hflight : inFlight ((call, start) :: calls) = inFlight calls := by
    simp only [inFlight, hcall]
  have hcalling : inCallback ((call, start) :: calls) = inCallback calls := by
    simp only [inCallback, hcall]
  refine ⟨⟨h.1, by simp only [hcall]⟩, ?_⟩
  rw [hflight, hcalling]
  exact h.2

section Enter

variable {rest : List (EntryPoint UserData × CallLog UserData)} {s : RouterStorage}
  {log : CallLog UserData}

variable (coder contract used rest s log) in
/-- Entering reverts, or leads to a state in context from which the call
settles. -/
def EntersWell (call : EntryPoint UserData) : Prop :=
  (∃ e, dispatchEntry coder contract call s = .revert e)
    ∨ ∃ s', InContext coder contract used ((call, log) :: rest) { storage := s', log }
        ∧ (dispatchEntry coder contract call s).Settles (Completes coder contract call rest) [] s'

theorem settles_runSelfFunded (msg : Msg) (plan : ExecutionPlan) (s : RouterStorage) :
    (RouterProg.runSelfFunded contract msg plan s : RouterCode UserData PlanExecuted).Settles
      (fun _ s s' _ => s' = { s with entered := false }) [] s := by
  refine (Prog.quiet_call _).settles_bind (fun _ _ _ => ?_) s
  refine (quiet_runRouteChecked contract plan).settles_bind fun _ amountOut _ => ?_
  refine (Prog.quiet_call _).settles_bind fun _ _ _ => ?_
  refine (Prog.quiet_orRevert _).settles_bind fun _ surplus _ s₁ => ?_
  exact contract.inherited.unlocks s₁

theorem enter_executePlan (h : InContext coder contract used rest { storage := s, log }) (msg : Msg)
    (plan : ExecutionPlan) : EntersWell coder contract used rest s log (.executePlan msg plan) := by
  have hdispatch : dispatchEntry coder contract (.executePlan msg plan) s
      = ((RouterProg.enterPlan contract msg plan s).bind
          fun _ => RouterProg.runSelfFunded contract msg plan).bind
          fun event s' => .done s' (some event) := rfl
  unfold EntersWell
  rw [hdispatch]
  rcases enter_cases msg plan s with ⟨e, he⟩ | ⟨hentered, hprint, hdone⟩
  · rw [he]
    exact Or.inl ⟨e, rfl⟩
  · rw [hdone]
    refine Or.inr ⟨{ s with entered := true }, ⟨⟨h.1, h.idle hentered⟩, rfl, hprint⟩, ?_⟩
    exact (settles_runSelfFunded msg plan { s with entered := true }).bind fun _ _ _ _ hs => hs

theorem settles_borrow (msg : Msg) (plan : ExecutionPlan) (s : RouterStorage) :
    (RouterProg.borrow coder contract msg plan s : RouterCode UserData Unit).Settles
      (fun _ s s' _ => s.activeLoanFingerprint = 0 ∧ s' = { s with entered := false }) []
      { s with activeLoanFingerprint :=
          coder.keccak256 (coder.encodeUserData msg.sender plan) } := by
  refine ⟨rfl, fun _ s₁ => ?_⟩
  show ((if s₁.activeLoanFingerprint ≠ 0 then Prog.revert _ else RouterProg.leavePlan contract :
    RouterProg UserData Unit) s₁).Settles _ _ s₁
  split_ifs with hset
  · trivial
  · exact ⟨not_not.mp hset, contract.inherited.unlocks s₁⟩

theorem enter_executePlanWithFlashLoan
    (h : InContext coder contract used rest { storage := s, log })
    (msg : Msg) (plan : ExecutionPlan)
    (hused : coder.encodeUserData msg.sender plan ∈ used) :
    EntersWell coder contract used rest s log (.executePlanWithFlashLoan msg plan) := by
  have hdispatch : dispatchEntry coder contract (.executePlanWithFlashLoan msg plan) s
      = ((RouterProg.enterPlan contract msg plan s).bind
          fun _ => RouterProg.borrow coder contract msg plan).bind
          fun _ s' => .done s' none := rfl
  unfold EntersWell
  rw [hdispatch]
  rcases enter_cases msg plan s with ⟨e, he⟩ | ⟨hentered, hprint, hdone⟩
  · rw [he]
    exact Or.inl ⟨e, rfl⟩
  · rw [hdone]
    refine Or.inr ⟨{ s with
        entered := true
        activeLoanFingerprint := coder.keccak256 (coder.encodeUserData msg.sender plan) },
      ⟨⟨h.1, h.idle hentered⟩, rfl, hused, [], (List.append_nil log).symm, .awaiting rfl⟩, ?_⟩
    exact (settles_borrow msg plan { s with entered := true }).bind fun _ _ _ _ hs => hs

/-- A callback that is let in comes from the vault and finds the fingerprint
of its own user data. -/
theorem receiveFlashLoan_cases (msg : Msg) (tokens : List EvmAddress)
    (amounts fees : List Nat) (userData : UserData) (s : RouterStorage) :
    (∃ e, RouterProg.receiveFlashLoan coder contract msg tokens amounts fees userData s
        = .revert e)
      ∨ msg.sender = contract.balancerVault ∧ s.activeLoanFingerprint ≠ 0
        ∧ s.activeLoanFingerprint = coder.keccak256 userData
        ∧ ∀ caller plan, coder.decodeUserData userData = some (caller, plan) →
            (RouterProg.receiveFlashLoan coder contract msg tokens amounts fees userData
              s).Settles (fun asked s s' event => s' = s
                ∧ tokens = [plan.settlementToken] ∧ amounts = [plan.fundingAmount] ∧ fees = [0]
                ∧ LoanRan contract caller plan asked event) []
              { s with activeLoanFingerprint := 0 } := by
  have hprog : RouterProg.receiveFlashLoan coder contract msg tokens amounts fees userData s
      = (if msg.sender ≠ contract.balancerVault then
          Prog.revert (.unexpectedFlashLoanCaller msg.sender)
        else if s.activeLoanFingerprint = 0
            ∨ s.activeLoanFingerprint ≠ coder.keccak256 userData then
          Prog.revert
            (.loanFingerprintMismatch s.activeLoanFingerprint (coder.keccak256 userData))
        else do
          RouterProg.setFingerprint 0
          let loan ← Prog.orRevert (okOr (coder.decodeUserData userData) .abiDecode)
          RouterProg.runLoan contract tokens amounts fees loan.1 loan.2) s := rfl
  rw [hprog]
  split_ifs with hsender hprint
  · exact Or.inl ⟨_, rfl⟩
  · exact Or.inl ⟨_, rfl⟩
  · rw [not_or, not_not] at hprint
    refine Or.inr ⟨not_not.mp hsender, hprint.1, hprint.2, fun caller plan hdec => ?_⟩
    rw [hdec]
    refine (quiet_runLoan contract tokens amounts fees caller plan []
      { s with activeLoanFingerprint := 0 }).imp ?_
    rintro asked s₁ s₂ event ⟨hs, own, rfl, hran⟩
    exact ⟨hs, hran⟩

theorem enter_receiveFlashLoan (hcoder : coder.Sound used)
    (h : InContext coder contract used rest { storage := s, log }) (msg : Msg)
    (tokens : List EvmAddress) (amounts fees : List Nat) {userData : UserData}
    (hused : userData ∈ used) :
    EntersWell coder contract used rest s log
      (.receiveFlashLoan msg tokens amounts fees userData) := by
  have hdispatch : dispatchEntry coder contract
        (.receiveFlashLoan msg tokens amounts fees userData) s
      = (RouterProg.receiveFlashLoan coder contract msg tokens amounts fees userData s).bind
          fun event s' => .done s' (some event) := rfl
  unfold EntersWell
  rw [hdispatch]
  rcases receiveFlashLoan_cases msg tokens amounts fees userData s with
    ⟨e, he⟩ | ⟨hvault, hset, hprint, hsettles⟩
  · rw [he]
    exact Or.inl ⟨e, rfl⟩
  · obtain ⟨hnested, hstate⟩ := h
    cases hflight : inFlight rest with
    | idle => rw [hflight] at hstate; exact absurd hstate.2 hset
    | selfFunded => rw [hflight] at hstate; exact absurd hstate.2 hset
    | loan caller plan start =>
        rw [hflight] at hstate
        obtain ⟨hentered, hloan, during, hlog, hphase⟩ := hstate
        obtain ⟨hout, hnone, hprint'⟩ := hphase.of_ne_zero hset
        have hdata : coder.encodeUserData caller plan = userData :=
          hcoder.injective hloan hused (hprint'.symm.trans hprint)
        refine Or.inr ⟨{ s with activeLoanFingerprint := 0 },
          ⟨⟨hnested, ⟨caller, plan, start, hflight⟩, hout⟩, ?_⟩, ?_⟩
        · have hwithin : inFlight ((EntryPoint.receiveFlashLoan msg tokens amounts fees userData,
              log) :: rest) = .loan caller plan start := hflight
          rw [hwithin]
          exact ⟨hentered, hloan, during, hlog, .calling hnone⟩
        · have hdec : coder.decodeUserData userData = some (caller, plan) := by
            rw [← hdata]
            exact hcoder.roundTrip caller plan
          refine (hsettles caller plan hdec).bind ?_
          rintro asked s₁ s₂ event ⟨hs, rfl, rfl, rfl, hran⟩
          refine ⟨hs, fun caller' plan' start' hflight' => ?_⟩
          rw [hflight] at hflight'
          cases hflight'
          exact ⟨msg, event, hvault, by rw [hdata], rfl, hran⟩

theorem enter_rescueToken (h : InContext coder contract used rest { storage := s, log })
    (msg : Msg) (token recipient : EvmAddress) (amount : Nat) :
    EntersWell coder contract used rest s log (.rescueToken msg token recipient amount) := by
  have hdispatch : dispatchEntry coder contract (.rescueToken msg token recipient amount) s
      = (((Prog.update fun s => (contract.inherited.onlyOwner msg s).map fun _ => s :
            RouterProg UserData Unit) s).bind
          fun _ => RouterProg.safeTransfer token recipient amount).bind
          fun _ s' => .done s' none := rfl
  unfold EntersWell
  rw [hdispatch]
  unfold Prog.update
  dsimp only
  cases contract.inherited.onlyOwner msg s with
  | error e => exact Or.inl ⟨e, rfl⟩
  | ok u => exact Or.inr ⟨s, h.push rfl, rfl, fun _ s₁ => ⟨rfl, rfl⟩⟩

/-- An entry point that only rewrites storage, and neither the lock nor the
fingerprint. -/
theorem enter_update (h : InContext coder contract used rest { storage := s, log })
    {call : EntryPoint UserData} {f : RouterStorage → Except RouterError RouterStorage}
    (hcall : call.role = .other)
    (hdispatch : dispatchEntry coder contract call s
      = ((Prog.update f : RouterProg UserData Unit) s).bind fun _ s' => .done s' none)
    (hf : ∀ s', f s = .ok s' → s.SameContext s') :
    EntersWell coder contract used rest s log call := by
  unfold EntersWell
  rw [hdispatch]
  unfold Prog.update
  cases hs : f s with
  | error e => exact Or.inl ⟨e, rfl⟩
  | ok s' =>
      refine Or.inr ⟨s, h.push hcall, ?_⟩
      show Completes coder contract call rest [] s s' none
      unfold Completes
      rw [hcall]
      exact hf s' hs

theorem entersWell (hcoder : coder.Sound used)
    (h : InContext coder contract used rest { storage := s, log }) (call : EntryPoint UserData)
    (hused : ∀ userData, call.userData coder = some userData → userData ∈ used) :
    EntersWell coder contract used rest s log call := by
  cases call with
  | executePlan msg plan => exact enter_executePlan h msg plan
  | executePlanWithFlashLoan msg plan =>
      exact enter_executePlanWithFlashLoan h msg plan (hused _ rfl)
  | receiveFlashLoan msg tokens amounts fees userData =>
      exact enter_receiveFlashLoan hcoder h msg tokens amounts fees (hused _ rfl)
  | rescueToken msg token recipient amount => exact enter_rescueToken h msg token recipient amount
  | setExecutor msg executor allowed =>
      refine enter_update h rfl rfl fun s' hs => ?_
      obtain ⟨-, -, hs⟩ := bind_eq_ok_iff.mp hs
      cases hs
      exact ⟨rfl, rfl⟩
  | pause msg =>
      refine enter_update h rfl rfl fun s' hs => ?_
      obtain ⟨-, -, hs⟩ := bind_eq_ok_iff.mp hs
      exact contract.inherited.pause_keeps hs
  | unpause msg =>
      refine enter_update h rfl rfl fun s' hs => ?_
      obtain ⟨-, -, hs⟩ := bind_eq_ok_iff.mp hs
      exact contract.inherited.unpause_keeps hs
  | transferOwnership msg newOwner =>
      exact enter_update h rfl rfl fun s' hs => contract.inherited.transferOwnership_keeps hs
  | renounceOwnership msg =>
      exact enter_update h rfl rfl fun s' hs => contract.inherited.renounceOwnership_keeps hs

end Enter

/-! ## Every run -/

abbrev RouterFrame (UserData : Type) :=
  Frame RouterStorage RouterError (Request UserData) Answer (EntryPoint UserData)
    (Option PlanExecuted)

abbrev RouterMachine (UserData : Type) :=
  Machine RouterStorage RouterError (Request UserData) Answer (EntryPoint UserData)
    (Option PlanExecuted)

abbrev RouterAction (UserData : Type) := Action (Request UserData) Answer (EntryPoint UserData)

/-- The router after its constructor. -/
def deployedRouter (initialOwner : EvmAddress) : RouterMachine UserData :=
  { now :=
      { storage :=
          { owner := initialOwner, paused := false, entered := false,
            executors := fun _ => false, activeLoanFingerprint := 0 },
        log := [] },
    stack := [] }

/-- An `executePlanWithFlashLoan` frame is on the call stack. -/
def LoanOpen (stack : List (RouterFrame UserData)) : Prop :=
  ∃ frame ∈ stack, ∃ msg plan, frame.call? = some (.executePlanWithFlashLoan msg plan)

variable (coder) in
/-- The user data hashed by the calls of a run. -/
def occurring (acts : List (RouterAction UserData)) : Set UserData :=
  {userData | ∃ call, Action.enter call ∈ acts ∧ call.userData coder = some userData}

theorem loanOpen_of_inFlight {stack : List (RouterFrame UserData)} {caller : EvmAddress}
    {plan : ExecutionPlan} {start : CallLog UserData}
    (h : inFlight (calls stack) = .loan caller plan start) : LoanOpen stack := by
  induction stack with
  | nil => cases h
  | cons frame rest ih =>
      cases frame with
      | foreign saved =>
          obtain ⟨frame, hmem, hframe⟩ := ih h
          exact ⟨frame, List.mem_cons_of_mem _ hmem, hframe⟩
      | own call saved asked req resume =>
          cases call with
          | executePlan msg plan' => cases h
          | executePlanWithFlashLoan msg plan' =>
              exact ⟨_, List.mem_cons_self, msg, plan', rfl⟩
          | _ =>
              obtain ⟨frame, hmem, hframe⟩ := ih h
              exact ⟨frame, List.mem_cons_of_mem _ hmem, hframe⟩

theorem inv_run (hcoder : coder.Sound used) (initialOwner : EvmAddress)
    {acts : List (RouterAction UserData)} (hused : occurring coder acts ⊆ used) :
    Inv (InContext coder contract used) (Completes coder contract)
      (Run.final (step (dispatchEntry coder contract)) (deployedRouter initialOwner) acts) := by
  let P (act : RouterAction UserData) : Prop := ∀ call, act = .enter call →
    ∀ userData, call.userData coder = some userData → userData ∈ used
  have hstep : ∀ (m : RouterMachine UserData) (act : RouterAction UserData),
      Inv (InContext coder contract used) (Completes coder contract) m → P act →
      Inv (InContext coder contract used) (Completes coder contract)
        (step (dispatchEntry coder contract) m act) :=
    fun m act hm hact => inv_step inContext_done
      (fun call rest s log hcall hgood => entersWell hcoder hgood call hcall) m act hm hact
  have hstart : Inv (InContext coder contract used) (Completes coder contract)
      (deployedRouter initialOwner) := ⟨⟨trivial, rfl, rfl⟩, trivial⟩
  have hacts : ∀ act ∈ acts, P act := by
    rintro act hmem call rfl userData hdata
    exact hused ⟨call, hmem, hdata⟩
  exact Run.inv_final hstep hstart (Run.along_of_forall hacts)

/-- **The flash-loan context protocol.** After any calls, answers, reverts and
re-entrant calls: without a loan on the call stack the fingerprint is zero; a
callback completes only within a loan; and a loan that completes contains
exactly one completed callback, made by the vault for its caller's plan, which
ran the route of that plan on the amount borrowed, passed the settlement check
and repaid the vault. -/
theorem flashLoanContext (initialOwner : EvmAddress) {acts : List (RouterAction UserData)}
    {act : RouterAction UserData} (hcoder : coder.Sound (occurring coder (acts ++ [act])))
    {m : RouterMachine UserData}
    (hm : m = Run.final (step (dispatchEntry coder contract)) (deployedRouter initialOwner) acts) :
    (¬ LoanOpen m.stack → m.now.storage.activeLoanFingerprint = 0)
      ∧ (∀ c msg tokens amounts fees userData,
          completes (dispatchEntry coder contract) m act = some c →
            c.call = .receiveFlashLoan msg tokens amounts fees userData →
            LoanOpen (step (dispatchEntry coder contract) m act).stack)
      ∧ ∀ c msg plan,
          completes (dispatchEntry coder contract) m act = some c →
            c.call = .executePlanWithFlashLoan msg plan →
            ∃ during callback, m.now.log = began m act ++ during
              ∧ callbacks during = [callback]
              ∧ ServesLoan coder contract msg.sender plan callback := by
  have hinv : Inv (InContext coder contract (occurring coder (acts ++ [act])))
      (Completes coder contract) m := by
    rw [hm]
    refine inv_run hcoder initialOwner fun userData ⟨call, hmem, hdata⟩ => ?_
    exact ⟨call, List.mem_append_left _ hmem, hdata⟩
  have hact : ∀ call, act = .enter call → ∀ userData, call.userData coder = some userData →
      userData ∈ occurring coder (acts ++ [act]) := by
    rintro call rfl userData hdata
    exact ⟨call, by simp, hdata⟩
  have hcompletes : ∀ c, completes (dispatchEntry coder contract) m act = some c →
      ∃ s s', InContext coder contract (occurring coder (acts ++ [act]))
          ((c.call, began m act) :: calls (step (dispatchEntry coder contract) m act).stack)
          { storage := s, log := m.now.log }
        ∧ Completes coder contract c.call
            (calls (step (dispatchEntry coder contract) m act).stack) c.asked s s' c.result :=
    fun c h => good_of_completes hinv h
      (fun call rest s log hcall hgood => entersWell hcoder hgood call hcall) hact
  refine ⟨fun hclosed => ?_, fun c msg tokens amounts fees userData h hcall => ?_,
    fun c msg plan h hcall => ?_⟩
  · have hstate := hinv.1.2
    cases hflight : inFlight (calls m.stack) with
    | idle => rw [hflight] at hstate; exact hstate.2
    | selfFunded => rw [hflight] at hstate; exact hstate.2
    | loan caller plan start => exact absurd (loanOpen_of_inFlight hflight) hclosed
  · obtain ⟨s, s', hgood, -⟩ := hcompletes c h
    rw [hcall] at hgood
    obtain ⟨⟨-, ⟨caller, plan, start, hflight⟩, -⟩, -⟩ := hgood
    exact loanOpen_of_inFlight hflight
  · obtain ⟨s, s', hgood, hpost⟩ := hcompletes c h
    rw [hcall] at hgood hpost
    obtain ⟨-, -, hmem, during, hlog, hphase⟩ := hgood
    have hprint : s.activeLoanFingerprint = 0 := hpost.1
    rw [hprint] at hphase
    obtain ⟨callback, hone, hserves⟩ := hphase.of_zero (hcoder.nonzero _ hmem)
    exact ⟨during, callback, hlog, hone, hserves⟩

section Sample

def venueReplies : (req : Request (EvmAddress × ExecutionPlan)) → Answer req
  | .exactInputSingle _ _ => (1000007 : Nat)
  | .swapExactTokensForTokens _ _ _ _ _ _ => [1000000, 2000000]
  | .swapAerodrome _ _ _ _ _ _ => ([] : List Nat)
  | .forceApprove _ _ _ => ()
  | .safeTransfer _ _ _ => ()
  | .safeTransferFrom _ _ _ _ => ()
  | .flashLoan _ _ _ _ _ => ()

def vaultCallback : RouterAction (EvmAddress × ExecutionPlan) :=
  .enter (.receiveFlashLoan { sender := baseRouter.balancerVault, timestamp := 1700000000 }
    [twoLegPlan.settlementToken] [twoLegPlan.fundingAmount] [0] (planExecutor, twoLegPlan))

/-- A loan whose callback is made twice: the second time, from within the
first, it reverts. -/
def loanRun : List (RouterAction (EvmAddress × ExecutionPlan)) :=
  [.enter (.executePlanWithFlashLoan { sender := planExecutor, timestamp := 1700000000 }
      twoLegPlan),
    vaultCallback, .answer venueReplies, vaultCallback, .answer venueReplies,
    .answer venueReplies, .answer venueReplies, .answer venueReplies, .answer venueReplies]

theorem planCoder_sound :
    planCoder.Sound (occurring planCoder (loanRun ++ [.answer venueReplies])) := by
  have honly : ∀ userData ∈ occurring planCoder (loanRun ++ [.answer venueReplies]),
      userData = (planExecutor, twoLegPlan) := by
    rintro userData ⟨call, hmem, hdata⟩
    simp only [loanRun, vaultCallback, List.cons_append, List.nil_append, List.mem_cons,
      Action.enter.injEq, reduceCtorEq, List.not_mem_nil, or_false, false_or] at hmem
    rcases hmem with rfl | rfl | rfl
    · exact (Option.some.inj hdata).symm
    · exact (Option.some.inj hdata).symm
    · exact (Option.some.inj hdata).symm
  refine ⟨fun _ _ => rfl, fun d hd d' hd' _ => ?_, fun _ _ => ?_⟩
  · rw [honly d hd, honly d' hd']
  · show (0xf90945d6b5d62a33707a5962891552fb2d1d3668d6f9e34ee42a748fb542f4b3 : Bytes32) ≠ 0
    decide

/-- The loan completes, with one callback in it. -/
theorem loanRun_flashLoanContext :
    ∃ during callback,
      (Run.final (step (dispatchEntry planCoder baseRouter)) (deployedRouter planExecutor)
        loanRun).now.log = during
      ∧ callbacks during = [callback]
      ∧ ServesLoan planCoder baseRouter planExecutor twoLegPlan callback := by
  have hcompletes : completes (dispatchEntry planCoder baseRouter)
      (Run.final (step (dispatchEntry planCoder baseRouter)) (deployedRouter planExecutor) loanRun)
      (.answer venueReplies)
      = some ⟨.executePlanWithFlashLoan { sender := planExecutor, timestamp := 1700000000 }
          twoLegPlan,
          [⟨.flashLoan baseRouter.balancerVault baseRouter.self [twoLegPlan.settlementToken]
            [twoLegPlan.fundingAmount] (planExecutor, twoLegPlan), ()⟩], none⟩ := rfl
  exact (flashLoanContext planExecutor planCoder_sound rfl).2.2 _ _ _ hcompletes rfl

end Sample

end BaseEngine
