import BaseEngine.Risk

/-!
# Shares of the notional in saturating arithmetic

Two of the stateless gates take a share of the notional, and a product that
clamps makes the share too small. For the slippage gate, where the share is
what may be lost, this errs on the safe side. For the profit gate, where it is
what must be earned, it lets through what the exact share would stop.

`profitFloor_iff` says for which policies and opportunities the gates still
keep the two exact bounds, whatever the simulation.
-/

namespace BaseEngine

open Machine

/-- A clamped share is the exact one up to the share of the largest word. -/
theorem saturatingMul_div_eq (amount bps : Nat) :
    saturatingMul 128 amount bps / 10000 = min (amount * bps / 10000) (u128Max / 10000) := by
  unfold saturatingMul u128Max
  rcases Nat.le_total (amount * bps) (2 ^ 128 - 1) with h | h
  · rw [Nat.min_eq_left h, Nat.min_eq_left (Nat.div_le_div_right h)]
  · rw [Nat.min_eq_right h, Nat.min_eq_right (Nat.div_le_div_right h)]

namespace RiskPolicy

variable {policy : RiskPolicy} {opp : Opportunity}

/-- The opportunity fails a gate that does not look at the simulation. -/
def StopsOutright (policy : RiskPolicy) (opp : Opportunity) : Prop :=
  (∃ cap, policy.maxTradeNotionalWei = some cap ∧ cap < opp.inputAmount)
    ∨ (∃ token ∈ opportunityTokenIter opp, policy.tokenGate token ≠ none)
    ∨ policy.slippageGate opp ≠ none

/-- What an opportunity that no gate stops is owed, in unbounded integers. -/
def KeepsBounds (policy : RiskPolicy) (opp : Opportunity) (sim : SimulationResult) : Prop :=
  opp.inputAmount * policy.minProfitBps / 10000 ≤ sim.expectedNetProfit
    ∧ (policy.maxSlippageBps < 10000 →
        (opp.inputAmount : Int) - opp.expectedOutputAmount
          ≤ (opp.inputAmount * policy.maxSlippageBps / 10000 : Nat))

/-- The slippage bound holds whatever clamps. -/
theorem Passes.slippage_le {killSwitchFile : Bool} {sim : SimulationResult}
    (h : policy.Passes killSwitchFile opp sim) (hlow : policy.maxSlippageBps < 10000) :
    (opp.inputAmount : Int) - opp.expectedOutputAmount
      ≤ (opp.inputAmount * policy.maxSlippageBps / 10000 : Nat) := by
  have hle := h.slippage hlow
  rw [saturatingMul_div_eq] at hle
  have hexact := hle.trans (Nat.min_le_left ..)
  omega

/-- The simulation that earns as little as the gates allow. -/
def leastProfit (policy : RiskPolicy) (opp : Opportunity) : SimulationResult :=
  { opportunityId := opp.id, accepted := true, expectedGrossProfit := 0,
    expectedNetProfit := max policy.minNetProfitWei
      (saturatingMul 128 opp.inputAmount policy.minProfitBps / 10000),
    gasEstimate := 0, gasCostWei := 0, l1DataFee := 0, notes := [] }

theorem leastProfit_le (hmin : policy.minNetProfitWei ≤ u128Max) (opp : Opportunity) :
    (policy.leastProfit opp).expectedNetProfit ≤ u128Max := by
  rw [leastProfit, saturatingMul_div_eq]
  exact max_le hmin ((Nat.min_le_right ..).trans (Nat.div_le_self ..))

/-- Whatever passes the gates was not stopped outright. -/
theorem Passes.not_stopsOutright {killSwitchFile : Bool} {sim : SimulationResult}
    (h : policy.Passes killSwitchFile opp sim) : ¬ policy.StopsOutright opp := by
  rintro (⟨cap, hcap, hover⟩ | ⟨token, hmem, htoken⟩ | hslippage)
  · exact Nat.not_le_of_lt hover (h.tradeNotional cap hcap)
  · exact htoken (h.tokens token hmem)
  · exact hslippage (slippageGate_eq_none_iff.mpr h.slippage)

theorem passes_leastProfit (h : ¬ policy.StopsOutright opp) :
    policy.Passes false opp (policy.leastProfit opp) := by
  unfold StopsOutright at h
  push Not at h
  obtain ⟨htrade, htokens, hslippage⟩ := h
  exact ⟨.inr rfl, rfl, Nat.le_max_left .., Nat.le_max_right .., htrade, htokens,
    slippageGate_eq_none_iff.mp hslippage⟩

/-- **When saturation is harmless.** The gates keep both exact bounds for every
simulation of an opportunity exactly when the exact profit share is within the
larger of the absolute floor and the share of the largest `u128`, or when the
opportunity is stopped outright. -/
theorem profitFloor_iff (hmin : policy.minNetProfitWei ≤ u128Max) :
    (∀ killSwitchFile sim, sim.expectedNetProfit ≤ u128Max →
        policy.statelessReject killSwitchFile opp sim = none → policy.KeepsBounds opp sim)
      ↔ opp.inputAmount * policy.minProfitBps / 10000
          ≤ max policy.minNetProfitWei (u128Max / 10000)
        ∨ policy.StopsOutright opp := by
  constructor
  · intro hall
    by_cases hstops : policy.StopsOutright opp
    · exact .inr hstops
    · have hpasses := statelessReject_eq_none_iff.mpr (passes_leastProfit hstops)
      have hkept := (hall false _ (policy.leastProfit_le hmin opp) hpasses).1
      refine .inl (hkept.trans ?_)
      rw [leastProfit, saturatingMul_div_eq]
      exact max_le_max le_rfl (Nat.min_le_right ..)
  · rintro hcond killSwitchFile sim - hnone
    have hpasses := statelessReject_eq_none_iff.mp hnone
    refine ⟨?_, hpasses.slippage_le⟩
    have hshare := hcond.resolve_right hpasses.not_stopsOutright
    have hbps := hpasses.profitBps
    rw [saturatingMul_div_eq] at hbps
    -- an exact share above the clamp is within the absolute floor
    rcases le_max_iff.mp hshare with hfloor | hexact
    · exact hfloor.trans hpasses.netProfit
    · rwa [Nat.min_eq_left hexact] at hbps

/-- A policy under which a loop has to earn its whole notional. -/
def wholeNotional : RiskPolicy :=
  { minNetProfitWei := 1, minProfitBps := 10000, maxTradeNotionalWei := none,
    maxPerBlockNotionalWei := none, maxDailyNotionalWei := none, maxSlippageBps := 100,
    tokenAllowlist := ∅, tokenDenylist := ∅, maxConsecutiveReverts := 0,
    killSwitchPath := none }

/-- A loop that returns its notional. -/
def evenLoop (amount : Nat) : Opportunity :=
  { id := "loop", kind := .twoLegLoop, blockContext := .pending, settlementToken := "0xweth",
    inputAmount := amount, expectedOutputAmount := amount, expectedNetProfit := 0, route := [],
    triggerTxHash := none }

/-- One ether is small enough for the exact floor to be kept. -/
theorem profitFloor_oneEther :
    wholeNotional.minNetProfitWei ≤ u128Max
      ∧ ∀ killSwitchFile sim, sim.expectedNetProfit ≤ u128Max →
        wholeNotional.statelessReject killSwitchFile (evenLoop (10 ^ 18)) sim = none →
          wholeNotional.KeepsBounds (evenLoop (10 ^ 18)) sim := by
  refine ⟨by decide, (profitFloor_iff (by decide)).mpr (.inl ?_)⟩
  decide

/-- Over the largest notional, a ten-thousandth of it passes for the whole. -/
theorem largestNotional_underpaid :
    wholeNotional.minProfitBps ≤ 10000
      ∧ (wholeNotional.leastProfit (evenLoop u128Max)).expectedNetProfit = u128Max / 10000
      ∧ wholeNotional.statelessReject false (evenLoop u128Max)
          (wholeNotional.leastProfit (evenLoop u128Max)) = none
      ∧ u128Max / 10000 < u128Max * wholeNotional.minProfitBps / 10000 := by
  decide

end RiskPolicy

end BaseEngine
