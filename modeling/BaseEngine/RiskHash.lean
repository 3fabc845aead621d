import BaseEngine.LoopDetection

/-!
# What the risk hash commits to

The hash is taken of the identifier of the opportunity and five words, with
no lengths between them. The words have a fixed size, so they are read off the
end, and what is left is the identifier (`riskHashInput_inj`). The identifier
of a detected loop joins its texts with colons: without a colon inside them it
can be split again (`Separable.splitOn_loopId`).

`riskHashInput_commits` puts the two together.
-/

namespace BaseEngine

/-! ## The words -/

/-- The costs and the profit of a simulation fit `u128`. -/
structure SimulationResult.Fits (sim : SimulationResult) : Prop where
  netProfit : sim.expectedNetProfit < 2 ^ 128
  gasCost : sim.gasCostWei < 2 ^ 128
  l1DataFee : sim.l1DataFee < 2 ^ 128

/-- A word at the end is read off by its length. -/
theorem append_toLeBytes_inj {front front' : List UInt8} {n m : Nat} (hn : n < 2 ^ 128)
    (hm : m < 2 ^ 128) (h : front ++ toLeBytes 16 n = front' ++ toLeBytes 16 m) :
    front = front' ∧ n = m := by
  obtain ⟨hfront, hword⟩ := List.append_inj' h (by simp)
  exact ⟨hfront, toLeBytes_inj (by simpa using hn) (by simpa using hm) hword⟩

/-- The identifier and the five words are what was hashed. -/
theorem riskHashInput_inj {opp opp' : Opportunity} {sim sim' : SimulationResult}
    {minSurplus minSurplus' : Nat} (hopp : opp.expectedOutputAmount < 2 ^ 128)
    (hopp' : opp'.expectedOutputAmount < 2 ^ 128) (hsim : sim.Fits) (hsim' : sim'.Fits)
    (hmin : minSurplus < 2 ^ 128) (hmin' : minSurplus' < 2 ^ 128)
    (h : riskHashInput opp sim minSurplus = riskHashInput opp' sim' minSurplus') :
    opp.id = opp'.id ∧ opp.expectedOutputAmount = opp'.expectedOutputAmount
      ∧ sim.expectedNetProfit = sim'.expectedNetProfit ∧ sim.gasCostWei = sim'.gasCostWei
      ∧ sim.l1DataFee = sim'.l1DataFee ∧ minSurplus = minSurplus' := by
  unfold riskHashInput at h
  obtain ⟨h, hsurplus⟩ := append_toLeBytes_inj hmin hmin' h
  obtain ⟨h, hfee⟩ := append_toLeBytes_inj hsim.l1DataFee hsim'.l1DataFee h
  obtain ⟨h, hgas⟩ := append_toLeBytes_inj hsim.gasCost hsim'.gasCost h
  obtain ⟨h, hprofit⟩ := append_toLeBytes_inj hsim.netProfit hsim'.netProfit h
  obtain ⟨h, houtput⟩ := append_toLeBytes_inj hopp hopp' h
  exact ⟨Text.utf8_inj h, houtput, hprofit, hgas, hfee, hsurplus⟩

/-! ## The identifier -/

/-- No text of the identifier holds its separator. -/
structure TwoLegLoopInput.Separable (input : TwoLegLoopInput) : Prop where
  settlementToken : ':' ∉ input.settlementToken.toList
  firstPool : ':' ∉ input.firstPool.address.toList
  secondPool : ':' ∉ input.secondPool.address.toList

theorem colon_notMem_numeral (n : Nat) : ':' ∉ (toString n).toList := by
  intro h
  rw [Nat.toString_eq_repr, Nat.repr_eq_ofList_toDigits, String.toList_ofList] at h
  exact absurd (Nat.isDigit_of_mem_toDigits (by decide) (by decide) h) (by decide)

/-- The texts that the colons of an identifier separate. -/
def loopFields (input : TwoLegLoopInput) : List (List Char) :=
  ["loop".toList, input.settlementToken.toList, input.firstPool.address.toList,
    input.secondPool.address.toList, (toString input.amountIn).toList]

theorem toList_loopId (input : TwoLegLoopInput) :
    (loopId input.settlementToken input.amountIn input.firstPool.address
      input.secondPool.address).toList = [':'].intercalate (loopFields input) := by
  simp [loopId, loopFields, List.intercalate, String.toList_append]

/-- Splitting at the colons gives the texts back. -/
theorem TwoLegLoopInput.Separable.splitOn_loopId {input : TwoLegLoopInput}
    (h : input.Separable) :
    (loopId input.settlementToken input.amountIn input.firstPool.address
      input.secondPool.address).toList.splitOn ':' = loopFields input := by
  rw [toList_loopId]
  refine List.splitOn_intercalate ':' ?_ (List.cons_ne_nil _ _)
  intro field hfield
  rcases List.mem_cons.mp hfield with rfl | hfield
  · decide
  · simp only [List.mem_cons, List.not_mem_nil, or_false] at hfield
    rcases hfield with rfl | rfl | rfl | rfl
    · exact h.settlementToken
    · exact h.firstPool
    · exact h.secondPool
    · exact colon_notMem_numeral input.amountIn

/-- Two separable loops with one identifier have the same texts. -/
theorem loopFields_eq_of_loopId_eq {input input' : TwoLegLoopInput} (hs : input.Separable)
    (hs' : input'.Separable)
    (h : loopId input.settlementToken input.amountIn input.firstPool.address
        input.secondPool.address
      = loopId input'.settlementToken input'.amountIn input'.firstPool.address
        input'.secondPool.address) :
    input.settlementToken = input'.settlementToken
      ∧ input.firstPool.address = input'.firstPool.address
      ∧ input.secondPool.address = input'.secondPool.address
      ∧ input.amountIn = input'.amountIn := by
  have hfields : loopFields input = loopFields input' := by
    rw [← hs.splitOn_loopId, ← hs'.splitOn_loopId, h]
  unfold loopFields at hfields
  simp only [List.cons.injEq, String.toList_inj, Text.toString_nat_inj, and_true,
    true_and] at hfields
  exact hfields

/-! ## The trade -/

/-- A detected loop is named after its input and returns a `u128`. -/
theorem id_and_output_of_detected {input : TwoLegLoopInput} {opp : Opportunity}
    (h : detectTwoLegLoop input = some opp) :
    opp.id = loopId input.settlementToken input.amountIn input.firstPool.address
        input.secondPool.address
      ∧ opp.expectedOutputAmount < 2 ^ 128 := by
  obtain ⟨first, second, hgains, -, rfl⟩ := detectTwoLegLoop_eq_some_iff.mp h
  refine ⟨rfl, ?_⟩
  obtain ⟨impact, hstep, rfl⟩ := V2PoolState.quoteExactIn_ok hgains.back
  exact Nat.lt_of_le_of_lt (Nat.le_mul_of_pos_right _ (by decide)) hstep.exactOut_lt

/-- **The hash commits to the trade.** Two detected loops without a colon in
their texts, with the same bytes fed to the hash, have the same settlement
token, pools, amounts, costs and minimum surplus. -/
theorem riskHashInput_commits {input input' : TwoLegLoopInput} {opp opp' : Opportunity}
    {sim sim' : SimulationResult} {minSurplus minSurplus' : Nat}
    (hopp : detectTwoLegLoop input = some opp) (hopp' : detectTwoLegLoop input' = some opp')
    (hs : input.Separable) (hs' : input'.Separable) (hsim : sim.Fits) (hsim' : sim'.Fits)
    (hmin : minSurplus < 2 ^ 128) (hmin' : minSurplus' < 2 ^ 128)
    (h : riskHashInput opp sim minSurplus = riskHashInput opp' sim' minSurplus') :
    input.settlementToken = input'.settlementToken
      ∧ input.firstPool.address = input'.firstPool.address
      ∧ input.secondPool.address = input'.secondPool.address
      ∧ input.amountIn = input'.amountIn
      ∧ opp.expectedOutputAmount = opp'.expectedOutputAmount
      ∧ sim.expectedNetProfit = sim'.expectedNetProfit ∧ sim.gasCostWei = sim'.gasCostWei
      ∧ sim.l1DataFee = sim'.l1DataFee ∧ minSurplus = minSurplus' := by
  obtain ⟨hid, hlt⟩ := id_and_output_of_detected hopp
  obtain ⟨hid', hlt'⟩ := id_and_output_of_detected hopp'
  obtain ⟨heq, hwords⟩ := riskHashInput_inj hlt hlt' hsim hsim' hmin hmin' h
  rw [hid, hid'] at heq
  obtain ⟨hsettlement, hfirst, hsecond, hamount⟩ := loopFields_eq_of_loopId_eq hs hs' heq
  exact ⟨hsettlement, hfirst, hsecond, hamount, hwords⟩

/-- The loop of the unit tests, found without a trigger. -/
def untriggeredLoop : TwoLegLoopInput := { profitableLoop with triggerTxHash := none }

/-- The trigger is not hashed, and the loops agree on what is. -/
theorem untriggeredLoop_commits :
    riskHashInput sampleOpportunity sampleSimulation 10
        = riskHashInput { sampleOpportunity with triggerTxHash := none } sampleSimulation 10
      ∧ profitableLoop.amountIn = untriggeredLoop.amountIn := by
  have hopp : detectTwoLegLoop profitableLoop = some sampleOpportunity :=
    sampleRequest_accepted.detected
  have hopp' : detectTwoLegLoop untriggeredLoop
      = some { sampleOpportunity with triggerTxHash := none } := by
    decide +kernel
  have hs : profitableLoop.Separable := ⟨by decide, by decide, by decide⟩
  have hs' : untriggeredLoop.Separable := ⟨hs.1, hs.2, hs.3⟩
  have hsim : sampleSimulation.Fits := ⟨by decide, by decide, by decide⟩
  have hmin : 10 < 2 ^ 128 := by decide
  obtain ⟨-, -, -, hamount, -⟩ :=
    riskHashInput_commits hopp hopp' hs hs' hsim hsim hmin hmin rfl
  exact ⟨rfl, hamount⟩

end BaseEngine
