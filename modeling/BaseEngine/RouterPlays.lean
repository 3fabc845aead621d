import BaseEngine.FlashLoanContext
import BaseEngine.RouterMarket

/-!
# Calls on a chain as plays of the game

On a `Chain` the calls that the router makes may do anything to its storage.
What they can do in fact is call the router again. `ActsByCalls` says that a
chain does no more than that, and `reaches_of_callEntry` that on such a chain
an entry point of `Router` is a play of the game between the router and foreign
code: the game ends with the storage and the event that the function returns.

What holds along every play thereby holds of the functions. `transact_outside`
is the flash-loan context between transactions in the market of
`RouterMarket`, whose vault calls the router back.
-/

namespace BaseEngine

open Fallible Reentrant

variable {ω σ UserData : Type}

/-! ## What the router passes on -/

/-- The user data a request passes on is among `used`. -/
def Request.Within (used : Set UserData) : Request UserData → Prop
  | .flashLoan _ _ _ _ userData => userData ∈ used
  | _ => True

section Asks

variable {used : Set UserData} (contract : RouterContract)

theorem asks_executeStep (step : RouteStep) (amountIn deadline : Nat) :
    Prog.Asks (Request.Within used) (RouterProg.executeStep contract step amountIn deadline) := by
  unfold RouterProg.executeStep
  cases step.venueKind with
  | unsupported => exact Prog.asks_revert _
  | uniswapV3Single => exact (Prog.asks_call trivial).bind fun _ => Prog.asks_call trivial
  | uniswapV2 =>
      exact (Prog.asks_call trivial).bind fun _ => (Prog.asks_call trivial).bind fun _ =>
        Prog.asks_orRevert _
  | aerodromeV2 =>
      exact (Prog.asks_orRevert _).bind fun _ => (Prog.asks_call trivial).bind fun _ =>
        (Prog.asks_call trivial).bind fun _ => Prog.asks_orRevert _

theorem asks_runSteps (deadline : Nat) (steps : List RouteStep) (index : Nat)
    (token : EvmAddress) (amount : Nat) :
    Prog.Asks (Request.Within used)
      (RouterProg.runSteps contract deadline index steps token amount) := by
  induction steps generalizing index token amount with
  | nil => exact Prog.asks_pure _
  | cons step rest ih =>
      rw [RouterProg.runSteps]
      split_ifs with htoken
      · exact Prog.asks_revert _
      · refine (asks_executeStep contract step amount deadline).bind fun next => ?_
        split_ifs with hlow
        · exact Prog.asks_revert _
        · exact ih _ _ _

theorem asks_runRouteChecked (plan : ExecutionPlan) :
    Prog.Asks (Request.Within used) (RouterProg.runRouteChecked contract plan) := by
  have hroute : Prog.Asks (Request.Within used)
      (RouterProg.runRoute contract plan plan.fundingAmount) := by
    unfold RouterProg.runRoute
    split_ifs with hempty
    · exact Prog.asks_revert _
    · refine (asks_runSteps contract _ _ _ _ _).bind fun r => ?_
      dsimp only
      split_ifs with htoken
      · exact Prog.asks_revert _
      · exact Prog.asks_pure _
  refine hroute.bind fun amountOut => (Prog.asks_orRevert _).bind fun minimum => ?_
  split_ifs with hlow
  · exact Prog.asks_revert _
  · exact Prog.asks_pure _

theorem asks_runLoan (tokens : List EvmAddress) (amounts fees : List Nat)
    (loanCaller : EvmAddress) (plan : ExecutionPlan) :
    Prog.Asks (Request.Within used)
      (RouterProg.runLoan contract tokens amounts fees loanCaller plan) := by
  unfold RouterProg.runLoan
  split
  · split_ifs with htoken hamount hfee
    · exact Prog.asks_revert _
    · exact Prog.asks_revert _
    · exact Prog.asks_revert _
    · refine (asks_runRouteChecked contract plan).bind fun amountOut =>
        (Prog.asks_call trivial).bind fun _ => (Prog.asks_orRevert _).bind fun surplus => ?_
      refine Prog.Asks.bind ?_ fun _ => Prog.asks_pure _
      unfold RouterProg.paySurplus
      split_ifs with hpos
      · exact Prog.asks_call trivial
      · exact Prog.asks_pure _
  · exact Prog.asks_revert _

/-- Only a loan passes user data on, and it is the call's own. -/
theorem asks_dispatchEntry {coder : LoanCoder UserData} {call : EntryPoint UserData}
    (hused : ∀ userData, call.userData coder = some userData → userData ∈ used) :
    Prog.Asks (Request.Within used) (dispatchEntry coder contract call) := by
  cases call with
  | executePlan msg plan =>
      refine Prog.Asks.bind (Prog.Asks.bind (Prog.asks_update _) fun _ => ?_)
        fun _ => Prog.asks_pure _
      refine (Prog.asks_call trivial).bind fun _ =>
        (asks_runRouteChecked contract plan).bind fun amountOut => ?_
      exact (Prog.asks_call trivial).bind fun _ => (Prog.asks_orRevert _).bind fun surplus =>
        (Prog.asks_update _).bind fun _ => Prog.asks_pure _
  | executePlanWithFlashLoan msg plan =>
      refine Prog.Asks.bind (Prog.Asks.bind (Prog.asks_update _) fun _ => ?_)
        fun _ => Prog.asks_pure _
      refine (Prog.asks_update _).bind fun _ => Prog.Asks.bind ?_ fun _ =>
        Prog.asks_get.bind fun s => ?_
      · exact Prog.asks_call (hused _ rfl)
      · split_ifs with hset
        · exact Prog.asks_revert _
        · exact Prog.asks_update _
  | receiveFlashLoan msg tokens amounts fees userData =>
      refine Prog.Asks.bind (Prog.asks_get.bind fun s => ?_) fun _ => Prog.asks_pure _
      dsimp only
      split_ifs with hsender hprint
      · exact Prog.asks_revert _
      · exact Prog.asks_revert _
      · exact (Prog.asks_update _).bind fun _ => (Prog.asks_orRevert _).bind fun loan =>
          asks_runLoan contract tokens amounts fees loan.1 loan.2
  | rescueToken msg token recipient amount =>
      exact Prog.Asks.bind ((Prog.asks_update _).bind fun _ => Prog.asks_call trivial)
        fun _ => Prog.asks_pure _
  | _ => exact (Prog.asks_update _).bind fun _ => Prog.asks_pure _

end Asks

/-! ## Plays -/

section Plays

variable (coder : LoanCoder UserData) (contract : RouterContract) (used : Set UserData)

/-- The foreign code in control can take the router from `now` to `now'`, and
is then in control above the same frames. -/
def Reaches (now now' : RouterSnapshot UserData) : Prop :=
  ∀ stack, ∃ acts, occurring coder acts ⊆ used
    ∧ Run.final (step (dispatchEntry coder contract)) ⟨now, stack⟩ acts = ⟨now', stack⟩

variable {coder contract used}

theorem occurring_append (acts acts' : List (RouterAction UserData)) :
    occurring coder (acts ++ acts') = occurring coder acts ∪ occurring coder acts' := by
  ext userData
  simp only [occurring, Set.mem_ofPred_eq, Set.mem_union, List.mem_append, or_and_right, exists_or]

theorem occurring_nil_subset : occurring coder [] ⊆ used := by
  rintro userData ⟨call, hmem, -⟩
  exact absurd hmem List.not_mem_nil

theorem Reaches.refl (now : RouterSnapshot UserData) : Reaches coder contract used now now :=
  fun _ => ⟨[], occurring_nil_subset, rfl⟩

theorem Reaches.trans {now now₁ now₂ : RouterSnapshot UserData}
    (h₁ : Reaches coder contract used now now₁) (h₂ : Reaches coder contract used now₁ now₂) :
    Reaches coder contract used now now₂ := by
  intro stack
  obtain ⟨acts, hused, hfinal⟩ := h₁ stack
  obtain ⟨acts', hused', hfinal'⟩ := h₂ stack
  refine ⟨acts ++ acts', ?_, by rw [Run.final_append, hfinal, hfinal']⟩
  rw [occurring_append]
  exact Set.union_subset hused hused'

variable (contract used) in
/-- What the chain does to the router's storage it does by calling the router. -/
def ActsByCalls (chain : Chain ω UserData) : Prop :=
  ∀ req w w' a, req.Within used → serve chain req w = .ok (w', a) → ∀ log, ∃ log',
    Reaches chain.coder contract used ⟨w.storage, log⟩ ⟨w'.storage, log'⟩

variable {chain : Chain ω UserData}

theorem occurring_cons_answer (a : ∀ req : Request UserData, Answer req)
    (acts : List (RouterAction UserData)) :
    occurring coder (.answer a :: acts) = occurring coder acts := by
  ext userData
  simp [occurring]

instance instInhabitedAnswer : (req : Request UserData) → Inhabited (Answer req)
  | .exactInputSingle _ _ => inferInstanceAs (Inhabited Nat)
  | .swapExactTokensForTokens _ _ _ _ _ _ => inferInstanceAs (Inhabited (List Nat))
  | .swapAerodrome _ _ _ _ _ _ => inferInstanceAs (Inhabited (List Nat))
  | .forceApprove _ _ _ => inferInstanceAs (Inhabited Unit)
  | .safeTransfer _ _ _ => inferInstanceAs (Inhabited Unit)
  | .safeTransferFrom _ _ _ _ => inferInstanceAs (Inhabited Unit)
  | .flashLoan _ _ _ _ _ => inferInstanceAs (Inhabited Unit)

/-- The code of a call whose requests the chain answers: foreign code makes the
chain's moves while the code waits, and gives it the chain's answers. -/
theorem final_of_runCode (hchain : ActsByCalls contract used chain)
    (call : EntryPoint UserData) {code : RouterCode UserData (Option PlanExecuted)} {rest : ω}
    {w' : World ω} {event : Option PlanExecuted} (hasks : code.Asks (Request.Within used))
    (log : CallLog UserData) (asked : List (RouterInteraction UserData))
    (h : runCode chain code rest = .ok (w', event)) :
    ∃ log' asked', ∀ saved stack, ∃ acts, occurring chain.coder acts ⊆ used
      ∧ Run.final (step (dispatchEntry chain.coder contract))
          (advance call saved stack log asked code) acts
        = ⟨⟨w'.storage, log' ++ [⟨call, asked', event⟩]⟩, stack⟩ := by
  classical
  induction code generalizing rest log asked with
  | done s r =>
      cases h
      exact ⟨log, asked, fun saved stack => ⟨[], occurring_nil_subset, rfl⟩⟩
  | revert e => cases h
  | call req s resume ih =>
      obtain ⟨⟨w₁, a⟩, hserve, hrun⟩ := bind_eq_ok_iff.mp h
      obtain ⟨log₁, hreach⟩ := hchain req _ w₁ a hasks.1 (callOut_ok hserve) log
      obtain ⟨log', asked', hplay⟩ :=
        ih a w₁.storage (hasks.2 a w₁.storage) log₁ (asked ++ [⟨req, a⟩]) hrun
      refine ⟨log', asked', fun saved stack => ?_⟩
      obtain ⟨acts, hacts, hfinal⟩ := hreach (.own call saved asked req resume :: stack)
      obtain ⟨acts', hacts', hfinal'⟩ := hplay saved stack
      -- the foreign code answers this request with `a`; no other comes up
      let answers : ∀ req : Request UserData, Answer req :=
        Function.update (fun _ => default) req a
      refine ⟨acts ++ .answer answers :: acts', ?_, ?_⟩
      · rw [occurring_append, occurring_cons_answer]
        exact Set.union_subset hacts hacts'
      · have hstep : step (dispatchEntry chain.coder contract)
            ⟨⟨w₁.storage, log₁⟩, .own call saved asked req resume :: stack⟩ (.answer answers)
            = advance call saved stack log₁ (asked ++ [⟨req, a⟩]) (resume a w₁.storage) := by
          simp only [step, answers, Function.update_self]
        rw [Run.final_append]
        show Run.final _ (step _ (Run.final _ ⟨⟨s, log⟩, _⟩ acts) _) acts' = _
        rw [hfinal, hstep, hfinal']

/-- **The functions of `Router` are plays.** -/
theorem reaches_of_callEntry (hchain : ActsByCalls contract used chain)
    {call : EntryPoint UserData} {w w' : World ω} {event : Option PlanExecuted}
    (hused : ∀ userData, call.userData chain.coder = some userData → userData ∈ used)
    (h : callEntry chain contract call w = .ok (w', event)) (log : CallLog UserData) :
    ∃ log' asked, Reaches chain.coder contract used ⟨w.storage, log⟩
      ⟨w'.storage, log' ++ [⟨call, asked, event⟩]⟩ := by
  rw [← run_dispatchEntry] at h
  obtain ⟨log', asked, hplay⟩ := final_of_runCode hchain call
    (asks_dispatchEntry contract hused w.storage) log [] h
  refine ⟨log', asked, fun stack => ?_⟩
  obtain ⟨acts, hacts, hfinal⟩ := hplay ⟨w.storage, log⟩ stack
  refine ⟨.enter call :: acts, ?_, hfinal⟩
  rintro userData ⟨call', hmem, hdata⟩
  rcases List.mem_cons.mp hmem with henter | hmem
  · cases henter
    exact hused userData hdata
  · exact hacts ⟨call', hmem, hdata⟩

/-- A play from the deployment on that leaves no call in progress. -/
theorem outside_of_reaches (hcoder : coder.Sound used) {initialOwner : EvmAddress}
    {now : RouterSnapshot UserData}
    (h : Reaches coder contract used
      ⟨(deployedRouter initialOwner : RouterMachine UserData).now.storage, []⟩ now) :
    now.storage.entered = false ∧ now.storage.activeLoanFingerprint = 0 := by
  obtain ⟨acts, hacts, hfinal⟩ := h []
  have hinv : Inv (InContext coder contract used) (Completes coder contract)
      (Run.final (step (dispatchEntry coder contract))
        ⟨⟨(deployedRouter initialOwner : RouterMachine UserData).now.storage, []⟩, []⟩ acts) :=
    inv_run hcoder initialOwner hacts
  rw [hfinal] at hinv
  exact hinv.1.2

end Plays

/-! ## The market -/

section Market

variable {contract : RouterContract} {venues : Venues contract.self σ}
  {coder : LoanCoder UserData} {used : Set UserData}

/-- Venues that have no business with the router but the swap. -/
def Venues.LeaveRouter (venues : Venues contract.self σ) : Prop :=
  (∀ target params w fill, venues.exactInputSingle target params w = .ok fill →
      fill.storage = w.storage)
    ∧ (∀ target amountIn min path recipient deadline w fill,
        venues.swapExactTokensForTokens target amountIn min path recipient deadline w = .ok fill →
        fill.storage = w.storage)
    ∧ ∀ target amountIn min routes recipient deadline w fill,
        venues.swapAerodrome target amountIn min routes recipient deadline w = .ok fill →
        fill.storage = w.storage

theorem storage_of_onLedger {f : TokenLedger → Option TokenLedger} {w w' : World (Market σ)}
    {u : Unit} (h : onLedger f w = .ok (w', u)) : w'.storage = w.storage := by
  obtain ⟨l, -, rfl⟩ := onLedger_ok h
  rfl

theorem storage_of_visit {α : Type} {venue : VenueCall contract.self σ α}
    {w w' : World (Market σ)} {a : α}
    (hvenue : ∀ fill, venue w = .ok fill → fill.storage = w.storage)
    (h : visit venue w = .ok (w', a)) : w'.storage = w.storage := by
  obtain ⟨fill, l, hfill, -, rfl, -⟩ := visit_ok h
  exact hvenue fill hfill

/-- Tokens and venues leave the router alone. -/
theorem storage_of_serve (hvenues : venues.LeaveRouter) {req : Request UserData}
    {w w' : World (Market σ)} {a : Answer req}
    (h : serve (tokenChain contract venues coder) req w = .ok (w', a)) :
    w'.storage = w.storage := by
  cases req with
  | exactInputSingle target params =>
      exact storage_of_visit (hvenues.1 target params w) h
  | swapExactTokensForTokens target amountIn min path recipient deadline =>
      exact storage_of_visit (hvenues.2.1 target amountIn min path recipient deadline w) h
  | swapAerodrome target amountIn min routes recipient deadline =>
      exact storage_of_visit (hvenues.2.2 target amountIn min routes recipient deadline w) h
  | flashLoan vault recipient tokens amounts userData => cases h
  | forceApprove token spender amount =>
      exact storage_of_onLedger
        (f := fun l => some (l.approve token contract.self spender amount)) h
  | safeTransfer token recipient amount =>
      exact storage_of_onLedger
        (f := fun l => l.transfer token contract.self recipient amount) h
  | safeTransferFrom token source recipient amount =>
      exact storage_of_onLedger
        (f := fun l => l.transferFrom token contract.self source recipient amount) h

theorem actsByCalls_tokenChain (hvenues : venues.LeaveRouter) :
    ActsByCalls contract used (tokenChain contract venues coder) := by
  intro req w w' a _ h log
  rw [storage_of_serve hvenues h]
  exact ⟨log, Reaches.refl _⟩

/-- The vault acts on the router by its callback. -/
theorem actsByCalls_marketChain (hvenues : venues.LeaveRouter) :
    ActsByCalls contract used (marketChain contract venues coder) := by
  intro req w w' a hreq h log
  cases req with
  | flashLoan vault recipient tokens amounts userData =>
      obtain ⟨⟨l, preBalances⟩, -, h⟩ := okOr_bind_eq_ok_iff.mp h
      obtain ⟨⟨w₁, event⟩, hcallback, h⟩ := bind_eq_ok_iff.mp h
      dsimp only at h
      split_ifs at h with hrepaid
      cases h
      have hentry : callEntry (tokenChain contract venues coder) contract
          (.receiveFlashLoan { sender := vault, timestamp := w.rest.timestamp } tokens amounts
            (tokens.map fun _ => 0) userData) (w.withLedger l) = .ok (w₁, some event) := by
        rw [callEntry, mapError_eq_ok_iff.mp hcallback]
        rfl
      have hdata : ∀ userData', some userData = some userData' → userData' ∈ used := by
        intro userData' hsame
        rw [← Option.some.inj hsame]
        exact hreq
      obtain ⟨log', asked, hreach⟩ :=
        reaches_of_callEntry (actsByCalls_tokenChain hvenues) hdata hentry log
      exact ⟨_, hreach⟩
  | _ => exact actsByCalls_tokenChain hvenues _ w w' a hreq h log

/-- A transaction: a call that reverts changes nothing. -/
def transact (chain : Chain ω UserData) (contract : RouterContract) (w : World ω)
    (call : EntryPoint UserData) : World ω :=
  match callEntry chain contract call w with
  | .ok (w', _) => w'
  | .error _ => w

theorem reaches_of_transact {chain : Chain ω UserData} (hchain : ActsByCalls contract used chain)
    {calls : List (EntryPoint UserData)} (w : World ω)
    (hused : ∀ call ∈ calls, ∀ userData, call.userData chain.coder = some userData →
      userData ∈ used) (log : CallLog UserData) :
    ∃ log', Reaches chain.coder contract used ⟨w.storage, log⟩
      ⟨(Run.final (transact chain contract) w calls).storage, log'⟩ := by
  induction calls generalizing w log with
  | nil => exact ⟨log, Reaches.refl _⟩
  | cons call calls ih =>
      have hrest : ∀ call' ∈ calls, ∀ userData, call'.userData chain.coder = some userData →
          userData ∈ used := fun call' hmem => hused call' (List.mem_cons_of_mem call hmem)
      rw [Run.final_cons]
      unfold transact
      cases hcall : callEntry chain contract call w with
      | error e => exact ih w hrest log
      | ok r =>
          obtain ⟨log₁, asked, hreach⟩ :=
            reaches_of_callEntry hchain (hused call List.mem_cons_self) hcall log
          obtain ⟨log', hreach'⟩ := ih r.1 hrest (log₁ ++ [⟨call, asked, r.2⟩])
          exact ⟨log', hreach.trans hreach'⟩

/-- **Between transactions the router is outside any loan.** After any calls
to a router of the market, completed or reverted, its lock is free and no loan
context is left behind. -/
theorem transact_outside (hvenues : venues.LeaveRouter) (hcoder : coder.Sound used)
    {calls : List (EntryPoint UserData)}
    (hused : ∀ call ∈ calls, ∀ userData, call.userData coder = some userData → userData ∈ used)
    {initialOwner : EvmAddress} {w : World (Market σ)}
    (hstart : w.storage = (deployedRouter initialOwner : RouterMachine UserData).now.storage) :
    let w' := Run.final (transact (marketChain contract venues coder) contract) w calls
    w'.storage.entered = false ∧ w'.storage.activeLoanFingerprint = 0 := by
  have hchain : ActsByCalls contract used (marketChain contract venues coder) :=
    actsByCalls_marketChain hvenues
  obtain ⟨log', hreach⟩ := reaches_of_transact hchain w hused []
  rw [hstart] at hreach
  exact outside_of_reaches hcoder hreach

end Market

end BaseEngine
