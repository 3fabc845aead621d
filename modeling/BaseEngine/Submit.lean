import BaseEngine.Lib.Run
import BaseEngine.Lib.Text
import BaseEngine.Nonce

/-!
# Submission

`AlloySubmitTransport::submit_inner` of `crates/execution/src/submit.rs`
with the fee policy of `gas.rs`: parse the router address, price the
transaction, reserve a nonce, check the gas limit, simulate, sign and
broadcast. The node's and the signer's answers are a `Node`; parsing an
address is the parameter `parseAddress`. The calldata and the signed
transaction are of any type.

The nonce is reserved in the middle and rolled back on one of the failures
behind it only, by a task that is spawned and runs later (`releases`).
`noGap_iff` says for a run of submissions, each starting after the spawned
releases of the one before, that the broadcast nonces are consecutive and
the counter follows them exactly when no submission stops between its
reservation and its broadcast (`NoLeak`).
-/

namespace BaseEngine

/-! ## Gas -/

structure GasPricing where
  maxFeePerGas : Nat
  maxPriorityFeePerGas : Nat
deriving Repr, DecidableEq

structure GasCaps where
  maxFeeCap : Option Nat
  maxPriorityFeeCap : Option Nat
deriving Repr, DecidableEq

def clampToCap (cap : Option Nat) (fee : Nat) : Nat :=
  match cap with
  | some cap => if cap < fee then cap else fee
  | none => fee

/-- `estimate` is the node's answer, maximum fee first. -/
def estimateFees (caps : GasCaps) (estimate : Except String (Nat × Nat)) :
    Except ErrorChain GasPricing :=
  match estimate with
  | .error e => .error ["failed to estimate EIP-1559 fees from provider", e]
  | .ok (maxFee, maxPriorityFee) =>
      let maxFee := clampToCap caps.maxFeeCap maxFee
      let maxPriorityFee := clampToCap caps.maxPriorityFeeCap maxPriorityFee
      .ok { maxFeePerGas := maxFee,
            maxPriorityFeePerGas :=
              if maxFee < maxPriorityFee then maxFee else maxPriorityFee }

/-! ## One submission -/

/-- What `build_submission_payload` hands over; the calldata is of any
type. -/
structure SubmissionPayload (Calldata : Type) where
  routerAddress : String
  calldata : Calldata
  value : Nat
deriving Repr, DecidableEq

structure CallRequest (Calldata : Type) where
  sender : EvmAddress
  target : EvmAddress
  input : Calldata
  gasLimit : Nat
  value : Nat
deriving Repr, DecidableEq

/-- The access list is always empty. -/
structure TxEip1559 (Calldata : Type) where
  chainId : Nat
  nonce : Nat
  gasLimit : Nat
  maxFeePerGas : Nat
  maxPriorityFeePerGas : Nat
  target : EvmAddress
  value : Nat
  input : Calldata
deriving Repr, DecidableEq

/-- The answers of the node and the signer during one submission. -/
structure Node (Calldata Raw : Type) where
  estimateEip1559Fees : Except String (Nat × Nat)
  call : CallRequest Calldata → Except String Unit
  sign : TxEip1559 Calldata → Except String Raw
  sendRawTransaction : Raw → Except String String

structure SubmitTransport where
  chainId : Nat
  signerAddress : EvmAddress
  caps : GasCaps
deriving Repr, DecidableEq

/-- How a submission ends: what it returns, the nonce counter at that
moment, the releases it has spawned, and the transaction the node took. -/
structure SubmitOutcome (Calldata : Type) where
  result : Except ErrorChain String
  nonce : NonceState
  releases : List Nat
  sent : Option (TxEip1559 Calldata)

/-- Return an error and nothing else. -/
def bail {Calldata : Type} (nonce : NonceState) (e : ErrorChain) : SubmitOutcome Calldata :=
  { result := .error e, nonce, releases := [], sent := none }

variable {Calldata Raw : Type}

def preflightCall (transport : SubmitTransport) (node : Node Calldata Raw) (target : EvmAddress)
    (calldata : Calldata) (gasLimit value : Nat) : Except ErrorChain Unit :=
  match node.call
      { sender := transport.signerAddress, target, input := calldata, gasLimit, value } with
  | .ok () => .ok ()
  | .error error => .error [s!"preflight eth_call reverted: {error}"]

/-- What the parameter `parseAddress` stands for: 40 hexadecimal digits, `0x` optional. -/
def hexAddress (text : String) : Except String EvmAddress :=
  match Text.fixedHex 40 text with
  | some n => .ok (BitVec.ofNat 160 n)
  | none => .error "invalid string length or character"

variable (parseAddress : String → Except String EvmAddress) (transport : SubmitTransport)

/-- The transaction a submission builds around its nonce. -/
def buildTx (pricing : GasPricing) (target : EvmAddress) (gasLimit nonce : Nat)
    (payload : SubmissionPayload Calldata) : TxEip1559 Calldata :=
  { chainId := transport.chainId, nonce, gasLimit,
    maxFeePerGas := pricing.maxFeePerGas,
    maxPriorityFeePerGas := pricing.maxPriorityFeePerGas,
    target, value := payload.value, input := payload.calldata }

def submitInner (node : Node Calldata Raw) (payload : SubmissionPayload Calldata)
    (attempt : ExecutionAttempt) (state : NonceState) : SubmitOutcome Calldata :=
  match parseAddress payload.routerAddress with
  | .error e => bail state ["invalid router address `" ++ payload.routerAddress ++ "`", e]
  | .ok target =>
  match estimateFees transport.caps node.estimateEip1559Fees with
  | .error e => bail state ("failed to obtain gas pricing for submission" :: e)
  | .ok pricing =>
  match state.reserve with
  | (.error e, state) => bail state ("failed to reserve nonce for submission" :: e)
  | (.ok nonce, state) =>
  match attempt.gasLimit with
  | none => bail state ["execution attempt is missing gas_limit; refusing to submit"]
  | some gasLimit =>
  match preflightCall transport node target payload.calldata gasLimit payload.value with
  | .error e => bail state e
  | .ok () =>
  let tx := buildTx transport pricing target gasLimit nonce payload
  match node.sign tx with
  | .error e => bail state ["failed to sign EIP-1559 transaction hash", e]
  | .ok raw =>
  match node.sendRawTransaction raw with
  | .error e =>
      -- the only failure behind the reservation that gives the nonce back
      { result := .error ["failed to broadcast raw transaction", e], nonce := state,
        releases := [nonce], sent := none }
  | .ok txHash => { result := .ok txHash, nonce := state, releases := [], sent := some tx }

/-! ## Runs of submissions -/

/-- One submission with everything it meets. -/
structure Submission (Calldata Raw : Type) where
  node : Node Calldata Raw
  payload : SubmissionPayload Calldata
  attempt : ExecutionAttempt

/-- The nonce counter with the nonces broadcast so far, oldest first. -/
structure SubmitRun where
  nonce : NonceState
  sent : List Nat
deriving Repr, DecidableEq

namespace SubmitRun

/-- The run right after `sync_from_chain` has set the counter. -/
def synced (n₀ : Nat) : SubmitRun :=
  { nonce := (NonceState.default.syncFromChain (.ok n₀)).2, sent := [] }

/-- The run after a submission and the releases it has spawned. -/
def settled (run : SubmitRun) (outcome : SubmitOutcome Calldata) : SubmitRun :=
  { nonce := outcome.releases.foldl NonceState.release outcome.nonce,
    sent := run.sent ++ (outcome.sent.map TxEip1559.nonce).toList }

def step (run : SubmitRun) (sub : Submission Calldata Raw) : SubmitRun :=
  run.settled (submitInner parseAddress transport sub.node sub.payload sub.attempt run.nonce)

/-- The submission gets as far as a reservation: its router address parses,
the node prices it, and the counter has a nonce left. -/
def Reserves (run : SubmitRun) (sub : Submission Calldata Raw) (target : EvmAddress)
    (pricing : GasPricing) : Prop :=
  parseAddress sub.payload.routerAddress = .ok target
    ∧ estimateFees transport.caps sub.node.estimateEip1559Fees = .ok pricing
    ∧ run.nonce.Ready

/-- From there it gets to its broadcast: it has a gas limit, the simulation
passes and the transaction is signed. -/
def ReachesBroadcast (run : SubmitRun) (sub : Submission Calldata Raw) (target : EvmAddress)
    (pricing : GasPricing) : Prop :=
  ∃ gasLimit, sub.attempt.gasLimit = some gasLimit
    ∧ (preflightCall transport sub.node target sub.payload.calldata gasLimit
        sub.payload.value).isOk = true
    ∧ (sub.node.sign (buildTx transport pricing target gasLimit run.nonce.next
        sub.payload)).isOk = true

/-- No submission stops between its reservation and its broadcast. -/
def NoLeak (run : SubmitRun) (sub : Submission Calldata Raw) : Prop :=
  ∀ target pricing, Reserves parseAddress transport run sub target pricing →
    ReachesBroadcast transport run sub target pricing

/-- What a submission can do to the run. -/
inductive Stepped (run : SubmitRun) (sub : Submission Calldata Raw) : SubmitRun → Prop
  /-- It fails before its reservation, or the broadcast fails and the nonce
  comes back. -/
  | unchanged (hno : NoLeak parseAddress transport run sub) : Stepped run sub run
  | broadcast (hno : NoLeak parseAddress transport run sub) :
      Stepped run sub
        { nonce := { run.nonce with next := run.nonce.next + 1 },
          sent := run.sent ++ [run.nonce.next] }
  /-- It fails between the two, and the nonce is gone. -/
  | leaked (hleak : ¬ NoLeak parseAddress transport run sub) :
      Stepped run sub { run with nonce := { run.nonce with next := run.nonce.next + 1 } }

variable {parseAddress transport} {run : SubmitRun} {sub : Submission Calldata Raw}

theorem noLeak_iff {target : EvmAddress} {pricing : GasPricing}
    (h : Reserves parseAddress transport run sub target pricing) :
    NoLeak parseAddress transport run sub
      ↔ ReachesBroadcast transport run sub target pricing := by
  refine ⟨fun hno => hno target pricing h, fun hreach target' pricing' h' => ?_⟩
  obtain rfl : target = target' := Except.ok.inj (h.1.symm.trans h'.1)
  obtain rfl : pricing = pricing' := Except.ok.inj (h.2.1.symm.trans h'.2.1)
  exact hreach

theorem reachesBroadcast_iff {target : EvmAddress} {pricing : GasPricing} {gasLimit : Nat}
    (hgas : sub.attempt.gasLimit = some gasLimit) :
    ReachesBroadcast transport run sub target pricing
      ↔ (preflightCall transport sub.node target sub.payload.calldata gasLimit
            sub.payload.value).isOk = true
          ∧ (sub.node.sign (buildTx transport pricing target gasLimit run.nonce.next
            sub.payload)).isOk = true := by
  simp [ReachesBroadcast, hgas]

/-- A failure with nothing spawned leaves the counter as it found it. -/
theorem settled_bail (run : SubmitRun) (nonce : NonceState) (e : ErrorChain) :
    run.settled (bail nonce e : SubmitOutcome Calldata) = { run with nonce } := by
  simp [settled, bail]

/-- A submission that does not get to a reservation leaves the run alone. -/
theorem step_of_not_reserves
    (h : ∀ target pricing, ¬ Reserves parseAddress transport run sub target pricing) :
    run.step parseAddress transport sub = run := by
  unfold step submitInner
  cases hparse : parseAddress sub.payload.routerAddress with
  | error e => exact settled_bail ..
  | ok target =>
      cases hfees : estimateFees transport.caps sub.node.estimateEip1559Fees with
      | error e => exact settled_bail ..
      | ok pricing =>
          have hready : ¬ run.nonce.Ready := fun hr => h target pricing ⟨hparse, hfees, hr⟩
          obtain ⟨e, hres⟩ := NonceState.reserve_of_not_ready hready
          simp only [hres]
          exact settled_bail ..

/-- A submission that gets to a reservation: the rest of `submitInner`. -/
theorem step_of_reserves {target : EvmAddress} {pricing : GasPricing}
    (h : Reserves parseAddress transport run sub target pricing) :
    Stepped parseAddress transport run sub (run.step parseAddress transport sub) := by
  have hno := noLeak_iff h
  obtain ⟨hparse, hfees, hready⟩ := h
  unfold step submitInner
  simp only [hparse, hfees, NonceState.reserve_of_ready hready]
  cases hgas : sub.attempt.gasLimit with
  | none =>
      rw [settled_bail]
      refine .leaked fun h => ?_
      obtain ⟨_, hsome, -⟩ := hno.mp h
      rw [hgas] at hsome; cases hsome
  | some gasLimit =>
      rw [reachesBroadcast_iff hgas] at hno
      dsimp only
      cases hcall : preflightCall transport sub.node target sub.payload.calldata gasLimit
          sub.payload.value with
      | error e =>
          rw [settled_bail]
          refine .leaked fun h => ?_
          have hsimulated := (hno.mp h).1
          rw [hcall] at hsimulated; cases hsimulated
      | ok _ =>
          dsimp only
          cases hsign : sub.node.sign (buildTx transport pricing target gasLimit
              run.nonce.next sub.payload) with
          | error e =>
              rw [settled_bail]
              refine .leaked fun h => ?_
              have hsigned := (hno.mp h).2
              rw [hsign] at hsigned; cases hsigned
          | ok raw =>
              have hnoLeak := hno.mpr ⟨by rw [hcall]; rfl, by rw [hsign]; rfl⟩
              dsimp only
              cases hsend : sub.node.sendRawTransaction raw with
              | error e =>
                  simp only [settled, List.foldl_cons, List.foldl_nil,
                    NonceState.release_reserved hready, Option.map_none, Option.toList_none,
                    List.append_nil]
                  exact .unchanged hnoLeak
              | ok txHash => exact .broadcast hnoLeak

theorem step_cases (run : SubmitRun) (sub : Submission Calldata Raw) :
    Stepped parseAddress transport run sub (run.step parseAddress transport sub) := by
  by_cases h : ∃ target pricing, Reserves parseAddress transport run sub target pricing
  · obtain ⟨target, pricing, h⟩ := h
    exact step_of_reserves h
  · have hnone : ∀ target pricing, ¬ Reserves parseAddress transport run sub target pricing :=
      fun target pricing h' => h ⟨target, pricing, h'⟩
    rw [step_of_not_reserves hnone]
    exact .unchanged fun target pricing h' => absurd h' (hnone target pricing)

/-- The broadcast nonces are `n₀`, `n₀ + 1`, … in order, and the counter is
the one after them. -/
def Gapless (n₀ : Nat) (run : SubmitRun) : Prop :=
  run.sent = List.range' n₀ run.sent.length ∧ run.nonce.next = n₀ + run.sent.length

instance (n₀ : Nat) (run : SubmitRun) : Decidable (Gapless n₀ run) :=
  inferInstanceAs (Decidable (_ ∧ _))

/-- **Step lemma.** A submission keeps the nonces gapless exactly when it
does not leak its reservation. -/
theorem gapless_step_iff {n₀ : Nat} (h : Gapless n₀ run) :
    Gapless n₀ (run.step parseAddress transport sub)
      ↔ NoLeak parseAddress transport run sub := by
  have hcases : Stepped parseAddress transport run sub _ := step_cases run sub
  obtain ⟨hsent, hnext⟩ := h
  generalize run.step parseAddress transport sub = run' at hcases
  cases hcases with
  | unchanged hno => exact ⟨fun _ => hno, fun _ => ⟨hsent, hnext⟩⟩
  | broadcast hno =>
      refine ⟨fun _ => hno, fun _ => ⟨?_, ?_⟩⟩
      · show run.sent ++ [run.nonce.next] = List.range' n₀ (run.sent ++ [_]).length
        rw [List.length_append, List.length_singleton, List.range'_concat, ← hsent, hnext,
          Nat.one_mul]
      · show run.nonce.next + 1 = n₀ + (run.sent ++ [_]).length
        rw [List.length_append, List.length_singleton]
        omega
  | leaked hleak =>
      refine ⟨fun hgap => ?_, fun hno => absurd hno hleak⟩
      have hlost : run.nonce.next + 1 = n₀ + run.sent.length := hgap.2
      omega

theorem gapless_synced (n₀ : Nat) : Gapless n₀ (synced n₀) := ⟨rfl, rfl⟩

/-- **No nonce gap.** After the counter was set to `n₀`, a run of
submissions broadcasts `n₀`, `n₀ + 1`, … and every submission that fails
leaves the counter as it was, in all states of the run, exactly when no
submission stops between its reservation and its broadcast. -/
theorem noGap_iff (parseAddress : String → Except String EvmAddress)
    (transport : SubmitTransport) (n₀ : Nat) (subs : List (Submission Calldata Raw)) :
    (∀ pre, pre <+: subs →
        Gapless n₀ (Run.final (step parseAddress transport) (synced n₀) pre))
      ↔ Run.Along (step parseAddress transport) (NoLeak parseAddress transport)
          (synced n₀) subs :=
  Run.forall_prefix_iff_along (fun _ _ h => gapless_step_iff h) (gapless_synced n₀)

/-! ## A leaked nonce -/

/-- A node that simulates as told and accepts every other request. -/
def obligingNode (simulates : Bool) : Node Unit Unit :=
  { estimateEip1559Fees := .ok (2, 1),
    call := fun _ => if simulates then .ok () else .error "execution reverted",
    sign := fun _ => .ok (),
    sendRawTransaction := fun _ => .ok "0xhash" }

def sampleSubmission (simulates : Bool) : Submission Unit Unit :=
  { node := obligingNode simulates,
    payload :=
      { routerAddress := "0x5555555555555555555555555555555555555555", calldata := (),
        value := 0 },
    attempt :=
      { requestId := "loop", txHash := none, status := .built, executionMode := "live",
        submissionAllowed := true, blockedReason := none, requestedNotional := 100,
        gasLimit := some 300000, maxFeePerGas := none, maxPriorityFeePerGas := none } }

def sampleTransport : SubmitTransport :=
  { chainId := 8453, signerAddress := 1,
    caps := { maxFeeCap := none, maxPriorityFeeCap := none } }

/-- A submission whose simulation reverts, then one that is broadcast:
nonce 7 is never used and the transaction goes out with nonce 8. -/
theorem revertedSimulation_leaves_gap :
    (Run.final (step hexAddress sampleTransport) (synced 7)
        [sampleSubmission false, sampleSubmission true]).sent = [8]
      ∧ ¬ Gapless 7 (Run.final (step hexAddress sampleTransport) (synced 7)
        [sampleSubmission false, sampleSubmission true]) := by
  constructor <;> decide

end SubmitRun

end BaseEngine
