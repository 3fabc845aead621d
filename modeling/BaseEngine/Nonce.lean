import BaseEngine.Lib.Fallible
import BaseEngine.Lib.Machine
import BaseEngine.Types

/-!
# The nonce manager

`NonceManager` of `crates/execution/src/nonce.rs`: one counter per signer,
taken over from the chain, advanced by a reservation and rolled back by a
release of the last reserved nonce. Each method runs under the manager's
lock, so that it is one step on the state.
-/

namespace BaseEngine

open Machine

structure NonceState where
  next : Nat
  initialised : Bool
deriving Repr, DecidableEq

namespace NonceState

def default : NonceState := { next := 0, initialised := false }

/-- `pending` is the node's answer to `eth_getTransactionCount`. -/
def syncFromChain (state : NonceState) (pending : Except String Nat) :
    Except ErrorChain Nat × NonceState :=
  match pending with
  | .error e =>
      (.error ["failed to fetch pending transaction count from provider", e], state)
  | .ok pending => (.ok pending, { next := pending, initialised := true })

/-- The source's `next`: reserve a nonce. -/
def reserve (state : NonceState) : Except ErrorChain Nat × NonceState :=
  if state.initialised then
    match checkedAdd 64 state.next 1 with
    | none => (.error ["nonce counter overflow"], state)
    | some advanced => (.ok state.next, { state with next := advanced })
  else
    (.error ["nonce manager has not been initialised; call sync_from_chain first"], state)

def release (state : NonceState) (expected : Nat) : NonceState :=
  if state.next = saturatingAdd 64 expected 1 then { state with next := expected }
  else state

/-- A nonce is left to reserve. -/
def Ready (state : NonceState) : Prop :=
  state.initialised = true ∧ state.next + 1 < 2 ^ 64

instance (state : NonceState) : Decidable state.Ready :=
  inferInstanceAs (Decidable (_ ∧ _))

theorem reserve_of_ready {state : NonceState} (h : state.Ready) :
    state.reserve = (.ok state.next, { state with next := state.next + 1 }) := by
  obtain ⟨hinit, hfits⟩ := h
  unfold reserve
  rw [if_pos hinit, checkedAdd_eq_some_iff.mpr ⟨hfits, rfl⟩]

theorem reserve_of_not_ready {state : NonceState} (h : ¬ state.Ready) :
    ∃ e, state.reserve = (.error e, state) := by
  unfold reserve
  by_cases hinit : state.initialised = true
  · have hover : 2 ^ 64 ≤ state.next + 1 := by
      by_contra hfits
      exact h ⟨hinit, Nat.lt_of_not_le hfits⟩
    rw [if_pos hinit, checkedAdd_eq_none_iff.mpr hover]
    exact ⟨_, rfl⟩
  · rw [if_neg hinit]
    exact ⟨_, rfl⟩

/-- Releasing the nonce reserved last undoes the reservation. -/
theorem release_reserved {state : NonceState} (h : state.Ready) :
    ({ state with next := state.next + 1 } : NonceState).release state.next = state := by
  unfold release
  rw [if_pos (saturatingAdd_of_lt h.2).symm]

end NonceState

end BaseEngine
