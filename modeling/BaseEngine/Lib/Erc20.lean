import Mathlib.Algebra.BigOperators.Group.Finset.Basic
import Mathlib.Algebra.BigOperators.Fin
import Mathlib.Algebra.Order.BigOperators.Group.Finset
import Mathlib.Data.Fintype.BigOperators

/-!
# Standard fungible tokens

Balances and allowances of any number of ERC-20 tokens, with the transfers
and approvals of a token that neither rebases nor takes a fee. A balance is a
256-bit word and the largest allowance is unlimited, as in the usual
implementations.

Other contracts act on a ledger by operations in their own name (`Op`).
`Covers` is what an account `self` can rely on while they do: over and above
the allowances it has granted it holds `base`, which it had before, and
`hand`, what has been delivered to it since. Nobody can take either away,
because a pull costs the puller as much allowance as it gains.

`AgreeOff` compares two ledgers that differ in some hidden accounts only:
operations among the other accounts cannot tell them apart.
-/

namespace Erc20

variable {Token Account : Type}

structure Ledger (Token Account : Type) where
  balance : Token → Account → Nat
  allowance : Token → Account → Account → Nat
  balance_lt : ∀ token account, balance token account < 2 ^ 256

/-- The allowance that is not used up. -/
def unlimited : Nat := 2 ^ 256 - 1

namespace Ledger

variable [DecidableEq Token] [DecidableEq Account]

def setBalance (l : Ledger Token Account) (token : Token) (account : Account) (value : Nat)
    (h : value < 2 ^ 256) : Ledger Token Account :=
  { l with
    balance := fun t a => if t = token ∧ a = account then value else l.balance t a
    balance_lt := by
      intro t a
      split
      · exact h
      · exact l.balance_lt t a }

/-- `owner` lets `spender` take up to `amount` in all. -/
def approve (l : Ledger Token Account) (token : Token) (owner spender : Account)
    (amount : Nat) : Ledger Token Account :=
  { l with
    allowance := fun t o s =>
      if t = token ∧ o = owner ∧ s = spender then amount else l.allowance t o s }

def debit (l : Ledger Token Account) (token : Token) (account : Account) (amount : Nat) :
    Option (Ledger Token Account) :=
  if amount ≤ l.balance token account then
    some (l.setBalance token account (l.balance token account - amount)
      (Nat.lt_of_le_of_lt (Nat.sub_le ..) (l.balance_lt token account)))
  else none

def credit (l : Ledger Token Account) (token : Token) (account : Account) (amount : Nat) :
    Option (Ledger Token Account) :=
  if h : l.balance token account + amount < 2 ^ 256 then
    some (l.setBalance token account (l.balance token account + amount) h)
  else none

def transfer (l : Ledger Token Account) (token : Token) (source dest : Account)
    (amount : Nat) : Option (Ledger Token Account) :=
  (l.debit token source amount).bind fun l => l.credit token dest amount

def spend (l : Ledger Token Account) (token : Token) (owner spender : Account)
    (amount : Nat) : Option (Ledger Token Account) :=
  let allowed := l.allowance token owner spender
  if allowed = unlimited then some l
  else if amount ≤ allowed then some (l.approve token owner spender (allowed - amount))
  else none

/-- `spender` moves what `source` allows it to. -/
def transferFrom (l : Ledger Token Account) (token : Token) (spender source dest : Account)
    (amount : Nat) : Option (Ledger Token Account) :=
  (l.spend token source spender amount).bind fun l => l.transfer token source dest amount

end Ledger

/-- A call to a token by `actor`. -/
inductive Op (Token Account : Type) where
  | transfer (token : Token) (actor dest : Account) (amount : Nat)
  | transferFrom (token : Token) (actor source dest : Account) (amount : Nat)
  | approve (token : Token) (actor spender : Account) (amount : Nat)

namespace Op

def actor : Op Token Account → Account
  | transfer _ actor _ _ => actor
  | transferFrom _ actor _ _ _ => actor
  | approve _ actor _ _ => actor

variable [DecidableEq Token] [DecidableEq Account]

def run : Op Token Account → Ledger Token Account → Option (Ledger Token Account)
  | transfer token actor dest amount, l => l.transfer token actor dest amount
  | transferFrom token actor source dest amount, l =>
      l.transferFrom token actor source dest amount
  | approve token actor spender amount, l => some (l.approve token actor spender amount)

/-- What an operation brings `self` of `token` from others. -/
def delivers (self : Account) (token : Token) : Op Token Account → Nat
  | transfer moved actor dest amount =>
      if token = moved ∧ actor ≠ self ∧ dest = self then amount else 0
  | transferFrom moved _ source dest amount =>
      if token = moved ∧ source ≠ self ∧ dest = self then amount else 0
  | approve _ _ _ _ => 0

end Op

/-- Operations one after another; a failing one fails them all. -/
def runOps [DecidableEq Token] [DecidableEq Account] :
    List (Op Token Account) → Ledger Token Account → Option (Ledger Token Account)
  | [], l => some l
  | op :: ops, l => (op.run l).bind (runOps ops)

/-- What operations bring `self` of `token`, in all. -/
def delivered [DecidableEq Token] [DecidableEq Account] (self : Account) (token : Token)
    (ops : List (Op Token Account)) : Nat :=
  (ops.map (Op.delivers self token)).sum

section Specs

variable [DecidableEq Token] [DecidableEq Account] {l l' : Ledger Token Account} {token : Token}
  {source dest spender : Account} {amount : Nat}

/-- A transfer's effect on every balance, also when it is to oneself. -/
theorem Ledger.transfer_some (h : l.transfer token source dest amount = some l') :
    amount ≤ l.balance token source ∧ l'.allowance = l.allowance
      ∧ ∀ t a, l'.balance t a + (if t = token ∧ source = a then amount else 0)
          = l.balance t a + (if t = token ∧ dest = a then amount else 0) := by
  obtain ⟨l₁, hdebit, hcredit⟩ := Option.bind_eq_some_iff.mp h
  unfold Ledger.debit at hdebit
  split_ifs at hdebit with hle
  obtain rfl := Option.some.inj hdebit
  unfold Ledger.credit at hcredit
  split_ifs at hcredit with hlt
  obtain rfl := Option.some.inj hcredit
  refine ⟨hle, rfl, fun t a => ?_⟩
  by_cases ht : t = token
  · subst ht
    by_cases hs : source = a
    · subst hs
      by_cases hd : dest = source
      · subst hd
        simp [Ledger.setBalance, hle]
      · simp [Ledger.setBalance, hd, Ne.symm hd, hle]
    · by_cases hd : dest = a
      · subst hd
        simp [Ledger.setBalance, hs, Ne.symm hs]
      · simp [Ledger.setBalance, hs, hd, Ne.symm hs, Ne.symm hd]
  · simp [Ledger.setBalance, ht]

/-- A transfer goes through when the source can pay and the destination has
room. -/
theorem Ledger.transfer_isSome_iff :
    (∃ l', l.transfer token source dest amount = some l')
      ↔ amount ≤ l.balance token source
        ∧ (dest ≠ source → l.balance token dest + amount < 2 ^ 256) := by
  unfold Ledger.transfer Ledger.debit
  by_cases hle : amount ≤ l.balance token source
  · rw [if_pos hle, Option.bind_some]
    unfold Ledger.credit
    have hroom : (l.setBalance token source (l.balance token source - amount)
          (Nat.lt_of_le_of_lt (Nat.sub_le ..) (l.balance_lt token source))).balance token dest
          + amount < 2 ^ 256
        ↔ (dest ≠ source → l.balance token dest + amount < 2 ^ 256) := by
      by_cases hd : dest = source
      · subst hd
        simpa [Ledger.setBalance, hle] using l.balance_lt token dest
      · simp [Ledger.setBalance, hd]
    rw [← hroom]
    constructor
    · rintro ⟨l', h⟩
      split_ifs at h with hlt
      exact ⟨hle, hlt⟩
    · rintro ⟨-, hlt⟩
      exact ⟨_, dif_pos hlt⟩
  · rw [if_neg hle]
    constructor
    · rintro ⟨l', h⟩
      cases h
    · rintro ⟨h, -⟩
      exact absurd h hle

/-- Spending uses up an allowance, unless it is unlimited. -/
theorem Ledger.spend_cases (h : l.spend token source spender amount = some l') :
    l.allowance token source spender = unlimited ∧ l' = l
      ∨ amount ≤ l.allowance token source spender
        ∧ l' = l.approve token source spender (l.allowance token source spender - amount) := by
  unfold Ledger.spend at h
  dsimp only at h
  split_ifs at h with hunlimited hle
  · exact Or.inl ⟨hunlimited, (Option.some.inj h).symm⟩
  · exact Or.inr ⟨hle, (Option.some.inj h).symm⟩

/-- Within the allowance, spending goes through and touches nothing else. -/
theorem Ledger.spend_of_le (h : amount ≤ l.allowance token source spender) :
    ∃ l', l.spend token source spender amount = some l' ∧ l'.balance = l.balance
      ∧ ∀ t owner s, owner ≠ source → l'.allowance t owner s = l.allowance t owner s := by
  unfold Ledger.spend
  dsimp only
  by_cases hunlimited : l.allowance token source spender = unlimited
  · rw [if_pos hunlimited]
    exact ⟨l, rfl, rfl, fun _ _ _ _ => rfl⟩
  · rw [if_neg hunlimited, if_pos h]
    refine ⟨_, rfl, rfl, fun t owner s howner => if_neg ?_⟩
    rintro ⟨-, heq, -⟩
    exact howner heq

theorem ite_and_le {self dest : Account} {amount : Nat} (t token : Token) (source : Account) :
    (if t = token ∧ source ≠ self ∧ dest = self then amount else 0)
      ≤ if t = token then (if dest = self then amount else 0) else 0 := by
  by_cases h : t = token ∧ source ≠ self ∧ dest = self
  · rw [if_pos h, if_pos h.1, if_pos h.2.2]
  · rw [if_neg h]
    exact Nat.zero_le _

end Specs

/-! ## What an account can rely on -/

section Covers

variable [Fintype Account] (l : Ledger Token Account) (self : Account)

/-- The allowances `self` has outstanding in a token. -/
def granted (token : Token) : Nat := ∑ spender, l.allowance token self spender

/-- What `self` holds over and above the allowances it has outstanding. -/
def free (token : Token) : Nat := l.balance token self - granted l self token

/-- `self` holds `base` and `hand` over and above what it has granted, in
every token of which it has a `base`. -/
def Covers (base hand : Token → Nat) : Prop :=
  ∀ token, base token = 0
    ∨ granted l self token + base token + hand token ≤ l.balance token self

variable {l self}

theorem covers_free : Covers l self (free l self) (fun _ => 0) := by
  intro token
  show free l self token = 0
    ∨ granted l self token + free l self token + 0 ≤ l.balance token self
  unfold free
  omega

theorem Covers.free_le {base hand : Token → Nat} (h : Covers l self base hand) (token : Token) :
    base token ≤ free l self token := by
  rcases h token with hzero | hle
  · rw [hzero]
    exact Nat.zero_le _
  · unfold free
    omega

theorem Covers.mono {base hand hand' : Token → Nat} (h : Covers l self base hand)
    (hle : ∀ token, hand' token ≤ hand token) : Covers l self base hand' := by
  intro token
  rcases h token with hzero | hcover
  · exact Or.inl hzero
  · exact Or.inr (le_trans (Nat.add_le_add_left (hle token) _) hcover)

theorem allowance_le_granted (token : Token) (spender : Account) :
    l.allowance token self spender ≤ granted l self token :=
  Finset.single_le_sum (f := fun s => l.allowance token self s) (fun _ _ => Nat.zero_le _)
    (Finset.mem_univ spender)

variable [DecidableEq Token] [DecidableEq Account]

theorem sum_replace (f : Account → Nat) (a : Account) (v : Nat) :
    (∑ s, if s = a then v else f s) + f a = (∑ s, f s) + v := by
  rw [← Finset.add_sum_erase _ _ (Finset.mem_univ a), ← Finset.add_sum_erase Finset.univ f
    (Finset.mem_univ a), if_pos rfl]
  have hrest : ∑ s ∈ Finset.univ.erase a, (if s = a then v else f s)
      = ∑ s ∈ Finset.univ.erase a, f s :=
    Finset.sum_congr rfl fun s hs => if_neg (Finset.ne_of_mem_erase hs)
  rw [hrest]
  omega

theorem granted_approve (token : Token) (spender : Account) (amount : Nat) :
    granted (l.approve token self spender amount) self token
        + l.allowance token self spender
      = granted l self token + amount := by
  have h := sum_replace (fun s => l.allowance token self s) spender amount
  simpa [granted, Ledger.approve] using h

theorem granted_approve_of_ne {token t : Token} {owner spender : Account} {amount : Nat}
    (h : ¬(t = token ∧ self = owner)) :
    granted (l.approve token owner spender amount) self t = granted l self t := by
  refine Finset.sum_congr rfl fun s _ => if_neg ?_
  rintro ⟨ht, howner, -⟩
  exact h ⟨ht, howner⟩

/-- `amount` of `token` on top of `hand`. -/
def adding (hand : Token → Nat) (token : Token) (amount : Nat) (t : Token) : Nat :=
  hand t + if t = token then amount else 0

/-- Room for an allowance of what is in hand. -/
theorem Covers.approve {base hand : Token → Nat} {token : Token} {spender : Account}
    {amount : Nat} (h : Covers l self base (adding hand token amount)) :
    Covers (l.approve token self spender amount) self base hand := by
  intro t
  rcases h t with hzero | hle
  · exact Or.inl hzero
  · right
    have hbal : (l.approve token self spender amount).balance t self = l.balance t self := rfl
    rw [hbal]
    by_cases ht : t = token
    · subst ht
      have hgrant : granted (l.approve t self spender amount) self t
          + l.allowance t self spender = granted l self t + amount :=
        granted_approve t spender amount
      rw [adding, if_pos rfl] at hle
      omega
    · have hgrant : granted (l.approve token self spender amount) self t = granted l self t :=
        granted_approve_of_ne (fun h => ht h.1)
      rw [adding, if_neg ht] at hle
      omega

/-- Allowances that others grant do not matter. -/
theorem Covers.approve_of_ne {base hand : Token → Nat} {token : Token} {owner spender : Account}
    {amount : Nat} (h : Covers l self base hand) (howner : owner ≠ self) :
    Covers (l.approve token owner spender amount) self base hand := by
  intro t
  rw [granted_approve_of_ne fun h => howner h.2.symm]
  exact h t

/-- `self` pays out of what it has in hand. -/
theorem Covers.pay {base hand : Token → Nat} {l' : Ledger Token Account} {token : Token}
    {dest : Account} {amount : Nat}
    (h : Covers l self base (adding hand token amount))
    (hpay : l.transfer token self dest amount = some l') : Covers l' self base hand := by
  obtain ⟨-, hallow, hbal⟩ := Ledger.transfer_some hpay
  intro t
  rcases h t with hzero | hle
  · exact Or.inl hzero
  · right
    have hgrant : granted l' self t = granted l self t := by unfold granted; rw [hallow]
    have ht := hbal t self
    simp only [and_true] at ht
    unfold adding at hle
    omega

/-- Others pay, perhaps to `self`. -/
theorem Covers.receive {base hand : Token → Nat} {l' : Ledger Token Account} {token : Token}
    {source dest : Account} {amount : Nat} (h : Covers l self base hand)
    (hsource : source ≠ self) (hpay : l.transfer token source dest amount = some l') :
    Covers l' self base (adding hand token (if dest = self then amount else 0)) := by
  obtain ⟨-, hallow, hbal⟩ := Ledger.transfer_some hpay
  intro t
  rcases h t with hzero | hle
  · exact Or.inl hzero
  · right
    have hgrant : granted l' self t = granted l self t := by unfold granted; rw [hallow]
    have ht := hbal t self
    simp only [hsource, and_false, if_false, ite_and] at ht
    unfold adding
    omega

/-- Anyone's spending of `self`'s allowances leaves room for what is pulled. -/
theorem Covers.spend {base hand : Token → Nat} {l' : Ledger Token Account} {token : Token}
    {spender : Account} {amount : Nat} (h : Covers l self base hand)
    (hspend : l.spend token self spender amount = some l') :
    Covers l' self base (adding hand token amount) := by
  intro t
  rcases h t with hzero | hle
  · exact Or.inl hzero
  · by_cases hbase : base t = 0
    · exact Or.inl hbase
    · right
      unfold adding
      by_cases ht : t = token
      · subst ht
        have hallowed : l.allowance t self spender ≤ granted l self t :=
          allowance_le_granted t spender
        have hlt := l.balance_lt t self
        rcases Ledger.spend_cases hspend with ⟨hunlimited, -⟩ | ⟨hamount, rfl⟩
        · -- an unlimited allowance would exceed every balance
          unfold unlimited at hunlimited
          omega
        · have hgrant : granted (l.approve t self spender (l.allowance t self spender - amount))
              self t + l.allowance t self spender
              = granted l self t + (l.allowance t self spender - amount) :=
            granted_approve t spender _
          have hbal : (l.approve t self spender
              (l.allowance t self spender - amount)).balance t self = l.balance t self := rfl
          rw [if_pos rfl, hbal]
          omega
      · rw [if_neg ht, Nat.add_zero]
        rcases Ledger.spend_cases hspend with ⟨-, rfl⟩ | ⟨-, rfl⟩
        · exact hle
        · rw [granted_approve_of_ne fun h => ht h.1]
          exact hle

/-- **Nobody else's operation takes what is in hand.** -/
theorem Covers.op {base hand : Token → Nat} {l' : Ledger Token Account}
    {op : Op Token Account} (h : Covers l self base hand) (hactor : op.actor ≠ self)
    (hop : op.run l = some l') :
    Covers l' self base fun t => hand t + op.delivers self t := by
  cases op with
  | approve token actor spender amount =>
      obtain rfl := Option.some.inj hop
      exact (h.approve_of_ne hactor).mono fun t => le_refl (hand t)
  | transfer token actor dest amount =>
      refine (h.receive hactor hop).mono fun t => ?_
      exact Nat.add_le_add_left (ite_and_le t token actor) _
  | transferFrom token actor source dest amount =>
      obtain ⟨l₁, hspend, hmove⟩ := Option.bind_eq_some_iff.mp hop
      by_cases hsource : source = self
      · subst hsource
        refine ((h.spend hspend).pay hmove).mono fun t => ?_
        simp [Op.delivers]
      · have hcovers : Covers l₁ self base hand := by
          rcases Ledger.spend_cases hspend with ⟨-, rfl⟩ | ⟨-, rfl⟩
          · exact h
          · exact h.approve_of_ne hsource
        refine (hcovers.receive hsource hmove).mono fun t => ?_
        exact Nat.add_le_add_left (ite_and_le t token source) _

/-- The same for operations one after another. -/
theorem Covers.runOps {base hand : Token → Nat} {l' : Ledger Token Account}
    {ops : List (Op Token Account)} (h : Covers l self base hand)
    (hactors : ∀ op ∈ ops, op.actor ≠ self) (hops : runOps ops l = some l') :
    Covers l' self base fun t => hand t + delivered self t ops := by
  induction ops generalizing l hand with
  | nil =>
      obtain rfl := Option.some.inj hops
      exact h
  | cons op ops ih =>
      obtain ⟨l₁, hop, hrest⟩ := Option.bind_eq_some_iff.mp hops
      have hfirst := h.op (hactors op List.mem_cons_self) hop
      refine (ih hfirst (fun o ho => hactors o (List.mem_cons_of_mem op ho)) hrest).mono ?_
      intro t
      simp only [delivered, List.map_cons, List.sum_cons]
      omega

end Covers

/-! ## Operations that leave some accounts out -/

section Hidden

variable (hidden : Account → Prop)

/-- The same balances and allowances of every account that is not hidden. -/
structure AgreeOff (l₁ l₂ : Ledger Token Account) : Prop where
  balance : ∀ t a, ¬hidden a → l₁.balance t a = l₂.balance t a
  allowance : ∀ t owner spender, ¬hidden owner →
    l₁.allowance t owner spender = l₂.allowance t owner spender

/-- Two ledgers have gone on in the same way and left the hidden balances
alone. -/
structure SameMove (l₁ l₂ l₁' l₂' : Ledger Token Account) : Prop where
  same : AgreeOff hidden l₁' l₂'
  left : ∀ t a, hidden a → l₁'.balance t a = l₁.balance t a
  right : ∀ t a, hidden a → l₂'.balance t a = l₂.balance t a

/-- The accounts an operation debits, credits or approves for. -/
def Op.parties : Op Token Account → List Account
  | transfer _ actor dest _ => [actor, dest]
  | transferFrom _ _ source dest _ => [source, dest]
  | approve _ actor _ _ => [actor]

variable {hidden} {l₁ l₂ : Ledger Token Account}

theorem SameMove.refl (h : AgreeOff hidden l₁ l₂) : SameMove hidden l₁ l₂ l₁ l₂ :=
  ⟨h, fun _ _ _ => rfl, fun _ _ _ => rfl⟩

theorem SameMove.trans {l₁' l₂' l₁'' l₂'' : Ledger Token Account}
    (h : SameMove hidden l₁ l₂ l₁' l₂') (h' : SameMove hidden l₁' l₂' l₁'' l₂'') :
    SameMove hidden l₁ l₂ l₁'' l₂'' :=
  ⟨h'.same, fun t a ha => (h'.left t a ha).trans (h.left t a ha),
    fun t a ha => (h'.right t a ha).trans (h.right t a ha)⟩

/-- One more step on both sides. -/
theorem SameMove.bind {f g : Ledger Token Account → Option (Ledger Token Account)}
    {o₁ o₂ : Option (Ledger Token Account)} (h : Option.Rel (SameMove hidden l₁ l₂) o₁ o₂)
    (hfg : ∀ l₁' l₂', AgreeOff hidden l₁' l₂' →
      Option.Rel (SameMove hidden l₁' l₂') (f l₁') (g l₂')) :
    Option.Rel (SameMove hidden l₁ l₂) (o₁.bind f) (o₂.bind g) := by
  cases h with
  | none => exact .none
  | some hmove =>
      rename_i l₁' l₂'
      have hrest := hfg l₁' l₂' hmove.same
      rw [Option.bind_some, Option.bind_some]
      generalize f l₁' = o₁, g l₂' = o₂ at hrest
      cases hrest with
      | none => exact .none
      | some hmove' => exact .some (hmove.trans hmove')

variable [DecidableEq Token] [DecidableEq Account]

theorem AgreeOff.approve (h : AgreeOff hidden l₁ l₂) (token : Token) (owner spender : Account)
    (amount : Nat) :
    SameMove hidden l₁ l₂ (l₁.approve token owner spender amount)
      (l₂.approve token owner spender amount) := by
  refine ⟨⟨h.balance, fun t o s ho => ?_⟩, fun _ _ _ => rfl, fun _ _ _ => rfl⟩
  simp only [Ledger.approve, h.allowance t o s ho]

theorem AgreeOff.transfer (h : AgreeOff hidden l₁ l₂) {source dest : Account}
    (hsource : ¬hidden source) (hdest : ¬hidden dest) (token : Token) (amount : Nat) :
    Option.Rel (SameMove hidden l₁ l₂) (l₁.transfer token source dest amount)
      (l₂.transfer token source dest amount) := by
  have hiff : (∃ l, l₁.transfer token source dest amount = some l)
      ↔ ∃ l, l₂.transfer token source dest amount = some l := by
    rw [Ledger.transfer_isSome_iff, Ledger.transfer_isSome_iff, h.balance token source hsource,
      h.balance token dest hdest]
  cases h₁ : l₁.transfer token source dest amount with
  | none =>
      cases h₂ : l₂.transfer token source dest amount with
      | none => exact .none
      | some l₂' =>
          obtain ⟨l, hl⟩ := hiff.mpr ⟨l₂', h₂⟩
          rw [h₁] at hl
          cases hl
  | some l₁' =>
      obtain ⟨l₂', h₂⟩ := hiff.mp ⟨l₁', h₁⟩
      rw [h₂]
      obtain ⟨-, hallow₁, hbal₁⟩ := Ledger.transfer_some h₁
      obtain ⟨-, hallow₂, hbal₂⟩ := Ledger.transfer_some h₂
      have hout : ∀ {a}, hidden a → ¬source = a ∧ ¬dest = a := by
        rintro a ha
        exact ⟨fun h => hsource (h ▸ ha), fun h => hdest (h ▸ ha)⟩
      refine .some ⟨⟨fun t a ha => ?_, fun t o s ho => ?_⟩, fun t a ha => ?_, fun t a ha => ?_⟩
      · have := hbal₁ t a
        have := hbal₂ t a
        have := h.balance t a ha
        omega
      · rw [hallow₁, hallow₂]
        exact h.allowance t o s ho
      · have := hbal₁ t a
        simpa [hout ha] using this
      · have := hbal₂ t a
        simpa [hout ha] using this

theorem AgreeOff.spend (h : AgreeOff hidden l₁ l₂) {source : Account} (hsource : ¬hidden source)
    (token : Token) (spender : Account) (amount : Nat) :
    Option.Rel (SameMove hidden l₁ l₂) (l₁.spend token source spender amount)
      (l₂.spend token source spender amount) := by
  unfold Ledger.spend
  dsimp only
  rw [h.allowance token source spender hsource]
  split_ifs
  · exact .some (.refl h)
  · exact .some (h.approve ..)
  · exact .none

theorem AgreeOff.op (h : AgreeOff hidden l₁ l₂) {op : Op Token Account}
    (hop : ∀ a ∈ op.parties, ¬hidden a) :
    Option.Rel (SameMove hidden l₁ l₂) (op.run l₁) (op.run l₂) := by
  cases op with
  | approve token actor spender amount => exact .some (h.approve ..)
  | transfer token actor dest amount =>
      exact h.transfer (hop actor (by simp [Op.parties])) (hop dest (by simp [Op.parties]))
        token amount
  | transferFrom token actor source dest amount =>
      have hsource := hop source (by simp [Op.parties])
      exact SameMove.bind (h.spend hsource token actor amount) fun l₁' l₂' h' =>
        h'.transfer hsource (hop dest (by simp [Op.parties])) token amount

/-- **Operations among other accounts** do the same on both ledgers. -/
theorem AgreeOff.runOps {ops : List (Op Token Account)} (h : AgreeOff hidden l₁ l₂)
    (hops : ∀ op ∈ ops, ∀ a ∈ op.parties, ¬hidden a) :
    Option.Rel (SameMove hidden l₁ l₂) (runOps ops l₁) (runOps ops l₂) := by
  induction ops generalizing l₁ l₂ with
  | nil => exact .some (.refl h)
  | cons op ops ih =>
      exact SameMove.bind (h.op (hops op (List.mem_cons_self ..))) fun l₁' l₂' h' =>
        ih h' fun op' hop' => hops op' (List.mem_cons_of_mem _ hop')

end Hidden

end Erc20
