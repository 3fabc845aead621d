import BaseEngine.Lib.Run

/-!
# A contract among re-entrant foreign code

The code of a contract runs in bursts: it completes, reverts, or makes an
external call and waits (`Code`). While it waits, foreign code is in control
and may call the contract again, nest calls of its own, return or revert;
a revert restores the state in which the reverting call began. `step` is one
move of that game, on the contract's storage, a log of the completed calls
and the stack of the calls in progress.

The log says of every completed call what it asked of foreign code, what it
was answered and what it returned. It is part of what a revert restores, so
the calls in it are those that completed and were not undone.

`inv_step` is the rule for invariants of the storage and the stack: it asks
only what one burst of the contract does, and deals with foreign frames and
reverts once and for all. `Code.Settles` is the form in which a burst's
effect is stated: until it completes, the code leaves the storage alone.
-/

namespace Reentrant

/-- An external call and its answer. -/
structure Interaction (Req : Type) (Ans : Req → Type) where
  req : Req
  ans : Ans req

/-- A burst of code from some storage on: it ends with the storage `s` and an
answer, reverts, or asks `req` with the storage `s` and waits. -/
inductive Code (S E Req : Type) (Ans : Req → Type) (α : Type) where
  | done (s : S) (a : α)
  | revert (e : E)
  | call (req : Req) (s : S) (resume : Ans req → S → Code S E Req Ans α)

variable {S E Req Call Res α β : Type} {Ans : Req → Type}

namespace Code

def bind : Code S E Req Ans α → (α → S → Code S E Req Ans β) → Code S E Req Ans β
  | done s a, f => f a s
  | revert e, _ => revert e
  | call req s resume, f => call req s fun a s' => (resume a s').bind f

/-- The answer of a burst that completes. -/
def result? : Code S E Req Ans α → Option α
  | done _ a => some a
  | revert _ => none
  | call _ _ _ => none

/-- Started with the storage `s` after the exchanges `asked`, the code hands
the storage on unchanged at every external call, and completes with a storage
and an answer that `post` allows for all the exchanges and for the storage its
last burst began with. -/
def Settles (post : List (Interaction Req Ans) → S → S → α → Prop) :
    List (Interaction Req Ans) → S → Code S E Req Ans α → Prop
  | asked, s, done s' a => post asked s s' a
  | _, _, revert _ => True
  | asked, s, call req s' resume =>
      s' = s ∧ ∀ a s₁, Settles post (asked ++ [⟨req, a⟩]) s₁ (resume a s₁)

/-- Whatever it is answered, the code asks only what `P` allows. -/
def Asks (P : Req → Prop) : Code S E Req Ans α → Prop
  | done _ _ => True
  | revert _ => True
  | call req _ resume => P req ∧ ∀ a s, (resume a s).Asks P

theorem Asks.bind {P : Req → Prop} {c : Code S E Req Ans α} {f : α → S → Code S E Req Ans β}
    (hc : c.Asks P) (hf : ∀ a s, (f a s).Asks P) : (c.bind f).Asks P := by
  induction c with
  | done s a => exact hf a s
  | revert e => trivial
  | call req s resume ih => exact ⟨hc.1, fun a s₁ => ih a s₁ (hc.2 a s₁)⟩

section Settles

variable {post : List (Interaction Req Ans) → S → S → α → Prop}
  {asked : List (Interaction Req Ans)} {s : S} {c : Code S E Req Ans α}

theorem Settles.imp {post' : List (Interaction Req Ans) → S → S → α → Prop}
    (h : ∀ asked s s' a, post asked s s' a → post' asked s s' a)
    (hc : c.Settles post asked s) : c.Settles post' asked s := by
  induction c generalizing asked s with
  | done s' a => exact h asked s s' a hc
  | revert e => trivial
  | call req s' resume ih => exact ⟨hc.1, fun a s₁ => ih a s₁ (hc.2 a s₁)⟩

/-- Code followed by other code, which goes on from the exchanges made. -/
theorem Settles.bind {post' : List (Interaction Req Ans) → S → S → β → Prop}
    {f : α → S → Code S E Req Ans β}
    (h : ∀ asked s s' a, post asked s s' a → (f a s').Settles post' asked s)
    (hc : c.Settles post asked s) : (c.bind f).Settles post' asked s := by
  induction c generalizing asked s with
  | done s' a => exact h asked s s' a hc
  | revert e => trivial
  | call req s' resume ih => exact ⟨hc.1, fun a s₁ => ih a s₁ (hc.2 a s₁)⟩

end Settles

end Code

/-- Code as a function of the storage it starts with. -/
def Prog (S E Req : Type) (Ans : Req → Type) (α : Type) := S → Code S E Req Ans α

namespace Prog

instance : Monad (Prog S E Req Ans) where
  pure a := fun s => .done s a
  bind p f := fun s => (p s).bind f

def revert (e : E) : Prog S E Req Ans α := fun _ => .revert e

def get : Prog S E Req Ans S := fun s => .done s s

/-- Replace the storage, or revert. -/
def update (f : S → Except E S) : Prog S E Req Ans Unit := fun s =>
  match f s with
  | .ok s' => .done s' ()
  | .error e => .revert e

/-- An external call and its answer. -/
def call (req : Req) : Prog S E Req Ans (Ans req) :=
  fun s => .call req s fun a s' => .done s' a

def orRevert : Except E α → Prog S E Req Ans α
  | .ok a => pure a
  | .error e => revert e

def Asks (P : Req → Prop) (p : Prog S E Req Ans α) : Prop := ∀ s, (p s).Asks P

section Asks

variable {P : Req → Prop}

@[simp] theorem asks_pure (a : α) : Asks P (pure a : Prog S E Req Ans α) := fun _ => trivial

@[simp] theorem asks_revert (e : E) : Asks P (revert e : Prog S E Req Ans α) := fun _ => trivial

@[simp] theorem asks_get : Asks P (get : Prog S E Req Ans S) := fun _ => trivial

@[simp] theorem asks_update (f : S → Except E S) : Asks P (update f : Prog S E Req Ans Unit) := by
  intro s
  unfold update
  cases f s with
  | ok s' => trivial
  | error e => trivial

@[simp] theorem asks_orRevert (x : Except E α) : Asks P (orRevert x : Prog S E Req Ans α) := by
  cases x with
  | ok a => exact asks_pure a
  | error e => exact asks_revert e

theorem asks_call {req : Req} (h : P req) : Asks P (call req : Prog S E Req Ans (Ans req)) :=
  fun _ => ⟨h, fun _ _ => trivial⟩

theorem Asks.bind {p : Prog S E Req Ans α} {f : α → Prog S E Req Ans β} (hp : Asks P p)
    (hf : ∀ a, Asks P (f a)) : Asks P (p >>= f) := fun s => (hp s).bind hf

end Asks

/-- The program never changes the storage, and completes with exchanges and
answers that `Q` allows. -/
def Quiet (Q : List (Interaction Req Ans) → α → Prop) (p : Prog S E Req Ans α) : Prop :=
  ∀ before s, (p s).Settles
    (fun asked s s' a => s' = s ∧ ∃ own, asked = before ++ own ∧ Q own a) before s

section Quiet

variable {Q : List (Interaction Req Ans) → α → Prop}

theorem quiet_pure {a : α} (h : Q [] a) : Quiet Q (pure a : Prog S E Req Ans α) :=
  fun before _ => ⟨rfl, [], (List.append_nil before).symm, h⟩

theorem quiet_revert (e : E) : Quiet Q (revert e : Prog S E Req Ans α) := fun _ _ => trivial

theorem quiet_call (req : Req) :
    Quiet (fun own a => own = [⟨req, a⟩]) (call req : Prog S E Req Ans (Ans req)) :=
  fun _ _ => ⟨rfl, fun _ _ => ⟨rfl, _, rfl, rfl⟩⟩

theorem quiet_orRevert (x : Except E α) :
    Quiet (fun own a => own = [] ∧ x = .ok a) (orRevert x : Prog S E Req Ans α) := by
  cases x with
  | ok a => exact quiet_pure ⟨rfl, rfl⟩
  | error e => exact quiet_revert e

/-- A quiet program followed by another: what the second settles, both do. -/
theorem Quiet.settles_bind {p : Prog S E Req Ans α} {f : α → Prog S E Req Ans β}
    {post : List (Interaction Req Ans) → S → S → β → Prop} {before : List (Interaction Req Ans)}
    (hp : Quiet Q p) (hf : ∀ own a, Q own a → ∀ s, (f a s).Settles post (before ++ own) s)
    (s : S) : ((p >>= f) s).Settles post before s := by
  refine Code.Settles.bind ?_ (hp before s)
  rintro asked s _ a ⟨rfl, own, rfl, ha⟩
  exact hf own a ha _

theorem Quiet.bind {R : List (Interaction Req Ans) → β → Prop} {p : Prog S E Req Ans α}
    {f : α → Prog S E Req Ans β} (hp : Quiet Q p)
    (hf : ∀ own a, Q own a → Quiet (fun more b => R (own ++ more) b) (f a)) :
    Quiet R (p >>= f) := by
  refine fun before => hp.settles_bind fun own a ha s => (hf own a ha (before ++ own) s).imp ?_
  rintro asked s _ b ⟨rfl, more, rfl, hb⟩
  exact ⟨rfl, own ++ more, List.append_assoc .., hb⟩

theorem Quiet.imp {Q' : List (Interaction Req Ans) → α → Prop} {p : Prog S E Req Ans α}
    (h : ∀ own a, Q own a → Q' own a) (hp : Quiet Q p) : Quiet Q' p := by
  refine fun before s => (hp before s).imp ?_
  rintro asked s _ a ⟨rfl, own, rfl, ha⟩
  exact ⟨rfl, own, rfl, h own a ha⟩

end Quiet

end Prog

/-! ## The game -/

/-- A completed call: what it asked and was answered, and what it returned. -/
structure Completed (Req : Type) (Ans : Req → Type) (Call Res : Type) where
  call : Call
  asked : List (Interaction Req Ans)
  result : Res

/-- What a revert restores. -/
structure Snapshot (S Req : Type) (Ans : Req → Type) (Call Res : Type) where
  storage : S
  log : List (Completed Req Ans Call Res)

/-- A call in progress: one of the contract's, which has made the exchanges
`asked` and waits for the answer to `req`, or one of foreign code. Both
remember the state they began in. -/
inductive Frame (S E Req : Type) (Ans : Req → Type) (Call Res : Type) where
  | own (call : Call) (saved : Snapshot S Req Ans Call Res) (asked : List (Interaction Req Ans))
      (req : Req) (resume : Ans req → S → Code S E Req Ans Res)
  | foreign (saved : Snapshot S Req Ans Call Res)

namespace Frame

def saved : Frame S E Req Ans Call Res → Snapshot S Req Ans Call Res
  | own _ saved _ _ _ => saved
  | foreign saved => saved

/-- The contract's call this is a frame of. -/
def call? : Frame S E Req Ans Call Res → Option Call
  | own call _ _ _ _ => some call
  | foreign _ => none

end Frame

/-- Foreign code is in control: at the bottom whoever sends transactions,
above a frame whoever that frame called. -/
structure Machine (S E Req : Type) (Ans : Req → Type) (Call Res : Type) where
  now : Snapshot S Req Ans Call Res
  stack : List (Frame S E Req Ans Call Res)

/-- What the foreign code in control does: call the contract, answer the
contract's external call, revert, call other foreign code, or return to it. -/
inductive Action (Req : Type) (Ans : Req → Type) (Call : Type) where
  | enter (call : Call)
  | answer (a : ∀ req, Ans req)
  | fail
  | nest
  | unwind

variable (enter : Call → Prog S E Req Ans Res)

/-- After a burst of `call`, which began in `saved` and has made the exchanges
`asked` so far. -/
def advance (call : Call) (saved : Snapshot S Req Ans Call Res)
    (rest : List (Frame S E Req Ans Call Res)) (log : List (Completed Req Ans Call Res))
    (asked : List (Interaction Req Ans)) : Code S E Req Ans Res → Machine S E Req Ans Call Res
  | .done s r => { now := { storage := s, log := log ++ [⟨call, asked, r⟩] }, stack := rest }
  | .revert _ => { now := saved, stack := rest }
  | .call req s resume =>
      { now := { storage := s, log }, stack := .own call saved asked req resume :: rest }

/-- A burst of the contract: the call it belongs to, the exchanges made
before it, and its code. -/
structure Burst (S E Req : Type) (Ans : Req → Type) (Call Res : Type) where
  call : Call
  asked : List (Interaction Req Ans)
  code : Code S E Req Ans Res

/-- The burst of the contract that an action starts. -/
def burst (m : Machine S E Req Ans Call Res) :
    Action Req Ans Call → Option (Burst S E Req Ans Call Res)
  | .enter call => some ⟨call, [], enter call m.now.storage⟩
  | .answer a =>
      match m.stack with
      | .own call _ asked req resume :: _ =>
          some ⟨call, asked ++ [⟨req, a req⟩], resume (a req) m.now.storage⟩
      | _ => none
  | _ => none

/-- The log with which the call that an action runs began. -/
def began (m : Machine S E Req Ans Call Res) :
    Action Req Ans Call → List (Completed Req Ans Call Res)
  | .answer _ =>
      match m.stack with
      | .own _ saved _ _ _ :: _ => saved.log
      | _ => m.now.log
  | _ => m.now.log

/-- The call an action completes. -/
def completes (m : Machine S E Req Ans Call Res) (act : Action Req Ans Call) :
    Option (Completed Req Ans Call Res) :=
  (burst enter m act).bind fun b => b.code.result?.map fun r => ⟨b.call, b.asked, r⟩

/-- An external call that reverts takes the frame that made it along. Actions
that make no sense in the state they meet change nothing. -/
def step (m : Machine S E Req Ans Call Res) :
    Action Req Ans Call → Machine S E Req Ans Call Res
  | .enter call => advance call m.now m.stack m.now.log [] (enter call m.now.storage)
  | .answer a =>
      match m.stack with
      | .own call saved asked req resume :: rest =>
          advance call saved rest m.now.log (asked ++ [⟨req, a req⟩])
            (resume (a req) m.now.storage)
      | _ => m
  | .fail =>
      match m.stack with
      | frame :: rest => { now := frame.saved, stack := rest }
      | [] => m
  | .nest => { m with stack := .foreign m.now :: m.stack }
  | .unwind =>
      match m.stack with
      | .foreign _ :: rest => { m with stack := rest }
      | _ => m

/-! ## Invariants -/

section Invariant

/-- The contract's calls in progress, innermost first, each with the log it
began with. -/
def calls : List (Frame S E Req Ans Call Res) →
    List (Call × List (Completed Req Ans Call Res))
  | [] => []
  | .own call saved _ _ _ :: rest => (call, saved.log) :: calls rest
  | .foreign _ :: rest => calls rest

variable
  (Good : List (Call × List (Completed Req Ans Call Res)) → Snapshot S Req Ans Call Res → Prop)
  (post : Call → List (Call × List (Completed Req Ans Call Res)) →
    List (Interaction Req Ans) → S → S → Res → Prop)

/-- Every frame began in a good state of the calls below it, and what is left
of the contract's frames settles as `post` says, whatever they are answered. -/
def Kept : List (Frame S E Req Ans Call Res) → Prop
  | [] => True
  | .foreign saved :: rest => Good (calls rest) saved ∧ Kept rest
  | .own call saved asked req resume :: rest =>
      Good (calls rest) saved
        ∧ (∀ a s, (resume a s).Settles (post call (calls rest)) (asked ++ [⟨req, a⟩]) s)
        ∧ Kept rest

/-- The state is good and can be restored to good states only. -/
def Inv (m : Machine S E Req Ans Call Res) : Prop :=
  Good (calls m.stack) m.now ∧ Kept Good post m.stack

variable {enter Good post}

section Rule

variable (hdone : ∀ call start rest asked s s' log r,
    Good ((call, start) :: rest) { storage := s, log } → post call rest asked s s' r →
    Good rest { storage := s', log := log ++ [⟨call, asked, r⟩] })

include hdone

/-- A burst that settles, begun in a good state with its call on the stack. -/
theorem inv_advance {call : Call} {saved : Snapshot S Req Ans Call Res}
    {rest : List (Frame S E Req Ans Call Res)} {log : List (Completed Req Ans Call Res)}
    {asked : List (Interaction Req Ans)} {s : S} {code : Code S E Req Ans Res}
    (hsaved : Good (calls rest) saved) (hrest : Kept Good post rest)
    (hgood : Good ((call, saved.log) :: calls rest) { storage := s, log })
    (hcode : code.Settles (post call (calls rest)) asked s) :
    Inv Good post (advance call saved rest log asked code) := by
  cases code with
  | done s' r => exact ⟨hdone call saved.log (calls rest) asked s s' log r hgood hcode, hrest⟩
  | revert e => exact ⟨hsaved, hrest⟩
  | call req s' resume =>
      obtain ⟨rfl, hresume⟩ := hcode
      exact ⟨hgood, hsaved, hresume, hrest⟩

/-- **Invariants among re-entrant code.** It is enough that a call that is
entered reverts at once or settles from a good state on, and that a call that
completes as it should leaves a good state. -/
theorem inv_step {P : Call → Prop}
    (henter : ∀ call rest s log, P call → Good rest { storage := s, log } →
      (∃ e, enter call s = .revert e) ∨
        ∃ s', Good ((call, log) :: rest) { storage := s', log }
          ∧ (enter call s).Settles (post call rest) [] s')
    (m : Machine S E Req Ans Call Res) (act : Action Req Ans Call)
    (hm : Inv Good post m) (hact : ∀ call, act = .enter call → P call) :
    Inv Good post (step enter m act) := by
  obtain ⟨⟨s, log⟩, stack⟩ := m
  obtain ⟨hgood, hkept⟩ := hm
  cases act with
  | enter call =>
      rcases henter call (calls stack) s log (hact call rfl) hgood with ⟨e, he⟩ | ⟨s', hs', hcode⟩
      · show Inv Good post (advance call ⟨s, log⟩ stack log [] (enter call s))
        rw [he]
        exact ⟨hgood, hkept⟩
      · exact inv_advance hdone hgood hkept hs' hcode
  | answer a =>
      cases stack with
      | nil => exact ⟨hgood, hkept⟩
      | cons frame rest =>
          cases frame with
          | foreign saved => exact ⟨hgood, hkept⟩
          | own call saved asked req resume =>
              obtain ⟨hsaved, hresume, hrest⟩ := hkept
              exact inv_advance hdone hsaved hrest hgood (hresume (a req) s)
  | fail =>
      cases stack with
      | nil => exact ⟨hgood, hkept⟩
      | cons frame rest =>
          cases frame with
          | foreign saved => exact hkept
          | own call saved asked req resume => exact ⟨hkept.1, hkept.2.2⟩
  | nest => exact ⟨hgood, hgood, hkept⟩
  | unwind =>
      cases stack with
      | nil => exact ⟨hgood, hkept⟩
      | cons frame rest =>
          cases frame with
          | own call saved asked req resume => exact ⟨hgood, hkept⟩
          | foreign saved => exact ⟨hgood, hkept.2⟩

end Rule

/-- A call completes from a good state in which it is the innermost one, and
as `post` says. -/
theorem good_of_completes {P : Call → Prop} {m : Machine S E Req Ans Call Res}
    {act : Action Req Ans Call} (hm : Inv Good post m) {c : Completed Req Ans Call Res}
    (h : completes enter m act = some c)
    (henter : ∀ call rest s log, P call → Good rest { storage := s, log } →
      (∃ e, enter call s = .revert e) ∨
        ∃ s', Good ((call, log) :: rest) { storage := s', log }
          ∧ (enter call s).Settles (post call rest) [] s')
    (hact : ∀ call, act = .enter call → P call) :
    ∃ s s', Good ((c.call, began m act) :: calls (step enter m act).stack)
        { storage := s, log := m.now.log }
      ∧ post c.call (calls (step enter m act).stack) c.asked s s' c.result := by
  obtain ⟨⟨s, log⟩, stack⟩ := m
  obtain ⟨hgood, hkept⟩ := hm
  have hdone : ∀ {code : Code S E Req Ans Res} {r : Res}, code.result? = some r →
      ∃ s', code = .done s' r := by
    intro code r hc
    cases code with
    | done s' a => exact ⟨s', by rw [Option.some.inj hc]⟩
    | revert e => cases hc
    | call req s' resume => cases hc
  cases act with
  | enter call' =>
      obtain ⟨r, hres, rfl⟩ := Option.map_eq_some_iff.mp h
      obtain ⟨s', (hcode : enter call' s = .done s' r)⟩ := hdone hres
      rcases henter call' (calls stack) s log (hact call' rfl) hgood with ⟨e, he⟩ | ⟨s₁, hs₁, hset⟩
      · rw [hcode] at he
        cases he
      · rw [hcode] at hset
        have hstack : (step enter ⟨⟨s, log⟩, stack⟩ (.enter call')).stack = stack := by
          simp only [step, hcode, advance]
        rw [hstack]
        exact ⟨s₁, s', hs₁, hset⟩
  | answer a =>
      cases stack with
      | nil => cases h
      | cons frame rest =>
          cases frame with
          | foreign saved => cases h
          | own call' saved asked req resume =>
              obtain ⟨r, hres, rfl⟩ := Option.map_eq_some_iff.mp h
              obtain ⟨s', (hcode : resume (a req) s = .done s' r)⟩ := hdone hres
              have hset := hkept.2.1 (a req) s
              rw [hcode] at hset
              have hstack : (step enter ⟨⟨s, log⟩, .own call' saved asked req resume :: rest⟩
                  (.answer a)).stack = rest := by
                simp only [step, hcode, advance]
              rw [hstack]
              exact ⟨s, s', hgood, hset⟩
  | fail => cases h
  | nest => cases h
  | unwind => cases h

end Invariant

end Reentrant
