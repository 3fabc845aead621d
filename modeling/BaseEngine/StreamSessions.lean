import BaseEngine.SelectorExtraction
import BaseEngine.Streams

/-!
# The sessions of a stream

What the sessions of a stream hand on, how long they bear silence, and what ends
the task they belong to, in every run of it.

Events reach the engine in the order in which the messages came, none twice; a
message is cut short only where the engine's channel refuses one of its events,
and then the rest of that message is lost (`delivers_step`). A session survives
one silent window and is given up at the second in a row (`counts_step`). The
task ends when an announcement outside of a session is refused, or when a
reaction panics, and on nothing else (`dead_step_iff`).
-/

namespace BaseEngine

open Json

namespace Ingest

variable {Frame Question Reply : Type} {kind : StreamKind Frame Question Reply}
  {context : IngestStreamContext}

/-! ## Delivery -/

def Reaction.events? : Reaction Question → Option (List Event)
  | .deliver events => some events
  | _ => none

/-- The events of a message or a reply, where it has been turned into some. -/
def readEvents (kind : StreamKind Frame Question Reply) (effect : Effect Frame Question Reply) :
    Option (List Event) := (reaction kind effect).bind Reaction.events?

/-- The events of the messages of a trace, message by message. -/
def reads (kind : StreamKind Frame Question Reply) (trace : List (Effect Frame Question Reply)) :
    List (List Event) := trace.filterMap (readEvents kind)

def deliveredEvent : Effect Frame Question Reply → Option Event
  | .sent event true => some event
  | _ => none

/-- The events that the engine's channel took. -/
def delivered (trace : List (Effect Frame Question Reply)) : List Event :=
  trace.filterMap deliveredEvent

/-- The events of the message at hand that are still to be sent. -/
def pending (s : Stream Question) : List Event :=
  match s.stage with
  | .delivering event rest => event :: rest
  | _ => []

/-- The engine's channel takes what it is sent. -/
def Taken (trace : List (Effect Frame Question Reply)) : Prop :=
  ∀ event, Effect.sent event false ∉ trace

/-- From `pending` on, a run delivers a part of it and then a part of each
message; all of it when the channel takes everything. -/
def Delivers (kind : StreamKind Frame Question Reply) (s : Stream Question)
    (trace : List (Effect Frame Question Reply)) (t : Stream Question) : Prop :=
  (∃ part parts, part <+: pending s ∧ List.Forall₂ (· <+: ·) parts (reads kind trace)
      ∧ delivered trace = part ++ parts.flatten)
    ∧ (Taken trace → delivered trace ++ pending t = pending s ++ (reads kind trace).flatten)

theorem pending_react {nowMs : Nat} {s : Stream Question} (result : Reaction Question) :
    pending (s.react context nowMs result) = result.events?.getD [] := by
  cases result with
  | deliver events => cases events <;> rfl
  | _ => rfl

theorem pending_of_inSession {s : Stream Question} (h : s.stage.inSession) : pending s = [] := by
  unfold pending
  cases hstage : s.stage with
  | delivering event rest => rw [hstage] at h; exact h.elim
  | _ => rfl

theorem pending_of_reading {s : Stream Question} (h : s.stage.reading) : pending s = [] := by
  unfold pending
  cases hstage : s.stage with
  | delivering event rest => rw [hstage] at h; exact h.elim
  | _ => rfl

theorem pending_proceed {nowMs : Nat} {event : StreamStatusEvent} {s : Stream Question}
    (hstage : s.stage = .announcing event) :
    pending (s.proceed context nowMs event) = pending s := by
  have hs : pending s = [] := by unfold pending; rw [hstage]
  unfold Stream.proceed
  cases event.current with
  | idle | stopped => rfl
  | _ => exact hs.symm

theorem pending_refuse {nowMs : Nat} {event : StreamStatusEvent} {s : Stream Question} :
    pending (s.refuse kind context nowMs event) = [] := by
  unfold Stream.refuse
  split_ifs <;> rfl

theorem delivered_append (t₁ t₂ : List (Effect Frame Question Reply)) :
    delivered (t₁ ++ t₂) = delivered t₁ ++ delivered t₂ := List.filterMap_append ..

theorem reads_append (t₁ t₂ : List (Effect Frame Question Reply)) :
    reads kind (t₁ ++ t₂) = reads kind t₁ ++ reads kind t₂ := List.filterMap_append ..

theorem Taken.of_append {t₁ t₂ : List (Effect Frame Question Reply)} (h : Taken (t₁ ++ t₂)) :
    Taken t₂ := fun event hmem => h event (List.mem_append_right t₁ hmem)

namespace Delivers

variable {s s' t : Stream Question} {out tail : List (Effect Frame Question Reply)}

theorem refl (s : Stream Question) : Delivers kind s [] s :=
  ⟨⟨[], [], List.nil_prefix, .nil, rfl⟩, fun _ => (List.append_nil _).symm⟩

/-- A step that neither reads nor sends. -/
theorem quiet (h : Delivers kind s' tail t) (hpending : pending s' = pending s)
    (hdelivered : delivered out = []) (hreads : reads kind out = []) :
    Delivers kind s (out ++ tail) t := by
  obtain ⟨⟨part, parts, hpart, hparts, hall⟩, htaken⟩ := h
  rw [hpending] at hpart htaken
  unfold Delivers
  rw [delivered_append, reads_append, hdelivered, hreads, List.nil_append, List.nil_append]
  exact ⟨⟨part, parts, hpart, hparts, hall⟩, fun h => htaken h.of_append⟩

/-- A message is read: its events are what is pending next. -/
theorem read (h : Delivers kind s' tail t) {effect : Effect Frame Question Reply}
    (hs : pending s = []) (hs' : pending s' = (readEvents kind effect).getD [])
    (hdelivered : delivered [effect] = []) : Delivers kind s ([effect] ++ tail) t := by
  cases hread : readEvents kind effect with
  | none =>
      rw [hread] at hs'
      refine h.quiet (hs'.trans hs.symm) hdelivered ?_
      unfold reads
      rw [List.filterMap_cons_none hread, List.filterMap_nil]
  | some events =>
      have hreads : reads kind [effect] = [events] := by
        unfold reads
        rw [List.filterMap_cons_some hread, List.filterMap_nil]
      rw [hread] at hs'
      obtain ⟨⟨part, parts, hpart, hparts, hall⟩, htaken⟩ := h
      rw [hs'] at hpart htaken
      unfold Delivers
      rw [delivered_append, reads_append, hdelivered, hreads, hs, List.nil_append]
      refine ⟨⟨[], part :: parts, List.nil_prefix, .cons hpart hparts, hall⟩, ?_⟩
      intro htake
      exact htaken htake.of_append

/-- An event is taken. -/
theorem send (h : Delivers kind s' tail t) {event : Event}
    (hpending : pending s = event :: pending s') :
    Delivers kind s ([.sent event true] ++ tail) t := by
  obtain ⟨⟨part, parts, hpart, hparts, hall⟩, htaken⟩ := h
  unfold Delivers
  rw [delivered_append, reads_append, hpending]
  refine ⟨⟨event :: part, parts, List.cons_prefix_cons.mpr ⟨rfl, hpart⟩, hparts, ?_⟩, ?_⟩
  · exact congrArg (event :: ·) hall
  · intro htake
    exact congrArg (event :: ·) (htaken htake.of_append)

/-- An event is refused, and the rest of its message is lost. -/
theorem lose (h : Delivers kind s' tail t) {event : Event} (hpending : pending s' = []) :
    Delivers kind s ([.sent event false] ++ tail) t := by
  obtain ⟨⟨part, parts, hpart, hparts, hall⟩, -⟩ := h
  rw [hpending, List.prefix_nil] at hpart
  subst hpart
  refine ⟨⟨[], parts, List.nil_prefix, hparts, hall⟩, ?_⟩
  intro htake
  exact absurd List.mem_cons_self (htake event)

end Delivers

theorem delivered_of_reaction {effect : Effect Frame Question Reply} {result : Reaction Question}
    (h : reaction kind effect = some result) : delivered [effect] = [] := by
  cases effect with
  | received | replied => rfl
  | _ => cases h

/-- One answer in front of a run. -/
theorem delivers_step {s t : Stream Question} (op : Op Frame Reply)
    {tail : List (Effect Frame Question Reply)}
    (h : Delivers kind (step kind context s op) tail t) :
    Delivers kind s (effects s op ++ tail) t := by
  have hmoves := @moves_step _ _ _ kind context s op
  generalize step kind context s op = s', effects s op = out at hmoves h
  cases hmoves with
  | stays => exact h
  | proceeds hstage => exact h.quiet (pending_proceed hstage) rfl rfl
  | refused hstage =>
      refine h.quiet (pending_refuse.trans ?_) rfl rfl
      unfold pending
      rw [hstage]
  | failed hstage => exact h.quiet (pending_of_inSession hstage).symm rfl rfl
  | connected hstage =>
      have hs : pending s = [] := pending_of_inSession (by rw [hstage]; trivial)
      refine h.quiet ?_ rfl rfl
      rw [hs]
      split_ifs <;> rfl
  | subscribed hstage =>
      exact h.quiet (pending_of_inSession (by rw [hstage]; trivial)).symm rfl rfl
  | reads hstage heffect =>
      refine h.read (pending_of_reading hstage) ?_ (delivered_of_reaction heffect)
      rw [pending_react, readEvents, heffect, Option.bind_some]
  | silent hstage => exact h.quiet (pending_of_inSession (by rw [hstage]; trivial)).symm rfl rfl
  | beats hstage hfew => exact h.quiet (by unfold pending; rw [hstage]; rfl) rfl rfl
  | givesUp hstage hreason => exact h.quiet (by unfold pending; rw [hstage]; rfl) rfl rfl
  | delivers hstage =>
      refine h.send ?_
      rw [pending_react]
      unfold pending
      rw [hstage]
      rfl
  | loses hstage => exact h.lose rfl
  | wakes hstage => exact h.quiet (by unfold pending; rw [hstage]; rfl) rfl rfl

theorem delivers_run (nowMs : Nat) (ops : List (Op Frame Reply)) :
    Delivers kind (start context nowMs) (trace kind context (start context nowMs) ops)
      (final kind context (start context nowMs) ops) :=
  @Run.outputs_final _ _ _ _ _ (fun _ => True) (Delivers kind) (fun _ _ _ => trivial)
    (fun s _ => .refl s) (fun _ op _ _ _ h => delivers_step op h) ops _ trivial

/-- **Delivery in order.** In every run of a stream, what the engine's channel
took is, message by message, a first part of the events that the message was
turned into; and all of them, up to those still to be sent, when the channel
took whatever it was sent. -/
theorem deliveredInOrder (kind : StreamKind Frame Question Reply) (context : IngestStreamContext)
    (nowMs : Nat) (ops : List (Op Frame Reply)) :
    (∃ parts, List.Forall₂ (· <+: ·) parts
          (reads kind (trace kind context (start context nowMs) ops))
        ∧ delivered (trace kind context (start context nowMs) ops) = parts.flatten)
      ∧ (Taken (trace kind context (start context nowMs) ops) →
        delivered (trace kind context (start context nowMs) ops)
            ++ pending (final kind context (start context nowMs) ops)
          = (reads kind (trace kind context (start context nowMs) ops)).flatten) := by
  obtain ⟨⟨part, parts, hpart, hparts, hall⟩, htaken⟩ :=
    @delivers_run _ _ _ kind context nowMs ops
  have hnone : part = [] := List.prefix_nil.mp hpart
  subst hnone
  exact ⟨⟨parts, hparts, hall⟩, htaken⟩

/-! ## Silence -/

/-- The silent windows since the last message, reply or announcement. -/
def countSilence (windows : Nat) : Effect Frame Question Reply → Nat
  | .silence => windows + 1
  | .received _ _ => 0
  | .replied _ _ _ => 0
  | .announced _ _ => 0
  | _ => windows

def silentWindows (trace : List (Effect Frame Question Reply)) : Nat :=
  trace.foldl countSilence 0

/-- The session's own count of silent windows, where it has one. -/
def Counts (s : Stream Question) (windows : Nat) : Prop :=
  match s.stage with
  | .awaiting idleIntervals => windows = idleIntervals ∧ windows ≤ 1
  | .beating _ idleIntervals => windows = idleIntervals ∧ 1 ≤ windows ∧ windows ≤ 2
  | .asking _ => windows = 0
  | .delivering _ _ => windows = 0
  | _ => True

theorem counts_react {nowMs : Nat} {s : Stream Question} (result : Reaction Question) :
    Counts (s.react context nowMs result) 0 := by
  cases result with
  | deliver events =>
      cases events with
      | nil => exact ⟨rfl, Nat.zero_le 1⟩
      | cons event rest => exact rfl
  | fail error => trivial
  | ask question => exact rfl
  | panic => trivial

theorem countSilence_of_reaction {windows : Nat} {effect : Effect Frame Question Reply}
    {result : Reaction Question} (h : reaction kind effect = some result) :
    countSilence windows effect = 0 := by
  cases effect with
  | received | replied => rfl
  | _ => cases h

/-- Nothing is counted outside of the waits of a session. -/
theorem counts_transition {nowMs windows : Nat} {next : StreamStatus} {reason : Option String}
    {s : Stream Question} : Counts (s.transition context nowMs next reason) windows := trivial

theorem counts_proceed {nowMs : Nat} {event : StreamStatusEvent} {s : Stream Question}
    (hstage : s.stage = .announcing event) : Counts (s.proceed context nowMs event) 0 := by
  have hs : Counts s 0 := by unfold Counts; rw [hstage]; trivial
  unfold Stream.proceed
  cases event.current with
  | running => exact ⟨rfl, Nat.zero_le 1⟩
  | idle | stopped => exact hs
  | _ => trivial

theorem counts_step {s : Stream Question} {windows : Nat} (h : Counts s windows)
    (op : Op Frame Reply) :
    Counts (step kind context s op) ((effects s op).foldl countSilence windows) := by
  have hmoves := @moves_step _ _ _ kind context s op
  generalize step kind context s op = s', effects s op = out at hmoves
  cases hmoves with
  | stays => exact h
  | proceeds hstage => exact counts_proceed hstage
  | refused hstage => unfold Stream.refuse; split_ifs <;> trivial
  | failed hstage => exact counts_transition
  | connected hstage => split_ifs <;> exact counts_transition
  | subscribed hstage => exact counts_transition
  | reads hstage heffect =>
      rw [List.foldl_cons, List.foldl_nil, countSilence_of_reaction heffect]
      exact counts_react _
  | silent hstage =>
      unfold Counts at h
      rw [hstage] at h
      exact ⟨congrArg (· + 1) h.1, Nat.le_add_left 1 windows, Nat.succ_le_succ h.2⟩
  | beats hstage hfew =>
      unfold Counts at h
      rw [hstage] at h
      exact ⟨h.1, h.1 ▸ Nat.le_of_lt_succ hfew⟩
  | givesUp hstage hreason => exact counts_transition
  | delivers hstage =>
      unfold Counts at h
      rw [hstage] at h
      obtain rfl : windows = 0 := h
      exact counts_react _
  | loses hstage => exact counts_transition
  | wakes hstage => exact counts_transition

theorem counts_run {s : Stream Question} {windows : Nat} (h : Counts s windows)
    (ops : List (Op Frame Reply)) :
    Counts (final kind context s ops) ((trace kind context s ops).foldl countSilence windows) := by
  refine @Run.outputs_final _ _ _ _ effects (fun _ => True)
    (fun s tail t => ∀ windows, Counts s windows → Counts t (tail.foldl countSilence windows))
    (fun _ _ _ => trivial) (fun s _ windows hs => hs) ?_ ops s trivial windows h
  intro s op tail t _ ih windows hs
  rw [List.foldl_append]
  exact ih _ (counts_step hs op)

def quietContext : IngestStreamContext :=
  { chainId := 8453, endpoint := .ipc "/tmp/base.ipc", reconnectInitialMs := 500,
    reconnectMaxMs := 10000, heartbeatTimeoutSecs := 15 }

def twoSilentWindows : List (Op Value Empty) :=
  [.sent true, .connected (.ok ()), .sent true, .subscribed (.ok "0x1"), .sent true, .silence,
    .sent true, .silence].map fun answer => { clock := fun _ => 0, answer }

/-- **The heartbeat rule.** Whenever a heartbeat has been taken, one or two
windows in a row have been silent since the last message; after one the session
waits on, after the second it is given up for that reason. -/
theorem heartbeatRule {nowMs : Nat} {ops : List (Op Frame Reply)} {beat : Heartbeat}
    {idleIntervals : Nat}
    (hstage : (final kind context (start context nowMs) ops).stage = .beating beat idleIntervals)
    (clock : Nat → Nat) :
    (silentWindows (trace kind context (start context nowMs) ops) = 1
        ∧ (step kind context (final kind context (start context nowMs) ops)
          { clock, answer := .sent true }).stage = .awaiting 1)
      ∨ (silentWindows (trace kind context (start context nowMs) ops) = 2
        ∧ step kind context (final kind context (start context nowMs) ops)
            { clock, answer := .sent true }
          = (final kind context (start context nowMs) ops).fail context (clock 0)
              (.streamFailure kind.name kind.timeoutMessage)) := by
  have hstart : Counts (start context nowMs : Stream Question) 0 := trivial
  have hcounts : Counts (final kind context (start context nowMs) ops)
      (silentWindows (trace kind context (start context nowMs) ops)) := counts_run hstart ops
  unfold Counts at hcounts
  rw [hstage] at hcounts
  obtain ⟨hsame, hpos, hle⟩ := hcounts
  unfold step
  rw [hstage]
  dsimp only
  by_cases hmany : 2 ≤ idleIntervals
  · refine Or.inr ⟨by omega, ?_⟩
    rw [if_neg (by decide), if_pos hmany]
  · obtain rfl : idleIntervals = 1 := by omega
    exact Or.inl ⟨hsame, rfl⟩

/-- A connected stream of blocks with two silent windows. -/
theorem heartbeatRule_blocks :
    silentWindows (trace (blockStream quietContext) quietContext (start quietContext 0)
        twoSilentWindows) = 2
      ∧ ∀ clock : Nat → Nat, step (blockStream quietContext) quietContext
          (final (blockStream quietContext) quietContext (start quietContext 0) twoSilentWindows)
          { clock, answer := .sent true }
        = (final (blockStream quietContext) quietContext (start quietContext 0)
            twoSilentWindows).fail quietContext (clock 0)
              (.streamFailure "block_stream" "block subscription heartbeat timeout") := by
  refine ⟨rfl, fun clock => ?_⟩
  have hstage : (final (blockStream quietContext) quietContext (start quietContext 0)
      twoSilentWindows).stage = .beating (heartbeat (blockStream quietContext) quietContext 0) 2 :=
    rfl
  rcases heartbeatRule hstage clock with ⟨hone, -⟩ | ⟨-, hgiven⟩
  · cases hone
  · exact hgiven

/-! ## The end of the task -/

/-- The task waits for nothing any more. -/
def Stage.dead : Stage Question → Prop
  | .ended _ => True
  | .panicked => True
  | _ => False

/-- What the task does not outlive: the refusal of an announcement outside of a
session, and a panic. -/
def Fatal (kind : StreamKind Frame Question Reply) : Effect Frame Question Reply → Prop
  | .announced event accepted =>
      accepted = false ∧ announcedInSession kind event.current = false
  | .received clock frame => kind.onFrame clock frame = .panic
  | .replied clock question reply => kind.onReply clock question reply = .panic
  | _ => False

theorem fatal_iff_of_reaction {effect : Effect Frame Question Reply}
    {result : Reaction Question} (h : reaction kind effect = some result) :
    Fatal kind effect ↔ result = .panic := by
  cases effect with
  | received clock frame => obtain rfl := Option.some.inj h; exact Iff.rfl
  | replied clock question reply => obtain rfl := Option.some.inj h; exact Iff.rfl
  | _ => cases h

theorem dead_react_iff {nowMs : Nat} {s : Stream Question} (result : Reaction Question) :
    (s.react context nowMs result).stage.dead ↔ result = .panic := by
  cases result with
  | deliver events => cases events <;> exact ⟨False.elim, nofun⟩
  | panic => exact ⟨fun _ => rfl, fun _ => trivial⟩
  | _ => exact ⟨False.elim, nofun⟩

theorem not_dead_of_inSession {stage : Stage Question} (h : stage.inSession) : ¬ stage.dead := by
  cases stage with
  | ended | panicked => exact h.elim
  | _ => exact id

theorem not_dead_of_reading {stage : Stage Question} (h : stage.reading) : ¬ stage.dead := by
  cases stage with
  | ended | panicked => exact h.elim
  | _ => exact id

theorem not_dead_transition {nowMs : Nat} {next : StreamStatus} {reason : Option String}
    {s : Stream Question} : ¬ (s.transition context nowMs next reason).stage.dead := id

theorem not_dead_fail {nowMs : Nat} {error : IngestError} {s : Stream Question} :
    ¬ (s.fail context nowMs error).stage.dead := not_dead_transition

theorem dead_refuse_iff {nowMs : Nat} {event : StreamStatusEvent} {s : Stream Question} :
    (s.refuse kind context nowMs event).stage.dead
      ↔ Fatal kind (.announced event false) := by
  unfold Stream.refuse
  split_ifs with hsession
  · exact ⟨False.elim, fun h => by cases hsession.symm.trans h.2⟩
  · exact ⟨fun _ => ⟨rfl, Bool.eq_false_iff.mpr hsession⟩, fun _ => trivial⟩

theorem not_dead_proceed {nowMs : Nat} {event : StreamStatusEvent} {s : Stream Question}
    (hstage : s.stage = .announcing event) :
    ¬ (s.proceed context nowMs event).stage.dead := by
  have hs : ¬ s.stage.dead := by rw [hstage]; exact id
  unfold Stream.proceed
  cases event.current with
  | idle | stopped => exact hs
  | _ => exact id

/-- One answer ends the task exactly when it is fatal. -/
theorem dead_step_iff (s : Stream Question) (op : Op Frame Reply) :
    (step kind context s op).stage.dead
      ↔ s.stage.dead ∨ ∃ effect ∈ effects s op, Fatal kind effect := by
  have hmoves := @moves_step _ _ _ kind context s op
  generalize step kind context s op = s', effects s op = out at hmoves
  -- where nothing fatal is seen, neither the state before nor the one after is dead
  have halive : ∀ {effects : List (Effect Frame Question Reply)} {s' : Stream Question},
      ¬ s.stage.dead → ¬ s'.stage.dead → (∀ effect ∈ effects, ¬ Fatal kind effect) →
      (s'.stage.dead ↔ s.stage.dead ∨ ∃ effect ∈ effects, Fatal kind effect) := by
    intro effects s' hs hs' hnone
    refine ⟨fun h => absurd h hs', ?_⟩
    rintro (h | ⟨effect, hmem, h⟩)
    · exact absurd h hs
    · exact absurd h (hnone effect hmem)
  have hlive : ∀ {stage : Stage Question}, s.stage = stage → ¬ stage.dead → ¬ s.stage.dead := by
    rintro stage rfl h
    exact h
  cases hmoves with
  | stays => simp
  | @proceeds event hstage =>
      refine halive (hlive hstage id) (not_dead_proceed hstage) ?_
      simp [Fatal]
  | @refused event hstage =>
      rw [dead_refuse_iff]
      simp [hstage, Stage.dead]
  | failed hstage => exact halive (not_dead_of_inSession hstage) not_dead_fail (by simp)
  | connected hstage =>
      refine halive (hlive hstage id) ?_ (by simp)
      split_ifs <;> exact not_dead_transition
  | subscribed hstage => exact halive (hlive hstage id) not_dead_transition (by simp)
  | @reads effect result hstage heffect =>
      rw [dead_react_iff, ← fatal_iff_of_reaction heffect]
      simp [not_dead_of_reading hstage]
  | silent hstage => exact halive (hlive hstage id) id (by simp [Fatal])
  | beats hstage hfew => exact halive (hlive hstage id) id (by simp [Fatal])
  | givesUp hstage hreason => exact halive (hlive hstage id) not_dead_fail (by simp [Fatal])
  | @delivers event rest hstage =>
      refine halive (hlive hstage id) ?_ (by simp [Fatal])
      rw [dead_react_iff]
      exact nofun
  | loses hstage => exact halive (hlive hstage id) not_dead_fail (by simp [Fatal])
  | wakes hstage => exact halive (hlive hstage id) not_dead_transition (by simp [Fatal])

theorem dead_final_iff (nowMs : Nat) (ops : List (Op Frame Reply)) :
    (final kind context (start context nowMs) ops).stage.dead
      ↔ ∃ effect ∈ trace kind context (start context nowMs) ops, Fatal kind effect := by
  have hrun : (final kind context (start context nowMs) ops).stage.dead
      ↔ (start context nowMs : Stream Question).stage.dead
        ∨ ∃ effect ∈ trace kind context (start context nowMs) ops, Fatal kind effect := by
    refine @Run.outputs_final _ _ _ _ effects (fun _ => True)
      (fun s tail t => t.stage.dead ↔ s.stage.dead ∨ ∃ effect ∈ tail, Fatal kind effect)
      (fun _ _ _ => trivial) (fun s _ => by simp) ?_ ops _ trivial
    intro s op tail t _ ih
    rw [ih, dead_step_iff, or_assoc]
    simp only [List.mem_append, or_and_right, exists_or]
  exact hrun.trans (or_iff_right id)

/-- An announcement outside of a session was refused. -/
def RefusedOutside (kind : StreamKind Frame Question Reply)
    (trace : List (Effect Frame Question Reply)) : Prop :=
  ∃ event, .announced event false ∈ trace ∧ announcedInSession kind event.current = false

/-- No reaction of the stream panics. -/
structure StreamKind.Calm (kind : StreamKind Frame Question Reply) : Prop where
  onFrame : ∀ clock frame, kind.onFrame clock frame ≠ .panic
  onReply : ∀ clock question reply, kind.onReply clock question reply ≠ .panic

/-- A stream whose reactions do not panic outlives everything else. -/
theorem dead_final_iff_of_calm (hcalm : kind.Calm) (nowMs : Nat) (ops : List (Op Frame Reply)) :
    (final kind context (start context nowMs) ops).stage.dead
      ↔ RefusedOutside kind (trace kind context (start context nowMs) ops) := by
  rw [dead_final_iff]
  constructor
  · rintro ⟨effect, hmem, hfatal⟩
    cases effect with
    | announced event accepted =>
        obtain ⟨rfl, houtside⟩ := hfatal
        exact ⟨event, hmem, houtside⟩
    | received clock frame => exact absurd hfatal (hcalm.onFrame clock frame)
    | replied clock question reply => exact absurd hfatal (hcalm.onReply clock question reply)
    | _ => exact hfatal.elim
  · rintro ⟨event, hmem, houtside⟩
    exact ⟨_, hmem, rfl, houtside⟩

/-! ## Which reactions panic -/

theorem calm_logStream (events : EventCodec) : (logStream context events).Calm where
  onFrame clock payload := by
    show logReaction context events clock payload ≠ .panic
    unfold logReaction
    split <;> exact nofun
  onReply _ question := question.elim

theorem calm_blockStream : (blockStream context).Calm where
  onFrame clock payload := by
    show blockReaction context clock payload ≠ .panic
    unfold blockReaction
    split <;> exact nofun
  onReply _ question := question.elim

theorem calm_flashblocksStream (payloads : PayloadCodec) (events : EventCodec) (url : String) :
    (flashblocksStream context payloads events url).Calm where
  onFrame clock message := by
    have hbytes : ∀ bytes, bytesReaction context payloads events clock bytes ≠ .panic := by
      intro bytes
      unfold bytesReaction
      split <;> exact nofun
    cases message with
    | binary bytes => exact hbytes bytes
    | text text => exact hbytes _
    | _ => exact nofun
  onReply clock question reply := by
    unfold flashblocksStream
    dsimp only
    split <;> exact nofun

/-- A transaction with calldata whose text has eight bytes or more, and a
character across the eighth. -/
def Unreadable (materialized : Value) : Prop :=
  ∃ raw input, RawTransactionMessage.fromValue materialized = some raw
    ∧ raw.input = some input ∧ ¬ Cuttable (calldataText input)

theorem transactionReaction_eq_panic_iff (codec : CallCodec) (clock : Nat → Nat)
    (materialized : Value) :
    transactionReaction context codec clock materialized = .panic ↔ Unreadable materialized := by
  cases materialized with
  | object entries =>
      have hraw : RawTransactionMessage.fromValue (.object entries)
          = some (RawTransactionMessage.ofObject entries) := rfl
      unfold transactionReaction
      simp only [hraw, RawTransactionMessage.toTransaction, RawTransactionMessage.decode]
      have hfaults := @RawTransactionMessage.selector_faults_iff
        (RawTransactionMessage.ofObject entries)
      cases hselector : (RawTransactionMessage.ofObject entries).selector with
      | error fault =>
          obtain ⟨input, hinput, hcut⟩ := hfaults.mp ⟨fault, hselector⟩
          exact ⟨fun _ => ⟨_, input, hraw, hinput, hcut⟩, fun _ => rfl⟩
      | ok selector =>
          refine ⟨nofun, ?_⟩
          rintro ⟨raw, input, hsome, hinput, hcut⟩
          obtain rfl := Option.some.inj hsome
          obtain ⟨fault, hfault⟩ := hfaults.mpr ⟨input, hinput, hcut⟩
          cases hselector.symm.trans hfault
  | _ =>
      refine ⟨nofun, ?_⟩
      rintro ⟨raw, input, hsome, -⟩
      cases hsome

/-- The stream of transactions works on this value: it came as it is, or as
the answer to the look-up of a hash. -/
def Materializes
    (trace : List (Effect Value TxHash (Option (Except IngestError Value)))) (value : Value) :
    Prop :=
  (value.asStr = none ∧ ∃ clock, .received clock value ∈ trace)
    ∨ ∃ clock txHash, .replied clock txHash (some (.ok value)) ∈ trace

theorem Materializes.mono
    {t₁ t₂ : List (Effect Value TxHash (Option (Except IngestError Value)))} {value : Value}
    (h : Materializes t₁ value) (hsub : t₁ ⊆ t₂) : Materializes t₂ value := by
  rcases h with ⟨hnone, clock, hmem⟩ | ⟨clock, txHash, hmem⟩
  · exact .inl ⟨hnone, clock, hsub hmem⟩
  · exact .inr ⟨clock, txHash, hsub hmem⟩

theorem exists_fatal_transaction_iff (codec : CallCodec)
    (trace : List (Effect Value TxHash (Option (Except IngestError Value)))) :
    (∃ effect ∈ trace, Fatal (transactionStream context codec) effect)
      ↔ RefusedOutside (transactionStream context codec) trace
        ∨ ∃ value, Materializes trace value ∧ Unreadable value := by
  constructor
  · rintro ⟨effect, hmem, hfatal⟩
    cases effect with
    | announced event accepted =>
        obtain ⟨rfl, houtside⟩ := hfatal
        exact Or.inl ⟨event, hmem, houtside⟩
    | received clock payload =>
        unfold Fatal transactionStream at hfatal
        dsimp only at hfatal
        split at hfatal
        · cases hfatal
        · next hnone =>
            exact Or.inr ⟨payload, Or.inl ⟨hnone, clock, hmem⟩,
              (transactionReaction_eq_panic_iff codec clock payload).mp hfatal⟩
    | replied clock txHash reply =>
        unfold Fatal transactionStream at hfatal
        dsimp only at hfatal
        split at hfatal
        · next value =>
            exact Or.inr ⟨value, Or.inr ⟨clock, txHash, hmem⟩,
              (transactionReaction_eq_panic_iff codec clock value).mp hfatal⟩
        · cases hfatal
        · cases hfatal
    | _ => exact hfatal.elim
  · rintro (⟨event, hmem, houtside⟩ | ⟨value, ⟨hnone, clock, hmem⟩ | ⟨clock, txHash, hmem⟩, hbad⟩)
    · exact ⟨_, hmem, rfl, houtside⟩
    · refine ⟨_, hmem, ?_⟩
      unfold Fatal transactionStream
      dsimp only
      rw [hnone]
      exact (transactionReaction_eq_panic_iff codec clock value).mpr hbad
    · exact ⟨_, hmem, (transactionReaction_eq_panic_iff codec clock value).mpr hbad⟩

/-- **What ends a stream.** The tasks of the log, block and Flashblocks streams
end exactly when the channel of the runtime refuses an announcement made outside
of a session: lost connections, messages that cannot be read, silence and a
closed channel of the engine only lead to another session. The task of the
transaction stream also ends when it works on a transaction whose calldata is
cut inside a character. -/
theorem streamTasks_end_iff (context : IngestStreamContext) (events : EventCodec)
    (calls : CallCodec) (payloads : PayloadCodec) (url : String) (nowMs : Nat) :
    (∀ ops, (final (logStream context events) context (start context nowMs) ops).stage.dead
        ↔ RefusedOutside (logStream context events)
          (trace (logStream context events) context (start context nowMs) ops))
      ∧ (∀ ops, (final (blockStream context) context (start context nowMs) ops).stage.dead
        ↔ RefusedOutside (blockStream context)
          (trace (blockStream context) context (start context nowMs) ops))
      ∧ (∀ ops, (final (flashblocksStream context payloads events url) context
            (start context nowMs) ops).stage.dead
        ↔ RefusedOutside (flashblocksStream context payloads events url)
          (trace (flashblocksStream context payloads events url) context
            (start context nowMs) ops))
      ∧ ∀ ops,
        (final (transactionStream context calls) context (start context nowMs) ops).stage.dead
        ↔ RefusedOutside (transactionStream context calls)
            (trace (transactionStream context calls) context (start context nowMs) ops)
          ∨ ∃ value, Materializes
              (trace (transactionStream context calls) context (start context nowMs) ops) value
            ∧ Unreadable value := by
  refine ⟨fun ops => ?_, fun ops => ?_, fun ops => ?_, fun ops => ?_⟩
  · exact dead_final_iff_of_calm (calm_logStream events) nowMs ops
  · exact dead_final_iff_of_calm calm_blockStream nowMs ops
  · exact dead_final_iff_of_calm (calm_flashblocksStream payloads events url) nowMs ops
  · rw [dead_final_iff]
    exact exists_fatal_transaction_iff calls _

end Ingest

end BaseEngine
