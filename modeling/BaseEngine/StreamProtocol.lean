import BaseEngine.Lib.Backoff
import BaseEngine.Streams
import Mathlib.Data.List.Chain

/-!
# The protocol of a stream

What the events of the runtime tell about a stream, in every run of it, whatever
the world answers.

The announced changes of status form one chain: each starts where the one before
ended, and follows the edges of `Follows`. There is no edge to `stopped`: the
session never returns without an error, so that the branch of the source that
announces the end of a stream is dead. The waits between two sessions are those
of an exponential backoff that a session which ran well does not reset.

Both are proved from what a stage lets come next (`Expects`, `upcoming`), over
the moves of the machine.
-/

namespace BaseEngine

open Fallible

namespace Ingest

variable {Frame Question Reply : Type} {kind : StreamKind Frame Question Reply}
  {context : IngestStreamContext}

/-! ## Stages and statuses -/

/-- The stage goes with the status, and an announcement with the context. -/
def Stream.Fits (context : IngestStreamContext) (s : Stream Question) : Prop :=
  match s.stage with
  | .announcing event => event.current = s.status ∧ event.current ≠ .idle
      ∧ event.current ≠ .stopped ∧ event.channel = context.channel
      ∧ event.chainId = context.chainId
  | .connecting => s.status = .connecting
  | .subscribing => s.status = .subscribing
  | .awaiting idleIntervals => s.status = .running ∧ idleIntervals ≤ 1
  | .beating _ idleIntervals => s.status = .running ∧ idleIntervals ≤ 2
  | .asking _ => s.status = .running
  | .delivering _ _ => s.status = .running
  | .sleeping _ => s.status = .backoff
  | .ended error => error = .runtimeEventDeliveryClosed
  | .panicked => True

namespace Stream

theorem fits_transition {nowMs : Nat} {next : StreamStatus} {reason : Option String}
    {s : Stream Question} (hidle : next ≠ .idle) (hstopped : next ≠ .stopped) :
    (s.transition context nowMs next reason).Fits context :=
  ⟨rfl, hidle, hstopped, rfl, rfl⟩

theorem fits_fail {nowMs : Nat} {error : IngestError} {s : Stream Question} :
    (s.fail context nowMs error).Fits context := fits_transition nofun nofun

theorem fits_react {nowMs : Nat} {s : Stream Question} (hstatus : s.status = .running)
    (result : Reaction Question) : (s.react context nowMs result).Fits context := by
  cases result with
  | deliver events =>
      cases events with
      | nil => exact ⟨hstatus, Nat.zero_le 1⟩
      | cons event rest => exact hstatus
  | fail error => exact fits_fail
  | ask question => exact hstatus
  | panic => trivial

theorem fits_refuse {nowMs : Nat} {event : StreamStatusEvent} {s : Stream Question} :
    (s.refuse kind context nowMs event).Fits context := by
  unfold refuse
  split_ifs
  · exact fits_fail
  · exact rfl

theorem fits_proceed {nowMs : Nat} {event : StreamStatusEvent} {s : Stream Question}
    (hfits : s.Fits context) (hstage : s.stage = .announcing event) :
    (s.proceed context nowMs event).Fits context := by
  unfold Fits at hfits
  rw [hstage] at hfits
  obtain ⟨hcurrent, hidle, hstopped, -, -⟩ := hfits
  unfold proceed
  cases hnext : event.current with
  | idle => exact absurd hnext hidle
  | stopped => exact absurd hnext hstopped
  | connecting => exact hcurrent.symm.trans hnext
  | subscribing => exact hcurrent.symm.trans hnext
  | running => exact ⟨hcurrent.symm.trans hnext, Nat.zero_le 1⟩
  | backoff => exact hcurrent.symm.trans hnext
  | reconnecting => exact fits_transition nofun nofun

/-- A message is worked on in a running session. -/
theorem Fits.running {s : Stream Question} (hfits : s.Fits context) (hstage : s.stage.reading) :
    s.status = .running := by
  unfold Fits at hfits
  cases hs : s.stage with
  | awaiting idleIntervals => rw [hs] at hfits; exact hfits.1
  | asking question => rw [hs] at hfits; exact hfits
  | _ => rw [hs] at hstage; exact hstage.elim

theorem fits_step {s : Stream Question} (op : Op Frame Reply) (hfits : s.Fits context) :
    (step kind context s op).Fits context := by
  have hmoves := @moves_step _ _ _ kind context s op
  generalize step kind context s op = s', effects s op = out at hmoves
  cases hmoves with
  | stays => exact hfits
  | proceeds hstage => exact fits_proceed hfits hstage
  | refused hstage => exact fits_refuse
  | failed hstage => exact fits_fail
  | connected hstage => split_ifs <;> exact fits_transition nofun nofun
  | subscribed hstage => exact fits_transition nofun nofun
  | reads hstage heffect => exact fits_react (hfits.running hstage) _
  | silent hstage =>
      unfold Fits at hfits
      rw [hstage] at hfits
      exact ⟨hfits.1, Nat.succ_le_succ hfits.2⟩
  | beats hstage hfew =>
      unfold Fits at hfits
      rw [hstage] at hfits
      exact ⟨hfits.1, Nat.le_of_lt_succ hfew⟩
  | givesUp hstage hreason => exact fits_fail
  | delivers hstage =>
      unfold Fits at hfits
      rw [hstage] at hfits
      exact fits_react hfits _
  | loses hstage => exact fits_fail
  | wakes hstage => exact fits_transition nofun nofun

theorem fits_start (nowMs : Nat) : (start context nowMs : Stream Question).Fits context :=
  fits_transition nofun nofun

end Stream

/-! ## The chain of announcements -/

/-- The announcements of a trace, whether taken or not. -/
def announcements (trace : List (Effect Frame Question Reply)) : List StreamStatusEvent :=
  trace.filterMap fun effect =>
    match effect with
    | .announced event _ => some event
    | _ => none

/-- The changes of status that occur. -/
inductive Follows (kind : StreamKind Frame Question Reply) : StreamStatus → StreamStatus → Prop
  | subscribing (hopens : kind.opensSubscription = true) : Follows kind .connecting .subscribing
  | connected (hopens : kind.opensSubscription = false) : Follows kind .connecting .running
  | subscribed : Follows kind .subscribing .running
  | connectFailed : Follows kind .connecting .backoff
  | subscribeFailed : Follows kind .subscribing .backoff
  | sessionFailed : Follows kind .running .backoff
  | slept : Follows kind .backoff .reconnecting
  | again : Follows kind .reconnecting .connecting

/-- One announcement after another: it starts where the other ended, and a
reconnection repeats the reason of the backoff. -/
structure Succeeds (kind : StreamKind Frame Question Reply) (event next : StreamStatusEvent) :
    Prop where
  previous : next.previous = some event.current
  follows : Follows kind event.current next.current
  reason : next.current = .reconnecting → next.reason = event.reason

/-- The next announcement from a stage. -/
def Expects (kind : StreamKind Frame Question Reply) (s : Stream Question)
    (next : StreamStatusEvent) : Prop :=
  match s.stage with
  | .announcing event => next = event
  | .sleeping reason => next.previous = some .backoff ∧ next.current = .reconnecting
      ∧ next.reason = reason
  | .ended _ => False
  | .panicked => False
  | _ => next.previous = some s.status ∧ Follows kind s.status next.current
      ∧ next.current ≠ .reconnecting

theorem expects_transition {nowMs : Nat} {current : StreamStatus} {reason : Option String}
    {s : Stream Question} {next : StreamStatusEvent}
    (h : Expects kind (s.transition context nowMs current reason) next) :
    next.previous = some s.status ∧ next.current = current ∧ next.reason = reason
      ∧ next.channel = context.channel ∧ next.chainId = context.chainId := by
  obtain rfl : next = _ := h
  exact ⟨rfl, rfl, rfl, rfl, rfl⟩

/-- The stages of a session. -/
def Stage.live : Stage Question → Prop
  | .connecting => True
  | .subscribing => True
  | .awaiting _ => True
  | .beating _ _ => True
  | .asking _ => True
  | .delivering _ _ => True
  | _ => False

theorem Stage.live_of_inSession {stage : Stage Question} (h : stage.inSession) : stage.live := by
  cases stage with
  | connecting | subscribing | awaiting | asking => trivial
  | _ => exact h.elim

theorem Stage.live_of_reading {stage : Stage Question} (h : stage.reading) : stage.live := by
  cases stage with
  | awaiting | asking => trivial
  | _ => exact h.elim

theorem expects_iff_of_live {s : Stream Question} (hlive : s.stage.live)
    {next : StreamStatusEvent} :
    Expects kind s next ↔ next.previous = some s.status ∧ Follows kind s.status next.current
      ∧ next.current ≠ .reconnecting := by
  unfold Expects
  cases hstage : s.stage with
  | announcing | sleeping | ended | panicked => rw [hstage] at hlive; exact hlive.elim
  | _ => exact Iff.rfl

/-- Within a session the next announcement can be that of a backoff. -/
theorem follows_backoff {s : Stream Question} (hfits : s.Fits context) (hlive : s.stage.live) :
    Follows kind s.status .backoff := by
  unfold Stream.Fits at hfits
  cases hstage : s.stage with
  | connecting => rw [hstage] at hfits; rw [hfits]; exact .connectFailed
  | subscribing => rw [hstage] at hfits; rw [hfits]; exact .subscribeFailed
  | awaiting | beating => rw [hstage] at hfits; rw [hfits.1]; exact .sessionFailed
  | asking | delivering => rw [hstage] at hfits; rw [hfits]; exact .sessionFailed
  | _ => rw [hstage] at hlive; exact hlive.elim

theorem expects_of_fail {nowMs : Nat} {error : IngestError} {s : Stream Question}
    {next : StreamStatusEvent} (hfits : s.Fits context) (hlive : s.stage.live)
    (h : Expects kind (s.fail context nowMs error) next) : Expects kind s next := by
  obtain ⟨hprevious, hcurrent, -⟩ := expects_transition h
  refine (expects_iff_of_live hlive).mpr ⟨hprevious, ?_, ?_⟩
  · rw [hcurrent]
    exact follows_backoff hfits hlive
  · rw [hcurrent]
    exact nofun

theorem expects_waitFor_iff {stage : Stage Question} (hlive : stage.live) {s : Stream Question}
    {next : StreamStatusEvent} :
    Expects kind (s.waitFor stage) next ↔ next.previous = some s.status
      ∧ Follows kind s.status next.current ∧ next.current ≠ .reconnecting :=
  @expects_iff_of_live _ _ _ kind (s.waitFor stage) hlive next

/-- Waiting for something else in the session changes nothing. -/
theorem expects_of_waitFor (stage : Stage Question) (hstage : stage.live) {s : Stream Question}
    {next : StreamStatusEvent} (hlive : s.stage.live)
    (h : Expects kind (s.waitFor stage) next) : Expects kind s next :=
  (expects_iff_of_live hlive).mpr ((expects_waitFor_iff hstage).mp h)

theorem expects_of_react {nowMs : Nat} {s : Stream Question} {result : Reaction Question}
    {next : StreamStatusEvent} (hfits : s.Fits context) (hlive : s.stage.live)
    (h : Expects kind (s.react context nowMs result) next) : Expects kind s next := by
  cases result with
  | deliver events =>
      cases events with
      | nil => exact expects_of_waitFor (.awaiting 0) trivial hlive h
      | cons event rest => exact expects_of_waitFor (.delivering event rest) trivial hlive h
  | fail error => exact expects_of_fail hfits hlive h
  | ask question => exact expects_of_waitFor (.asking question) trivial hlive h
  | panic => exact h.elim

/-- What comes after an announcement that was taken. -/
theorem succeeds_of_proceed {nowMs : Nat} {event next : StreamStatusEvent} {s : Stream Question}
    (hfits : s.Fits context) (hstage : s.stage = .announcing event)
    (h : Expects kind (s.proceed context nowMs event) next) : Succeeds kind event next := by
  unfold Stream.Fits at hfits
  rw [hstage] at hfits
  obtain ⟨hstatus, hidle, hstopped, -, -⟩ := hfits
  have hsame : ∀ stage : Stage Question, stage.live → Expects kind (s.waitFor stage) next →
      Succeeds kind event next := by
    intro stage hlive hnext
    obtain ⟨hprevious, hfollows, hreason⟩ := (expects_waitFor_iff hlive).mp hnext
    rw [← hstatus] at hprevious hfollows
    exact ⟨hprevious, hfollows, fun heq => absurd heq hreason⟩
  unfold Stream.proceed at h
  cases hcurrent : event.current with
  | idle => exact absurd hcurrent hidle
  | stopped => exact absurd hcurrent hstopped
  | connecting => rw [hcurrent] at h; exact hsame .connecting trivial h
  | subscribing => rw [hcurrent] at h; exact hsame .subscribing trivial h
  | running => rw [hcurrent] at h; exact hsame (.awaiting 0) trivial h
  | backoff =>
      rw [hcurrent] at h
      obtain ⟨hprevious, hnext, hreason⟩ := h
      refine ⟨hprevious.trans (congrArg some hcurrent.symm), ?_, fun _ => hreason⟩
      rw [hcurrent, hnext]
      exact .slept
  | reconnecting =>
      rw [hcurrent] at h
      obtain ⟨hprevious, hnext, -⟩ := expects_transition h
      refine ⟨hprevious.trans (congrArg some hstatus.symm), ?_, ?_⟩
      · rw [hcurrent, hnext]
        exact .again
      · rw [hnext]
        exact nofun

theorem succeeds_of_refuse {nowMs : Nat} {event next : StreamStatusEvent} {s : Stream Question}
    (hfits : s.Fits context) (hstage : s.stage = .announcing event)
    (h : Expects kind (s.refuse kind context nowMs event) next) : Succeeds kind event next := by
  unfold Stream.Fits at hfits
  rw [hstage] at hfits
  unfold Stream.refuse at h
  split_ifs at h with hsession
  · obtain ⟨hprevious, hnext, -⟩ := expects_transition h
    refine ⟨hprevious.trans (congrArg some hfits.1.symm), ?_, ?_⟩
    · rw [hnext]
      cases hcurrent : event.current with
      | connecting => exact .connectFailed
      | subscribing => exact .subscribeFailed
      | running => exact .sessionFailed
      | _ => rw [hcurrent] at hsession; cases hsession
    · rw [hnext]
      exact nofun
  · exact h.elim

theorem announcements_append (t₁ t₂ : List (Effect Frame Question Reply)) :
    announcements (t₁ ++ t₂) = announcements t₁ ++ announcements t₂ := List.filterMap_append ..

theorem announcements_of_reaction {effect : Effect Frame Question Reply}
    {result : Reaction Question} (h : reaction kind effect = some result) :
    announcements [effect] = [] := by
  cases effect with
  | received | replied => rfl
  | _ => cases h

/-- The announcements from a state on: they are a chain, and the first is the
one that the stage lets come next. -/
def Announces (kind : StreamKind Frame Question Reply) (context : IngestStreamContext)
    (s : Stream Question) (events : List StreamStatusEvent) : Prop :=
  events.IsChain (Succeeds kind) ∧ (∀ event ∈ events.head?, Expects kind s event)
    ∧ ∀ event ∈ events, event.current ≠ .idle ∧ event.current ≠ .stopped
      ∧ event.channel = context.channel ∧ event.chainId = context.chainId

theorem announces_nil (s : Stream Question) : Announces kind context s [] := by
  refine ⟨.nil, ?_, ?_⟩
  · intro event hevent
    exact absurd hevent (Option.not_mem_none event)
  · intro event hevent
    exact absurd hevent List.not_mem_nil

/-- A step that announces nothing. -/
theorem Announces.of_expects {s s' : Stream Question} {quiet events : List StreamStatusEvent}
    (h : Announces kind context s' events) (hquiet : quiet = [])
    (hexpects : ∀ event, Expects kind s' event → Expects kind s event) :
    Announces kind context s (quiet ++ events) := by
  subst hquiet
  exact ⟨h.1, fun event hevent => hexpects event (h.2.1 event hevent), h.2.2⟩

theorem Announces.cons {s s' : Stream Question} {event : StreamStatusEvent}
    {events : List StreamStatusEvent} (hfits : s.Fits context)
    (hstage : s.stage = .announcing event) (h : Announces kind context s' events)
    (hsucceeds : ∀ next, Expects kind s' next → Succeeds kind event next) :
    Announces kind context s (event :: events) := by
  refine ⟨?_, ?_, ?_⟩
  · refine List.isChain_cons.mpr ⟨?_, h.1⟩
    intro next hnext
    exact hsucceeds next (h.2.1 next hnext)
  · rintro next hnext
    obtain rfl := Option.some.inj hnext
    unfold Expects
    rw [hstage]
  · intro next hnext
    rcases List.mem_cons.mp hnext with rfl | hnext
    · unfold Stream.Fits at hfits
      rw [hstage] at hfits
      exact hfits.2
    · exact h.2.2 next hnext

/-- One answer in front of a run. -/
theorem announces_step {s : Stream Question} (hfits : s.Fits context) (op : Op Frame Reply)
    {tail : List (Effect Frame Question Reply)}
    (h : Announces kind context (step kind context s op) (announcements tail)) :
    Announces kind context s (announcements (effects s op ++ tail)) := by
  have hmoves := @moves_step _ _ _ kind context s op
  rw [announcements_append]
  generalize step kind context s op = s', effects s op = out at hmoves h
  cases hmoves with
  | stays => exact h
  | proceeds hstage => exact h.cons hfits hstage fun _ => succeeds_of_proceed hfits hstage
  | refused hstage => exact h.cons hfits hstage fun _ => succeeds_of_refuse hfits hstage
  | failed hstage =>
      exact h.of_expects rfl fun _ => expects_of_fail hfits (Stage.live_of_inSession hstage)
  | connected hstage =>
      unfold Stream.Fits at hfits
      rw [hstage] at hfits
      refine h.of_expects rfl fun next hnext => ?_
      rw [expects_iff_of_live (by rw [hstage]; trivial), hfits]
      split_ifs at hnext with hopens
      · obtain ⟨hprevious, hcurrent, -⟩ := expects_transition hnext
        rw [hcurrent]
        exact ⟨hfits ▸ hprevious, .subscribing hopens, nofun⟩
      · obtain ⟨hprevious, hcurrent, -⟩ := expects_transition hnext
        rw [hcurrent]
        exact ⟨hfits ▸ hprevious, .connected (Bool.eq_false_iff.mpr hopens), nofun⟩
  | subscribed hstage =>
      unfold Stream.Fits at hfits
      rw [hstage] at hfits
      refine h.of_expects rfl fun next hnext => ?_
      obtain ⟨hprevious, hcurrent, -⟩ := expects_transition hnext
      rw [expects_iff_of_live (by rw [hstage]; trivial), hcurrent, hfits]
      exact ⟨hfits ▸ hprevious, .subscribed, nofun⟩
  | reads hstage heffect =>
      exact h.of_expects (announcements_of_reaction heffect) fun _ =>
        expects_of_react hfits (Stage.live_of_reading hstage)
  | silent hstage =>
      exact h.of_expects rfl fun _ =>
        expects_of_waitFor (.beating _ _) trivial (by rw [hstage]; trivial)
  | beats hstage hfew =>
      exact h.of_expects rfl fun _ =>
        expects_of_waitFor (.awaiting _) trivial (by rw [hstage]; trivial)
  | givesUp hstage hreason =>
      exact h.of_expects rfl fun _ => expects_of_fail hfits (by rw [hstage]; trivial)
  | delivers hstage =>
      exact h.of_expects rfl fun _ => expects_of_react hfits (by rw [hstage]; trivial)
  | loses hstage =>
      exact h.of_expects rfl fun _ => expects_of_fail hfits (by rw [hstage]; trivial)
  | wakes hstage =>
      unfold Stream.Fits at hfits
      rw [hstage] at hfits
      refine h.of_expects rfl fun next hnext => ?_
      obtain ⟨hprevious, hcurrent, hreason, -⟩ := expects_transition hnext
      unfold Expects
      rw [hstage]
      exact ⟨hfits ▸ hprevious, hcurrent, hreason⟩

/-- **The status protocol.** In every run of a stream the announced changes of
status form one chain from `idle` on, along the edges of `Follows`; none of them
is the end of the stream, and all carry the chain and the channel of the main
endpoint. -/
theorem statusProtocol (kind : StreamKind Frame Question Reply) (context : IngestStreamContext)
    (nowMs : Nat) (ops : List (Op Frame Reply)) :
    (announcements (trace kind context (start context nowMs) ops)).IsChain (Succeeds kind)
      ∧ (∀ event ∈ (announcements (trace kind context (start context nowMs) ops)).head?,
        event.previous = some .idle ∧ event.current = .connecting)
      ∧ ∀ event ∈ announcements (trace kind context (start context nowMs) ops),
        event.current ≠ .stopped ∧ event.channel = context.channel
          ∧ event.chainId = context.chainId := by
  have hrun : Announces kind context (start context nowMs)
      (announcements (trace kind context (start context nowMs) ops)) :=
    @Run.outputs_final _ _ _ _ _ (Stream.Fits context)
      (fun s tail _ => Announces kind context s (announcements tail))
      (fun s op hfits => Stream.fits_step op hfits)
      (fun s _ => announces_nil s)
      (fun s op tail _ hfits h => announces_step hfits op h)
      ops _ (Stream.fits_start nowMs)
  obtain ⟨hchain, hfirst, hall⟩ := hrun
  refine ⟨hchain, fun event hevent => ?_, fun event hevent => (hall event hevent).2⟩
  obtain ⟨hprevious, hcurrent, -⟩ := expects_transition (hfirst event hevent)
  exact ⟨hprevious, hcurrent⟩

/-! ## The waits between sessions -/

theorem reconnect_le_of_validate {config : IngestConfig} (h : config.validate = .ok ()) :
    config.reconnectInitialMs ≤ config.reconnectMaxMs := by
  obtain ⟨_, -, h⟩ := bind_eq_ok_iff.mp h
  obtain ⟨_, -, h⟩ := bind_eq_ok_iff.mp h
  obtain ⟨_, -, h⟩ := bind_eq_ok_iff.mp h
  obtain ⟨_, -, h⟩ := bind_eq_ok_iff.mp h
  obtain ⟨_, -, h⟩ := bind_eq_ok_iff.mp h
  obtain ⟨_, hbackoff, -⟩ := bind_eq_ok_iff.mp h
  unfold validateBackoff at hbackoff
  split_ifs at hbackoff with hzero hless
  exact Nat.le_of_not_lt hless

/-- The waits of a trace. -/
def sleeps (trace : List (Effect Frame Question Reply)) : List Nat :=
  trace.filterMap fun effect =>
    match effect with
    | .slept ms => some ms
    | _ => none

theorem sleeps_append (t₁ t₂ : List (Effect Frame Question Reply)) :
    sleeps (t₁ ++ t₂) = sleeps t₁ ++ sleeps t₂ := List.filterMap_append ..

theorem sleeps_of_reaction {effect : Effect Frame Question Reply} {result : Reaction Question}
    (h : reaction kind effect = some result) : sleeps [effect] = [] := by
  cases effect with
  | received | replied => rfl
  | _ => cases h

/-- The next wait: it doubles once a reconnection has been announced. -/
def upcoming (context : IngestStreamContext) (s : Stream Question) : Nat :=
  match s.stage with
  | .announcing event =>
      if event.current = .reconnecting then Backoff.next 64 context.reconnectMaxMs s.backoffMs
      else s.backoffMs
  | _ => s.backoffMs

/-- The waits from a state on; a task that has ended waits no more. -/
def WaitsFrom (context : IngestStreamContext) (s : Stream Question) (waits : List Nat) : Prop :=
  (∃ n, waits = Backoff.waits 64 (upcoming context s) context.reconnectMaxMs n)
    ∧ ((∃ error, s.stage = .ended error) → waits = [])

theorem WaitsFrom.of_upcoming {s s' : Stream Question} {waits : List Nat}
    (h : WaitsFrom context s' waits) (hupcoming : upcoming context s' = upcoming context s)
    (halive : ∀ error, s.stage ≠ .ended error) : WaitsFrom context s waits := by
  refine ⟨hupcoming ▸ h.1, ?_⟩
  rintro ⟨error, hended⟩
  exact absurd hended (halive error)

theorem upcoming_of_live {s : Stream Question} (hlive : s.stage.live) :
    upcoming context s = s.backoffMs := by
  unfold upcoming
  cases hstage : s.stage with
  | announcing event => rw [hstage] at hlive; exact hlive.elim
  | _ => rfl

/-- What a session does leaves the next wait as it is. -/
theorem WaitsFrom.of_live {s s' : Stream Question} {waits : List Nat}
    (h : WaitsFrom context s' waits) (hlive : s.stage.live)
    (hupcoming : upcoming context s' = s.backoffMs) : WaitsFrom context s waits := by
  refine h.of_upcoming (hupcoming.trans (upcoming_of_live hlive).symm) ?_
  intro error hended
  rw [hended] at hlive
  exact hlive.elim

theorem upcoming_transition {nowMs : Nat} {next : StreamStatus} {reason : Option String}
    {s : Stream Question} (h : next ≠ .reconnecting) :
    upcoming context (s.transition context nowMs next reason) = s.backoffMs := by
  unfold upcoming Stream.transition
  exact if_neg h

theorem upcoming_react {nowMs : Nat} {s : Stream Question} (result : Reaction Question) :
    upcoming context (s.react context nowMs result) = s.backoffMs := by
  cases result with
  | deliver events => cases events <;> rfl
  | fail error => exact upcoming_transition nofun
  | ask question => rfl
  | panic => rfl

theorem upcoming_announcing {event : StreamStatusEvent} {s : Stream Question}
    (hstage : s.stage = .announcing event) :
    upcoming context s = if event.current = .reconnecting
      then Backoff.next 64 context.reconnectMaxMs s.backoffMs else s.backoffMs := by
  unfold upcoming
  rw [hstage]

theorem upcoming_proceed {nowMs : Nat} {event : StreamStatusEvent} {s : Stream Question}
    (hstage : s.stage = .announcing event) (hidle : event.current ≠ .idle)
    (hstopped : event.current ≠ .stopped) :
    upcoming context (s.proceed context nowMs event) = upcoming context s := by
  rw [upcoming_announcing hstage]
  unfold Stream.proceed
  cases hcurrent : event.current with
  | idle => exact absurd hcurrent hidle
  | stopped => exact absurd hcurrent hstopped
  | reconnecting => exact upcoming_transition nofun
  | _ => rfl

theorem waitsFrom_refuse {nowMs : Nat} {event : StreamStatusEvent} {s : Stream Question}
    {waits : List Nat} (hstage : s.stage = .announcing event)
    (h : WaitsFrom context (s.refuse kind context nowMs event) waits) :
    WaitsFrom context s waits := by
  have halive : ∀ error, s.stage ≠ .ended error := by
    intro error hended
    rw [hstage] at hended
    cases hended
  unfold Stream.refuse at h
  split_ifs at h with hsession
  · refine h.of_upcoming ?_ halive
    have hcurrent : event.current ≠ .reconnecting := by
      intro hcurrent
      rw [hcurrent] at hsession
      cases hsession
    rw [upcoming_announcing hstage, if_neg hcurrent]
    exact upcoming_transition nofun
  · refine ⟨⟨0, h.2 ⟨_, rfl⟩⟩, ?_⟩
    rintro ⟨error, hended⟩
    exact absurd hended (halive error)

/-- One answer in front of a run. -/
theorem waitsFrom_step {s : Stream Question} (hfits : s.Fits context) (op : Op Frame Reply)
    {tail : List (Effect Frame Question Reply)}
    (h : WaitsFrom context (step kind context s op) (sleeps tail)) :
    WaitsFrom context s (sleeps (effects s op ++ tail)) := by
  have hmoves := @moves_step _ _ _ kind context s op
  rw [sleeps_append]
  generalize step kind context s op = s', effects s op = out at hmoves h
  cases hmoves with
  | stays => exact h
  | proceeds hstage =>
      unfold Stream.Fits at hfits
      rw [hstage] at hfits
      refine h.of_upcoming (upcoming_proceed hstage hfits.2.1 hfits.2.2.1) ?_
      intro error hended
      rw [hstage] at hended
      cases hended
  | refused hstage => exact waitsFrom_refuse hstage h
  | failed hstage => exact h.of_live (Stage.live_of_inSession hstage) (upcoming_transition nofun)
  | connected hstage =>
      refine h.of_live (by rw [hstage]; trivial) ?_
      split_ifs <;> exact upcoming_transition nofun
  | subscribed hstage => exact h.of_live (by rw [hstage]; trivial) (upcoming_transition nofun)
  | reads hstage heffect =>
      rw [sleeps_of_reaction heffect]
      exact h.of_live (Stage.live_of_reading hstage) (upcoming_react _)
  | silent hstage => exact h.of_live (by rw [hstage]; trivial) rfl
  | beats hstage hfew => exact h.of_live (by rw [hstage]; trivial) rfl
  | givesUp hstage hreason => exact h.of_live (by rw [hstage]; trivial) (upcoming_transition nofun)
  | delivers hstage => exact h.of_live (by rw [hstage]; trivial) (upcoming_react _)
  | loses hstage => exact h.of_live (by rw [hstage]; trivial) (upcoming_transition nofun)
  | wakes hstage =>
      -- the wait just made, and from now on the waits after its double
      obtain ⟨⟨n, hn⟩, -⟩ := h
      have hs : upcoming context s = s.backoffMs := by unfold upcoming; rw [hstage]
      refine ⟨⟨n + 1, ?_⟩, ?_⟩
      · rw [hs, hn]
        rfl
      · rintro ⟨error, hended⟩
        rw [hstage] at hended
        cases hended

/-- **The backoff schedule.** In every run of a stream of a validated
configuration the waits between its sessions are `initial`, `2 * initial`,
`4 * initial` and so on up to the maximum, however long the sessions in between
ran. -/
theorem backoffSchedule {config : IngestConfig} {pipeline : Pipeline}
    (hvalid : config.validate = .ok ()) (hword : config.reconnectMaxMs < 2 ^ 64)
    (hpipeline : Pipeline.fromConfig config = .ok pipeline)
    (kind : StreamKind Frame Question Reply) (nowMs : Nat) (ops : List (Op Frame Reply)) :
    ∃ n, sleeps (trace kind pipeline.context (start pipeline.context nowMs) ops)
      = (List.range n).map fun k => min (config.reconnectInitialMs * 2 ^ k)
          config.reconnectMaxMs := by
  have hrun : WaitsFrom pipeline.context (start pipeline.context nowMs)
      (sleeps (trace kind pipeline.context (start pipeline.context nowMs) ops)) :=
    @Run.outputs_final _ _ _ _ _ (Stream.Fits pipeline.context)
      (fun s tail _ => WaitsFrom pipeline.context s (sleeps tail))
      (fun s op hfits => Stream.fits_step op hfits)
      (fun s _ => ⟨⟨0, rfl⟩, fun _ => rfl⟩)
      (fun s op tail _ hfits h => waitsFrom_step hfits op h)
      ops _ (Stream.fits_start nowMs)
  obtain ⟨n, hn⟩ := hrun.1
  obtain ⟨hinitial, hmax⟩ := Pipeline.waits_of_fromConfig hpipeline
  have hordered := reconnect_le_of_validate hvalid
  refine ⟨n, hn.trans ?_⟩
  rw [← hinitial, ← hmax] at hordered ⊢
  rw [← hmax] at hword
  exact Backoff.waits_eq_map hordered hword n

/-- A Base node behind a websocket, with everything else as it is by default. -/
def baseNode : IngestConfig := { channel := .ws, wsUrl := some "ws://127.0.0.1:8546" }

def baseContext : IngestStreamContext :=
  { chainId := 8453, endpoint := .ws "ws://127.0.0.1:8546", reconnectInitialMs := 500,
    reconnectMaxMs := 10000, heartbeatTimeoutSecs := 15 }

def refusedConnection : List (Op Json.Value Empty) :=
  [.sent true, .connected (.error (.alloyTransport "connection refused")), .sent true, .woke,
    .sent true].map fun answer => { clock := fun _ => 0, answer }

/-- Six refused connections, and the waits between them. -/
theorem baseNode_waits :
    sleeps (trace (blockStream baseContext) baseContext (start baseContext 0)
        (List.replicate 6 refusedConnection).flatten) = [500, 1000, 2000, 4000, 8000, 10000]
      ∧ ∃ n, sleeps (trace (blockStream baseContext) baseContext (start baseContext 0)
          (List.replicate 6 refusedConnection).flatten)
        = (List.range n).map fun k => min (baseNode.reconnectInitialMs * 2 ^ k)
            baseNode.reconnectMaxMs := by
  have hpipeline : Pipeline.fromConfig baseNode = .ok
      { context := baseContext, sources := [.transactions, .logs, .blocks],
        eventChannelCapacity := 4096, runtimeChannelCapacity := 512 } := by decide
  exact ⟨by decide, backoffSchedule (by decide) (by decide) hpipeline _ 0 _⟩

end Ingest

end BaseEngine
