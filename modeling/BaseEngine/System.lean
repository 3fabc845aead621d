import BaseEngine.Lib.Fifo
import BaseEngine.EngineRuns
import BaseEngine.StreamSessions

/-!
# The streams and the engine together

The tasks of the pipeline and the loop of the engine, joined by the two bounded
channels that `spawn` of `crates/ingest/src/pipeline.rs` makes. A send waits
while its channel is full and fails once the engine has left its loop, which
drops both receivers; a receiver finds its channel closed once every task is
over and nothing is left in the queue. Which task moves next is arbitrary.

`progress_step` says once what an action can do to the system: one task moves,
with or without a message in a channel, or the engine takes a turn. Everything
about runs of the system is proved from it.
-/

namespace BaseEngine

open Json

namespace Ingest

/-! ## The sources -/

/-- The libraries behind the streams. -/
structure Codecs where
  calls : CallCodec
  events : EventCodec
  payloads : PayloadCodec

namespace Source

def Frame : Source → Type
  | .transactions => Value
  | .logs => Value
  | .blocks => Value
  | .flashblocks _ => Message

def Question : Source → Type
  | .transactions => TxHash
  | .logs => Empty
  | .blocks => Empty
  | .flashblocks _ => List UInt8

def Reply : Source → Type
  | .transactions => Option (Except IngestError Value)
  | .logs => Empty
  | .blocks => Empty
  | .flashblocks _ => Except IngestError Unit

def kind (codecs : Codecs) (context : IngestStreamContext) :
    (source : Source) → StreamKind source.Frame source.Question source.Reply
  | .transactions => transactionStream context codecs.calls
  | .logs => logStream context codecs.events
  | .blocks => blockStream context
  | .flashblocks url => flashblocksStream context codecs.payloads codecs.events url

end Source

inductive RuntimeEvent where
  | heartbeat (heartbeat : Heartbeat)
  | streamStatus (event : StreamStatusEvent)

/-- What a task waits to send. -/
inductive Offer where
  | event (event : Event)
  | runtime (event : RuntimeEvent)

def Stream.offer? {Question : Type} (s : Stream Question) : Option Offer :=
  match s.stage with
  | .announcing event => some (.runtime (.streamStatus event))
  | .beating heartbeat _ => some (.runtime (.heartbeat heartbeat))
  | .delivering event _ => some (.event event)
  | _ => none

def Answer.sent? {Frame Reply : Type} : Answer Frame Reply → Option Bool
  | .sent accepted => some accepted
  | _ => none

instance Stage.decidableDead {Question : Type} (stage : Stage Question) : Decidable stage.dead :=
  match stage with
  | .ended _ => .isTrue trivial
  | .panicked => .isTrue trivial
  | .announcing _ => .isFalse id
  | .connecting => .isFalse id
  | .subscribing => .isFalse id
  | .awaiting _ => .isFalse id
  | .beating _ _ => .isFalse id
  | .asking _ => .isFalse id
  | .delivering _ _ => .isFalse id
  | .sleeping _ => .isFalse id

end Ingest

open Ingest

/-! ## The system -/

/-- What a process is built from. -/
structure Wiring where
  rt : Runtime
  pipeline : Pipeline
  codecs : Codecs

/-- The tasks, the channels and the engine; `traces` is what the tasks have
made observable. -/
structure System where
  streams : (source : Source) → Stream source.Question
  events : Fifo Source Ingest.Event
  runtime : Fifo Source RuntimeEvent
  engine : Engine Storage
  traces : (source : Source) → List (Effect source.Frame source.Question source.Reply)

/-- The next move: a task gets an answer, the engine takes from one of the
channels or finds it closed, or ctrl-c. -/
inductive Action where
  | task (source : Source) (op : Op source.Frame source.Reply)
  | takeEvent (persistLog : Except ErrorChain Unit) (pools : List V2PoolState) (answers : Answers)
  | takeRuntimeEvent
  | eventsClosed
  | runtimeEventsClosed
  | ctrlC (listening : Except ErrorChain Unit)

namespace System

def hasRoom (sys : System) : Offer → Bool
  | .event _ => sys.events.hasRoom
  | .runtime _ => sys.runtime.hasRoom

def push (sys : System) (source : Source) : Offer → System
  | .event event => { sys with events := sys.events.send source event }
  | .runtime event => { sys with runtime := sys.runtime.send source event }

/-- A signal reaches the loop. -/
def signal (w : Wiring) (sys : System) (signal : Signal Arrival) : System :=
  { sys with engine := w.rt.step sys.engine signal }

variable (w : Wiring)

def start (nowMs : Source → Nat) (book : PoolBook) (storage : Storage) : System :=
  { streams := fun source => Ingest.start w.pipeline.context (nowMs source)
    events := .empty w.pipeline.eventChannelCapacity
    runtime := .empty w.pipeline.runtimeChannelCapacity
    engine := Engine.start book storage
    traces := fun _ => [] }

/-- The task of the source takes the answer. -/
def advance (sys : System) (source : Source) (op : Op source.Frame source.Reply) : System :=
  { sys with
    streams := Function.update sys.streams source
      (Ingest.step (source.kind w.codecs w.pipeline.context) w.pipeline.context
        (sys.streams source) op)
    traces := Function.update sys.traces source
      (sys.traces source ++ effects (sys.streams source) op) }

/-- Every task of the pipeline is over. -/
def Abandoned (sys : System) : Prop :=
  ∀ source ∈ w.pipeline.sources, (sys.streams source).stage.dead

instance (sys : System) : Decidable (sys.Abandoned w) :=
  inferInstanceAs (Decidable (∀ source ∈ w.pipeline.sources, (sys.streams source).stage.dead))

/-- A task of the pipeline moves. An answer to a send has to be one that the
channel can give. The receivers count as dropped from the moment the loop is
left; in the source they live until `main` returns, so that a send between the
two may still find room in a channel that nothing is received from. -/
def move (sys : System) (source : Source) (op : Op source.Frame source.Reply) : System :=
  if source ∈ w.pipeline.sources then
    match (sys.streams source).offer?, op.answer.sent? with
    | some offer, some true =>
        if sys.engine.exit.isNone && sys.hasRoom offer then
          (sys.advance w source op).push source offer
        else sys
    | some _, some false => if sys.engine.exit.isSome then sys.advance w source op else sys
    | _, _ => sys.advance w source op
  else sys

def step (sys : System) (action : Action) : System :=
  match action with
  | .task source op => sys.move w source op
  | .ctrlC listening => sys.signal w (.ctrlC listening)
  | .takeEvent persistLog pools answers =>
      if sys.engine.exit.isSome then sys
      else
        match sys.events.receive with
        | none => sys
        | some (event, events) =>
            { sys with events }.signal w (.event { event, persistLog, pools, answers })
  | .takeRuntimeEvent =>
      if sys.engine.exit.isSome then sys
      else
        match sys.runtime.receive with
        | none => sys
        | some (_, runtime) => { sys with runtime }.signal w .runtimeEvent
  | .eventsClosed =>
      if sys.events.queue = [] ∧ sys.Abandoned w then sys.signal w .eventsClosed else sys
  | .runtimeEventsClosed =>
      if sys.runtime.queue = [] ∧ sys.Abandoned w then sys.signal w .runtimeEventsClosed else sys

end System

/-! ## What a move can do -/

/-- One constructor per kind of move. -/
inductive Progress (w : Wiring) (sys : System) : System → Prop
  | waits : Progress w sys sys
  | advances {source : Source} {op : Op source.Frame source.Reply}
      (hquiet : (sys.streams source).offer? = none ∨ op.answer.sent? = none) :
      Progress w sys (sys.advance w source op)
  | sends {source : Source} {op : Op source.Frame source.Reply} {offer : Offer}
      (hoffer : (sys.streams source).offer? = some offer) (hanswer : op.answer.sent? = some true)
      (hrunning : sys.engine.exit = none) (hroom : sys.hasRoom offer = true) :
      Progress w sys ((sys.advance w source op).push source offer)
  | refused {source : Source} {op : Op source.Frame source.Reply} {offer : Offer}
      (hoffer : (sys.streams source).offer? = some offer) (hanswer : op.answer.sent? = some false)
      (hexit : sys.engine.exit.isSome = true) : Progress w sys (sys.advance w source op)
  | takes {arrival : Arrival} {events : Fifo Source Ingest.Event}
      (hrunning : sys.engine.exit = none)
      (hreceive : sys.events.receive = some (arrival.event, events)) :
      Progress w sys ({ sys with events }.signal w (.event arrival))
  | hears {event : RuntimeEvent} {runtime : Fifo Source RuntimeEvent}
      (hreceive : sys.runtime.receive = some (event, runtime)) :
      Progress w sys ({ sys with runtime }.signal w .runtimeEvent)
  | closes {signal : Signal Arrival}
      (hsignal : signal = .eventsClosed ∨ signal = .runtimeEventsClosed)
      (habandoned : sys.Abandoned w) : Progress w sys (sys.signal w signal)
  | interrupts {listening : Except ErrorChain Unit} :
      Progress w sys (sys.signal w (.ctrlC listening))

variable {w : Wiring} {sys sys' : System}

section Advance

variable (source : Source) (op : Op source.Frame source.Reply)

theorem System.streams_advance_self : (sys.advance w source op).streams source
    = Ingest.step (source.kind w.codecs w.pipeline.context) w.pipeline.context
      (sys.streams source) op := Function.update_self ..

theorem System.traces_advance_self : (sys.advance w source op).traces source
    = sys.traces source ++ effects (sys.streams source) op := Function.update_self ..

variable {source} {other : Source} (h : other ≠ source)

include h in
theorem System.streams_advance_of_ne :
    (sys.advance w source op).streams other = sys.streams other := Function.update_of_ne h ..

include h in
theorem System.traces_advance_of_ne :
    (sys.advance w source op).traces other = sys.traces other := Function.update_of_ne h ..

end Advance

theorem progress_move (source : Source) (op : Op source.Frame source.Reply) :
    Progress w sys (sys.move w source op) := by
  unfold System.move
  split
  · split
    next offer hoffer hanswer =>
        split
        next hcan =>
            rw [Bool.and_eq_true, Option.isNone_iff_eq_none] at hcan
            exact .sends hoffer hanswer hcan.1 hcan.2
        next => exact .waits
    next offer hoffer hanswer =>
        split
        next hexit => exact .refused hoffer hanswer hexit
        next => exact .waits
    next htrue hfalse =>
        refine .advances ?_
        cases hoffer : (sys.streams source).offer? with
        | none => exact .inl rfl
        | some offer =>
            cases hanswer : op.answer.sent? with
            | none => exact .inr rfl
            | some accepted =>
                cases accepted with
                | true => exact absurd hanswer (htrue offer hoffer)
                | false => exact absurd hanswer (hfalse offer hoffer)
  · exact .waits

/-- **What a move of the system can do.** -/
theorem progress_step (w : Wiring) (sys : System) (action : Action) :
    Progress w sys (sys.step w action) := by
  cases action with
  | task source op => exact progress_move source op
  | ctrlC listening => exact .interrupts
  | takeEvent persistLog pools answers =>
      unfold System.step
      dsimp only
      split
      next => exact .waits
      next hexit =>
          rw [Bool.not_eq_true, Option.isSome_eq_false_iff, Option.isNone_iff_eq_none] at hexit
          split
          next => exact .waits
          next event events hreceive =>
              exact @Progress.takes w sys { event, persistLog, pools, answers } events hexit
                hreceive
  | takeRuntimeEvent =>
      unfold System.step
      dsimp only
      split
      next => exact .waits
      next =>
          split
          next => exact .waits
          next event runtime hreceive => exact .hears hreceive
  | eventsClosed =>
      unfold System.step
      dsimp only
      split
      next hclosed => exact .closes (.inl rfl) hclosed.2
      next => exact .waits
  | runtimeEventsClosed =>
      unfold System.step
      dsimp only
      split
      next hclosed => exact .closes (.inr rfl) hclosed.2
      next => exact .waits

end BaseEngine
