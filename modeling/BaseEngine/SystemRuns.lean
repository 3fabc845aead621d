import BaseEngine.System

/-!
# Runs of the system

Results about every order in which the tasks of the streams and the engine can
move. They are invariants of one move (`Linked.step`), from which the results of
the parts carry over to the whole: each task has done a run of its stream, the
engine a run of its loop, and what one sent the other has taken.
-/

namespace BaseEngine

open Ingest

/-! ## What a task makes observable -/

namespace Ingest

variable {Frame Question Reply : Type} {s : Stream Question} {op : Op Frame Reply}

/-- Whether a channel took what was sent. -/
def Effect.accepted? : Effect Frame Question Reply → Option Bool
  | .announced _ accepted => some accepted
  | .beat _ accepted => some accepted
  | .sent _ accepted => some accepted
  | _ => none

def Offer.effect (accepted : Bool) : Offer → Effect Frame Question Reply
  | .event item => .sent item accepted
  | .runtime (.streamStatus status) => .announced status accepted
  | .runtime (.heartbeat beat) => .beat beat accepted

/-- An answer to an offer is what becomes observable. -/
theorem effects_of_offer {offer : Offer} {accepted : Bool} (hoffer : s.offer? = some offer)
    (hanswer : op.answer.sent? = some accepted) : effects s op = [offer.effect accepted] := by
  have hsent : op.answer = .sent accepted := by
    cases hop : op.answer with
    | sent answered =>
        rw [hop] at hanswer
        rw [Option.some.inj hanswer]
    | _ =>
        rw [hop] at hanswer
        cases hanswer
  unfold Stream.offer? at hoffer
  unfold effects
  cases hstage : s.stage with
  | announcing event =>
      simp only [hstage, Option.some.injEq] at hoffer
      subst hoffer
      simp only [hsent, Offer.effect]
  | beating heartbeat idleIntervals =>
      simp only [hstage, Option.some.injEq] at hoffer
      subst hoffer
      simp only [hsent, Offer.effect]
  | delivering event rest =>
      simp only [hstage, Option.some.injEq] at hoffer
      subst hoffer
      simp only [hsent, Offer.effect]
  | _ => simp [hstage] at hoffer

/-- Without an answer to an offer, nothing is sent. -/
theorem accepted?_of_quiet (hquiet : s.offer? = none ∨ op.answer.sent? = none)
    {effect : Effect Frame Question Reply} (hmem : effect ∈ effects s op) :
    effect.accepted? = none := by
  unfold effects at hmem
  unfold Stream.offer? at hquiet
  split at hmem
  next hstage hanswer => simp [hstage, hanswer, Answer.sent?] at hquiet
  next => rw [List.mem_singleton.mp hmem]; rfl
  next => rw [List.mem_singleton.mp hmem]; rfl
  next hstage hanswer => simp [hstage, hanswer, Answer.sent?] at hquiet
  next => rw [List.mem_singleton.mp hmem]; rfl
  next hstage hanswer => simp [hstage, hanswer, Answer.sent?] at hquiet
  next => rw [List.mem_singleton.mp hmem]; rfl
  next => cases hmem

theorem delivered_of_quiet (hquiet : s.offer? = none ∨ op.answer.sent? = none) :
    delivered (effects s op : List (Effect Frame Question Reply)) = [] := by
  unfold delivered
  rw [List.filterMap_eq_nil_iff]
  intro effect hmem
  have hnone := accepted?_of_quiet hquiet hmem
  cases effect with
  | sent event accepted => cases hnone
  | _ => rfl

/-- No channel refused what was sent. -/
def Unrefused (trace : List (Effect Frame Question Reply)) : Prop :=
  ∀ effect ∈ trace, effect.accepted? ≠ some false

theorem Unrefused.append {t₁ t₂ : List (Effect Frame Question Reply)} (h₁ : Unrefused t₁)
    (h₂ : Unrefused t₂) : Unrefused (t₁ ++ t₂) := by
  intro effect hmem
  rcases List.mem_append.mp hmem with hmem | hmem
  · exact h₁ effect hmem
  · exact h₂ effect hmem

theorem Unrefused.taken {trace : List (Effect Frame Question Reply)} (h : Unrefused trace) :
    Taken trace := fun _ hmem => h _ hmem rfl

theorem Unrefused.not_refusedOutside {kind : StreamKind Frame Question Reply}
    {trace : List (Effect Frame Question Reply)} (h : Unrefused trace) :
    ¬ RefusedOutside kind trace := fun ⟨_, hmem, _⟩ => h _ hmem rfl

end Ingest

/-! ## One move -/

/-- The signals of a run that brought events, with what they brought. -/
def Signal.event? : Signal Arrival → Option Ingest.Event
  | .event arrival => some arrival.event
  | _ => none

variable {w : Wiring} {nowMs : Source → Nat} {book : PoolBook} {storage : Storage}
  {sys sys' : System}

/-- The parts of the system have done runs of their own, and fit together. -/
structure Linked (w : Wiring) (nowMs : Source → Nat) (book : PoolBook) (storage : Storage)
    (sys : System) : Prop where
  tasks : ∀ source, ∃ ops,
    sys.streams source = Ingest.final (source.kind w.codecs w.pipeline.context)
        w.pipeline.context (Ingest.start w.pipeline.context (nowMs source)) ops
      ∧ sys.traces source = Ingest.trace (source.kind w.codecs w.pipeline.context)
        w.pipeline.context (Ingest.start w.pipeline.context (nowMs source)) ops
  loop : ∃ signals, sys.engine = Run.final w.rt.step (Engine.start book storage) signals
    ∧ signals.filterMap Signal.event? = sys.events.taken.map Prod.snd
  sent : ∀ source, delivered (sys.traces source) = Fifo.ofSender source sys.events.history
  open_ : sys.engine.exit = none → ∀ source, Unrefused (sys.traces source)
  capacity : sys.events.capacity = w.pipeline.eventChannelCapacity
  bounded : sys.events.Bounded

theorem linked_start : Linked w nowMs book storage (System.start w nowMs book storage) where
  tasks _ := ⟨[], rfl, rfl⟩
  loop := ⟨[], rfl, rfl⟩
  sent _ := rfl
  open_ _ _ := fun _ hmem => nomatch hmem
  capacity := rfl
  bounded := Nat.zero_le _

namespace Linked

/-- An answer to a task, with the effects `out`. -/
theorem tasks_advance (h : Linked w nowMs book storage sys) (source : Source)
    (op : Op source.Frame source.Reply) (other : Source) :
    ∃ ops, (sys.advance w source op).streams other
          = Ingest.final (other.kind w.codecs w.pipeline.context) w.pipeline.context
            (Ingest.start w.pipeline.context (nowMs other)) ops
        ∧ (sys.advance w source op).traces other
          = Ingest.trace (other.kind w.codecs w.pipeline.context) w.pipeline.context
            (Ingest.start w.pipeline.context (nowMs other)) ops := by
  obtain ⟨ops, hstream, htrace⟩ := h.tasks other
  by_cases hother : other = source
  · subst hother
    refine ⟨ops ++ [op], ?_, ?_⟩
    · unfold Ingest.final
      rw [System.streams_advance_self, Run.final_append, hstream]
      rfl
    · unfold Ingest.trace
      rw [System.traces_advance_self, Run.outputs_append, htrace, hstream]
      show _ = _ ++ (effects _ op ++ [])
      rw [List.append_nil]
      rfl
  · exact ⟨ops, (System.streams_advance_of_ne op hother).trans hstream,
      (System.traces_advance_of_ne op hother).trans htrace⟩

/-- A task that delivers nothing. -/
theorem advance (h : Linked w nowMs book storage sys) (source : Source)
    (op : Op source.Frame source.Reply)
    (hdelivered : delivered (effects (sys.streams source) op
      : List (Effect source.Frame source.Question source.Reply)) = [])
    (hopen : sys.engine.exit = none → Unrefused (effects (sys.streams source) op
      : List (Effect source.Frame source.Question source.Reply))) :
    Linked w nowMs book storage (sys.advance w source op) where
  tasks := h.tasks_advance source op
  loop := h.loop
  sent other := by
    by_cases hother : other = source
    · subst hother
      rw [System.traces_advance_self, delivered_append, hdelivered, List.append_nil]
      exact h.sent other
    · rw [System.traces_advance_of_ne op hother]
      exact h.sent other
  open_ hrunning other := by
    by_cases hother : other = source
    · subst hother
      rw [System.traces_advance_self]
      exact (h.open_ hrunning other).append (hopen hrunning)
    · rw [System.traces_advance_of_ne op hother]
      exact h.open_ hrunning other
  capacity := h.capacity
  bounded := h.bounded

/-- A task whose event is taken. -/
theorem deliver (h : Linked w nowMs book storage sys) {source : Source}
    {op : Op source.Frame source.Reply} {event : Ingest.Event}
    (heffects : effects (sys.streams source) op = [.sent event true])
    (hroom : sys.events.hasRoom = true) :
    Linked w nowMs book storage ((sys.advance w source op).push source (.event event)) where
  tasks := h.tasks_advance source op
  loop := h.loop
  sent other := by
    show delivered ((sys.advance w source op).traces other)
      = Fifo.ofSender other (sys.events.send source event).history
    by_cases hother : other = source
    · subst hother
      rw [System.traces_advance_self, delivered_append, heffects, Fifo.ofSender_send_self,
        h.sent other]
      rfl
    · rw [System.traces_advance_of_ne op hother, Fifo.ofSender_send_of_ne hother]
      exact h.sent other
  open_ hrunning other := by
    show Unrefused ((sys.advance w source op).traces other)
    by_cases hother : other = source
    · subst hother
      rw [System.traces_advance_self, heffects]
      refine (h.open_ hrunning other).append fun effect hmem => ?_
      rw [List.mem_singleton.mp hmem]
      exact nofun
    · rw [System.traces_advance_of_ne op hother]
      exact h.open_ hrunning other
  capacity := h.capacity
  bounded := Fifo.Bounded.send hroom

/-- The channel of the runtime carries nothing for the engine. -/
theorem announce (h : Linked w nowMs book storage sys) (source : Source) (event : RuntimeEvent) :
    Linked w nowMs book storage (sys.push source (.runtime event)) :=
  ⟨h.tasks, h.loop, h.sent, h.open_, h.capacity, h.bounded⟩

/-- A signal without an event. -/
theorem signal (h : Linked w nowMs book storage sys) {signal : Signal Arrival}
    (hevent : signal.event? = none) : Linked w nowMs book storage (sys.signal w signal) where
  tasks := h.tasks
  loop := by
    obtain ⟨signals, hengine, hevents⟩ := h.loop
    refine ⟨signals ++ [signal], ?_, ?_⟩
    · rw [Run.final_append, ← hengine]
      rfl
    · rw [List.filterMap_append, hevents, List.filterMap_cons_none hevent, List.filterMap_nil,
        List.append_nil]
      rfl
  sent := h.sent
  open_ hrunning := h.open_ ((loopTurn_step w.rt rowsBackend sys.engine signal).running hrunning)
  capacity := h.capacity
  bounded := h.bounded

/-- The engine takes an event. -/
theorem take (h : Linked w nowMs book storage sys) {arrival : Arrival}
    {events : Fifo Source Ingest.Event}
    (hreceive : sys.events.receive = some (arrival.event, events)) :
    Linked w nowMs book storage ({ sys with events }.signal w (.event arrival)) := by
  obtain ⟨sender, htaken, hhistory, hcapacity, -⟩ := Fifo.receive_spec hreceive
  obtain ⟨signals, hengine, hevents⟩ := h.loop
  exact {
    tasks := h.tasks
    loop := by
      refine ⟨signals ++ [.event arrival], ?_, ?_⟩
      · rw [Run.final_append, ← hengine]
        rfl
      · show _ = events.taken.map Prod.snd
        rw [List.filterMap_append, hevents, htaken, List.map_append]
        rfl
    sent := fun source => by
      show delivered (sys.traces source) = Fifo.ofSender source events.history
      rw [hhistory]
      exact h.sent source
    open_ := fun hrunning =>
      h.open_ ((loopTurn_step w.rt rowsBackend sys.engine (.event arrival)).running hrunning)
    capacity := hcapacity.trans h.capacity
    bounded := h.bounded.receive hreceive }

/-- **Step lemma.** Every move keeps the parts together. -/
theorem step (h : Linked w nowMs book storage sys) (action : Action) :
    Linked w nowMs book storage (sys.step w action) := by
  have hprogress := progress_step w sys action
  generalize sys.step w action = sys' at hprogress
  cases hprogress with
  | waits => exact h
  | advances hquiet =>
      refine h.advance _ _ (delivered_of_quiet hquiet) fun _ effect hmem => ?_
      rw [accepted?_of_quiet hquiet hmem]
      exact nofun
  | @sends source op offer hoffer hanswer hrunning hroom =>
      have heffects := @effects_of_offer source.Frame _ _ _ _ _ _ hoffer hanswer
      cases offer with
      | event event => exact h.deliver heffects hroom
      | runtime event =>
          refine (h.advance source op ?_ fun _ => ?_).announce source event
          · rw [heffects]
            cases event <;> rfl
          · rw [heffects]
            intro effect hmem
            rw [List.mem_singleton.mp hmem]
            cases event <;> exact nofun
  | @refused source op offer hoffer hanswer hexit =>
      have heffects := @effects_of_offer source.Frame _ _ _ _ _ _ hoffer hanswer
      refine h.advance source op ?_ fun hrunning => ?_
      · rw [heffects]
        cases offer with
        | event event => rfl
        | runtime event => cases event <;> rfl
      · rw [hrunning] at hexit
        cases hexit
  | takes _ hreceive => exact h.take hreceive
  | @hears event runtime _ =>
      have hheard : Linked w nowMs book storage { sys with runtime } :=
        ⟨h.tasks, h.loop, h.sent, h.open_, h.capacity, h.bounded⟩
      exact hheard.signal rfl
  | closes hsignal _ =>
      refine h.signal ?_
      rcases hsignal with rfl | rfl <;> rfl
  | interrupts => exact h.signal rfl

theorem final (actions : List Action) :
    Linked w nowMs book storage
      (Run.final (System.step w) (System.start w nowMs book storage) actions) :=
  @Run.final_of_stable _ _ (System.step w) (Linked w nowMs book storage)
    (fun _ action h => h.step action) actions _ linked_start

end Linked

/-! ## The book along the signals -/

def logOf : Ingest.Event → Option Log
  | .log entry => some entry
  | _ => none

/-- The logs applied in a row. -/
def PoolBook.applyLogs (u256FromDecimal : String → Option Nat) (book : PoolBook)
    (logs : List Log) : PoolBook :=
  logs.foldl (fun book log => (book.applyLog u256FromDecimal log).1) book

theorem bind_logOf_event? (signal : Signal Arrival) :
    signal.event?.bind logOf = signal.log?.map Prod.snd := by
  cases signal with
  | event arrival =>
      unfold Signal.event? Signal.log?
      dsimp only
      cases hevent : arrival.event <;> rfl
  | _ => rfl

/-- A turn after which the loop goes on brought no log, or applied it. -/
theorem Turn.applied {rt : Runtime} {s s' : Engine Storage} {signal : Signal Arrival}
    (h : Turn rt s signal s') (hrunning : s'.exit = none) :
    (signal.log? = none ∧ s'.book = s.book)
      ∨ ∃ arrival log outcome, signal.log? = some (arrival, log)
        ∧ s.book.applyLog rt.u256FromDecimal log = (s'.book, .ok outcome) := by
  cases h with
  | stopped hexit =>
      rw [hrunning] at hexit
      cases hexit
  | passes _ hlog _ => exact .inl ⟨hlog, rfl⟩
  | leaves _ _ => cases hrunning
  | unpersisted _ _ _ => cases hrunning
  | inapplicable _ _ _ _ => cases hrunning
  | settles _ hlog _ hbook => exact .inr ⟨_, _, _, hlog, hbook⟩

/-- The book of a running engine comes from the logs it was given. -/
theorem book_final {rt : Runtime} {s : Engine Storage} {signals : List (Signal Arrival)}
    (hrunning : (Run.final rt.step s signals).exit = none) :
    (Run.final rt.step s signals).book
      = s.book.applyLogs rt.u256FromDecimal
        (signals.filterMap fun signal => signal.event?.bind logOf) := by
  induction signals generalizing s with
  | nil => rfl
  | cons signal signals ih =>
      have hnext : (rt.step s signal).exit = none := running_of_final hrunning
      rw [Run.final_cons, ih hrunning, List.filterMap_cons, bind_logOf_event?]
      rcases (turn_step rt s signal).applied hnext with ⟨hlog, hbook⟩ | ⟨_, _, _, hlog, hbook⟩
      · rw [hlog, hbook]
        rfl
      · rw [hlog]
        show _ = PoolBook.applyLogs _ (PoolBook.applyLog _ _ _).1 _
        rw [hbook]

/-! ## What reaches the engine -/

/-- **Nothing is lost, doubled or reordered.** In every run of the system whose
engine is running, the events of the messages of a source, in the order in which
they were read, are those that the engine has taken from that source, then those
that wait in the channel, then those that wait in the task. The channel is never
over its capacity, and the book is that of the start with the logs the engine
took, one after the other. -/
theorem system_conserves (w : Wiring) (nowMs : Source → Nat) (book : PoolBook)
    (storage : Storage) (actions : List Action)
    (hrunning : (Run.final (System.step w) (System.start w nowMs book storage)
      actions).engine.exit = none) :
    (∀ source,
      Fifo.ofSender source
          (Run.final (System.step w) (System.start w nowMs book storage) actions).events.taken
        ++ Fifo.ofSender source
          (Run.final (System.step w) (System.start w nowMs book storage) actions).events.queue
        ++ pending ((Run.final (System.step w) (System.start w nowMs book storage)
          actions).streams source)
      = (reads (source.kind w.codecs w.pipeline.context) ((Run.final (System.step w)
          (System.start w nowMs book storage) actions).traces source)).flatten)
    ∧ (Run.final (System.step w) (System.start w nowMs book storage)
        actions).events.queue.length ≤ w.pipeline.eventChannelCapacity
    ∧ (Run.final (System.step w) (System.start w nowMs book storage) actions).engine.book
      = book.applyLogs w.rt.u256FromDecimal
        ((Run.final (System.step w) (System.start w nowMs book storage)
          actions).events.taken.filterMap fun sent => logOf sent.2) := by
  have hlinked := @Linked.final w nowMs book storage actions
  generalize Run.final (System.step w) (System.start w nowMs book storage) actions = sys
    at hlinked hrunning
  refine ⟨fun source => ?_, ?_, ?_⟩
  · obtain ⟨ops, hstream, htrace⟩ := hlinked.tasks source
    obtain ⟨-, hall⟩ := @delivers_run _ _ _ (source.kind w.codecs w.pipeline.context)
      w.pipeline.context (nowMs source) ops
    rw [← htrace, ← hstream] at hall
    have htaken := (hlinked.open_ hrunning source).taken
    rw [← Fifo.ofSender_append, ← Fifo.history, ← hlinked.sent source]
    exact hall htaken
  · rw [← hlinked.capacity]
    exact hlinked.bounded
  · obtain ⟨signals, hengine, hevents⟩ := hlinked.loop
    rw [hengine] at hrunning ⊢
    rw [book_final hrunning]
    have hlogs : (signals.filterMap fun signal => signal.event?.bind logOf)
        = sys.events.taken.filterMap fun sent => logOf sent.2 := by
      rw [← List.filterMap_filterMap, hevents, List.filterMap_map]
      rfl
    rw [hlogs]
    rfl

/-! A block on its way through the system. -/

/-- Libraries that decode nothing. -/
def blindCodecs : Codecs :=
  { calls :=
      { hexDecode := fun _ => none, v2ExactInput := fun _ _ => none,
        v2ExactEthInput := fun _ _ => none, v2ExactOutput := fun _ _ => none,
        swapETHForExactTokens := fun _ => none, exactInputSingle := fun _ => none,
        exactInput := fun _ => none, exactOutputSingle := fun _ => none,
        exactOutput := fun _ => none }
    events :=
      { parseB256 := fun _ => none, hexDecode := fun _ => none, v2Swap := fun _ _ => none,
        sync := fun _ _ => none, v2Mint := fun _ _ => none, v2Burn := fun _ _ => none,
        v3Swap := fun _ _ => none, v3Mint := fun _ _ => none, v3Burn := fun _ _ => none,
        v3MintSignature := "", v3BurnSignature := "" }
    payloads :=
      { gunzip := fun _ => .error "not gzip", parseJson := fun _ => .error "not JSON",
        fromValue := fun _ => .error "not a payload" } }

def sampleWiring (source : Source) : Wiring :=
  { rt := sampleRuntime
    pipeline :=
      { context := quietContext, sources := [source], eventChannelCapacity := 4096,
        runtimeChannelCapacity := 512 }
    codecs := blindCodecs }

/-- The first session of a stream with a subscription, up to a message. -/
def openSession (source : Source) (frame : source.Frame) : List Action :=
  [.sent true, .connected (.ok ()), .sent true, .subscribed (.ok "0x1"), .sent true,
    .received (.ok frame)].map fun answer => .task source { clock := fun _ => 0, answer }

def blockActions : List Action :=
  openSession .blocks (.object [("number", .string "0x10")])
    ++ [.task .blocks { clock := fun _ => 0, answer := .sent true }, .takeRuntimeEvent,
      .takeEvent (.ok ()) [] CanaryRun.obligingAnswers]

/-- The system after the block has reached the engine. -/
def blockSystem : System :=
  Run.final (System.step (sampleWiring .blocks))
    (System.start (sampleWiring .blocks) (fun _ => 0) sampleBook none) blockActions

theorem blockSystem_running :
    blockSystem.events.taken.length = 1 ∧ blockSystem.engine.exit = none := by
  decide +kernel

theorem blockSystem_conserved :
    Fifo.ofSender .blocks blockSystem.events.taken
        ++ Fifo.ofSender .blocks blockSystem.events.queue
        ++ pending (blockSystem.streams .blocks)
      = (reads (Source.kind blindCodecs quietContext .blocks)
          (blockSystem.traces .blocks)).flatten :=
  (system_conserves (sampleWiring .blocks) (fun _ => 0) sampleBook none blockActions
    blockSystem_running.2).1 .blocks

/-! ## When a channel closes -/

/-- Only the stream of transactions can panic. -/
theorem Ingest.Source.calm_kind {codecs : Codecs} {context : IngestStreamContext} {source : Source}
    (h : source ≠ .transactions) : (source.kind codecs context).Calm := by
  cases source with
  | transactions => exact absurd rfl h
  | logs => exact calm_logStream codecs.events
  | blocks => exact calm_blockStream
  | flashblocks url => exact calm_flashblocksStream codecs.payloads codecs.events url

/-- While the engine runs, the task of any other source goes on. -/
theorem Linked.alive (h : Linked w nowMs book storage sys) (hrunning : sys.engine.exit = none)
    {source : Source} (hsource : source ≠ .transactions) :
    ¬ (sys.streams source).stage.dead := by
  obtain ⟨ops, hstream, htrace⟩ := h.tasks source
  have hopen := h.open_ hrunning source
  rw [hstream, dead_final_iff_of_calm (Source.calm_kind hsource), ← htrace]
  exact hopen.not_refusedOutside

/-- That of the transactions ends on a transaction it cannot read. -/
theorem Linked.unreadable (h : Linked w nowMs book storage sys) (hrunning : sys.engine.exit = none)
    (hdead : (sys.streams .transactions).stage.dead) :
    ∃ value, Materializes (sys.traces .transactions) value ∧ Unreadable value := by
  obtain ⟨ops, hstream, htrace⟩ := h.tasks .transactions
  have hopen := h.open_ hrunning .transactions
  rw [hstream, dead_final_iff, ← htrace] at hdead
  have hfatal := exists_fatal_transaction_iff w.codecs.calls (sys.traces .transactions) |>.mp hdead
  exact hfatal.resolve_left hopen.not_refusedOutside

/-- The loop is left with a reason only where a signal gives it. -/
theorem Turn.exit_ok {rt : Runtime} {s s' : Engine Storage} {signal : Signal Arrival}
    (h : Turn rt s signal s') {reason : String} (hexit : s'.exit = some (.ok reason)) :
    s.exit = some (.ok reason) ∨ s.exit = none ∧ signal.exit? = some (.ok reason) := by
  cases h with
  | stopped _ => exact .inl hexit
  | passes _ _ _ => exact .inl hexit
  | leaves hnone hend =>
      rw [Engine.leave_exit] at hexit
      exact .inr ⟨hnone, hend.trans hexit⟩
  | unpersisted _ _ _ => cases hexit
  | inapplicable _ _ _ _ => cases hexit
  | @settles arrival log book outcome _ _ _ _ =>
      unfold Runtime.settle Runtime.settleWith Engine.record at hexit
      dsimp only at hexit
      split at hexit
      · cases hexit
      · cases hexit

/-- A channel was found closed. -/
def Engine.FoundClosed (s : Engine Storage) : Prop :=
  s.exit = some (.ok "event channel closed") ∨ s.exit = some (.ok "runtime event channel closed")

/-- A signal that leaves the loop with a closed channel is one of the two. -/
theorem Turn.foundClosed {rt : Runtime} {s s' : Engine Storage} {signal : Signal Arrival}
    (h : Turn rt s signal s') (hclosed : s'.FoundClosed) :
    s.FoundClosed ∨ s.exit = none
      ∧ (signal = .eventsClosed ∨ signal = .runtimeEventsClosed) := by
  have hsignal : ∀ {reason}, signal.exit? = some (.ok reason) →
      reason = "event channel closed" ∨ reason = "runtime event channel closed" →
      signal = .eventsClosed ∨ signal = .runtimeEventsClosed := by
    intro reason hend hreason
    cases signal with
    | eventsClosed => exact .inl rfl
    | runtimeEventsClosed => exact .inr rfl
    | ctrlC listening =>
        cases listening with
        | ok _ =>
            obtain rfl : "received ctrl-c" = reason := by simpa [Signal.exit?] using hend
            exact absurd hreason (by decide)
        | error e => simp [Signal.exit?] at hend
    | event _ => cases hend
    | runtimeEvent => cases hend
  rcases hclosed with hexit | hexit
  · rcases h.exit_ok hexit with hbefore | ⟨hnone, hend⟩
    · exact .inl (.inl hbefore)
    · exact .inr ⟨hnone, hsignal hend (.inl rfl)⟩
  · rcases h.exit_ok hexit with hbefore | ⟨hnone, hend⟩
    · exact .inl (.inr hbefore)
    · exact .inr ⟨hnone, hsignal hend (.inr rfl)⟩

/-- A move that finds a channel closed was made with every task over. -/
theorem Progress.abandoned (h : Progress w sys sys') (hbefore : ¬ sys.engine.FoundClosed)
    (hafter : sys'.engine.FoundClosed) : sys.engine.exit = none ∧ sys.Abandoned w := by
  have hturn : ∀ {signal}, (w.rt.step sys.engine signal).FoundClosed →
      sys.engine.exit = none ∧ (signal = .eventsClosed ∨ signal = .runtimeEventsClosed) :=
    fun hclosed => ((turn_step w.rt sys.engine _).foundClosed hclosed).resolve_left hbefore
  cases h with
  | waits => exact absurd hafter hbefore
  | advances _ => exact absurd hafter hbefore
  | @sends source op offer _ _ _ _ =>
      cases offer with
      | event _ => exact absurd hafter hbefore
      | runtime _ => exact absurd hafter hbefore
  | refused _ _ _ => exact absurd hafter hbefore
  | takes _ _ =>
      obtain ⟨-, hsignal⟩ := hturn hafter
      rcases hsignal with hsignal | hsignal <;> cases hsignal
  | hears _ =>
      obtain ⟨-, hsignal⟩ := hturn hafter
      rcases hsignal with hsignal | hsignal <;> cases hsignal
  | closes _ habandoned => exact ⟨(hturn hafter).1, habandoned⟩
  | interrupts =>
      obtain ⟨-, hsignal⟩ := hturn hafter
      rcases hsignal with hsignal | hsignal <;> cases hsignal

/-- Traces only grow. -/
theorem Progress.traces (h : Progress w sys sys') (source : Source) :
    sys.traces source <+: sys'.traces source := by
  have hadvance : ∀ (other : Source) (op : Op other.Frame other.Reply),
      sys.traces source <+: (sys.advance w other op).traces source := by
    intro other op
    by_cases hsource : source = other
    · subst hsource
      rw [System.traces_advance_self]
      exact List.prefix_append ..
    · rw [System.traces_advance_of_ne op hsource]
  cases h with
  | waits => exact List.prefix_refl _
  | advances _ => exact hadvance _ _
  | @sends other op offer _ _ _ _ =>
      cases offer with
      | event _ => exact hadvance other op
      | runtime _ => exact hadvance other op
  | refused _ _ _ => exact hadvance _ _
  | takes _ _ => exact List.prefix_refl _
  | hears _ => exact List.prefix_refl _
  | closes _ _ => exact List.prefix_refl _
  | interrupts => exact List.prefix_refl _

theorem traces_final (actions : List Action) (source : Source) :
    sys.traces source <+: (Run.final (System.step w) sys actions).traces source :=
  @Run.final_of_stable _ _ (System.step w) (fun t => sys.traces source <+: t.traces source)
    (fun t action h => h.trans ((progress_step w t action).traces source)) actions sys
    (List.prefix_refl _)

/-- **What closes a channel on the engine.** In every run of the system, the
engine leaves its loop because of a closed channel only if transactions are the
only source and, where they are one, their task has worked on a transaction
whose calldata is cut inside a character. With a stream of logs, blocks or
Flashblocks neither channel ever closes on it. -/
theorem closed_by_panic {actions : List Action}
    (hclosed : (Run.final (System.step w) (System.start w nowMs book storage)
      actions).engine.FoundClosed) :
    (∀ source ∈ w.pipeline.sources, source = .transactions)
      ∧ (.transactions ∈ w.pipeline.sources → ∃ value,
        Materializes ((Run.final (System.step w) (System.start w nowMs book storage)
          actions).traces .transactions) value ∧ Unreadable value) := by
  have hstart : ¬ (System.start w nowMs book storage).engine.FoundClosed := by
    rintro (h | h) <;> cases h
  obtain ⟨pre, action, post, rfl, hbefore, hafter⟩ :=
    @Run.exists_step_into _ _ (System.step w) (fun sys => sys.engine.FoundClosed) actions _ hstart
      hclosed
  have hlinked := @Linked.final w nowMs book storage pre
  have hprogress := progress_step w
    (Run.final (System.step w) (System.start w nowMs book storage) pre) action
  obtain ⟨hrunning, habandoned⟩ := hprogress.abandoned hbefore hafter
  refine ⟨fun source hsource => ?_, fun hsource => ?_⟩
  · by_contra hother
    exact hlinked.alive hrunning hother (habandoned source hsource)
  · obtain ⟨value, hvalue, hbad⟩ :=
      hlinked.unreadable hrunning (habandoned .transactions hsource)
    have hgrows := @traces_final w
      (Run.final (System.step w) (System.start w nowMs book storage) pre) (action :: post)
      .transactions
    rw [← Run.final_append] at hgrows
    exact ⟨value, hvalue.mono hgrows.subset, hbad⟩

/-- Nothing but transactions, and one that is cut inside a character. -/
def panicActions : List Action :=
  openSession .transactions (.object [("input", .string "0x1234567é")])
    ++ [.takeRuntimeEvent, .eventsClosed]

theorem panicActions_closed :
    (Run.final (System.step (sampleWiring .transactions))
      (System.start (sampleWiring .transactions) (fun _ => 0) sampleBook none)
      panicActions).engine.FoundClosed :=
  .inl (by decide +kernel)

theorem panicActions_unreadable :
    (∀ source ∈ (sampleWiring .transactions).pipeline.sources, source = .transactions)
      ∧ (.transactions ∈ (sampleWiring .transactions).pipeline.sources → ∃ value,
        Materializes ((Run.final (System.step (sampleWiring .transactions))
          (System.start (sampleWiring .transactions) (fun _ => 0) sampleBook none)
          panicActions).traces .transactions) value ∧ Unreadable value) :=
  closed_by_panic panicActions_closed

end BaseEngine
