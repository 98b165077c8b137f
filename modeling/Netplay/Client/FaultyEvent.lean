import Netplay.Client.CallRun

/-!
# Events with a faulty key press

`ReadUntilButtons` puts the key presses of an event into their queues one by one
and returns at the first that it cannot use.  What it put stays, and what comes
after is gone, for the event has been taken off the stream.

* `Faulty` says what is wrong with a key press, and with which status the loop
  returns.
* `acceptablePresses` is what a loop would put that goes on after a fault.
* `faulty_event` says what a failing event leaves in the queues, and when that
  is all or nothing.
-/

namespace Netplay
namespace Client
namespace EventStreamHandler

variable {ButtonsType : Type*}

/-- What is wrong with a key press, by the status it is reported with. -/
inductive Faulty (coder : ButtonCoder ButtonsType) (queues : QueueMap ButtonsType)
    (keys : KeyStatePB) : ReadUntilButtonsStatus → Prop
  | unconnected (hnone : queues[keys.port]? = none) :
      Faulty coder queues keys .invalidButtonsMessage
  | undecodable (hdecode : coder.decodeButtons keys = none) :
      Faulty coder queues keys .invalidButtonsMessage
  | rejected {queue : InputQueue ButtonsType} {buttons : ButtonsType}
      (hqueue : queues[keys.port]? = some queue)
      (hdecode : coder.decodeButtons keys = some buttons)
      (hrefused : ¬ queue.Accepts keys.frameNumber) :
      Faulty coder queues keys .rejectedByQueue

/-- The tuples that the queues would take from key presses if the faulty ones
were skipped. -/
def acceptablePresses (coder : ButtonCoder ButtonsType) :
    List KeyStatePB → QueueMap ButtonsType → List (ButtonsFrameTuple ButtonsType)
  | [], _ => []
  | keys :: rest, queues =>
      match acceptedPress coder queues keys with
      | none => acceptablePresses coder rest queues
      | some tuple => tuple :: acceptablePresses coder rest (QueueMap.insertTuple queues tuple)

/-- All acceptable key presses of the event are in the queues, or none is. -/
def AllOrNone (coder : ButtonCoder ButtonsType) (event : IncomingEventPB)
    (queues queues' : QueueMap ButtonsType) : Prop :=
  queues' = QueueMap.insertTuples queues (acceptablePresses coder event.keyPress queues) ∨
    queues' = queues

instance [DecidableEq ButtonsType] (coder : ButtonCoder ButtonsType) (event : IncomingEventPB)
    (queues queues' : QueueMap ButtonsType) : Decidable (AllOrNone coder event queues queues') :=
  inferInstanceAs (Decidable (_ ∨ _))

/-- The last round of `ReadUntilButtons`: the outcome of its read, and the
handler it begins with. -/
def lastRound (coder : ButtonCoder ButtonsType) (port : Port) (frame : Int) :
    List (Option IncomingEventPB) → EventStreamHandler ButtonsType →
      Option IncomingEventPB × EventStreamHandler ButtonsType
  | [], handler => (none, handler)
  | read :: incoming, handler =>
      match readEvent coder port frame read handler with
      | (some _, _) => (read, handler)
      | (none, handler) => lastRound coder port frame incoming handler

/-! ### One event -/

/-- Whether a press is taken does not depend on those skipped before it. -/
theorem acceptablePresses_inTurn (coder : ButtonCoder ButtonsType) (presses : List KeyStatePB)
    (queues : QueueMap ButtonsType) :
    QueueMap.InTurn queues (acceptablePresses coder presses queues) := by
  induction presses generalizing queues with
  | nil => exact trivial
  | cons keys rest ih =>
      rw [acceptablePresses]
      cases haccepted : acceptedPress coder queues keys with
      | none => exact ih queues
      | some tuple => exact ⟨(acceptedPress_eq_some_iff.mp haccepted).2, ih _⟩

/-- Presses that are taken in turn come first. -/
theorem acceptablePresses_append {coder : ButtonCoder ButtonsType} {presses : List KeyStatePB}
    {tuples : List (ButtonsFrameTuple ButtonsType)} {queues : QueueMap ButtonsType}
    (hdecodes : List.Forall₂ (Decodes coder) presses tuples)
    (hturn : QueueMap.InTurn queues tuples) (rest : List KeyStatePB) :
    acceptablePresses coder (presses ++ rest) queues =
      tuples ++ acceptablePresses coder rest (QueueMap.insertTuples queues tuples) := by
  induction hdecodes generalizing queues with
  | nil => rfl
  | cons hdecode _ ih =>
      rw [List.cons_append, acceptablePresses,
        acceptedPress_eq_some_iff.mpr ⟨hdecode, hturn.1⟩]
      simp only [ih hturn.2, List.cons_append, QueueMap.insertTuples_cons]

theorem Faulty.acceptedPress_eq_none {coder : ButtonCoder ButtonsType}
    {queues : QueueMap ButtonsType} {keys : KeyStatePB} {status : ReadUntilButtonsStatus}
    (h : Faulty coder queues keys status) : acceptedPress coder queues keys = none := by
  unfold acceptedPress
  cases hdecode : coder.decodeButtons keys with
  | none => rfl
  | some buttons =>
      cases h with
      | unconnected hnone => simp only [if_neg (QueueMap.not_accepts_of_none hnone)]
      | undecodable hnone =>
          rw [hnone] at hdecode
          cases hdecode
      | rejected hqueue _ hrefused => simp only [QueueMap.accepts_iff hqueue, if_neg hrefused]

theorem putKeyPress_faulty {coder : ButtonCoder ButtonsType} {keys : KeyStatePB}
    {handler handler' : EventStreamHandler ButtonsType} {status : ReadUntilButtonsStatus}
    (h : putKeyPress coder keys handler = (some status, handler')) :
    Faulty coder handler.inputQueues keys status ∧ handler' = handler := by
  unfold putKeyPress getQueue at h
  cases hqueue : handler.inputQueues[keys.port]? with
  | none =>
      rw [hqueue] at h
      cases h
      exact ⟨.unconnected hqueue, rfl⟩
  | some queue =>
      rw [hqueue] at h
      cases hdecode : coder.decodeButtons keys with
      | none =>
          rw [hdecode] at h
          cases h
          exact ⟨.undecodable hdecode, rfl⟩
      | some buttons =>
          rw [hdecode] at h
          by_cases hacc : queue.Accepts keys.frameNumber
          · simp [InputQueue.putButtons_of_accepts hacc] at h
          · simp only [InputQueue.putButtons_of_not_accepts hacc, setQueue_self hqueue,
              if_true] at h
            cases h
            exact ⟨.rejected hqueue hdecode hacc, rfl⟩

/-- The loop over the key presses returns at the first faulty one, with the
presses before it in their queues. -/
structure StoppedAt (coder : ButtonCoder ButtonsType) (presses : List KeyStatePB)
    (queues queues' : QueueMap ButtonsType) (status : ReadUntilButtonsStatus)
    (accepted : List KeyStatePB) (faulty : KeyStatePB) (unread : List KeyStatePB)
    (taken : List (ButtonsFrameTuple ButtonsType)) : Prop where
  split : presses = accepted ++ faulty :: unread
  decodes : List.Forall₂ (Decodes coder) accepted taken
  inTurn : QueueMap.InTurn queues taken
  queues_eq : queues' = QueueMap.insertTuples queues taken
  fault : Faulty coder queues' faulty status

theorem putKeyPresses_error {coder : ButtonCoder ButtonsType} {port : Port} {frame : Int}
    {presses : List KeyStatePB} {foundButtons : Bool}
    {handler handler' : EventStreamHandler ButtonsType} {status : ReadUntilButtonsStatus}
    (h : putKeyPresses coder port frame presses foundButtons handler =
      (.error status, handler')) :
    ∃ accepted faulty unread taken, StoppedAt coder presses handler.inputQueues
      handler'.inputQueues status accepted faulty unread taken := by
  induction presses generalizing foundButtons handler with
  | nil => cases h
  | cons keys rest ih =>
      rw [putKeyPresses] at h
      have hstep := putKeyPress_step coder keys handler
      cases hput : putKeyPress coder keys handler with
      | mk outcome handler₁ =>
          rw [hput] at h hstep
          cases outcome with
          | some status₁ =>
              cases h
              obtain ⟨hfaulty, rfl⟩ := putKeyPress_faulty hput
              exact ⟨[], keys, rest, [], rfl, .nil, trivial, rfl, hfaulty⟩
          | none =>
              obtain ⟨accepted, faulty, unread, taken, hstopped⟩ := ih h
              cases hstep with
              | @accepted tuple htuple =>
                  obtain ⟨hdecode, haccepts⟩ := acceptedPress_eq_some_iff.mp htuple
                  refine ⟨keys :: accepted, faulty, unread, tuple :: taken, ?_,
                    .cons hdecode hstopped.decodes, ⟨haccepts, hstopped.inTurn⟩,
                    hstopped.queues_eq, hstopped.fault⟩
                  rw [hstopped.split, List.cons_append]

/-- When the faulty press is not the first and another one after it would have
been taken, the event is applied in part. -/
theorem StoppedAt.allOrNone_iff {coder : ButtonCoder ButtonsType} {event : IncomingEventPB}
    {queues queues' : QueueMap ButtonsType} {status : ReadUntilButtonsStatus}
    {accepted unread : List KeyStatePB} {faulty : KeyStatePB}
    {taken : List (ButtonsFrameTuple ButtonsType)}
    (h : StoppedAt coder event.keyPress queues queues' status accepted faulty unread taken) :
    AllOrNone coder event queues queues' ↔
      accepted = [] ∨ acceptablePresses coder unread queues' = [] := by
  obtain ⟨hsplit, hdecodes, hturn, hqueues, hfault⟩ := h
  have hall : acceptablePresses coder event.keyPress queues =
      taken ++ acceptablePresses coder unread queues' := by
    rw [hsplit, acceptablePresses_append hdecodes hturn, ← hqueues, acceptablePresses,
      hfault.acceptedPress_eq_none]
  have hlost : queues' = QueueMap.insertTuples queues
      (taken ++ acceptablePresses coder unread queues') ↔
        acceptablePresses coder unread queues' = [] := by
    have hrest := acceptablePresses_inTurn coder unread queues'
    rw [QueueMap.insertTuples_append, ← hqueues]
    generalize acceptablePresses coder unread queues' = lost at hrest ⊢
    cases lost with
    | nil => simp
    | cons tuple tuples => simpa using (QueueMap.insertTuples_ne hrest).symm
  have hkept : queues' = queues ↔ accepted = [] := by
    rw [hqueues]
    cases hdecodes with
    | nil => simp
    | cons _ _ => simpa using QueueMap.insertTuples_ne hturn
  rw [AllOrNone, hall, hlost, hkept]
  exact or_comm

/-! ### The rounds before it -/

/-- The status of `ReadUntilButtons` is that of its last round, and every round
before it put all the key presses of its event. -/
theorem readUntilButtons_lastRound (coder : ButtonCoder ButtonsType) (port : Port) (frame : Int)
    (incoming : List (Option IncomingEventPB)) (handler : EventStreamHandler ButtonsType) :
    (readEvent coder port frame (lastRound coder port frame incoming handler).1
        (lastRound coder port frame incoming handler).2) =
      (some (readUntilButtons coder port frame incoming handler).1,
        (readUntilButtons coder port frame incoming handler).2.2) ∧
    ∃ earlier taken, List.Forall₂ (Decodes coder) (earlier.flatMap keyPresses) taken ∧
      QueueMap.InTurn handler.inputQueues taken ∧
      (lastRound coder port frame incoming handler).2.inputQueues =
        QueueMap.insertTuples handler.inputQueues taken ∧
      ∀ event, (lastRound coder port frame incoming handler).1 = some event →
        incoming = earlier ++
          some event :: (readUntilButtons coder port frame incoming handler).2.1 := by
  induction incoming generalizing handler with
  | nil => exact ⟨rfl, [], [], .nil, trivial, rfl, nofun⟩
  | cons read incoming ih =>
      obtain ⟨hturn, hhandler, -, hagain, -⟩ := readEvent_spec coder port frame read handler
      rw [readUntilButtons, lastRound]
      cases hround : readEvent coder port frame read handler with
      | mk outcome handler' =>
          rw [hround] at hhandler hagain
          cases outcome with
          | some status =>
              refine ⟨hround, [], [], .nil, trivial, rfl, ?_⟩
              rintro event rfl
              rfl
          | none =>
              obtain ⟨hlast, earlier, taken, hdecodes, hturn', hqueues, hsplit⟩ := ih handler'
              have hfirst : handler'.inputQueues = QueueMap.insertTuples handler.inputQueues
                  (takenPresses coder (keyPresses read) handler.inputQueues) := by
                rw [show handler' = _ from hhandler]
                rfl
              refine ⟨hlast, read :: earlier, _, ?_,
                QueueMap.inTurn_append.mpr ⟨hturn, hfirst ▸ hturn'⟩, ?_, ?_⟩
              · rw [List.flatMap_cons]
                exact List.rel_append (hagain rfl).1 hdecodes
              · rw [QueueMap.insertTuples_append, ← hfirst]
                exact hqueues
              · intro event hevent
                rw [List.cons_append, ← hsplit event hevent]

/-- **A failing event is applied up to its fault.**  The events before it are
applied in full.  Of the event itself the presses before the faulty one are in
their queues, and nothing of what comes after it, although all of it has been
taken off the stream.  So the event is applied in full or not at all exactly if
the faulty press comes first or no press after it is acceptable. -/
theorem faulty_event (coder : ButtonCoder ButtonsType) (port : Port) (frame : Int)
    (incoming : List (Option IncomingEventPB)) (handler : EventStreamHandler ButtonsType)
    (hfailed : (readUntilButtons coder port frame incoming handler).1 = .invalidButtonsMessage ∨
      (readUntilButtons coder port frame incoming handler).1 = .rejectedByQueue) :
    ∃ (event : IncomingEventPB) (before : EventStreamHandler ButtonsType)
      (earlier : List (Option IncomingEventPB))
      (takenEarlier : List (ButtonsFrameTuple ButtonsType)) (accepted : List KeyStatePB)
      (faulty : KeyStatePB) (unread : List KeyStatePB)
      (taken : List (ButtonsFrameTuple ButtonsType)),
      lastRound coder port frame incoming handler = (some event, before) ∧
        incoming = earlier ++
          some event :: (readUntilButtons coder port frame incoming handler).2.1 ∧
        (List.Forall₂ (Decodes coder) (earlier.flatMap keyPresses) takenEarlier ∧
          before.inputQueues = QueueMap.insertTuples handler.inputQueues takenEarlier) ∧
        StoppedAt coder event.keyPress before.inputQueues
          (readUntilButtons coder port frame incoming handler).2.2.inputQueues
          (readUntilButtons coder port frame incoming handler).1 accepted faulty unread taken ∧
        (AllOrNone coder event before.inputQueues
            (readUntilButtons coder port frame incoming handler).2.2.inputQueues ↔
          accepted = [] ∨ acceptablePresses coder unread
            (readUntilButtons coder port frame incoming handler).2.2.inputQueues = []) := by
  obtain ⟨hlast, earlier, takenEarlier, hdecodes, -, hqueues, hsplit⟩ :=
    readUntilButtons_lastRound coder port frame incoming handler
  generalize readUntilButtons coder port frame incoming handler = result at *
  generalize lastRound coder port frame incoming handler = last at *
  obtain ⟨status, left, handler'⟩ := result
  obtain ⟨read, before⟩ := last
  -- only the key press loop of an event returns one of the two statuses
  unfold readEvent at hlast
  cases read with
  | none =>
      cases hlast
      simp at hfailed
  | some event =>
      simp only at hlast
      split_ifs at hlast
      · cases hlast
        simp at hfailed
      · cases hlast
        simp at hfailed
      · cases hloop : putKeyPresses coder port frame event.keyPress false
            ((before.addEvent .keyStateReadStart).addEvent .keyStateReadFinish) with
        | mk outcome handler₁ =>
            rw [hloop] at hlast
            cases outcome with
            | ok found =>
                cases found with
                | false => cases hlast
                | true =>
                    cases hlast
                    simp at hfailed
            | error status₁ =>
                cases hlast
                obtain ⟨accepted, faulty, unread, taken, hstopped⟩ := putKeyPresses_error hloop
                exact ⟨event, before, earlier, takenEarlier, accepted, faulty, unread, taken, rfl,
                  hsplit event rfl, ⟨hdecodes, hqueues⟩, hstopped, hstopped.allOrNone_iff⟩

/-- Two key presses of the other player with one for an unconnected port between
them. -/
def strayPress : IncomingEventPB where
  keyPress :=
    [{ consoleId := 1, frameNumber := 2, port := 2, xAxis := 5 },
      { consoleId := 1, frameNumber := 2, port := 3, xAxis := 6 },
      { consoleId := 1, frameNumber := 3, port := 2, xAxis := 7 }]

theorem faulty_event_strayPress :
    (readUntilButtons integerCoder 2 2 [some strayPress] (player 1)).1 =
        .invalidButtonsMessage ∧
      ∃ event before accepted faulty unread taken,
        lastRound integerCoder 2 2 [some strayPress] (player 1) = (some event, before) ∧
          StoppedAt integerCoder event.keyPress before.inputQueues
            (readUntilButtons integerCoder 2 2 [some strayPress] (player 1)).2.2.inputQueues
            (readUntilButtons integerCoder 2 2 [some strayPress] (player 1)).1 accepted faulty
            unread taken := by
  have hfailed : (readUntilButtons integerCoder 2 2 [some strayPress] (player 1)).1 =
      .invalidButtonsMessage := by
    decide
  obtain ⟨event, before, -, -, accepted, faulty, unread, taken, hlast, -, -, hstopped, -⟩ :=
    faulty_event integerCoder 2 2 [some strayPress] (player 1) (Or.inl hfailed)
  exact ⟨hfailed, event, before, accepted, faulty, unread, taken, hlast, hstopped⟩

/-- A failing event can be applied in part: frame 2 of the other player is kept
and frame 3 is lost. -/
theorem faulty_event_not_allOrNone :
    ¬ ∀ (ports : PortEnum) (connectedPorts : List ConnectedPortPB)
      (handler : EventStreamHandler Int), StartedBy ports connectedPorts handler →
      ∀ (coder : ButtonCoder Int) (port : Port) (frame : Int)
        (incoming : List (Option IncomingEventPB)),
        ((readUntilButtons coder port frame incoming handler).1 = .invalidButtonsMessage ∨
          (readUntilButtons coder port frame incoming handler).1 = .rejectedByQueue) →
        ∀ event before, lastRound coder port frame incoming handler = (some event, before) →
          AllOrNone coder event before.inputQueues
            (readUntilButtons coder port frame incoming handler).2.2.inputQueues := by
  intro h
  have hall := h portNumbers twoPorts (player 1) (player_startedBy (Or.inl rfl)) integerCoder 2 2
    [some strayPress] (by decide) strayPress (player 1) (by decide)
  have hpart : ¬ AllOrNone integerCoder strayPress (player 1).inputQueues
      (readUntilButtons integerCoder 2 2 [some strayPress] (player 1)).2.2.inputQueues := by
    decide
  exact hpart hall

end EventStreamHandler

end Client
end Netplay
