import Netplay.Client.PutButtons

/-!
# What `GetButtons` does

A call for a remote port whose frame is absent reads events until one carries
the frame, and puts every key press on the way into its queue.  As for
`PutButtons`, a round is described by the tuples the queues took from it
(`takenPresses`), whatever the event was.

* `putKeyPress_step`, `putKeyPresses_spec` and `readEvent_spec` go from one key
  press over one event to one round of `ReadUntilButtons`.
* `readEvent_of_inTurn` is the exact result of a round all of whose key presses
  are acceptable.
* `Delivers` is what the final read of the queue can do, and `getButtons_spec`
  puts the call together.
-/

namespace Netplay
namespace Client
namespace EventStreamHandler

variable {ButtonsType : Type*}

/-- The tuple is what the key press carries. -/
structure Decodes (coder : ButtonCoder ButtonsType) (keys : KeyStatePB)
    (tuple : ButtonsFrameTuple ButtonsType) : Prop where
  port : keys.port = tuple.port
  frame : keys.frameNumber = tuple.frame
  buttons : coder.decodeButtons keys = some tuple.buttons

/-- The tuple is the one a read of `port` and `frame` waits for. -/
def IsFor (port : Port) (frame : Int) (tuple : ButtonsFrameTuple ButtonsType) : Prop :=
  tuple.port = port ∧ tuple.frame = frame

instance (port : Port) (frame : Int) (tuple : ButtonsFrameTuple ButtonsType) :
    Decidable (IsFor port frame tuple) :=
  inferInstanceAs (Decidable (_ ∧ _))

/-! ### The key presses of one event -/

/-- The tuple that the queues accept from a key press, if any. -/
def acceptedPress (coder : ButtonCoder ButtonsType) (queues : QueueMap ButtonsType)
    (keys : KeyStatePB) : Option (ButtonsFrameTuple ButtonsType) :=
  match coder.decodeButtons keys with
  | none => none
  | some buttons =>
      if QueueMap.Accepts queues keys.port keys.frameNumber then
        some ⟨keys.port, keys.frameNumber, buttons⟩
      else none

theorem acceptedPress_eq_some_iff {coder : ButtonCoder ButtonsType}
    {queues : QueueMap ButtonsType} {keys : KeyStatePB} {tuple : ButtonsFrameTuple ButtonsType} :
    acceptedPress coder queues keys = some tuple ↔
      Decodes coder keys tuple ∧ QueueMap.Accepts queues tuple.port tuple.frame := by
  unfold acceptedPress
  constructor
  · intro h
    cases hdecode : coder.decodeButtons keys with
    | none => simp [hdecode] at h
    | some buttons =>
        simp only [hdecode, Option.ite_none_right_eq_some, Option.some.injEq] at h
        obtain ⟨haccepts, rfl⟩ := h
        exact ⟨⟨rfl, rfl, hdecode⟩, haccepts⟩
  · rintro ⟨⟨hport, hframe, hbuttons⟩, haccepts⟩
    simp only [hbuttons, hport, hframe, if_pos haccepts]

/-- The outcomes of one key press: it is refused for one of two reasons and
nothing happens, or its tuple is inserted. -/
inductive PressStep (coder : ButtonCoder ButtonsType) (keys : KeyStatePB)
    (handler : EventStreamHandler ButtonsType) :
    Option ReadUntilButtonsStatus × EventStreamHandler ButtonsType → Prop
  | refused {status : ReadUntilButtonsStatus}
      (hrefused : acceptedPress coder handler.inputQueues keys = none)
      (hstatus : status = .invalidButtonsMessage ∨ status = .rejectedByQueue) :
      PressStep coder keys handler (some status, handler)
  | accepted {tuple : ButtonsFrameTuple ButtonsType}
      (haccepted : acceptedPress coder handler.inputQueues keys = some tuple) :
      PressStep coder keys handler (none, handler.insertTuple tuple)

theorem putKeyPress_step (coder : ButtonCoder ButtonsType) (keys : KeyStatePB)
    (handler : EventStreamHandler ButtonsType) :
    PressStep coder keys handler (putKeyPress coder keys handler) := by
  unfold putKeyPress getQueue
  cases hqueue : handler.inputQueues[keys.port]? with
  | none =>
      refine .refused ?_ (Or.inl rfl)
      unfold acceptedPress
      simp only [if_neg (QueueMap.not_accepts_of_none hqueue)]
      cases coder.decodeButtons keys with
      | none => rfl
      | some buttons => rfl
  | some queue =>
      cases hdecode : coder.decodeButtons keys with
      | none =>
          refine .refused ?_ (Or.inl rfl)
          simp only [acceptedPress, hdecode]
      | some buttons =>
          by_cases hacc : queue.Accepts keys.frameNumber
          · have hset := @setQueue_insertButtons _ handler
              ⟨keys.port, keys.frameNumber, buttons⟩ queue hqueue
            simp only at hset
            simp only [InputQueue.putButtons_of_accepts hacc, hset, Bool.true_eq_false, if_false]
            refine .accepted (acceptedPress_eq_some_iff.mpr ⟨⟨rfl, rfl, hdecode⟩, ?_⟩)
            exact ⟨queue, hqueue, hacc⟩
          · have hrefused : ¬ QueueMap.Accepts handler.inputQueues keys.port
                keys.frameNumber := by
              rw [QueueMap.accepts_iff hqueue]
              exact hacc
            simp only [InputQueue.putButtons_of_not_accepts hacc, setQueue_self hqueue, if_true]
            refine .refused ?_ (Or.inr rfl)
            simp only [acceptedPress, hdecode, if_neg hrefused]

/-- The tuples that the queues take from the key presses of one event. -/
def takenPresses (coder : ButtonCoder ButtonsType) :
    List KeyStatePB → QueueMap ButtonsType → List (ButtonsFrameTuple ButtonsType)
  | [], _ => []
  | keys :: rest, queues =>
      match acceptedPress coder queues keys with
      | none => []
      | some tuple => tuple :: takenPresses coder rest (QueueMap.insertTuple queues tuple)

/-- What the loop over the key presses did, in terms of the tuples taken. -/
structure PressesSpec (coder : ButtonCoder ButtonsType) (port : Port) (frame : Int)
    (presses : List KeyStatePB) (foundButtons : Bool) (handler : EventStreamHandler ButtonsType)
    (taken : List (ButtonsFrameTuple ButtonsType))
    (result : Except ReadUntilButtonsStatus Bool × EventStreamHandler ButtonsType) : Prop where
  inTurn : QueueMap.InTurn handler.inputQueues taken
  handler_eq : result.2 = handler.insertTuples taken
  decodes : ∃ read rest, presses = read ++ rest ∧ List.Forall₂ (Decodes coder) read taken
  ok : ∀ found, result.1 = .ok found → List.Forall₂ (Decodes coder) presses taken ∧
    (found = true ↔ foundButtons = true ∨ ∃ tuple ∈ taken, IsFor port frame tuple)
  error : ∀ status, result.1 = .error status →
    status = .invalidButtonsMessage ∨ status = .rejectedByQueue

theorem putKeyPresses_spec (coder : ButtonCoder ButtonsType) (port : Port) (frame : Int)
    (presses : List KeyStatePB) (foundButtons : Bool)
    (handler : EventStreamHandler ButtonsType) :
    PressesSpec coder port frame presses foundButtons handler
      (takenPresses coder presses handler.inputQueues)
      (putKeyPresses coder port frame presses foundButtons handler) := by
  induction presses generalizing foundButtons handler with
  | nil =>
      refine ⟨trivial, rfl, ⟨[], [], rfl, .nil⟩, ?_, nofun⟩
      intro found hfound
      cases hfound
      exact ⟨.nil, by simp [takenPresses]⟩
  | cons keys rest ih =>
      rw [takenPresses, putKeyPresses]
      have hstep := putKeyPress_step coder keys handler
      generalize putKeyPress coder keys handler = result at hstep
      cases hstep with
      | refused hrefused hstatus =>
          rw [hrefused]
          refine ⟨trivial, rfl, ⟨[], keys :: rest, rfl, .nil⟩, nofun, ?_⟩
          intro status h
          cases h
          exact hstatus
      | @accepted tuple haccepted =>
          rw [haccepted]
          obtain ⟨hdecodes, haccepts⟩ := acceptedPress_eq_some_iff.mp haccepted
          obtain ⟨hturn, hhandler, ⟨read, unread, hread, hreads⟩, hok, herror⟩ :=
            ih (foundButtons || (keys.port == port && keys.frameNumber == frame))
              (handler.insertTuple tuple)
          refine ⟨⟨haccepts, hturn⟩, hhandler, ⟨keys :: read, unread, ?_, .cons hdecodes hreads⟩,
            ?_, herror⟩
          · rw [hread, List.cons_append]
          · intro found hfound
            obtain ⟨hall, hiff⟩ := hok found hfound
            refine ⟨.cons hdecodes hall, hiff.trans ?_⟩
            simp only [Bool.or_eq_true, Bool.and_eq_true, beq_iff_eq, List.mem_cons,
              exists_eq_or_imp, IsFor, ← hdecodes.port, ← hdecodes.frame, or_assoc]
            rfl

/-- Key presses that the queues accept in turn are all taken. -/
theorem takenPresses_of_inTurn {coder : ButtonCoder ButtonsType} {presses : List KeyStatePB}
    {tuples : List (ButtonsFrameTuple ButtonsType)} {queues : QueueMap ButtonsType}
    (hdecodes : List.Forall₂ (Decodes coder) presses tuples)
    (hturn : QueueMap.InTurn queues tuples) : takenPresses coder presses queues = tuples := by
  induction hdecodes generalizing queues with
  | nil => rfl
  | cons hdecode _ ih =>
      rw [takenPresses, acceptedPress_eq_some_iff.mpr ⟨hdecode, hturn.1⟩]
      simp only [ih hturn.2]

theorem putKeyPresses_of_inTurn {coder : ButtonCoder ButtonsType} {presses : List KeyStatePB}
    {tuples : List (ButtonsFrameTuple ButtonsType)} {handler : EventStreamHandler ButtonsType}
    (port : Port) (frame : Int) (foundButtons : Bool)
    (hdecodes : List.Forall₂ (Decodes coder) presses tuples)
    (hturn : QueueMap.InTurn handler.inputQueues tuples) :
    putKeyPresses coder port frame presses foundButtons handler =
      (.ok (foundButtons || decide (∃ tuple ∈ tuples, IsFor port frame tuple)),
        handler.insertTuples tuples) := by
  induction hdecodes generalizing foundButtons handler with
  | nil => simp [putKeyPresses]
  | @cons keys tuple presses tuples hdecode _ ih =>
      have hstep := putKeyPress_step coder keys handler
      rw [putKeyPresses]
      generalize putKeyPress coder keys handler = result at hstep
      have htaken := acceptedPress_eq_some_iff.mpr ⟨hdecode, hturn.1⟩
      cases hstep with
      | refused hrefused _ =>
          rw [htaken] at hrefused
          cases hrefused
      | accepted haccepted =>
          rw [htaken] at haccepted
          cases haccepted
          have hfor : (keys.port == port && keys.frameNumber == frame) =
              decide (IsFor port frame tuple) := by
            rw [hdecode.port, hdecode.frame]
            exact (Bool.decide_and _ _).symm
          have hrest := @ih (handler.insertTuple tuple)
            (foundButtons || (keys.port == port && keys.frameNumber == frame)) hturn.2
          refine hrest.trans ?_
          simp only [hfor, List.mem_cons, exists_eq_or_imp, Bool.decide_or, Bool.or_assoc]
          rfl

/-! ### One round of `ReadUntilButtons` -/

/-- The key presses that a round looks at: those of an event that is neither a
stop message nor anything else but key presses. -/
def keyPresses : Option IncomingEventPB → List KeyStatePB
  | none => []
  | some event =>
      if event.hasStopConsole then []
      else if event.startGame.isSome ∨ event.hasInvalidData then []
      else event.keyPress

theorem mem_keyPresses {read : Option IncomingEventPB} {keys : KeyStatePB}
    (h : keys ∈ keyPresses read) : ∃ event, read = some event ∧ keys ∈ event.keyPress := by
  cases read with
  | none => cases h
  | some event =>
      simp only [keyPresses] at h
      split_ifs at h
      · cases h
      · cases h
      · exact ⟨event, rfl, h⟩

/-- What a round did, in terms of the tuples taken. -/
structure ReadSpec (coder : ButtonCoder ButtonsType) (port : Port) (frame : Int)
    (presses : List KeyStatePB) (handler : EventStreamHandler ButtonsType)
    (taken : List (ButtonsFrameTuple ButtonsType))
    (result : Option ReadUntilButtonsStatus × EventStreamHandler ButtonsType) : Prop where
  inTurn : QueueMap.InTurn handler.inputQueues taken
  handler_eq : result.2 =
    { handler.insertTuples taken with timings := result.2.timings }
  decodes : ∃ read rest, presses = read ++ rest ∧ List.Forall₂ (Decodes coder) read taken
  again : result.1 = none → List.Forall₂ (Decodes coder) presses taken ∧
    ∀ tuple ∈ taken, ¬ IsFor port frame tuple
  gotButtons : result.1 = some .gotButtons → ∃ tuple ∈ taken, IsFor port frame tuple

theorem readEvent_spec (coder : ButtonCoder ButtonsType) (port : Port) (frame : Int)
    (read : Option IncomingEventPB) (handler : EventStreamHandler ButtonsType) :
    ReadSpec coder port frame (keyPresses read) handler
      (takenPresses coder (keyPresses read) handler.inputQueues)
      (readEvent coder port frame read handler) := by
  unfold readEvent
  cases read with
  | none => exact ⟨trivial, rfl, ⟨[], [], rfl, .nil⟩, nofun, nofun⟩
  | some event =>
      by_cases hstop : event.hasStopConsole = true
      · simp only [keyPresses, if_pos hstop]
        exact ⟨trivial, rfl, ⟨[], [], rfl, .nil⟩, nofun, nofun⟩
      by_cases hother : event.startGame.isSome = true ∨ event.hasInvalidData = true
      · simp only [keyPresses, if_neg hstop, if_pos hother]
        exact ⟨trivial, rfl, ⟨[], [], rfl, .nil⟩, nofun, nofun⟩
      simp only [keyPresses, if_neg hstop, if_neg hother]
      obtain ⟨hturn, hhandler, hdecodes, hok, herror⟩ :
          PressesSpec coder port frame event.keyPress false
            ((handler.addEvent .keyStateReadStart).addEvent .keyStateReadFinish)
            (takenPresses coder event.keyPress handler.inputQueues) _ :=
        putKeyPresses_spec coder port frame event.keyPress false
          ((handler.addEvent .keyStateReadStart).addEvent .keyStateReadFinish)
      generalize putKeyPresses coder port frame event.keyPress false
        ((handler.addEvent .keyStateReadStart).addEvent .keyStateReadFinish) = result at *
      obtain ⟨outcome, handler'⟩ := result
      cases hhandler
      cases outcome with
      -- an error of the loop is never `GOT_BUTTONS`
      | error status =>
          refine ⟨hturn, rfl, hdecodes, nofun, ?_⟩
          rintro ⟨⟩
          rcases herror _ rfl with h | h
          · cases h
          · cases h
      | ok found =>
          obtain ⟨hall, hiff⟩ := hok found rfl
          cases found with
          | true => exact ⟨hturn, rfl, hdecodes, nofun, fun _ => by simpa using hiff⟩
          | false =>
              refine ⟨hturn, rfl, hdecodes, fun _ => ⟨hall, ?_⟩, nofun⟩
              simpa using hiff

/-- The event carries key presses and nothing else. -/
structure Plain (event : IncomingEventPB) : Prop where
  noStopConsole : event.hasStopConsole = false
  noStartGame : event.startGame = none
  noInvalidData : event.hasInvalidData = false

instance (event : IncomingEventPB) : Decidable (Plain event) :=
  decidable_of_iff (event.hasStopConsole = false ∧ event.startGame = none ∧
      event.hasInvalidData = false)
    ⟨fun ⟨hstop, hstart, hdata⟩ => ⟨hstop, hstart, hdata⟩,
      fun h => ⟨h.noStopConsole, h.noStartGame, h.noInvalidData⟩⟩

theorem Plain.keyPresses_eq {event : IncomingEventPB} (h : Plain event) :
    keyPresses (some event) = event.keyPress := by
  simp [keyPresses, h.noStopConsole, h.noStartGame, h.noInvalidData]

/-- An event of key presses only, all of them acceptable in turn. -/
structure Acceptable (coder : ButtonCoder ButtonsType) (handler : EventStreamHandler ButtonsType)
    (event : IncomingEventPB) (tuples : List (ButtonsFrameTuple ButtonsType)) : Prop where
  plain : Plain event
  decodes : List.Forall₂ (Decodes coder) event.keyPress tuples
  inTurn : QueueMap.InTurn handler.inputQueues tuples

/-- The exact result of a round all of whose key presses are acceptable: it is
the last one if the buttons asked for are among them. -/
theorem readEvent_of_inTurn {coder : ButtonCoder ButtonsType} {event : IncomingEventPB}
    {tuples : List (ButtonsFrameTuple ButtonsType)} {handler : EventStreamHandler ButtonsType}
    (port : Port) (frame : Int) (h : Acceptable coder handler event tuples) :
    takenPresses coder (keyPresses (some event)) handler.inputQueues = tuples ∧
      (readEvent coder port frame (some event) handler).1 =
        (if ∃ tuple ∈ tuples, IsFor port frame tuple then some .gotButtons else none) ∧
      (readEvent coder port frame (some event) handler).2.inputQueues =
        QueueMap.insertTuples handler.inputQueues tuples := by
  have htaken : takenPresses coder (keyPresses (some event)) handler.inputQueues = tuples := by
    rw [h.plain.keyPresses_eq]
    exact takenPresses_of_inTurn h.decodes h.inTurn
  refine ⟨htaken, ?_, ?_⟩
  · unfold readEvent
    have hloop := @putKeyPresses_of_inTurn _ coder event.keyPress tuples
      ((handler.addEvent .keyStateReadStart).addEvent .keyStateReadFinish) port frame false
      h.decodes h.inTurn
    simp only [h.plain.noStopConsole, h.plain.noStartGame, h.plain.noInvalidData, hloop,
      Bool.false_or]
    by_cases hfound : ∃ tuple ∈ tuples, IsFor port frame tuple
    · simp [hfound]
    · simp [hfound]
  · rw [(readEvent_spec coder port frame (some event) handler).handler_eq, htaken]
    rfl

/-! ### The reads of the queue -/

variable [Inhabited ButtonsType]

/-- The frame is the next one of its port, and its buttons are there. -/
def Ready (queues : QueueMap ButtonsType) (port : Port) (frame : Int)
    (value : ButtonsType) : Prop :=
  ∃ queue, queues[port]? = some queue ∧ frame = queue.expectedFrame ∧
    queue.buttonsAt frame = some value

/-- The frame is the next one of its port, and its buttons are absent. -/
def Awaits (queues : QueueMap ButtonsType) (port : Port) (frame : Int) : Prop :=
  ∃ queue, queues[port]? = some queue ∧ frame = queue.expectedFrame ∧
    queue.buttonsAt frame = none

instance (queues : QueueMap ButtonsType) (port : Port) (frame : Int) :
    Decidable (Awaits queues port frame) :=
  match h : queues[port]? with
  | none => isFalse fun ⟨_, hqueue, _⟩ => by simp [h] at hqueue
  | some queue =>
      decidable_of_iff (frame = queue.expectedFrame ∧ (queue.buttonsAt frame).isNone = true)
        ⟨fun ⟨hframe, hnone⟩ => ⟨queue, h, hframe, Option.isNone_iff_eq_none.mp hnone⟩,
          fun ⟨_, hqueue, hframe, hnone⟩ => by
            rw [h] at hqueue
            cases hqueue
            exact ⟨hframe, Option.isNone_iff_eq_none.mpr hnone⟩⟩

/-- What the two say once the queue of the port is known. -/
theorem ready_iff {queues : QueueMap ButtonsType} {port : Port} {frame : Int}
    {value : ButtonsType} {queue : InputQueue ButtonsType} (hqueue : queues[port]? = some queue) :
    Ready queues port frame value ↔
      frame = queue.expectedFrame ∧ queue.buttonsAt frame = some value := by
  simp [Ready, hqueue]

theorem awaits_iff {queues : QueueMap ButtonsType} {port : Port} {frame : Int}
    {queue : InputQueue ButtonsType} (hqueue : queues[port]? = some queue) :
    Awaits queues port frame ↔ frame = queue.expectedFrame ∧ queue.buttonsAt frame = none := by
  simp [Awaits, hqueue]

theorem not_ready_of_none {queues : QueueMap ButtonsType} {port : Port} {frame : Int}
    {value : ButtonsType} (hnone : queues[port]? = none) : ¬ Ready queues port frame value := by
  simp [Ready, hnone]

/-- What a call does to the queues once it has stopped reading: it hands out the
frame and the port moves on, or it leaves the queues and `*buttons` alone. -/
inductive Delivers (queues : QueueMap ButtonsType) (port : Port) (frame : Int)
    (buttons : ButtonsType) : GetButtonsStatus → ButtonsType → QueueMap ButtonsType → Prop
  | success {value : ButtonsType} (hready : Ready queues port frame value) :
      Delivers queues port frame buttons .success value (QueueMap.advance queues port)
  | failed {status : GetButtonsStatus} (hstatus : status ≠ .success) :
      Delivers queues port frame buttons status buttons queues

theorem Delivers.getElem?_of_ne {queues queues' : QueueMap ButtonsType} {port k : Port}
    {frame : Int} {buttons value : ButtonsType} {status : GetButtonsStatus}
    (h : Delivers queues port frame buttons status value queues') (hk : port ≠ k) :
    queues'[k]? = queues[k]? := by
  cases h with
  | success _ => rw [QueueMap.getElem?_advance, if_neg hk]
  | failed _ => rfl

/-- The outcomes of reading a queue, with the handler the read leaves behind. -/
inductive QueueRead (handler : EventStreamHandler ButtonsType) (port : Port) (frame : Int)
    (buttons : ButtonsType) :
    InputQueue.GetButtonsStatus → ButtonsType → EventStreamHandler ButtonsType → Prop
  | success {value : ButtonsType} (hready : Ready handler.inputQueues port frame value) :
      QueueRead handler port frame buttons .success value
        { handler with inputQueues := QueueMap.advance handler.inputQueues port }
  | timeout (hawaits : Awaits handler.inputQueues port frame) :
      QueueRead handler port frame buttons .timeout buttons handler
  | unexpectedFrame {queue : InputQueue ButtonsType}
      (hqueue : handler.inputQueues[port]? = some queue) (hframe : frame ≠ queue.expectedFrame) :
      QueueRead handler port frame buttons .unexpectedFrame buttons handler

theorem queueRead {handler : EventStreamHandler ButtonsType}
    (hvalid : QueueMap.Valid handler.inputQueues) {port : Port} {queue : InputQueue ButtonsType}
    (hqueue : handler.inputQueues[port]? = some queue) (frame : Int) (buttons : ButtonsType) :
    QueueRead handler port frame buttons (queue.getButtons frame buttons).status
      (queue.getButtons frame buttons).buttons
      (handler.setQueue port (queue.getButtons frame buttons).queue) := by
  have hsame := setQueue_self hqueue
  rw [(hvalid port queue hqueue).getButtons_eq]
  by_cases hframe : frame = queue.expectedFrame
  · rw [if_pos hframe]
    cases hvalue : queue.buttonsAt frame with
    | none =>
        simp only [hsame]
        exact .timeout ⟨queue, hqueue, hframe, hvalue⟩
    | some value =>
        have hset : handler.setQueue port queue.advance =
            { handler with inputQueues := QueueMap.advance handler.inputQueues port } := by
          unfold setQueue
          rw [QueueMap.insert_eq_modify hqueue InputQueue.advance]
          rfl
        simp only [hset]
        exact .success ⟨queue, hqueue, hframe, hvalue⟩
  · rw [if_neg hframe]
    simp only [hsame]
    exact .unexpectedFrame hqueue hframe

theorem Ready.not_awaits {queues : QueueMap ButtonsType} {port : Port} {frame : Int}
    {value : ButtonsType} (h : Ready queues port frame value) : ¬ Awaits queues port frame := by
  obtain ⟨queue, hqueue, -, hvalue⟩ := h
  rw [awaits_iff hqueue]
  rintro ⟨-, hnone⟩
  rw [hvalue] at hnone
  cases hnone

theorem Ready.unique {queues : QueueMap ButtonsType} {port : Port} {frame : Int}
    {value value' : ButtonsType} (h : Ready queues port frame value)
    (h' : Ready queues port frame value') : value = value' := by
  obtain ⟨queue, hqueue, -, hvalue⟩ := h
  have hvalue' := ((ready_iff hqueue).mp h').2
  rw [hvalue] at hvalue'
  exact Option.some.inj hvalue'

theorem Ready.cursorOf {queues : QueueMap ButtonsType} {port : Port} {frame : Int}
    {value : ButtonsType} (h : Ready queues port frame value) :
    QueueMap.cursorOf queues port = some frame := by
  obtain ⟨queue, hqueue, rfl, -⟩ := h
  exact QueueMap.cursorOf_of_some hqueue

theorem Awaits.cursorOf {queues : QueueMap ButtonsType} {port : Port} {frame : Int}
    (h : Awaits queues port frame) : QueueMap.cursorOf queues port = some frame := by
  obtain ⟨queue, hqueue, rfl, -⟩ := h
  exact QueueMap.cursorOf_of_some hqueue

/-- The next frame of a port is ready, or it is awaited. -/
theorem ready_or_awaits {queues : QueueMap ButtonsType} {port : Port} {frame : Int}
    (hcursor : QueueMap.cursorOf queues port = some frame) :
    (∃ value, Ready queues port frame value) ∨ Awaits queues port frame := by
  obtain ⟨queue, hqueue, hframe⟩ := Option.map_eq_some_iff.mp hcursor
  cases hvalue : queue.buttonsAt frame with
  | none => exact Or.inr ⟨queue, hqueue, hframe.symm, hvalue⟩
  | some value => exact Or.inl ⟨value, queue, hqueue, hframe.symm, hvalue⟩

/-- An awaited frame is outside the initial delay, and nobody has put it yet. -/
theorem Awaits.initial_le {queues : QueueMap ButtonsType} {port : Port} {frame : Int}
    (h : Awaits queues port frame) {queue : InputQueue ButtonsType}
    (hqueue : queues[port]? = some queue) : queue.initialFrameDelay ≤ frame := by
  obtain ⟨-, hvalue⟩ := (awaits_iff hqueue).mp h
  by_contra hearly
  rw [InputQueue.buttonsAt, if_pos (by omega)] at hvalue
  cases hvalue

theorem Awaits.not_seenAt {queues : QueueMap ButtonsType} {port : Port} {frame : Int}
    (h : Awaits queues port frame) : ¬ QueueMap.SeenAt queues (port, frame) := by
  rintro ⟨queue, hqueue, hseen⟩
  have hinitial := h.initial_le hqueue
  obtain ⟨hframe, hvalue⟩ := (awaits_iff hqueue).mp h
  rw [InputQueue.buttonsAt, if_neg (by omega)] at hvalue
  rcases hseen with hread | hbuffered
  · rw [hframe, InputQueue.expectedFrame] at hread
    omega
  · rw [Std.ExtTreeMap.mem_iff_isSome_getElem?, hvalue] at hbuffered
    cases hbuffered

theorem Ready.seenAt {queues : QueueMap ButtonsType} {port : Port} {frame : Int}
    {value : ButtonsType} (h : Ready queues port frame value)
    (hinitial : ∀ queue, queues[port]? = some queue → queue.initialFrameDelay ≤ frame) :
    QueueMap.SeenAt queues (port, frame) := by
  obtain ⟨queue, hqueue, -, hvalue⟩ := h
  have hlate := hinitial queue hqueue
  rw [InputQueue.buttonsAt, if_neg (by omega)] at hvalue
  refine ⟨queue, hqueue, Or.inr (Std.ExtTreeMap.mem_iff_isSome_getElem?.mpr ?_)⟩
  rw [hvalue]
  rfl

/-- A frame that is ready is skipped by the initial delay or buffered. -/
theorem Ready.there {queues : QueueMap ButtonsType} {port : Port} {frame : Int}
    {value : ButtonsType} (h : Ready queues port frame value) {queue : InputQueue ButtonsType}
    (hqueue : queues[port]? = some queue) :
    queue.expectedFrame < queue.initialFrameDelay ∨ queue.expectedFrame ∈ queue.frameButtons := by
  obtain ⟨rfl, hvalue⟩ := (ready_iff hqueue).mp h
  rw [InputQueue.buttonsAt] at hvalue
  split_ifs at hvalue with hearly
  · exact Or.inl hearly
  · refine Or.inr (Std.ExtTreeMap.mem_iff_isSome_getElem?.mpr ?_)
    rw [hvalue]
    rfl

/-- Tuples for other slots leave a frame awaited. -/
theorem Awaits.insertTuples {queues : QueueMap ButtonsType} {delay : Port → Int}
    (hdelays : QueueMap.HasDelays queues delay) {port : Port} {frame : Int}
    (h : Awaits queues port frame) {tuples : List (ButtonsFrameTuple ButtonsType)}
    (hslots : ∀ tuple ∈ tuples, QueueMap.slotOf delay tuple ≠ (port, frame)) :
    Awaits (QueueMap.insertTuples queues tuples) port frame := by
  have hcursor : QueueMap.cursorOf (QueueMap.insertTuples queues tuples) port = some frame := by
    rw [QueueMap.cursorOf_insertTuples]
    exact h.cursorOf
  obtain ⟨queue, hqueue, -⟩ := id h
  -- if the frame became ready, its slot was filled, so one of the tuples filled it
  rcases ready_or_awaits hcursor with ⟨value, hready⟩ | hawaits
  · have hevolves := QueueMap.evolves_insertTuples queues tuples
    have hseen := hready.seenAt (by
      intro queue' hqueue'
      obtain ⟨queue₁, hqueue₁, hsame⟩ := hevolves.of_some hqueue
      rw [hqueue'] at hqueue₁
      cases hqueue₁
      rw [hsame.initialFrameDelay]
      exact h.initial_le hqueue)
    rcases QueueMap.seenAt_of_insertTuples hdelays hseen with hseen | ⟨tuple, htuple, hslot⟩
    · exact absurd hseen h.not_seenAt
    · exact absurd hslot (hslots tuple htuple)
  · exact hawaits

/-- The end of a call refuses nothing that was acceptable before it. -/
theorem Delivers.accepts {queues queues' : QueueMap ButtonsType} {port k : Port}
    {frame frame' : Int} {buttons value : ButtonsType} {status : GetButtonsStatus}
    (h : Delivers queues port frame buttons status value queues')
    (haccepts : QueueMap.Accepts queues k frame') : QueueMap.Accepts queues' k frame' := by
  cases h with
  | failed _ => exact haccepts
  | success hready => exact haccepts.advance fun _ hqueue => hready.there hqueue

/-- What the end of a call does, told from the queues it finds. -/
structure EndsWith (port : Port) (frame : Int) (buttons : ButtonsType)
    (incoming : List (Option IncomingEventPB)) (handler : EventStreamHandler ButtonsType)
    (result : GetButtonsResult ButtonsType) : Prop where
  delivers : Delivers handler.inputQueues port frame buttons result.status result.buttons
    result.handler.inputQueues
  incoming_eq : result.incoming = incoming
  handler_eq : result.handler =
    { handler with
      inputQueues := result.handler.inputQueues
      timings := result.handler.timings }

theorem finishRemoteButtons_endsWith {handler : EventStreamHandler ButtonsType}
    (hvalid : QueueMap.Valid handler.inputQueues) (port : Port) (frame : Int)
    (buttons : ButtonsType) (status : ReadUntilButtonsStatus)
    (incoming : List (Option IncomingEventPB)) :
    EndsWith port frame buttons incoming handler
        (finishRemoteButtons port frame buttons status incoming handler) ∧
      (status = .gotButtons → ∀ value, Ready handler.inputQueues port frame value →
        (finishRemoteButtons port frame buttons status incoming handler).status = .success) := by
  unfold finishRemoteButtons getQueue
  by_cases hstatus : status = .gotButtons
  · rw [if_neg (not_not.mpr hstatus)]
    cases hqueue : handler.inputQueues[port]? with
    | none =>
        refine ⟨⟨.failed nofun, rfl, rfl⟩, fun _ value hready => ?_⟩
        exact absurd hready (not_ready_of_none hqueue)
    | some queue =>
        have hread := queueRead hvalid hqueue frame buttons
        simp only
        generalize (queue.getButtons frame buttons).status = st,
          (queue.getButtons frame buttons).buttons = bs,
          handler.setQueue port (queue.getButtons frame buttons).queue = h' at hread ⊢
        cases hread with
        | success hready => exact ⟨⟨.success hready, rfl, rfl⟩, fun _ _ _ => rfl⟩
        | timeout hawaits =>
            refine ⟨⟨.failed nofun, rfl, rfl⟩, fun _ value hready => ?_⟩
            exact absurd hawaits hready.not_awaits
        | unexpectedFrame hsome hframe =>
            refine ⟨⟨.failed nofun, rfl, rfl⟩, fun _ value hready => ?_⟩
            exact absurd ((ready_iff hsome).mp hready).1 hframe
  · rw [if_pos hstatus]
    exact ⟨⟨.failed nofun, rfl, rfl⟩, fun h => absurd h hstatus⟩

/-! ### The call -/

/-- The call has to read the stream. -/
def MustRead (handler : EventStreamHandler ButtonsType) (port : Port) (frame : Int) : Prop :=
  port ∉ handler.localPorts ∧ Awaits handler.inputQueues port frame

instance (handler : EventStreamHandler ButtonsType) (port : Port) (frame : Int) :
    Decidable (MustRead handler port frame) :=
  inferInstanceAs (Decidable (_ ∧ _))

/-- The end of a call that has read the stream. -/
def concludeGetButtons (port : Port) (frame : Int) (buttons : ButtonsType)
    (status : ReadUntilButtonsStatus) (incoming : List (Option IncomingEventPB))
    (handler : EventStreamHandler ButtonsType) : GetButtonsResult ButtonsType :=
  let r := finishRemoteButtons port frame buttons status incoming handler
  { r with handler := r.handler.addEvent .remoteKeyStateReturned }

/-- A call that is reading the stream, one round after the other. -/
def resumeGetButtons (coder : ButtonCoder ButtonsType) (port : Port) (frame : Int)
    (buttons : ButtonsType) : List (Option IncomingEventPB) → EventStreamHandler ButtonsType →
      GetButtonsResult ButtonsType
  | [], handler =>
      let handler := handler.addEvent .keyStateReadStart
      let handler := handler.addEvent .keyStateReadFinish
      concludeGetButtons port frame buttons .rpcReadFailure [] handler
  | read :: incoming, handler =>
      match readEvent coder port frame read handler with
      | (some status, handler) => concludeGetButtons port frame buttons status incoming handler
      | (none, handler) => resumeGetButtons coder port frame buttons incoming handler

theorem concludeGetButtons_readUntilButtons (coder : ButtonCoder ButtonsType) (port : Port)
    (frame : Int) (buttons : ButtonsType) (incoming : List (Option IncomingEventPB))
    (handler : EventStreamHandler ButtonsType) :
    concludeGetButtons port frame buttons (readUntilButtons coder port frame incoming handler).1
        (readUntilButtons coder port frame incoming handler).2.1
        (readUntilButtons coder port frame incoming handler).2.2 =
      resumeGetButtons coder port frame buttons incoming handler := by
  induction incoming generalizing handler with
  | nil => rfl
  | cons read incoming ih =>
      rw [readUntilButtons, resumeGetButtons]
      cases hround : readEvent coder port frame read handler with
      | mk outcome handler' =>
          cases outcome with
          | some status => rfl
          | none => exact ih handler'

/-- A call that must read the stream is a sequence of rounds. -/
theorem getButtons_of_mustRead (coder : ButtonCoder ButtonsType) {port : Port} {frame : Int}
    (buttons : ButtonsType) (incoming : List (Option IncomingEventPB))
    {handler : EventStreamHandler ButtonsType} (hvalid : QueueMap.Valid handler.inputQueues)
    (hmust : MustRead handler port frame) :
    handler.getButtons coder port frame buttons incoming =
      resumeGetButtons coder port frame buttons incoming
        (handler.addEvent .remoteKeyStateRequested) := by
  obtain ⟨hremote, queue, hqueue, hframe, hvalue⟩ := hmust
  have hget : queue.getButtons frame buttons = ⟨.timeout, buttons, queue⟩ := by
    rw [(hvalid port queue hqueue).getButtons_eq, if_pos hframe, hvalue]
  have hsame := setQueue_self (show
    (handler.addEvent .remoteKeyStateRequested).inputQueues[port]? = some queue from hqueue)
  unfold getButtons getRemoteButtons getQueue
  rw [if_neg hremote]
  simp only [show (handler.addEvent .remoteKeyStateRequested).inputQueues[port]? =
    some queue from hqueue, hget, hsame]
  exact concludeGetButtons_readUntilButtons coder port frame buttons incoming _

/-- Any other call ends at once and leaves the stream alone; it succeeds exactly
when the frame is ready. -/
theorem getButtons_of_not_mustRead (coder : ButtonCoder ButtonsType) {port : Port} {frame : Int}
    (buttons : ButtonsType) (incoming : List (Option IncomingEventPB))
    {handler : EventStreamHandler ButtonsType} (hvalid : QueueMap.Valid handler.inputQueues)
    (hmust : ¬ MustRead handler port frame) :
    EndsWith port frame buttons incoming handler
        (handler.getButtons coder port frame buttons incoming) ∧
      (∀ value, Ready handler.inputQueues port frame value →
        (handler.getButtons coder port frame buttons incoming).status = .success) := by
  unfold getButtons
  by_cases hlocal : port ∈ handler.localPorts
  · rw [if_pos hlocal]
    unfold getLocalButtons getQueue
    cases hqueue : handler.inputQueues[port]? with
    | none =>
        refine ⟨⟨.failed nofun, rfl, rfl⟩, fun value hready => ?_⟩
        exact absurd hready (not_ready_of_none hqueue)
    | some queue =>
        have hread := queueRead hvalid hqueue frame buttons
        simp only
        generalize (queue.getButtons frame buttons).status = st,
          (queue.getButtons frame buttons).buttons = bs,
          handler.setQueue port (queue.getButtons frame buttons).queue = h' at hread ⊢
        cases hread with
        | success hready => exact ⟨⟨.success hready, rfl, rfl⟩, fun _ _ => rfl⟩
        | timeout hawaits =>
            exact ⟨⟨.failed nofun, rfl, rfl⟩, fun value hready => absurd hawaits hready.not_awaits⟩
        | unexpectedFrame hsome hframe =>
            refine ⟨⟨.failed nofun, rfl, rfl⟩, fun value hready => ?_⟩
            exact absurd ((ready_iff hsome).mp hready).1 hframe
  · rw [if_neg hlocal]
    unfold getRemoteButtons getQueue
    simp only [show (handler.addEvent .remoteKeyStateRequested).inputQueues =
      handler.inputQueues from rfl]
    cases hqueue : handler.inputQueues[port]? with
    | none =>
        refine ⟨⟨.failed nofun, rfl, rfl⟩, fun value hready => ?_⟩
        exact absurd hready (not_ready_of_none hqueue)
    | some queue =>
        have hread := @queueRead _ _ (handler.addEvent .remoteKeyStateRequested) hvalid port
          queue hqueue frame buttons
        simp only
        generalize (queue.getButtons frame buttons).status = st,
          (queue.getButtons frame buttons).buttons = bs,
          (handler.addEvent .remoteKeyStateRequested).setQueue port
            (queue.getButtons frame buttons).queue = h' at hread ⊢
        cases hread with
        | success hready => exact ⟨⟨.success hready, rfl, rfl⟩, fun _ _ => rfl⟩
        -- a remote call that finds its frame absent goes on to read the stream
        | timeout hawaits => exact absurd ⟨hlocal, hawaits⟩ hmust
        | unexpectedFrame hsome hframe =>
            refine ⟨⟨.failed nofun, rfl, rfl⟩, fun value hready => ?_⟩
            exact absurd ((ready_iff hsome).mp hready).1 hframe

/-- So it does the same before any stream. -/
theorem getButtons_incoming_of_not_mustRead (coder : ButtonCoder ButtonsType) {port : Port}
    {frame : Int} (buttons : ButtonsType) (incoming incoming' : List (Option IncomingEventPB))
    {handler : EventStreamHandler ButtonsType} (hvalid : QueueMap.Valid handler.inputQueues)
    (hmust : ¬ MustRead handler port frame) :
    handler.getButtons coder port frame buttons incoming =
      { handler.getButtons coder port frame buttons incoming' with incoming := incoming } := by
  unfold getButtons
  by_cases hlocal : port ∈ handler.localPorts
  · simp only [if_pos hlocal, getLocalButtons]
    cases handler.getQueue port with
    | none => rfl
    | some queue =>
        simp only
        cases (queue.getButtons frame buttons).status with
        | success => rfl
        | unexpectedFrame => rfl
        | timeout => rfl
  · simp only [if_neg hlocal, getRemoteButtons, getQueue]
    cases hqueue : (handler.addEvent .remoteKeyStateRequested).inputQueues[port]? with
    | none => rfl
    | some queue =>
        have hread := @queueRead _ _ (handler.addEvent .remoteKeyStateRequested) hvalid port
          queue hqueue frame buttons
        simp only
        generalize (queue.getButtons frame buttons).status = st,
          (queue.getButtons frame buttons).buttons = bs,
          (handler.addEvent .remoteKeyStateRequested).setQueue port
            (queue.getButtons frame buttons).queue = h' at hread ⊢
        cases hread with
        | success _ => rfl
        | timeout hawaits => exact absurd ⟨hlocal, hawaits⟩ hmust
        | unexpectedFrame _ _ => rfl

/-- The tuples that the queues take while a call reads the stream. -/
def takenReads (coder : ButtonCoder ButtonsType) (port : Port) (frame : Int) :
    List (Option IncomingEventPB) → EventStreamHandler ButtonsType →
      List (ButtonsFrameTuple ButtonsType)
  | [], _ => []
  | read :: incoming, handler =>
      takenPresses coder (keyPresses read) handler.inputQueues ++
        match readEvent coder port frame read handler with
        | (some _, _) => []
        | (none, handler) => takenReads coder port frame incoming handler

/-- The tuples that the queues take during a call of `GetButtons`. -/
def takenByGetButtons (coder : ButtonCoder ButtonsType) (port : Port) (frame : Int)
    (incoming : List (Option IncomingEventPB)) (handler : EventStreamHandler ButtonsType) :
    List (ButtonsFrameTuple ButtonsType) :=
  if port ∈ handler.localPorts then []
  else
    match handler.getQueue port with
    | none => []
    | some queue =>
        match (queue.getButtons frame default).status with
        | .timeout =>
            takenReads coder port frame incoming (handler.addEvent .remoteKeyStateRequested)
        | _ => []

/-- What a call of `GetButtons` did, in terms of the tuples taken. -/
structure GetButtonsSpec (coder : ButtonCoder ButtonsType) (port : Port) (frame : Int)
    (buttons : ButtonsType) (incoming : List (Option IncomingEventPB))
    (handler : EventStreamHandler ButtonsType) (taken : List (ButtonsFrameTuple ButtonsType))
    (result : GetButtonsResult ButtonsType) : Prop where
  inTurn : QueueMap.InTurn handler.inputQueues taken
  delivers : Delivers (QueueMap.insertTuples handler.inputQueues taken) port frame buttons
    result.status result.buttons result.handler.inputQueues
  decodes : ∃ reads presses, incoming = reads ++ result.incoming ∧
    presses.Sublist (reads.flatMap keyPresses) ∧ List.Forall₂ (Decodes coder) presses taken
  handler_eq : result.handler =
    { handler with
      inputQueues := result.handler.inputQueues
      timings := result.handler.timings }

theorem concludeGetButtons_endsWith {handler : EventStreamHandler ButtonsType}
    (hvalid : QueueMap.Valid handler.inputQueues) (port : Port) (frame : Int)
    (buttons : ButtonsType) (status : ReadUntilButtonsStatus)
    (incoming : List (Option IncomingEventPB)) :
    EndsWith port frame buttons incoming handler
        (concludeGetButtons port frame buttons status incoming handler) ∧
      (status = .gotButtons → ∀ value, Ready handler.inputQueues port frame value →
        (concludeGetButtons port frame buttons status incoming handler).status = .success) := by
  obtain ⟨⟨hdelivers, hincoming, hhandler⟩, hsuccess⟩ :=
    finishRemoteButtons_endsWith hvalid port frame buttons status incoming
  refine ⟨⟨hdelivers, hincoming, ?_⟩, hsuccess⟩
  unfold concludeGetButtons
  simp only
  rw [hhandler]
  rfl

theorem resumeGetButtons_spec (coder : ButtonCoder ButtonsType) (port : Port) (frame : Int)
    (buttons : ButtonsType) (incoming : List (Option IncomingEventPB))
    {handler : EventStreamHandler ButtonsType} (hvalid : QueueMap.Valid handler.inputQueues) :
    GetButtonsSpec coder port frame buttons incoming handler
      (takenReads coder port frame incoming handler)
      (resumeGetButtons coder port frame buttons incoming handler) := by
  induction incoming generalizing handler with
  | nil =>
      rw [takenReads, resumeGetButtons]
      obtain ⟨⟨hdelivers, hincoming, hhandler⟩, -⟩ := concludeGetButtons_endsWith
        (show QueueMap.Valid ((handler.addEvent .keyStateReadStart).addEvent
          .keyStateReadFinish).inputQueues from hvalid) port frame buttons .rpcReadFailure []
      refine ⟨trivial, hdelivers, ⟨[], [], by rw [hincoming]; rfl, .slnil, .nil⟩, ?_⟩
      rw [hhandler]
      rfl
  | cons read incoming ih =>
      rw [takenReads, resumeGetButtons]
      obtain ⟨hturn, hhandler, ⟨seen, unseen, hseen, hdecodes⟩, hagain, -⟩ :=
        readEvent_spec coder port frame read handler
      generalize readEvent coder port frame read handler = result at hhandler hagain ⊢
      obtain ⟨outcome, handler'⟩ := result
      simp only at hhandler hagain
      have hvalid' : QueueMap.Valid handler'.inputQueues := by
        rw [hhandler]
        exact hvalid.insertTuples hturn
      have hqueues : handler'.inputQueues = QueueMap.insertTuples handler.inputQueues
          (takenPresses coder (keyPresses read) handler.inputQueues) := by
        rw [hhandler]
        rfl
      cases outcome with
      | some status =>
          obtain ⟨⟨hdelivers, hincoming, hend⟩, -⟩ :=
            concludeGetButtons_endsWith hvalid' port frame buttons status incoming
          simp only [List.append_nil]
          refine ⟨hturn, ?_, ⟨[read], seen, ?_, ?_, hdecodes⟩, ?_⟩
          · rw [← hqueues]
            exact hdelivers
          · rw [hincoming]
            rfl
          · rw [List.flatMap_singleton, hseen]
            exact List.sublist_append_left seen unseen
          · rw [hend, hhandler]
            rfl
      | none =>
          obtain ⟨hturn', hdelivers, ⟨reads, presses, hreads, hsub, hdecodes'⟩, hend⟩ := ih hvalid'
          obtain ⟨hall, -⟩ := hagain rfl
          -- this round took all its key presses, the later rounds what `ih` says
          refine ⟨QueueMap.inTurn_append.mpr ⟨hturn, ?_⟩, ?_,
            ⟨read :: reads, keyPresses read ++ presses, ?_, ?_, ?_⟩, ?_⟩
          · rw [← hqueues]
            exact hturn'
          · rw [QueueMap.insertTuples_append, ← hqueues]
            exact hdelivers
          · rw [List.cons_append, ← hreads]
          · rw [List.flatMap_cons]
            exact (List.Sublist.refl _).append hsub
          · exact List.rel_append hall hdecodes'
          · rw [hend, hhandler]
            rfl

theorem getButtons_spec (coder : ButtonCoder ButtonsType) (port : Port) (frame : Int)
    (buttons : ButtonsType) (incoming : List (Option IncomingEventPB))
    {handler : EventStreamHandler ButtonsType} (hvalid : QueueMap.Valid handler.inputQueues) :
    GetButtonsSpec coder port frame buttons incoming handler
      (takenByGetButtons coder port frame incoming handler)
      (handler.getButtons coder port frame buttons incoming) := by
  by_cases hmust : MustRead handler port frame
  · have htaken : takenByGetButtons coder port frame incoming handler =
        takenReads coder port frame incoming (handler.addEvent .remoteKeyStateRequested) := by
      obtain ⟨hremote, queue, hqueue, hframe, hvalue⟩ := hmust
      unfold takenByGetButtons getQueue
      rw [if_neg hremote, hqueue]
      simp only [(hvalid port queue hqueue).getButtons_eq, if_pos hframe, hvalue]
    rw [getButtons_of_mustRead coder buttons incoming hvalid hmust, htaken]
    obtain ⟨hturn, hdelivers, hdecodes, hhandler⟩ := resumeGetButtons_spec coder port frame buttons
      incoming (show QueueMap.Valid (handler.addEvent .remoteKeyStateRequested).inputQueues
        from hvalid)
    refine ⟨hturn, hdelivers, hdecodes, ?_⟩
    rw [hhandler]
    rfl
  · have htaken : takenByGetButtons coder port frame incoming handler = [] := by
      unfold takenByGetButtons getQueue
      by_cases hlocal : port ∈ handler.localPorts
      · rw [if_pos hlocal]
      rw [if_neg hlocal]
      cases hqueue : handler.inputQueues[port]? with
      | none => rfl
      | some queue =>
          by_cases hframe : frame = queue.expectedFrame
          · cases hvalue : queue.buttonsAt frame with
            | none => exact absurd ⟨hlocal, queue, hqueue, hframe, hvalue⟩ hmust
            | some value =>
                simp only [(hvalid port queue hqueue).getButtons_eq, if_pos hframe, hvalue]
          · simp only [(hvalid port queue hqueue).getButtons_eq, if_neg hframe]
    obtain ⟨⟨hdelivers, hincoming, hhandler⟩, -⟩ :=
      getButtons_of_not_mustRead coder buttons incoming hvalid hmust
    rw [htaken]
    refine ⟨trivial, hdelivers, ⟨[], [], ?_, .slnil, .nil⟩, hhandler⟩
    rw [hincoming]
    rfl

end EventStreamHandler

end Client
end Netplay
