import Netplay.Client.CallRun

/-!
# Reads of a remote port

A remote read that finds its frame absent takes events off the stream until one of
them carries the frame, and then reads the queue again.

* `readEvent_acceptable`: a round that does not fail has put all key presses of its
  event.
* `readUntilButtons_spec` describes the loop on any handler, valid or not;
  `readUntilButtons_gotButtons` adds what it took off the stream when it succeeds.
* `remote_reads_consistent`: the second read of the queue never fails, no event is
  taken without need, and none behind the one that carries the frame.
-/

namespace Netplay
namespace Client
namespace EventStreamHandler

variable {ButtonsType : Type*}

/-- The event carries a key press for the port and frame. -/
def Carries (port : Port) (frame : Int) (event : IncomingEventPB) : Prop :=
  ∃ keys ∈ event.keyPress, keys.port = port ∧ keys.frameNumber = frame

/-- The events are the shortest prefix of the stream whose last event carries the key
press, and `rest` is what follows them. -/
structure ShortestPrefix (port : Port) (frame : Int) (incoming : List (Option IncomingEventPB))
    (events : List IncomingEventPB) (rest : List (Option IncomingEventPB)) : Prop where
  split : incoming = events.map some ++ rest
  last : ∃ earlier event, events = earlier ++ [event] ∧ Carries port frame event ∧
    ∀ other ∈ earlier, ¬ Carries port frame other

theorem ShortestPrefix.cons {port : Port} {frame : Int}
    {incoming rest : List (Option IncomingEventPB)} {events : List IncomingEventPB}
    (h : ShortestPrefix port frame incoming events rest) {event : IncomingEventPB}
    (hother : ¬ Carries port frame event) :
    ShortestPrefix port frame (some event :: incoming) (event :: events) rest where
  split := by rw [h.split, List.map_cons, List.cons_append]
  last := by
    obtain ⟨earlier, last, rfl, hcarries, hearlier⟩ := h.last
    exact ⟨event :: earlier, last, rfl, hcarries, List.forall_mem_cons.mpr ⟨hother, hearlier⟩⟩

theorem carries_iff {coder : ButtonCoder ButtonsType} {event : IncomingEventPB}
    {tuples : List (ButtonsFrameTuple ButtonsType)}
    (hdecodes : List.Forall₂ (Decodes coder) event.keyPress tuples) (port : Port) (frame : Int) :
    Carries port frame event ↔ ∃ tuple ∈ tuples, IsFor port frame tuple := by
  unfold Carries
  generalize event.keyPress = presses at hdecodes ⊢
  induction hdecodes with
  | nil => simp
  | cons hdecode _ ih =>
      simp only [List.mem_cons, exists_eq_or_imp, ih, IsFor, hdecode.port, hdecode.frame]

/-! ### One round -/

/-- An event that gets past the checks of `ReadUntilButtons`. -/
theorem plain_of_checks {event : IncomingEventPB} (hstop : ¬ event.hasStopConsole = true)
    (hother : ¬ (event.startGame.isSome = true ∨ event.hasInvalidData = true)) : Plain event := by
  simp only [not_or, Bool.not_eq_true, Option.isSome_eq_false_iff,
    Option.isNone_iff_eq_none] at hstop hother
  exact ⟨hstop, hother.1, hother.2⟩

theorem plain_of_mem_keyPresses {event : IncomingEventPB} {keys : KeyStatePB}
    (h : keys ∈ keyPresses (some event)) : Plain event := by
  simp only [keyPresses] at h
  split_ifs at h with hstop hother
  · cases h
  · cases h
  · exact plain_of_checks hstop hother

/-- A round that asks for another one, or that has found the buttons, was given an
event of key presses, and all of them were acceptable. -/
theorem readEvent_acceptable {coder : ButtonCoder ButtonsType} {port : Port} {frame : Int}
    {read : Option IncomingEventPB} {handler : EventStreamHandler ButtonsType}
    (hok : (readEvent coder port frame read handler).1 = none ∨
      (readEvent coder port frame read handler).1 = some .gotButtons) :
    ∃ event, read = some event ∧ Acceptable coder handler event
      (takenPresses coder (keyPresses read) handler.inputQueues) := by
  have hturn := (readEvent_spec coder port frame read handler).inTurn
  unfold readEvent at hok
  cases read with
  | none => simp at hok
  | some event =>
      by_cases hstop : event.hasStopConsole = true
      · simp [hstop] at hok
      by_cases hother : event.startGame.isSome = true ∨ event.hasInvalidData = true
      · simp [hstop, hother] at hok
      simp only [if_neg hstop, if_neg hother] at hok
      have hplain := plain_of_checks hstop hother
      refine ⟨event, rfl, hplain, ?_, hturn⟩
      rw [hplain.keyPresses_eq]
      obtain ⟨-, -, -, hfound, herror⟩ := putKeyPresses_spec coder port frame event.keyPress false
        ((handler.addEvent .keyStateReadStart).addEvent .keyStateReadFinish)
      generalize putKeyPresses coder port frame event.keyPress false
        ((handler.addEvent .keyStateReadStart).addEvent .keyStateReadFinish) = result at *
      obtain ⟨outcome, handler'⟩ := result
      cases outcome with
      | ok found => exact (hfound found rfl).1
      -- the loop over the key presses fails with other statuses
      | error status =>
          rcases herror status rfl with rfl | rfl
          · simp at hok
          · simp at hok

/-! ### The loop -/

/-- The loop of `ReadUntilButtons` inserts what the queues accept, and touches nothing
else but the timings. -/
theorem readUntilButtons_spec (coder : ButtonCoder ButtonsType) (port : Port) (frame : Int)
    (incoming : List (Option IncomingEventPB)) (handler : EventStreamHandler ButtonsType) :
    QueueMap.InTurn handler.inputQueues (takenReads coder port frame incoming handler) ∧
      (readUntilButtons coder port frame incoming handler).2.2 =
        { handler.insertTuples (takenReads coder port frame incoming handler) with
          timings := (readUntilButtons coder port frame incoming handler).2.2.timings } := by
  induction incoming generalizing handler with
  | nil => exact ⟨trivial, rfl⟩
  | cons read incoming ih =>
      obtain ⟨hturn, hhandler, -, -, -⟩ := readEvent_spec coder port frame read handler
      rw [takenReads, readUntilButtons]
      generalize readEvent coder port frame read handler = result at hhandler ⊢
      obtain ⟨outcome, handler'⟩ := result
      simp only at hhandler
      cases outcome with
      | some status =>
          simp only [List.append_nil]
          exact ⟨hturn, hhandler⟩
      | none =>
          obtain ⟨hturn', hhandler'⟩ := ih handler'
          have hqueues : handler'.inputQueues = QueueMap.insertTuples handler.inputQueues
              (takenPresses coder (keyPresses read) handler.inputQueues) := by
            rw [hhandler]
            rfl
          refine ⟨QueueMap.inTurn_append.mpr ⟨hturn, by rw [← hqueues]; exact hturn'⟩, ?_⟩
          simp only
          rw [hhandler']
          simp only [insertTuples, QueueMap.insertTuples_append, ← hqueues]
          rw [hhandler]
          rfl

/-- When it finds the buttons, it has taken the shortest prefix of the stream that
carries them, and all key presses of that prefix. -/
theorem readUntilButtons_gotButtons {coder : ButtonCoder ButtonsType} {port : Port}
    {frame : Int} {incoming : List (Option IncomingEventPB)}
    {handler : EventStreamHandler ButtonsType}
    (hgot : (readUntilButtons coder port frame incoming handler).1 = .gotButtons) :
    ∃ events, ShortestPrefix port frame incoming events
        (readUntilButtons coder port frame incoming handler).2.1 ∧
      List.Forall₂ (Decodes coder) (events.flatMap IncomingEventPB.keyPress)
        (takenReads coder port frame incoming handler) := by
  induction incoming generalizing handler with
  | nil => cases hgot
  | cons read incoming ih =>
      obtain ⟨-, -, -, hagain, hfound⟩ := readEvent_spec coder port frame read handler
      have hacceptable := @readEvent_acceptable _ coder port frame read handler
      rw [readUntilButtons] at hgot ⊢
      rw [takenReads]
      generalize readEvent coder port frame read handler = result at *
      obtain ⟨outcome, handler'⟩ := result
      cases outcome with
      | some status =>
          cases hgot
          obtain ⟨event, rfl, -, hdecodes, -⟩ := hacceptable (Or.inr rfl)
          have hcarries := (carries_iff hdecodes port frame).mpr (hfound rfl)
          refine ⟨[event], ⟨rfl, [], event, rfl, hcarries, by simp⟩, ?_⟩
          rw [List.append_nil, List.flatMap_singleton]
          exact hdecodes
      | none =>
          obtain ⟨event, rfl, -, hdecodes, -⟩ := hacceptable (Or.inl rfl)
          obtain ⟨events, hprefix, htaken⟩ := ih hgot
          have hother : ¬ Carries port frame event := by
            rw [carries_iff hdecodes]
            rintro ⟨tuple, htuple, hfor⟩
            exact (hagain rfl).2 tuple htuple hfor
          refine ⟨event :: events, hprefix.cons hother, ?_⟩
          rw [List.flatMap_cons]
          exact List.rel_append hdecodes htaken

/-! ### The call -/

variable [Inhabited ButtonsType]

/-- A buffered frame is ready when its turn has come. -/
theorem ready_of_holds {queues : QueueMap ButtonsType} {port : Port} {frame : Int}
    {value : ButtonsType} (hcursor : QueueMap.cursorOf queues port = some frame)
    (hholds : QueueMap.Holds queues port frame value)
    (hinitial : ∀ queue, queues[port]? = some queue → queue.initialFrameDelay ≤ frame) :
    Ready queues port frame value := by
  obtain ⟨queue, hqueue, hvalue⟩ := hholds
  rw [QueueMap.cursorOf_of_some hqueue, Option.some.injEq] at hcursor
  have hlate := hinitial queue hqueue
  refine ⟨queue, hqueue, hcursor.symm, ?_⟩
  rw [InputQueue.buttonsAt, if_neg (by omega), hvalue]

/-- A frame that was awaited is ready once a tuple for it is in its queue. -/
theorem Awaits.ready {queues : QueueMap ButtonsType} {delay : Port → Int}
    (hdelays : QueueMap.HasDelays queues delay) {port : Port} {frame : Int}
    (h : Awaits queues port frame) (hdelay : delay port = 0)
    {tuples : List (ButtonsFrameTuple ButtonsType)} (hturn : QueueMap.InTurn queues tuples)
    {tuple : ButtonsFrameTuple ButtonsType} (htuple : tuple ∈ tuples)
    (hfor : IsFor port frame tuple) :
    Ready (QueueMap.insertTuples queues tuples) port frame tuple.buttons := by
  have hholds := hturn.holds hdelays tuple htuple
  obtain ⟨rfl, rfl⟩ := hfor
  rw [hdelay, add_zero] at hholds
  refine ready_of_holds ?_ hholds ?_
  · rw [QueueMap.cursorOf_insertTuples]
    exact h.cursorOf
  · intro queue' hqueue'
    obtain ⟨queue, hqueue, -⟩ := id h
    obtain ⟨queue₁, hqueue₁, hsame⟩ := (QueueMap.evolves_insertTuples queues tuples).of_some hqueue
    rw [hqueue'] at hqueue₁
    cases hqueue₁
    rw [hsame.initialFrameDelay]
    exact h.initial_le hqueue

theorem readUntilButtons_ready {coder : ButtonCoder ButtonsType} {port : Port} {frame : Int}
    {incoming : List (Option IncomingEventPB)} {handler : EventStreamHandler ButtonsType}
    (hawaits : Awaits handler.inputQueues port frame)
    (hdelay : handler.delayFramesForPort port = 0)
    (hgot : (readUntilButtons coder port frame incoming handler).1 = .gotButtons) :
    ∃ tuple ∈ takenReads coder port frame incoming handler, IsFor port frame tuple ∧
      Ready (readUntilButtons coder port frame incoming handler).2.2.inputQueues port frame
        tuple.buttons := by
  obtain ⟨hturn, hhandler⟩ := readUntilButtons_spec coder port frame incoming handler
  obtain ⟨events, ⟨-, earlier, event, rfl, hcarries, -⟩, hdecodes⟩ :=
    readUntilButtons_gotButtons hgot
  -- the press that the last event carries is among those taken
  obtain ⟨keys, hkeys, hport, hframe⟩ := hcarries
  obtain ⟨tuple, htuple, hdecode⟩ := forall₂_mem_right hdecodes.flip
    (List.mem_flatMap.mpr ⟨event, by simp, hkeys⟩)
  have hfor : IsFor port frame tuple :=
    ⟨hdecode.port.symm.trans hport, hdecode.frame.symm.trans hframe⟩
  refine ⟨tuple, htuple, hfor, ?_⟩
  rw [hhandler]
  exact hawaits.ready handler.hasDelays hdelay hturn htuple hfor

/-- Inside `GetRemoteButtons`, the read of the queue that follows `GOT_BUTTONS`
succeeds. -/
def SecondReadSucceeds (coder : ButtonCoder ButtonsType) (port : Port) (frame : Int)
    (buttons : ButtonsType) (incoming : List (Option IncomingEventPB))
    (handler : EventStreamHandler ButtonsType) : Prop :=
  ∀ queue, handler.getQueue port = some queue →
    (queue.getButtons frame buttons).status = .timeout →
    let r := readUntilButtons coder port frame incoming
      (handler.setQueue port (queue.getButtons frame buttons).queue)
    r.1 = .gotButtons → ∃ queue', r.2.2.getQueue port = some queue' ∧
      (queue'.getButtons frame buttons).status = .success

/-- The frame is below the initial delay, not the next one of the port, or buffered. -/
def NeedsNoEvent (queues : QueueMap ButtonsType) (port : Port) (frame : Int) : Prop :=
  ∀ queue, queues[port]? = some queue →
    frame < queue.initialFrameDelay ∨ frame ≠ queue.expectedFrame ∨ frame ∈ queue.frameButtons

/-- What a call did that took these events off the stream: it put all their key
presses and handed out the one that it was made for. -/
structure TookEvents (coder : ButtonCoder ButtonsType) (port : Port) (frame : Int)
    (handler : EventStreamHandler ButtonsType) (events : List IncomingEventPB)
    (tuples : List (ButtonsFrameTuple ButtonsType)) (result : GetButtonsResult ButtonsType) :
    Prop where
  decodes : List.Forall₂ (Decodes coder) (events.flatMap IncomingEventPB.keyPress) tuples
  queues_eq : result.handler.inputQueues =
    QueueMap.advance (QueueMap.insertTuples handler.inputQueues tuples) port
  handed_out : ∀ tuple ∈ tuples, IsFor port frame tuple → result.buttons = tuple.buttons
  buffered : ∀ tuple ∈ tuples, ¬ IsFor port frame tuple →
    QueueMap.Holds result.handler.inputQueues tuple.port
      (tuple.frame + handler.delayFramesForPort tuple.port) tuple.buttons

theorem NeedsNoEvent.not_awaits {queues : QueueMap ButtonsType}
    {port : Port} {frame : Int} (h : NeedsNoEvent queues port frame) :
    ¬ Awaits queues port frame := by
  intro hawaits
  obtain ⟨queue, hqueue, hframe, hvalue⟩ := id hawaits
  have hlate := hawaits.initial_le hqueue
  rcases h queue hqueue with hearly | hother | hbuffered
  · omega
  · exact hother hframe
  · rw [InputQueue.buttonsAt, if_neg (by omega)] at hvalue
    rw [Std.ExtTreeMap.mem_iff_isSome_getElem?, hvalue] at hbuffered
    cases hbuffered

theorem awaits_of_not_needsNoEvent {queues : QueueMap ButtonsType} {port : Port} {frame : Int}
    (h : ¬ NeedsNoEvent queues port frame) : Awaits queues port frame := by
  unfold NeedsNoEvent at h
  push Not at h
  obtain ⟨queue, hqueue, hlate, hframe, habsent⟩ := h
  refine ⟨queue, hqueue, hframe, ?_⟩
  rw [InputQueue.buttonsAt, if_neg (by omega), Std.ExtTreeMap.getElem?_eq_none habsent]

/-- A call that must read the stream ends with what the loop leaves. -/
theorem getButtons_eq_conclude (coder : ButtonCoder ButtonsType) {port : Port} {frame : Int}
    (buttons : ButtonsType) (incoming : List (Option IncomingEventPB))
    {handler : EventStreamHandler ButtonsType} (hvalid : QueueMap.Valid handler.inputQueues)
    (hmust : MustRead handler port frame) :
    handler.getButtons coder port frame buttons incoming =
      concludeGetButtons port frame buttons
        (readUntilButtons coder port frame incoming
          (handler.addEvent .remoteKeyStateRequested)).1
        (readUntilButtons coder port frame incoming
          (handler.addEvent .remoteKeyStateRequested)).2.1
        (readUntilButtons coder port frame incoming
          (handler.addEvent .remoteKeyStateRequested)).2.2 := by
  rw [getButtons_of_mustRead coder buttons incoming hvalid hmust,
    concludeGetButtons_readUntilButtons]

theorem secondReadSucceeds (coder : ButtonCoder ButtonsType) {port : Port} (frame : Int)
    (buttons : ButtonsType) (incoming : List (Option IncomingEventPB))
    {handler : EventStreamHandler ButtonsType} (hvalid : QueueMap.Valid handler.inputQueues)
    (hdelay : ∀ queue, handler.inputQueues[port]? = some queue →
      handler.delayFramesForPort port = 0) :
    SecondReadSucceeds coder port frame buttons incoming handler := by
  intro queue hqueue htimeout
  have hread := queueRead hvalid hqueue frame buttons
  generalize (queue.getButtons frame buttons).status = status,
    (queue.getButtons frame buttons).buttons = bs,
    handler.setQueue port (queue.getButtons frame buttons).queue = handler' at hread htimeout ⊢
  cases htimeout
  cases hread with
  | timeout hawaits =>
      intro r hgot
      obtain ⟨tuple, -, -, hready⟩ := readUntilButtons_ready hawaits (hdelay queue hqueue) hgot
      obtain ⟨queue', hqueue', hframe, hvalue⟩ := hready
      obtain ⟨hturn, hhandler⟩ := readUntilButtons_spec coder port frame incoming handler
      have hvalid' : QueueMap.Valid r.2.2.inputQueues := by
        rw [show r.2.2 = _ from hhandler]
        exact hvalid.insertTuples hturn
      refine ⟨queue', hqueue', ?_⟩
      rw [(hvalid' port queue' hqueue').getButtons_eq, if_pos hframe, hvalue]

/-- A call ends with success only if the loop found the buttons, and then hands out
the value that was ready. -/
theorem concludeGetButtons_success {port : Port} {frame : Int} {buttons : ButtonsType}
    {status : ReadUntilButtonsStatus} {incoming : List (Option IncomingEventPB)}
    {handler : EventStreamHandler ButtonsType} (hvalid : QueueMap.Valid handler.inputQueues)
    (hsuccess :
      (concludeGetButtons port frame buttons status incoming handler).status = .success) :
    status = .gotButtons ∧
      (concludeGetButtons port frame buttons status incoming handler).incoming = incoming ∧
      Ready handler.inputQueues port frame
        (concludeGetButtons port frame buttons status incoming handler).buttons ∧
      (concludeGetButtons port frame buttons status incoming handler).handler.inputQueues =
        QueueMap.advance handler.inputQueues port := by
  obtain ⟨⟨hdelivers, hincoming, -⟩, -⟩ :=
    concludeGetButtons_endsWith hvalid port frame buttons status incoming
  have hstatus : status = .gotButtons := by
    by_contra hne
    simp [concludeGetButtons, finishRemoteButtons, hne] at hsuccess
  rw [hsuccess] at hdelivers
  generalize (concludeGetButtons port frame buttons status incoming handler).buttons = value,
    (concludeGetButtons port frame buttons status incoming handler).handler.inputQueues = queues'
    at hdelivers ⊢
  cases hdelivers with
  | failed hfailed => exact absurd rfl hfailed
  | success hready => exact ⟨hstatus, hincoming, hready, rfl⟩

/-- A successful call that must read the stream. -/
theorem getButtons_tookEvents {coder : ButtonCoder ButtonsType} {port : Port} {frame : Int}
    {buttons : ButtonsType} {incoming : List (Option IncomingEventPB)}
    {handler : EventStreamHandler ButtonsType} (hvalid : QueueMap.Valid handler.inputQueues)
    (hmust : MustRead handler port frame) (hdelay : handler.delayFramesForPort port = 0)
    (hsuccess : (handler.getButtons coder port frame buttons incoming).status = .success) :
    ∃ events tuples,
      ShortestPrefix port frame incoming events
        (handler.getButtons coder port frame buttons incoming).incoming ∧
      QueueMap.InTurn handler.inputQueues tuples ∧
      TookEvents coder port frame handler events tuples
        (handler.getButtons coder port frame buttons incoming) := by
  rw [getButtons_eq_conclude coder buttons incoming hvalid hmust] at hsuccess ⊢
  have hawaits : Awaits handler.inputQueues port frame := hmust.2
  obtain ⟨hturn, hhandler⟩ := readUntilButtons_spec coder port frame incoming
    (handler.addEvent .remoteKeyStateRequested)
  have hprefix := @readUntilButtons_gotButtons _ coder port frame incoming
    (handler.addEvent .remoteKeyStateRequested)
  generalize takenReads coder port frame incoming (handler.addEvent .remoteKeyStateRequested) =
    tuples at hturn hhandler hprefix
  generalize readUntilButtons coder port frame incoming
    (handler.addEvent .remoteKeyStateRequested) = result at *
  obtain ⟨status, rest, handler'⟩ := result
  simp only at hhandler hprefix hsuccess ⊢
  have hqueues : handler'.inputQueues = QueueMap.insertTuples handler.inputQueues tuples := by
    rw [hhandler]
    rfl
  have hvalid' : QueueMap.Valid handler'.inputQueues := by
    rw [hqueues]
    exact hvalid.insertTuples hturn
  obtain ⟨hgot, hincoming, hready, hend⟩ := concludeGetButtons_success hvalid' hsuccess
  obtain ⟨events, hshortest, hdecodes⟩ := hprefix hgot
  rw [hqueues] at hready hend
  refine ⟨events, tuples, by rw [hincoming]; exact hshortest, hturn, hdecodes, hend, ?_, ?_⟩
  · intro tuple htuple hfor
    exact hready.unique (Awaits.ready handler.hasDelays hawaits hdelay hturn htuple hfor)
  · intro tuple htuple hother
    rw [hend]
    refine (hturn.holds handler.hasDelays tuple htuple).advance ?_
    rintro ⟨rfl, hcursor⟩
    rw [hready.cursorOf, hdelay, add_zero, Option.some.injEq] at hcursor
    exact hother ⟨rfl, hcursor.symm⟩

/-- **Remote reads are self-consistent and read no further than needed.**  The second
read of the queue never fails.  A call takes no event, whatever the stream, if the
frame is below the initial delay, not the next one, or buffered.  Any other
successful call takes the shortest prefix of the stream whose last event carries the
frame, and puts all key presses of that prefix. -/
theorem remote_reads_consistent {coder : ButtonCoder ButtonsType} {ports : PortEnum}
    {connectedPorts : List ConnectedPortPB} {handler : EventStreamHandler ButtonsType}
    (hreach : (callSystem coder ports connectedPorts).Reachable handler) {port : Port}
    (hremote : port ∉ handler.localPorts) (frame : Int) (buttons : ButtonsType)
    (incoming : List (Option IncomingEventPB)) :
    SecondReadSucceeds coder port frame buttons incoming
        (handler.addEvent .remoteKeyStateRequested) ∧
      (NeedsNoEvent handler.inputQueues port frame → ∀ incoming',
        handler.getButtons coder port frame buttons incoming =
          { handler.getButtons coder port frame buttons incoming' with incoming := incoming }) ∧
      (¬ NeedsNoEvent handler.inputQueues port frame →
        (handler.getButtons coder port frame buttons incoming).status = .success →
          ∃ events tuples,
            ShortestPrefix port frame incoming events
              (handler.getButtons coder port frame buttons incoming).incoming ∧
            QueueMap.InTurn handler.inputQueues tuples ∧
            TookEvents coder port frame handler events tuples
              (handler.getButtons coder port frame buttons incoming)) := by
  have hplaying := reachable_playing hreach
  have hdelay : ∀ queue, handler.inputQueues[port]? = some queue →
      handler.delayFramesForPort port = 0 :=
    fun queue hqueue => hplaying.delay_remote hqueue hremote
  refine ⟨?_, fun hnone incoming' => ?_, fun hneeds hsuccess => ?_⟩
  · exact @secondReadSucceeds _ _ coder port frame buttons incoming
      (handler.addEvent .remoteKeyStateRequested) hplaying.valid hdelay
  · refine getButtons_incoming_of_not_mustRead coder buttons incoming incoming' hplaying.valid ?_
    rintro ⟨-, hawaits⟩
    exact hnone.not_awaits hawaits
  · have hawaits := awaits_of_not_needsNoEvent hneeds
    obtain ⟨queue, hqueue, -⟩ := id hawaits
    exact getButtons_tookEvents hplaying.valid ⟨hremote, hawaits⟩ (hdelay queue hqueue) hsuccess

/-- Player 1 once the two frames of player 2's initial delay are over. -/
def readyToRead : EventStreamHandler Int :=
  (((player 1).getButtons integerCoder 2 0 0 []).handler.getButtons integerCoder 2 1 0 []).handler

/-- An event with the next key press of player 2 and the one behind it. -/
def twoPresses : IncomingEventPB where
  keyPress := [{ consoleId := 1, frameNumber := 2, port := 2, xAxis := 5 },
    { consoleId := 1, frameNumber := 3, port := 2, xAxis := 6 }]

theorem remote_reads_consistent_twoPresses :
    ∃ events tuples,
      ShortestPrefix 2 2 [some twoPresses, none] events
        (readyToRead.getButtons integerCoder 2 2 0 [some twoPresses, none]).incoming ∧
      QueueMap.InTurn readyToRead.inputQueues tuples ∧
      TookEvents integerCoder 2 2 readyToRead events tuples
        (readyToRead.getButtons integerCoder 2 2 0 [some twoPresses, none]) := by
  have hstart : (callSystem integerCoder portNumbers twoPorts).Reachable (player 1) :=
    .init (player_startedBy (Or.inl rfl))
  have hfirst := @TransitionSystem.Reachable.step _ _ _ _ (.getButtons 2 0 0, []) hstart trivial
  have hsecond := @TransitionSystem.Reachable.step _ _ _ _ (.getButtons 2 1 0, []) hfirst trivial
  refine (remote_reads_consistent hsecond (show (2 : Port) ∉ readyToRead.localPorts by decide) 2 0
    [some twoPresses, none]).2.2 ?_ (by decide)
  intro hnone
  exact hnone.not_awaits (show Awaits readyToRead.inputQueues 2 2 by decide)

end EventStreamHandler

end Client
end Netplay
