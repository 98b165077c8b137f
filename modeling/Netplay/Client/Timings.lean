import Netplay.Client.LifeCycle

/-!
# The timing log is well bracketed

The handler notes when it begins and ends a read or write of the stream, and when a
remote read is requested and returned.  Each exit of each method leaves a list of
complete groups behind (`TimingGroup`), with a pair for every read and write.

* `Logged` says that between two handlers the log has grown by complete groups with
  a given number of pairs.
* `HandlerCall.logged` is the step lemma, one case for each method, and
  `runs_logged` the law of a run.
-/

namespace Netplay
namespace Client
namespace EventStreamHandler

/-- The groups in which timing events come. -/
inductive TimingGroup
  | clientReady
  | startGame
  | keyState
  | remoteKeyState (reads : Nat)
deriving DecidableEq

/-- Some reads of key states, each with its start and its finish. -/
def keyStateReads : Nat → List TimingEvent
  | 0 => []
  | reads + 1 => .keyStateReadStart :: .keyStateReadFinish :: keyStateReads reads

namespace TimingGroup

def events : TimingGroup → List TimingEvent
  | .clientReady => [.clientReadySyncWriteStart, .clientReadySyncWriteFinish]
  | .startGame => [.startGameEventReadStart, .startGameEventReadFinish]
  | .keyState => [.keyStateSyncWriteStart, .keyStateSyncWriteFinish]
  | .remoteKeyState reads =>
      .remoteKeyStateRequested :: (keyStateReads reads ++ [.remoteKeyStateReturned])

/-- The read pairs of a group. -/
def reads : TimingGroup → Nat
  | .clientReady => 0
  | .startGame => 1
  | .keyState => 0
  | .remoteKeyState reads => reads

/-- The write pairs of a group. -/
def writes : TimingGroup → Nat
  | .clientReady => 1
  | .startGame => 0
  | .keyState => 1
  | .remoteKeyState _ => 0

end TimingGroup

variable {ButtonsType : Type*}

/-- The log has grown by complete groups with so many read and write pairs. -/
def Logged (handler handler' : EventStreamHandler ButtonsType) (reads writes : Nat) : Prop :=
  ∃ groups : List TimingGroup,
    handler'.timings = handler.timings ++ groups.flatMap TimingGroup.events ∧
      (groups.map TimingGroup.reads).sum = reads ∧ (groups.map TimingGroup.writes).sum = writes

theorem logged_refl {handler handler' : EventStreamHandler ButtonsType}
    (h : handler'.timings = handler.timings) : Logged handler handler' 0 0 :=
  ⟨[], by simpa using h, rfl, rfl⟩

theorem logged_singleton {handler handler' : EventStreamHandler ButtonsType}
    (group : TimingGroup) (h : handler'.timings = handler.timings ++ group.events) :
    Logged handler handler' group.reads group.writes :=
  ⟨[group], by simpa using h, by simp, by simp⟩

theorem Logged.trans {handler₁ handler₂ handler₃ : EventStreamHandler ButtonsType}
    {reads writes reads' writes' : Nat} (h : Logged handler₁ handler₂ reads writes)
    (h' : Logged handler₂ handler₃ reads' writes') :
    Logged handler₁ handler₃ (reads + reads') (writes + writes') := by
  obtain ⟨groups, htimings, rfl, rfl⟩ := h
  obtain ⟨groups', htimings', rfl, rfl⟩ := h'
  refine ⟨groups ++ groups', ?_, ?_, ?_⟩
  · rw [htimings', htimings, List.append_assoc, List.flatMap_append]
  · rw [List.map_append, List.sum_append]
  · rw [List.map_append, List.sum_append]

/-! ### Reading the stream -/

theorem readEvent_timings (coder : ButtonCoder ButtonsType) (port : Port) (frame : Int)
    (read : Option IncomingEventPB) (handler : EventStreamHandler ButtonsType) :
    (readEvent coder port frame read handler).2.timings =
      handler.timings ++ [.keyStateReadStart, .keyStateReadFinish] := by
  have hlogged : ((handler.addEvent .keyStateReadStart).addEvent .keyStateReadFinish).timings =
      handler.timings ++ [.keyStateReadStart, .keyStateReadFinish] := by
    simp [addEvent]
  unfold readEvent
  cases read with
  | none => exact hlogged
  | some event =>
      simp only
      split_ifs
      · exact hlogged
      · exact hlogged
      · have hpresses := (putKeyPresses_spec coder port frame event.keyPress false
          ((handler.addEvent .keyStateReadStart).addEvent .keyStateReadFinish)).handler_eq
        generalize putKeyPresses coder port frame event.keyPress false
          ((handler.addEvent .keyStateReadStart).addEvent .keyStateReadFinish) = result at *
        obtain ⟨outcome, handler'⟩ := result
        cases hpresses
        cases outcome with
        | error status => exact hlogged
        | ok found =>
            cases found with
            | true => exact hlogged
            | false => exact hlogged

/-- The loop logs one pair for every event it takes, and one for the read that finds the
stream at its end. -/
theorem readUntilButtons_timings (coder : ButtonCoder ButtonsType) (port : Port) (frame : Int)
    (incoming : List (Option IncomingEventPB)) (handler : EventStreamHandler ButtonsType) :
    ∃ reads, (readUntilButtons coder port frame incoming handler).2.2.timings =
        handler.timings ++ keyStateReads reads ∧
      (readUntilButtons coder port frame (incoming ++ [none]) handler).2.1.length + reads =
        incoming.length + 1 := by
  induction incoming generalizing handler with
  | nil => exact ⟨1, by simp [readUntilButtons, addEvent, keyStateReads], rfl⟩
  | cons read incoming ih =>
      have hround := readEvent_timings coder port frame read handler
      rw [List.cons_append, readUntilButtons, readUntilButtons]
      generalize readEvent coder port frame read handler = result at hround
      obtain ⟨outcome, handler'⟩ := result
      simp only at hround
      cases outcome with
      | some status => exact ⟨1, hround, by simp⟩
      | none =>
          obtain ⟨reads, htimings, hlength⟩ := ih handler'
          refine ⟨reads + 1, ?_, ?_⟩
          · simp only [htimings, hround, keyStateReads, List.append_assoc, List.cons_append,
              List.nil_append]
          · simp only [List.length_cons]
            omega

/-! ### Starting and writing -/

theorem waitForConsoleStart_timings (ports : PortEnum) (read : Option IncomingEventPB)
    (handler : EventStreamHandler ButtonsType) :
    (handler.waitForConsoleStart ports read).2.timings =
      handler.timings ++ TimingGroup.startGame.events := by
  have hlogged : handler.startGameRead.timings =
      handler.timings ++ TimingGroup.startGame.events := by
    simp [startGameRead, addEvent, TimingGroup.events]
  have hread : (handler.addEvent .startGameEventReadStart).addEvent .startGameEventReadFinish =
    handler.startGameRead := rfl
  unfold waitForConsoleStart
  simp only [hread]
  cases read with
  | none => exact hlogged
  | some event =>
      simp only
      by_cases hstop : event.hasStopConsole = true
      · rw [if_pos hstop]
        exact hlogged
      rw [if_neg hstop]
      cases event.startGame with
      | none => exact hlogged
      | some startGame =>
          simp only
          split_ifs
          · exact hlogged
          · have hframe := initializeQueues_frame ports startGame.connectedPorts
              handler.startGameRead
            cases hinit : initializeQueues ports startGame.connectedPorts
                handler.startGameRead with
            | mk success handler' =>
                rw [hinit] at hframe
                have htimings : handler'.timings = handler.startGameRead.timings := by
                  rw [show handler' = _ from hframe]
                cases success with
                | true => exact htimings.trans hlogged
                | false => exact htimings.trans hlogged

theorem putButtons_logged (coder : ButtonCoder ButtonsType)
    (tuples : List (ButtonsFrameTuple ButtonsType)) (writeOk : Bool)
    (handler : EventStreamHandler ButtonsType) :
    Logged handler (handler.putButtons coder tuples writeOk).handler 0
      (handler.putButtons coder tuples writeOk).written.length := by
  unfold putButtons
  have hloop := (putTuples_spec coder tuples {} handler).handler_eq
  generalize putTuples coder tuples {} handler = result at hloop
  obtain ⟨status, event, handler'⟩ := result
  have htimings : handler'.timings = handler.timings := by
    rw [show handler' = _ from hloop]
    rfl
  cases status with
  | success =>
      simp only
      by_cases hempty : event.keyPress.isEmpty = true
      · rw [if_pos hempty]
        exact logged_refl htimings
      · rw [if_neg hempty]
        have hpair : ((handler'.addEvent .keyStateSyncWriteStart).addEvent
            .keyStateSyncWriteFinish).timings =
              handler.timings ++ TimingGroup.keyState.events := by
          simp [addEvent, htimings, TimingGroup.events]
        cases writeOk with
        | true => exact logged_singleton .keyState hpair
        | false => exact logged_singleton .keyState hpair
  | noSuchPort => exact logged_refl htimings
  | rejectedByQueue => exact logged_refl htimings
  | failedToTransmitRemote => exact logged_refl htimings
  | failedToEncode => exact logged_refl htimings
  | internalError => exact logged_refl htimings

/-! ### `GetButtons` -/

variable [Inhabited ButtonsType]

/-- The read of the queue behind the loop leaves the log and the stream alone. -/
theorem finishRemoteButtons_timings (port : Port) (frame : Int) (buttons : ButtonsType)
    (status : ReadUntilButtonsStatus) (incoming : List (Option IncomingEventPB))
    (handler : EventStreamHandler ButtonsType) :
    (finishRemoteButtons port frame buttons status incoming handler).handler.timings =
        handler.timings ∧
      (finishRemoteButtons port frame buttons status incoming handler).incoming = incoming := by
  unfold finishRemoteButtons
  split_ifs
  · exact ⟨rfl, rfl⟩
  · cases handler.getQueue port with
    | none => exact ⟨rfl, rfl⟩
    | some queue =>
        simp only
        cases (queue.getButtons frame buttons).status with
        | success => exact ⟨rfl, rfl⟩
        | unexpectedFrame => exact ⟨rfl, rfl⟩
        | timeout => exact ⟨rfl, rfl⟩

theorem getRemoteButtons_timings (coder : ButtonCoder ButtonsType) (port : Port) (frame : Int)
    (buttons : ButtonsType) (incoming : List (Option IncomingEventPB))
    (handler : EventStreamHandler ButtonsType) :
    ∃ reads, (getRemoteButtons coder port frame buttons incoming handler).handler.timings =
        handler.timings ++ keyStateReads reads ∧
      (getRemoteButtons coder port frame buttons (incoming ++ [none]) handler).incoming.length +
        reads = incoming.length + 1 := by
  unfold getRemoteButtons
  cases handler.getQueue port with
  | none => exact ⟨0, by simp [keyStateReads], by simp⟩
  | some queue =>
      simp only
      cases (queue.getButtons frame buttons).status with
      | success => exact ⟨0, by simp [keyStateReads, setQueue], by simp⟩
      | unexpectedFrame => exact ⟨0, by simp [keyStateReads, setQueue], by simp⟩
      | timeout =>
          obtain ⟨reads, htimings, hlength⟩ := readUntilButtons_timings coder port frame incoming
            (handler.setQueue port (queue.getButtons frame buttons).queue)
          refine ⟨reads, ?_, ?_⟩
          · rw [(finishRemoteButtons_timings port frame _ _ _ _).1, htimings]
            rfl
          · rw [(finishRemoteButtons_timings port frame _ _ _ _).2]
            exact hlength

/-! ### The calls -/

/-- The reads of the stream that a call makes.  A stream that has ended fails every read,
so they are counted on a stream with one more failed read at its end. -/
def HandlerCall.streamReads (coder : ButtonCoder ButtonsType) (call : HandlerCall ButtonsType)
    (handler : EventStreamHandler ButtonsType) : Nat :=
  match call with
  | .clientReady _ => 0
  | .waitForConsoleStart _ => 1
  | .play (.putButtons _ _) _ => 0
  | .play (.getButtons port frame buttons) incoming =>
      incoming.length + 1 -
        (handler.getButtons coder port frame buttons (incoming ++ [none])).incoming.length

/-- The writes of the stream that a call makes. -/
def HandlerCall.streamWrites (coder : ButtonCoder ButtonsType) (call : HandlerCall ButtonsType)
    (handler : EventStreamHandler ButtonsType) : Nat :=
  match call with
  | .clientReady _ => 1
  | .waitForConsoleStart _ => 0
  | .play (.putButtons tuples writeOk) _ =>
      (handler.putButtons coder tuples writeOk).written.length
  | .play (.getButtons _ _ _) _ => 0

theorem getButtons_logged (coder : ButtonCoder ButtonsType) (port : Port) (frame : Int)
    (buttons : ButtonsType) (incoming : List (Option IncomingEventPB))
    (handler : EventStreamHandler ButtonsType) :
    Logged handler (handler.getButtons coder port frame buttons incoming).handler
      (HandlerCall.streamReads coder (.play (.getButtons port frame buttons) incoming) handler)
      0 := by
  unfold HandlerCall.streamReads getButtons
  simp only
  split_ifs
  · have htimings : (getLocalButtons port frame buttons incoming handler).handler.timings =
        handler.timings ∧
          (getLocalButtons port frame buttons (incoming ++ [none]) handler).incoming =
            incoming ++ [none] := by
      unfold getLocalButtons
      cases handler.getQueue port with
      | none => exact ⟨rfl, rfl⟩
      | some queue =>
          simp only
          cases (queue.getButtons frame buttons).status with
          | success => exact ⟨rfl, rfl⟩
          | unexpectedFrame => exact ⟨rfl, rfl⟩
          | timeout => exact ⟨rfl, rfl⟩
    rw [htimings.2]
    simpa using logged_refl htimings.1
  · obtain ⟨reads, htimings, hlength⟩ := getRemoteButtons_timings coder port frame buttons
      incoming (handler.addEvent .remoteKeyStateRequested)
    have hreads : incoming.length + 1 - (getRemoteButtons coder port frame buttons
        (incoming ++ [none]) (handler.addEvent .remoteKeyStateRequested)).incoming.length =
          reads := by
      omega
    rw [hreads]
    refine logged_singleton (.remoteKeyState reads) ?_
    simp only [addEvent] at htimings ⊢
    rw [htimings]
    simp [TimingGroup.events]

/-- **Each call leaves complete groups behind**, with a pair for each of its reads and
writes. -/
theorem HandlerCall.logged (coder : ButtonCoder ButtonsType) (ports : PortEnum)
    (call : HandlerCall ButtonsType) (handler : EventStreamHandler ButtonsType) :
    Logged handler (call.run coder ports handler) (call.streamReads coder handler)
      (call.streamWrites coder handler) := by
  cases call with
  | clientReady writeOk =>
      refine logged_singleton .clientReady ?_
      simp [HandlerCall.run, EventStreamHandler.clientReady, addEvent, TimingGroup.events]
  | waitForConsoleStart read =>
      exact logged_singleton .startGame (waitForConsoleStart_timings ports read handler)
  | play call incoming =>
      cases call with
      | putButtons tuples writeOk => exact putButtons_logged coder tuples writeOk handler
      | getButtons port frame buttons =>
          exact getButtons_logged coder port frame buttons incoming handler

/-! ### Runs -/

/-- The reads of a run. -/
def streamReads (coder : ButtonCoder ButtonsType) (ports : PortEnum) :
    List (HandlerCall ButtonsType) → EventStreamHandler ButtonsType → Nat
  | [], _ => 0
  | call :: calls, handler =>
      call.streamReads coder handler + streamReads coder ports calls (call.run coder ports handler)

/-- The writes of a run. -/
def streamWrites (coder : ButtonCoder ButtonsType) (ports : PortEnum) :
    List (HandlerCall ButtonsType) → EventStreamHandler ButtonsType → Nat
  | [], _ => 0
  | call :: calls, handler =>
      call.streamWrites coder handler +
        streamWrites coder ports calls (call.run coder ports handler)

/-- **The timing log is well bracketed.**  Whatever is called, and whatever becomes of
the reads, writes, encodings and queue operations, a run adds complete groups to the
log: one read pair for each read of the stream, and one write pair for each write. -/
theorem runs_logged (coder : ButtonCoder ButtonsType) (ports : PortEnum)
    (calls : List (HandlerCall ButtonsType)) (handler : EventStreamHandler ButtonsType) :
    Logged handler (HandlerCall.runAll coder ports calls handler)
      (streamReads coder ports calls handler) (streamWrites coder ports calls handler) := by
  induction calls generalizing handler with
  | nil => exact logged_refl rfl
  | cons call calls ih => exact (call.logged coder ports handler).trans (ih _)

end EventStreamHandler

end Client
end Netplay
