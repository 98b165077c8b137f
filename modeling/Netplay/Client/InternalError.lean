import Netplay.Client.FrameArithmetic

/-!
# The internal error of `PutButtons`

`PutButtons` asks for the delay of a port after the queue of the port has accepted the
frame, and returns `INTERNAL_ERROR` if it is negative.  `DelayFramesForPort` answers
`-1` for a port without queue, but a negative delay of the `StartGame` message looks
the same: `InitializeQueues` does not check it, and to the queue it is a shift.
-/

namespace Netplay
namespace Client
namespace EventStreamHandler

variable {ButtonsType : Type*}

/-- An internal error needs a local port with a negative delay whose queue accepted a
frame of the call. -/
theorem putButtons_internalError {coder : ButtonCoder ButtonsType}
    {tuples : List (ButtonsFrameTuple ButtonsType)} {writeOk : Bool}
    {handler : EventStreamHandler ButtonsType}
    (herror : (handler.putButtons coder tuples writeOk).status = .internalError) :
    ∃ tuple ∈ tuples, tuple.port ∈ handler.localPorts ∧
      handler.delayFramesForPort tuple.port < 0 ∧
      QueueMap.Accepts handler.inputQueues tuple.port tuple.frame := by
  have hspec := putButtons_spec coder tuples writeOk handler
  obtain ⟨rest, htuples, hstopped⟩ := hspec.stopped
  have hturn := hspec.inTurn
  generalize (handler.putButtons coder tuples writeOk).status = status at hstopped herror
  generalize takenTuples coder tuples handler = taken at htuples hstopped hturn
  cases herror
  cases hstopped with
  | @internalError before _ tuple hlocal hdelay =>
      have htaken : tuple ∈ before ++ [tuple] := by simp
      exact ⟨tuple, by simp [htuples], hlocal, hdelay, hturn.accepts tuple htaken⟩

/-- A frame of such a port that the queue accepts is enough. -/
theorem putButtons_singleton_internalError (coder : ButtonCoder ButtonsType)
    {tuple : ButtonsFrameTuple ButtonsType} (writeOk : Bool)
    {handler : EventStreamHandler ButtonsType} (hlocal : tuple.port ∈ handler.localPorts)
    (hdelay : handler.delayFramesForPort tuple.port < 0)
    (haccepts : QueueMap.Accepts handler.inputQueues tuple.port tuple.frame) :
    (handler.putButtons coder [tuple] writeOk).status = .internalError := by
  obtain ⟨queue, hqueue, hacc⟩ := haccepts
  have hlocal' : tuple.port ∈ (handler.insertTuple tuple).localPorts := hlocal
  have hround : putTuple coder tuple {} handler =
      (.internalError, {}, handler.insertTuple tuple) := by
    unfold putTuple getQueue
    simp only [hqueue, InputQueue.putButtons_of_accepts hacc, setQueue_insertButtons hqueue,
      delayFramesForPort_insertTuple, Bool.true_eq_false, if_false, if_pos hlocal', if_pos hdelay]
  simp only [putButtons, putTuples, hround]

/-! ### Which start messages lead to it -/

/-- A queue that was never read accepts the frame that a negative delay moves to 0. -/
theorem Started.accepts_neg_delay {ports : PortEnum} {connectedPorts : List ConnectedPortPB}
    {handler : EventStreamHandler ButtonsType} (h : Started ports connectedPorts handler)
    {connectedPort : ConnectedPortPB} (hconnected : connectedPort ∈ connectedPorts)
    (hlocal : connectedPort.port ∈ handler.localPorts) (hdelay : connectedPort.delayFrames < 0) :
    QueueMap.Accepts handler.inputQueues connectedPort.port (-connectedPort.delayFrames) := by
  refine ⟨_, h.queue_of_mem connectedPort hconnected, by omega, ?_, ?_⟩
  · rw [freshQueue, if_pos hlocal]
    show connectedPort.delayFrames ≤ -connectedPort.delayFrames + connectedPort.delayFrames
    omega
  · rw [freshQueue, if_pos hlocal]
    rintro (hread | hbuffered)
    · have hread' : -connectedPort.delayFrames + connectedPort.delayFrames ≤ -1 := hread
      omega
    · simp [InputQueue.makeLocalQueue] at hbuffered

/-- Behind the delay of a local port, an accepted frame is not below 0. -/
theorem Playing.delay_of_accepts {connectedPorts : List ConnectedPortPB}
    {handler : EventStreamHandler ButtonsType} (h : Playing connectedPorts handler) {port : Port}
    (hlocal : port ∈ handler.localPorts) {frame : Int}
    (haccepts : QueueMap.Accepts handler.inputQueues port frame) :
    ∃ connectedPort ∈ connectedPorts, connectedPort.port = port ∧
      handler.delayFramesForPort port = connectedPort.delayFrames ∧
      0 ≤ frame + connectedPort.delayFrames := by
  obtain ⟨connectedPort, hconnected, rfl⟩ := List.mem_map.mp (h.local_connected port hlocal)
  have hdelay := h.delayFramesForPort hconnected
  rw [if_pos hlocal] at hdelay
  refine ⟨connectedPort, hconnected, rfl, hdelay, ?_⟩
  obtain ⟨queue, hqueue, -, -, hnew⟩ := haccepts
  have hlatest := (h.valid _ queue hqueue).latest_ge
  have hqueueDelay := handler.hasDelays _ queue hqueue
  simp only [InputQueue.Seen, InputQueue.delayedFrame, not_or, not_le] at hnew
  omega

/-! ### Runs -/

variable [Inhabited ButtonsType]

/-- No call of a run from the handler ends in an internal error. -/
def NeverInternalError (coder : ButtonCoder ButtonsType)
    (handler : EventStreamHandler ButtonsType) : Prop :=
  ∀ handler', (intCalls coder handler).Reachable handler' →
    ∀ (tuples : List (ButtonsFrameTuple ButtonsType)) (writeOk : Bool),
      (∀ tuple ∈ tuples, IsInt tuple.frame) →
      (handler'.putButtons coder tuples writeOk).status ≠ .internalError

/-- In a run from the handler, a local port whose queue accepts a frame has a
non-negative delay. -/
def AcceptsWithDelay (coder : ButtonCoder ButtonsType)
    (handler : EventStreamHandler ButtonsType) : Prop :=
  ∀ handler', (intCalls coder handler).Reachable handler' →
    ∀ port ∈ handler'.localPorts, ∀ frame, IsInt frame →
      QueueMap.Accepts handler'.inputQueues port frame → 0 ≤ handler'.delayFramesForPort port

/-- The delays of the local ports are not negative, or so low that no `int` frame is
moved to 0 or above. -/
def NoNegativeDelay (connectedPorts : List ConnectedPortPB)
    (handler : EventStreamHandler ButtonsType) : Prop :=
  ∀ connectedPort ∈ connectedPorts, connectedPort.port ∈ handler.localPorts →
    0 ≤ connectedPort.delayFrames ∨ connectedPort.delayFrames ≤ -2147483648

theorem acceptsWithDelay_of_noNegativeDelay {connectedPorts : List ConnectedPortPB}
    {handler : EventStreamHandler ButtonsType} (hplaying : Playing connectedPorts handler)
    (coder : ButtonCoder ButtonsType) (h : NoNegativeDelay connectedPorts handler) :
    AcceptsWithDelay coder handler := by
  intro handler' hreach port hlocal frame hframe haccepts
  have hevolves := intCalls_evolves hplaying.valid hreach
  obtain ⟨connectedPort, hconnected, rfl, hdelay, hsum⟩ :=
    (hplaying.evolves hevolves).delay_of_accepts hlocal haccepts
  rw [hevolves.localPorts] at hlocal
  rw [hdelay]
  unfold IsInt at hframe
  rcases h connectedPort hconnected hlocal with hnonneg | hlow
  · exact hnonneg
  · omega

theorem AcceptsWithDelay.neverInternalError {coder : ButtonCoder ButtonsType}
    {handler : EventStreamHandler ButtonsType} (h : AcceptsWithDelay coder handler) :
    NeverInternalError coder handler := by
  intro handler' hreach tuples writeOk hframes herror
  obtain ⟨tuple, htuple, hlocal, hnegative, haccepts⟩ := putButtons_internalError herror
  have hnonneg := h handler' hreach tuple.port hlocal tuple.frame (hframes tuple htuple) haccepts
  omega

/-- The first call of a run can end in an internal error if a delay is negative. -/
theorem NeverInternalError.noNegativeDelay {ports : PortEnum}
    {connectedPorts : List ConnectedPortPB} {handler : EventStreamHandler ButtonsType}
    (hstarted : Started ports connectedPorts handler) {coder : ButtonCoder ButtonsType}
    (h : NeverInternalError coder handler) : NoNegativeDelay connectedPorts handler := by
  intro connectedPort hconnected hlocal
  by_contra hnot
  push Not at hnot
  have hdelay := hstarted.playing.delayFramesForPort hconnected
  rw [if_pos hlocal] at hdelay
  have hframe : IsInt (-connectedPort.delayFrames) := by
    unfold IsInt
    omega
  refine h handler (.init rfl) [⟨connectedPort.port, -connectedPort.delayFrames, default⟩] true
    (by simpa using hframe) ?_
  refine putButtons_singleton_internalError coder true hlocal ?_
    (hstarted.accepts_neg_delay hconnected hlocal hnot.1)
  rw [hdelay]
  exact hnot.1

/-- **`PutButtons` reports an internal error exactly for negative delays.**  A run from
the start can end in `INTERNAL_ERROR`, and a local queue can accept a frame without a
delay to send it with, exactly if the `StartGame` message gives a local port a negative
delay other than the least `int`. -/
theorem neverInternalError_iff {ports : PortEnum} {connectedPorts : List ConnectedPortPB}
    {handler : EventStreamHandler ButtonsType} (hstart : StartedBy ports connectedPorts handler)
    (coder : ButtonCoder ButtonsType) :
    (NeverInternalError coder handler ↔ NoNegativeDelay connectedPorts handler) ∧
      (AcceptsWithDelay coder handler ↔ NoNegativeDelay connectedPorts handler) := by
  have hstarted := hstart.started
  have hdelays := acceptsWithDelay_of_noNegativeDelay hstarted.playing coder
  constructor
  · constructor
    · intro h
      exact h.noNegativeDelay hstarted
    · intro h
      exact (hdelays h).neverInternalError
  · constructor
    · intro h
      exact h.neverInternalError.noNegativeDelay hstarted
    · exact hdelays

theorem neverInternalError_iff_player : NeverInternalError integerCoder (player 1) :=
  (neverInternalError_iff (player_startedBy (Or.inl rfl)) integerCoder).1.mpr
    (show ∀ connectedPort ∈ twoPorts, connectedPort.port ∈ (player 1).localPorts →
      0 ≤ connectedPort.delayFrames ∨ connectedPort.delayFrames ≤ -2147483648 by decide)

/-- A game whose server sends a delay of -2 for port 1. -/
def hastyGame : StartGamePB where
  consoleId := 1
  connectedPorts := [⟨1, -2⟩, ⟨2, 2⟩]

/-- Player 1 in that game. -/
def hastyPlayer : EventStreamHandler Int :=
  ((waitingPlayer 1).waitForConsoleStart portNumbers (some { startGame := some hastyGame })).2

/-- The message is accepted, and the first button press ends in an internal error. -/
theorem internalError_reached :
    ¬ ∀ (ports : PortEnum) (connectedPorts : List ConnectedPortPB)
      (handler : EventStreamHandler Int), StartedBy ports connectedPorts handler →
      ∀ coder : ButtonCoder Int, NeverInternalError coder handler := by
  intro h
  have hconstruct : construct portNumbers 1 1 [1] [] = some (waitingPlayer 1) := by decide
  have hstart : StartedBy portNumbers hastyGame.connectedPorts hastyPlayer :=
    ⟨waitingPlayer 1, { startGame := some hastyGame }, hastyGame, .construct hconstruct, rfl, rfl,
      by decide⟩
  have hnever := h portNumbers hastyGame.connectedPorts hastyPlayer hstart integerCoder
    hastyPlayer (.init rfl) [⟨1, 2, 7⟩] true (by decide)
  have herror : (hastyPlayer.putButtons integerCoder [⟨1, 2, 7⟩] true).status =
      .internalError := by
    decide
  exact hnever herror

end EventStreamHandler

end Client
end Netplay
