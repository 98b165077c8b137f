import Netplay.Client.GetButtons
import Netplay.Foundations.TransitionSystem

/-!
# Runs of calls

After the start a handler is driven by calls of `PutButtons` and `GetButtons`
alone, over one stream of incoming events.  `runCalls` runs a list of calls and
collects their outcomes; `callSystem` has the states that such runs reach.

* `Evolves` is what every call keeps of a handler.
* `Playing` holds of every reachable handler: the queues are valid, and exactly
  the connected ports have one, with the delays of the `StartGame` message.
-/

namespace Netplay
namespace Client
namespace EventStreamHandler

variable {ButtonsType : Type*}

/-- A call together with the part of its environment that is not the stream: the
outcome of its `Write`, and what `*buttons` holds before it. -/
inductive Call (ButtonsType : Type*)
  | putButtons (tuples : List (ButtonsFrameTuple ButtonsType)) (writeOk : Bool)
  | getButtons (port : Port) (frame : Int) (buttons : ButtonsType)
deriving DecidableEq

/-- What a call returns to its caller, and what it hands to `Write`. -/
inductive Outcome (ButtonsType : Type*)
  | put (status : PutButtonsStatus) (written : List OutgoingEventPB)
  | get (status : GetButtonsStatus) (buttons : ButtonsType)
deriving DecidableEq

/-- The call is not a `PutButtons` that failed. -/
def Outcome.PutSucceeded : Outcome ButtonsType → Prop
  | .put status _ => status = .success
  | .get _ _ => True

instance (outcome : Outcome ButtonsType) : Decidable outcome.PutSucceeded :=
  match outcome with
  | .put status _ => inferInstanceAs (Decidable (status = .success))
  | .get _ _ => isTrue trivial

/-- The key presses handed to `Write`. -/
def Outcome.writtenKeys : Outcome ButtonsType → List KeyStatePB
  | .put _ written => written.flatMap OutgoingEventPB.keyPress
  | .get _ _ => []

/-! ### What every call keeps -/

/-- The handler belongs to the same client and its queues have evolved. -/
structure Evolves (handler handler' : EventStreamHandler ButtonsType) : Prop where
  consoleId : handler'.consoleId = handler.consoleId
  localPorts : handler'.localPorts = handler.localPorts
  queues : QueueMap.Evolves handler.inputQueues handler'.inputQueues
  valid : QueueMap.Valid handler.inputQueues → QueueMap.Valid handler'.inputQueues

theorem Evolves.refl (handler : EventStreamHandler ButtonsType) : Evolves handler handler :=
  ⟨rfl, rfl, .refl _, id⟩

theorem Evolves.trans {handler₁ handler₂ handler₃ : EventStreamHandler ButtonsType}
    (h : Evolves handler₁ handler₂) (h' : Evolves handler₂ handler₃) :
    Evolves handler₁ handler₃ where
  consoleId := h'.consoleId.trans h.consoleId
  localPorts := h'.localPorts.trans h.localPorts
  queues := h.queues.trans h'.queues
  valid := h'.valid ∘ h.valid

theorem Evolves.delayFramesForPort {handler handler' : EventStreamHandler ButtonsType}
    (h : Evolves handler handler') (port : Port) :
    handler'.delayFramesForPort port = handler.delayFramesForPort port :=
  delayFramesForPort_of_evolves h.queues port

theorem putButtons_evolves (coder : ButtonCoder ButtonsType)
    (tuples : List (ButtonsFrameTuple ButtonsType)) (writeOk : Bool)
    (handler : EventStreamHandler ButtonsType) :
    Evolves handler (handler.putButtons coder tuples writeOk).handler := by
  have hspec := putButtons_spec coder tuples writeOk handler
  rw [hspec.handler_eq]
  exact ⟨rfl, rfl, QueueMap.evolves_insertTuples _ _,
    fun hvalid => hvalid.insertTuples hspec.inTurn⟩

variable [Inhabited ButtonsType]

theorem Delivers.evolves {queues queues' : QueueMap ButtonsType} {port : Port} {frame : Int}
    {buttons value : ButtonsType} {status : GetButtonsStatus}
    (h : Delivers queues port frame buttons status value queues') :
    QueueMap.Evolves queues queues' ∧ (QueueMap.Valid queues → QueueMap.Valid queues') := by
  cases h with
  | success _ => exact ⟨QueueMap.evolves_advance queues port, fun hvalid => hvalid.advance port⟩
  | failed _ => exact ⟨.refl queues, id⟩

theorem getButtons_evolves (coder : ButtonCoder ButtonsType) (port : Port) (frame : Int)
    (buttons : ButtonsType) (incoming : List (Option IncomingEventPB))
    {handler : EventStreamHandler ButtonsType} (hvalid : QueueMap.Valid handler.inputQueues) :
    Evolves handler (handler.getButtons coder port frame buttons incoming).handler := by
  obtain ⟨hturn, hdelivers, -, hhandler⟩ :=
    getButtons_spec coder port frame buttons incoming hvalid
  obtain ⟨hevolves, hkeepsValid⟩ := hdelivers.evolves
  refine ⟨?_, ?_, (QueueMap.evolves_insertTuples _ _).trans hevolves, fun _ => ?_⟩
  · rw [hhandler]
  · rw [hhandler]
  · exact hkeepsValid (hvalid.insertTuples hturn)

/-! ### Runs -/

/-- One call: its outcome, the reads left over, and the handler. -/
def runCall (coder : ButtonCoder ButtonsType) (call : Call ButtonsType)
    (incoming : List (Option IncomingEventPB)) (handler : EventStreamHandler ButtonsType) :
    Outcome ButtonsType × List (Option IncomingEventPB) × EventStreamHandler ButtonsType :=
  match call with
  | .putButtons tuples writeOk =>
      let r := handler.putButtons coder tuples writeOk
      (.put r.status r.written, incoming, r.handler)
  | .getButtons port frame buttons =>
      let r := handler.getButtons coder port frame buttons incoming
      (.get r.status r.buttons, r.incoming, r.handler)

/-- The outcomes of a list of calls over one stream. -/
def runCalls (coder : ButtonCoder ButtonsType) :
    List (Call ButtonsType) → List (Option IncomingEventPB) → EventStreamHandler ButtonsType →
      List (Outcome ButtonsType)
  | [], _, _ => []
  | call :: calls, incoming, handler =>
      let r := runCall coder call incoming handler
      r.1 :: runCalls coder calls r.2.1 r.2.2

theorem runCall_evolves (coder : ButtonCoder ButtonsType) (call : Call ButtonsType)
    (incoming : List (Option IncomingEventPB)) {handler : EventStreamHandler ButtonsType}
    (hvalid : QueueMap.Valid handler.inputQueues) :
    Evolves handler (runCall coder call incoming handler).2.2 := by
  cases call with
  | putButtons tuples writeOk => exact putButtons_evolves coder tuples writeOk handler
  | getButtons port frame buttons =>
      exact getButtons_evolves coder port frame buttons incoming hvalid

/-- The handlers that some game reaches. -/
def callSystem (coder : ButtonCoder ButtonsType) (ports : PortEnum)
    (connectedPorts : List ConnectedPortPB) :
    TransitionSystem (EventStreamHandler ButtonsType)
      (Call ButtonsType × List (Option IncomingEventPB)) where
  init := StartedBy ports connectedPorts
  enabled := fun _ _ => True
  next := fun handler action => (runCall coder action.1 action.2 handler).2.2

/-- What holds of a handler for as long as a game lasts. -/
structure Playing (connectedPorts : List ConnectedPortPB)
    (handler : EventStreamHandler ButtonsType) : Prop where
  valid : QueueMap.Valid handler.inputQueues
  queue_of_mem : ∀ connectedPort ∈ connectedPorts, ∃ queue,
    handler.inputQueues[connectedPort.port]? = some queue ∧
      queue.initialFrameDelay = connectedPort.delayFrames ∧
      queue.delayFrames =
        if connectedPort.port ∈ handler.localPorts then connectedPort.delayFrames else 0
  queue_of_not_mem : ∀ port ∉ connectedPorts.map ConnectedPortPB.port,
    handler.inputQueues[port]? = none
  local_connected : ∀ port ∈ handler.localPorts,
    port ∈ connectedPorts.map ConnectedPortPB.port

omit [Inhabited ButtonsType] in
theorem freshQueue_valid (handler : EventStreamHandler ButtonsType)
    (connectedPort : ConnectedPortPB) : (handler.freshQueue connectedPort).Valid := by
  unfold freshQueue
  split_ifs
  · exact InputQueue.make_valid _ _
  · exact InputQueue.make_valid _ _

omit [Inhabited ButtonsType] in
theorem Started.playing {ports : PortEnum} {connectedPorts : List ConnectedPortPB}
    {handler : EventStreamHandler ButtonsType} (h : Started ports connectedPorts handler) :
    Playing connectedPorts handler where
  valid := by
    intro port queue hqueue
    -- every queue is the fresh one of a connected port
    by_cases hport : port ∈ connectedPorts.map ConnectedPortPB.port
    · obtain ⟨connectedPort, hconnected, rfl⟩ := List.mem_map.mp hport
      rw [h.queue_of_mem connectedPort hconnected] at hqueue
      cases hqueue
      exact handler.freshQueue_valid connectedPort
    · rw [h.queue_of_not_mem port hport] at hqueue
      cases hqueue
  queue_of_mem := by
    intro connectedPort hconnected
    refine ⟨_, h.queue_of_mem connectedPort hconnected, ?_⟩
    unfold freshQueue
    by_cases hlocal : connectedPort.port ∈ handler.localPorts
    · simp only [if_pos hlocal]
      exact ⟨rfl, rfl⟩
    · simp only [if_neg hlocal]
      exact ⟨rfl, rfl⟩
  queue_of_not_mem := h.queue_of_not_mem
  local_connected := h.local_connected

omit [Inhabited ButtonsType] in
/-- Nothing is buffered and nothing has been read. -/
theorem Started.fresh {ports : PortEnum} {connectedPorts : List ConnectedPortPB}
    {handler : EventStreamHandler ButtonsType} (h : Started ports connectedPorts handler)
    {port : Port} {queue : InputQueue ButtonsType}
    (hqueue : handler.inputQueues[port]? = some queue) :
    queue.latestFrameRequested = -1 ∧ queue.frameButtons = ∅ := by
  by_cases hport : port ∈ connectedPorts.map ConnectedPortPB.port
  · obtain ⟨connectedPort, hconnected, rfl⟩ := List.mem_map.mp hport
    rw [h.queue_of_mem connectedPort hconnected] at hqueue
    cases hqueue
    unfold freshQueue
    split_ifs
    · exact ⟨rfl, rfl⟩
    · exact ⟨rfl, rfl⟩
  · rw [h.queue_of_not_mem port hport] at hqueue
    cases hqueue

omit [Inhabited ButtonsType] in
/-- Only which ports are listed matters, not their order. -/
theorem Playing.of_mem_iff {connectedPorts connectedPorts' : List ConnectedPortPB}
    {handler : EventStreamHandler ButtonsType} (h : Playing connectedPorts handler)
    (hmem : ∀ connectedPort, connectedPort ∈ connectedPorts ↔ connectedPort ∈ connectedPorts') :
    Playing connectedPorts' handler := by
  have hports : ∀ port, port ∈ connectedPorts.map ConnectedPortPB.port ↔
      port ∈ connectedPorts'.map ConnectedPortPB.port := by
    intro port
    simp only [List.mem_map, hmem]
  refine ⟨h.valid, ?_, ?_, ?_⟩
  · intro connectedPort hconnected
    exact h.queue_of_mem connectedPort ((hmem connectedPort).mpr hconnected)
  · intro port hport
    exact h.queue_of_not_mem port fun hin => hport ((hports port).mp hin)
  · intro port hlocal
    exact (hports port).mp (h.local_connected port hlocal)

omit [Inhabited ButtonsType] in
theorem Playing.evolves {connectedPorts : List ConnectedPortPB}
    {handler handler' : EventStreamHandler ButtonsType} (h : Playing connectedPorts handler)
    (hevolves : Evolves handler handler') : Playing connectedPorts handler' where
  valid := hevolves.valid h.valid
  queue_of_mem := by
    intro connectedPort hconnected
    obtain ⟨queue, hqueue, hinitial, hdelay⟩ := h.queue_of_mem connectedPort hconnected
    obtain ⟨queue', hqueue', hsame⟩ := hevolves.queues.of_some hqueue
    refine ⟨queue', hqueue', ?_, ?_⟩
    · rw [hsame.initialFrameDelay, hinitial]
    · rw [hsame.delayFrames, hdelay, hevolves.localPorts]
  queue_of_not_mem := by
    intro port hport
    exact (hevolves.queues.none_iff port).mpr (h.queue_of_not_mem port hport)
  local_connected := by
    rw [hevolves.localPorts]
    exact h.local_connected

omit [Inhabited ButtonsType] in
/-- The delay that a handler applies to a local port is the connected one. -/
theorem Playing.delayFramesForPort {connectedPorts : List ConnectedPortPB}
    {handler : EventStreamHandler ButtonsType} (h : Playing connectedPorts handler)
    {connectedPort : ConnectedPortPB} (hconnected : connectedPort ∈ connectedPorts) :
    handler.delayFramesForPort connectedPort.port =
      if connectedPort.port ∈ handler.localPorts then connectedPort.delayFrames else 0 := by
  obtain ⟨queue, hqueue, -, hdelay⟩ := h.queue_of_mem connectedPort hconnected
  unfold EventStreamHandler.delayFramesForPort
  rw [hqueue]
  exact hdelay

omit [Inhabited ButtonsType] in
/-- Only connected ports have a queue. -/
theorem Playing.exists_connected {connectedPorts : List ConnectedPortPB}
    {handler : EventStreamHandler ButtonsType} (h : Playing connectedPorts handler) {port : Port}
    {queue : InputQueue ButtonsType} (hqueue : handler.inputQueues[port]? = some queue) :
    ∃ connectedPort ∈ connectedPorts, connectedPort.port = port := by
  have hport : port ∈ connectedPorts.map ConnectedPortPB.port := by
    by_contra hnot
    rw [h.queue_of_not_mem port hnot] at hqueue
    cases hqueue
  exact List.mem_map.mp hport

omit [Inhabited ButtonsType] in
/-- The queue of a remote port applies no delay. -/
theorem Playing.delay_remote {connectedPorts : List ConnectedPortPB}
    {handler : EventStreamHandler ButtonsType} (h : Playing connectedPorts handler) {port : Port}
    {queue : InputQueue ButtonsType} (hqueue : handler.inputQueues[port]? = some queue)
    (hremote : port ∉ handler.localPorts) : handler.delayFramesForPort port = 0 := by
  obtain ⟨connectedPort, hconnected, rfl⟩ := h.exists_connected hqueue
  rw [h.delayFramesForPort hconnected, if_neg hremote]

theorem reachable_playing {coder : ButtonCoder ButtonsType} {ports : PortEnum}
    {connectedPorts : List ConnectedPortPB} {handler : EventStreamHandler ButtonsType}
    (hreach : (callSystem coder ports connectedPorts).Reachable handler) :
    Playing connectedPorts handler := by
  -- the calls enter only through what every call keeps
  refine hreach.invariant (fun handler hstart => ?_) ?_
  · have hstarted : StartedBy ports connectedPorts handler := hstart
    exact hstarted.started.playing
  intro handler action hplaying _
  exact hplaying.evolves (runCall_evolves coder action.1 action.2 hplaying.valid)

end EventStreamHandler

end Client
end Netplay
