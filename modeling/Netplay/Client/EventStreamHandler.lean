import Netplay.Client.InputQueue
import Netplay.Client.Messages

/-!
# `EventStreamHandler`

The handler of `event-stream-handler.hpp`, one definition for each method and
for each loop.  A handler is the record of its data members.  The stream is the
environment: a method that reads is given the outcomes its `Read` calls will
have (`none` is a failed read, and so is every read past the end) and returns
what is left of them; a method that writes is given whether `Write` succeeds and
returns the events it handed to `Write`.
-/

namespace Netplay
namespace Client

/-- `EventStreamHandlerInterface::HandlerStatus`. -/
inductive HandlerStatus
  | notYetStarted
  | consoleRunning
  | consoleTerminated
deriving DecidableEq

/-- The data members.  `local_ports_` is an ordered set and `input_queues_` a map
from ports; `coder_` is a parameter of the methods that use it. -/
structure EventStreamHandler (ButtonsType : Type*) where
  consoleId : Int
  clientId : Int
  localPorts : Std.ExtTreeSet Port
  timings : List TimingEvent
  inputQueues : Std.ExtTreeMap Port (InputQueue ButtonsType)
  status : HandlerStatus
deriving DecidableEq

namespace EventStreamHandler

variable {ButtonsType : Type*}

/-- The constructor; `none` is `std::abort`. -/
def construct (ports : PortEnum) (consoleId clientId : Int) (localPorts : List Port)
    (timings : List TimingEvent) : Option (EventStreamHandler ButtonsType) :=
  let handler : EventStreamHandler ButtonsType :=
    { consoleId := consoleId
      clientId := clientId
      localPorts := Std.ExtTreeSet.ofList localPorts
      timings := timings
      inputQueues := ∅
      status := .notYetStarted }
  if consoleId ≤ 0 then none
  else if clientId ≤ 0 then none
  else if localPorts.length > 4 then none
  else if handler.localPorts.size ≠ localPorts.length then none
  else if ports.portAny ∈ localPorts then none
  else some handler

/-- `timings_->add_event()`. -/
def addEvent (handler : EventStreamHandler ButtonsType) (event : TimingEvent) :
    EventStreamHandler ButtonsType :=
  { handler with timings := handler.timings ++ [event] }

/-- `GetQueue`. -/
def getQueue (handler : EventStreamHandler ButtonsType) (port : Port) :
    Option (InputQueue ButtonsType) :=
  handler.inputQueues[port]?

/-- The queue object of a connected port after a method of it was called. -/
def setQueue (handler : EventStreamHandler ButtonsType) (port : Port)
    (queue : InputQueue ButtonsType) : EventStreamHandler ButtonsType :=
  { handler with inputQueues := handler.inputQueues.insert port queue }

/-- `DelayFramesForPort`. -/
def delayFramesForPort (handler : EventStreamHandler ButtonsType) (port : Port) : Int :=
  match handler.inputQueues[port]? with
  | none => -1
  | some queue => queue.delayFrames

/-- `remote_ports`. -/
def remotePorts (handler : EventStreamHandler ButtonsType) : Std.ExtTreeSet Port :=
  Std.ExtTreeSet.ofList
    (handler.inputQueues.keys.filter fun port => decide (port ∉ handler.localPorts))

/-! ### `ClientReady` and `WaitForConsoleStart` -/

/-- `ClientReady`: its result, the event it writes, and the handler. -/
def clientReady (writeOk : Bool) (handler : EventStreamHandler ButtonsType) :
    Bool × OutgoingEventPB × EventStreamHandler ButtonsType :=
  let event : OutgoingEventPB :=
    { clientReady := some { consoleId := handler.consoleId, clientId := handler.clientId } }
  let handler := handler.addEvent .clientReadySyncWriteStart
  let handler := handler.addEvent .clientReadySyncWriteFinish
  (writeOk, event, handler)

/-- The loop of `InitializeQueues`: how many local ports were connected, or
`none` at an early `return false`. -/
def connectPorts (ports : PortEnum) :
    List ConnectedPortPB → Std.ExtTreeSet Port → Nat → EventStreamHandler ButtonsType →
      Option Nat × EventStreamHandler ButtonsType
  | [], _, localPortsConnected, handler => (some localPortsConnected, handler)
  | connectedPort :: rest, handledPorts, localPortsConnected, handler =>
      let portId := connectedPort.port
      if portId = ports.portAny then
        (none, handler)
      else if portId ∈ handledPorts then
        (none, handler)
      else if portId ∈ handler.localPorts then
        connectPorts ports rest (handledPorts.insert portId) (localPortsConnected + 1)
          { handler with
            inputQueues := handler.inputQueues.insertIfNew portId
              (InputQueue.makeLocalQueue connectedPort.delayFrames) }
      else
        connectPorts ports rest (handledPorts.insert portId) localPortsConnected
          { handler with
            inputQueues := handler.inputQueues.insertIfNew portId
              (InputQueue.makeRemoteQueue connectedPort.delayFrames) }

/-- `InitializeQueues`. -/
def initializeQueues (ports : PortEnum) (connectedPorts : List ConnectedPortPB)
    (handler : EventStreamHandler ButtonsType) : Bool × EventStreamHandler ButtonsType :=
  if connectedPorts.length > 4 then
    (false, handler)
  else
    match connectPorts ports connectedPorts ∅ 0 handler with
    | (none, handler) => (false, handler)
    | (some localPortsConnected, handler) =>
        (decide (handler.localPorts.size = localPortsConnected), handler)

/-- `WaitForConsoleStart`, given the outcome of its `Read`. -/
def waitForConsoleStart (ports : PortEnum) (read : Option IncomingEventPB)
    (handler : EventStreamHandler ButtonsType) : Bool × EventStreamHandler ButtonsType :=
  let handler := handler.addEvent .startGameEventReadStart
  let handler := handler.addEvent .startGameEventReadFinish
  match read with
  | none => (false, handler)
  | some startGameEvent =>
      if startGameEvent.hasStopConsole then
        (false, handler)
      else
        match startGameEvent.startGame with
        | none => (false, handler)
        | some startGame =>
            if startGame.consoleId ≤ 0 ∨ startGame.consoleId ≠ handler.consoleId then
              (false, handler)
            else
              match initializeQueues ports startGame.connectedPorts handler with
              | (true, handler) => (true, handler)
              | (false, handler) => (false, { handler with inputQueues := ∅ })

/-! ### `PutButtons` -/

/-- `EventStreamHandlerInterface::PutButtonsStatus`. -/
inductive PutButtonsStatus
  | success
  | noSuchPort
  | rejectedByQueue
  | failedToTransmitRemote
  | failedToEncode
  | internalError
deriving DecidableEq

/-- `ButtonsFrameTuple`. -/
structure ButtonsFrameTuple (ButtonsType : Type*) where
  port : Port
  frame : Int
  buttons : ButtonsType
deriving DecidableEq

/-- Status of `PutButtons`, what it handed to `stream_->Write`, and the handler. -/
structure PutButtonsResult (ButtonsType : Type*) where
  status : PutButtonsStatus
  written : List OutgoingEventPB
  handler : EventStreamHandler ButtonsType
deriving DecidableEq

/-- The loop body of `PutButtons`.  `success` stands for going on with the next
tuple.  The message under construction is dropped on every failure, so its state
there does not matter. -/
def putTuple (coder : ButtonCoder ButtonsType) (tuple : ButtonsFrameTuple ButtonsType)
    (event : OutgoingEventPB) (handler : EventStreamHandler ButtonsType) :
    PutButtonsStatus × OutgoingEventPB × EventStreamHandler ButtonsType :=
  match handler.getQueue tuple.port with
  | none => (.noSuchPort, event, handler)
  | some queue =>
      let put := queue.putButtons tuple.frame tuple.buttons
      let handler := handler.setQueue tuple.port put.2
      if put.1 = false then
        (.rejectedByQueue, event, handler)
      else if tuple.port ∈ handler.localPorts then
        let delay := handler.delayFramesForPort tuple.port
        if delay < 0 then
          (.internalError, event, handler)
        else
          let key : KeyStatePB :=
            { consoleId := handler.consoleId
              frameNumber := tuple.frame + delay
              port := tuple.port }
          match coder.encodeButtons tuple.buttons key with
          | none => (.failedToEncode, event, handler)
          | some key => (.success, { event with keyPress := event.keyPress ++ [key] }, handler)
      else
        (.success, event, handler)

/-- The loop of `PutButtons`. -/
def putTuples (coder : ButtonCoder ButtonsType) :
    List (ButtonsFrameTuple ButtonsType) → OutgoingEventPB → EventStreamHandler ButtonsType →
      PutButtonsStatus × OutgoingEventPB × EventStreamHandler ButtonsType
  | [], event, handler => (.success, event, handler)
  | tuple :: tuples, event, handler =>
      match putTuple coder tuple event handler with
      | (.success, event, handler) => putTuples coder tuples event handler
      | failed => failed

/-- `PutButtons`, given whether its `Write` succeeds. -/
def putButtons (coder : ButtonCoder ButtonsType)
    (buttonsTuples : List (ButtonsFrameTuple ButtonsType)) (writeOk : Bool)
    (handler : EventStreamHandler ButtonsType) : PutButtonsResult ButtonsType :=
  match putTuples coder buttonsTuples {} handler with
  | (.success, event, handler) =>
      if event.keyPress.isEmpty then
        ⟨.success, [], handler⟩
      else
        let handler := handler.addEvent .keyStateSyncWriteStart
        let handler := handler.addEvent .keyStateSyncWriteFinish
        if writeOk then ⟨.success, [event], handler⟩
        else ⟨.failedToTransmitRemote, [event], handler⟩
  | (status, _, handler) => ⟨status, [], handler⟩

/-! ### `GetButtons` -/

/-- `EventStreamHandlerInterface::GetButtonsStatus`. -/
inductive GetButtonsStatus
  | success
  | noSuchPort
  | failure
deriving DecidableEq

/-- Status of `GetButtons`, `*buttons`, the reads not made yet, and the handler. -/
structure GetButtonsResult (ButtonsType : Type*) where
  status : GetButtonsStatus
  buttons : ButtonsType
  incoming : List (Option IncomingEventPB)
  handler : EventStreamHandler ButtonsType
deriving DecidableEq

/-- `ReadUntilButtonsStatus`. -/
inductive ReadUntilButtonsStatus
  | gotButtons
  | rpcReadFailure
  | nonButtonMessage
  | invalidButtonsMessage
  | rejectedByQueue
  | consoleTerminated
deriving DecidableEq

/-- The body of the key press loop in `ReadUntilButtons`, up to the test whether
the requested buttons were found: `none` goes on. -/
def putKeyPress (coder : ButtonCoder ButtonsType) (keys : KeyStatePB)
    (handler : EventStreamHandler ButtonsType) :
    Option ReadUntilButtonsStatus × EventStreamHandler ButtonsType :=
  match handler.getQueue keys.port with
  | none => (some .invalidButtonsMessage, handler)
  | some queue =>
      match coder.decodeButtons keys with
      | none => (some .invalidButtonsMessage, handler)
      | some buttons =>
          let put := queue.putButtons keys.frameNumber buttons
          let handler := handler.setQueue keys.port put.2
          if put.1 = false then (some .rejectedByQueue, handler) else (none, handler)

/-- The key press loop: a status to return, or the flag `found_buttons`. -/
def putKeyPresses (coder : ButtonCoder ButtonsType) (port : Port) (frame : Int) :
    List KeyStatePB → Bool → EventStreamHandler ButtonsType →
      Except ReadUntilButtonsStatus Bool × EventStreamHandler ButtonsType
  | [], foundButtons, handler => (.ok foundButtons, handler)
  | keys :: rest, foundButtons, handler =>
      match putKeyPress coder keys handler with
      | (some status, handler) => (.error status, handler)
      | (none, handler) =>
          putKeyPresses coder port frame rest
            (foundButtons || (keys.port == port && keys.frameNumber == frame)) handler

/-- One round of the loop of `ReadUntilButtons`, given the outcome of its `Read`:
`none` means that the loop reads again. -/
def readEvent (coder : ButtonCoder ButtonsType) (port : Port) (frame : Int)
    (read : Option IncomingEventPB) (handler : EventStreamHandler ButtonsType) :
    Option ReadUntilButtonsStatus × EventStreamHandler ButtonsType :=
  let handler := handler.addEvent .keyStateReadStart
  let handler := handler.addEvent .keyStateReadFinish
  match read with
  | none => (some .rpcReadFailure, handler)
  | some event =>
      if event.hasStopConsole then
        (some .consoleTerminated, handler)
      else if event.startGame.isSome ∨ event.hasInvalidData then
        (some .nonButtonMessage, handler)
      else
        match putKeyPresses coder port frame event.keyPress false handler with
        | (.error status, handler) => (some status, handler)
        | (.ok true, handler) => (some .gotButtons, handler)
        | (.ok false, handler) => (none, handler)

/-- `ReadUntilButtons`: its status, the reads not made, and the handler. -/
def readUntilButtons (coder : ButtonCoder ButtonsType) (port : Port) (frame : Int) :
    List (Option IncomingEventPB) → EventStreamHandler ButtonsType →
      ReadUntilButtonsStatus × List (Option IncomingEventPB) × EventStreamHandler ButtonsType
  | [], handler =>
      let handler := handler.addEvent .keyStateReadStart
      let handler := handler.addEvent .keyStateReadFinish
      (.rpcReadFailure, [], handler)
  | read :: incoming, handler =>
      match readEvent coder port frame read handler with
      | (some status, handler) => (status, incoming, handler)
      | (none, handler) => readUntilButtons coder port frame incoming handler

variable [Inhabited ButtonsType]

/-- `GetLocalButtons`. -/
def getLocalButtons (port : Port) (frame : Int) (buttons : ButtonsType)
    (incoming : List (Option IncomingEventPB)) (handler : EventStreamHandler ButtonsType) :
    GetButtonsResult ButtonsType :=
  match handler.getQueue port with
  | none => ⟨.noSuchPort, buttons, incoming, handler⟩
  | some queue =>
      let get := queue.getButtons frame buttons
      let handler := handler.setQueue port get.queue
      match get.status with
      | .success => ⟨.success, get.buttons, incoming, handler⟩
      | _ => ⟨.failure, get.buttons, incoming, handler⟩

/-- The end of `GetRemoteButtons`: the read of the queue after
`ReadUntilButtons` returned. -/
def finishRemoteButtons (port : Port) (frame : Int) (buttons : ButtonsType)
    (status : ReadUntilButtonsStatus) (incoming : List (Option IncomingEventPB))
    (handler : EventStreamHandler ButtonsType) : GetButtonsResult ButtonsType :=
  if status ≠ .gotButtons then
    ⟨.failure, buttons, incoming, handler⟩
  else
    match handler.getQueue port with
    -- the queue was found before the loop, and no queue is ever removed
    | none => ⟨.failure, buttons, incoming, handler⟩
    | some queue =>
        let get := queue.getButtons frame buttons
        let handler := handler.setQueue port get.queue
        match get.status with
        | .success => ⟨.success, get.buttons, incoming, handler⟩
        | _ => ⟨.failure, get.buttons, incoming, handler⟩

/-- `GetRemoteButtons`. -/
def getRemoteButtons (coder : ButtonCoder ButtonsType) (port : Port) (frame : Int)
    (buttons : ButtonsType) (incoming : List (Option IncomingEventPB))
    (handler : EventStreamHandler ButtonsType) : GetButtonsResult ButtonsType :=
  match handler.getQueue port with
  | none => ⟨.noSuchPort, buttons, incoming, handler⟩
  | some queue =>
      let get := queue.getButtons frame buttons
      let handler := handler.setQueue port get.queue
      match get.status with
      | .success => ⟨.success, get.buttons, incoming, handler⟩
      | .unexpectedFrame => ⟨.failure, get.buttons, incoming, handler⟩
      | .timeout =>
          let r := readUntilButtons coder port frame incoming handler
          finishRemoteButtons port frame get.buttons r.1 r.2.1 r.2.2

/-- `GetButtons`. -/
def getButtons (coder : ButtonCoder ButtonsType) (port : Port) (frame : Int)
    (buttons : ButtonsType) (incoming : List (Option IncomingEventPB))
    (handler : EventStreamHandler ButtonsType) : GetButtonsResult ButtonsType :=
  if port ∈ handler.localPorts then
    getLocalButtons port frame buttons incoming handler
  else
    let handler := handler.addEvent .remoteKeyStateRequested
    let r := getRemoteButtons coder port frame buttons incoming handler
    { r with handler := r.handler.addEvent .remoteKeyStateReturned }

end EventStreamHandler

end Client
end Netplay
