import Netplay.Foundations.InputStream
import Netplay.Plugin.NetplayInfo

/-!
# `PluginImpl`

The plugin of `plugin-impl.cc` with the RPC helpers of `host-utils.cc`, and the
functions that `mupen64.cc` exports.

Everything outside the process is an `Environment`: what the user types, what
each RPC and each stream operation will come to.  `InitiateNetplay` performs each
of them at most once.  Its result says how the call ended, what it left in the
shared data, and what it sent to the server.

The timing log is shared between the client and its handler.  The plugin never
looks at it, and the client's copy is not kept up with the handler's.
-/

namespace Netplay
namespace Plugin

open Client

/-! ### Messages -/

structure MakeConsoleRequestPB where
  consoleTitle : String
  romName : String
deriving DecidableEq

structure MakeConsoleResponsePB where
  status : ResponseStatus := .unknown
  consoleId : Int := 0
deriving DecidableEq

structure StartGameRequestPB where
  consoleId : Int
deriving DecidableEq

structure StartGameResponsePB where
  status : ResponseStatus := .unknown
deriving DecidableEq

/-- What the plugin sends to the server: the requests of the three RPCs, and the
events that are written to the stream. -/
inductive Sent
  | makeConsole (request : MakeConsoleRequestPB)
  | plugController (request : PlugControllerRequestPB)
  | startGame (request : StartGameRequestPB)
  | event (event : OutgoingEventPB)
deriving DecidableEq

/-- An integer variable.  Until it is assigned its value is whatever was in its
place before. -/
structure Variable where
  value : Int
  assigned : Bool
deriving DecidableEq

/-- What the process meets during one call of `InitiateNetplay`: the user's input,
the value of a variable that was not assigned, the responses of the RPCs (`none`
if the call fails), whether the write of `ClientReady` succeeds, and the outcome
of the read of `WaitForConsoleStart`. -/
structure Environment where
  cin : InputStream
  indeterminate : Int
  makeConsole : Option MakeConsoleResponsePB
  plugController : Option PlugControllerResponsePB
  startGame : Option StartGameResponsePB
  clientReadyOk : Bool
  startGameEvent : Option IncomingEventPB
deriving DecidableEq

/-! ### `host_utils` -/

/-- `MakeConsole`: whether it returns true, `*status` and `*console_id`.  The id is
assigned to an `int`, on success only. -/
def makeConsole (response : Option MakeConsoleResponsePB) (status : ResponseStatus)
    (consoleId : Variable) : Bool × ResponseStatus × Variable :=
  match response with
  | none => (false, status, consoleId)
  | some response =>
      if response.status = .success then
        (true, response.status, ⟨toInt response.consoleId, true⟩)
      else
        (true, response.status, consoleId)

/-- `StartGame`: whether it returns true, and `*status`. -/
def startGame (response : Option StartGameResponsePB) (status : ResponseStatus) :
    Bool × ResponseStatus :=
  match response with
  | none => (false, status)
  | some response => (true, response.status)

/-- The request of `StartGame`, whose parameter is an `int`. -/
def startGameRequest (consoleId : Int) : StartGameRequestPB := ⟨toInt consoleId⟩

/-! ### The dialogue -/

/-- The loop of `ReadBool`, for a bounded number of rounds. -/
def readBoolRounds : Nat → InputStream → Option Bool × InputStream
  | 0, cin => (none, cin)
  | rounds + 1, cin =>
      let word := cin.readWord []
      let cin := word.2.ignore
      if cin.good = false then
        (none, cin)
      else if word.1 = ['y'] ∨ word.1 = ['y', 'e', 's'] then
        (some true, cin)
      else if word.1 = ['n'] ∨ word.1 = ['n', 'o'] then
        (some false, cin)
      else
        readBoolRounds rounds cin

/-- `ReadBool`: `*result` if it returns true.  No input lasts longer than one round
for each character (`readBool_eq`). -/
def readBool (cin : InputStream) : Option Bool × InputStream :=
  readBoolRounds (cin.chars.length + 1) cin

/-- Rounds beyond the length of the input are never reached. -/
theorem readBoolRounds_eq {rounds rounds' : Nat} {cin : InputStream}
    (h : cin.chars.length < rounds) (h' : cin.chars.length < rounds') :
    readBoolRounds rounds cin = readBoolRounds rounds' cin := by
  induction rounds generalizing rounds' cin with
  | zero => exact absurd h (Nat.not_lt_zero _)
  | succ rounds ih =>
      obtain ⟨rounds', rfl⟩ := Nat.exists_eq_add_one.mpr (Nat.zero_lt_of_lt h')
      simp only [readBoolRounds]
      cases hgood : (cin.readWord []).2.ignore.good with
      | false => rfl
      | true =>
          have hlt := InputStream.length_readWord_ignore_lt hgood
          rw [ih (by omega) (show _ < rounds' by omega)]

/-- The loop as the source has it. -/
theorem readBool_eq (cin : InputStream) :
    readBool cin =
      let word := cin.readWord []
      let cin := word.2.ignore
      if cin.good = false then
        (none, cin)
      else if word.1 = ['y'] ∨ word.1 = ['y', 'e', 's'] then
        (some true, cin)
      else if word.1 = ['n'] ∨ word.1 = ['n', 'o'] then
        (some false, cin)
      else
        readBool cin := by
  rw [readBool, readBoolRounds]
  cases hgood : (cin.readWord []).2.ignore.good with
  | false => simp [hgood]
  | true =>
      have hlt := InputStream.length_readWord_ignore_lt hgood
      simp only [hgood, readBool]
      rw [readBoolRounds_eq hlt (Nat.lt_succ_self _)]

/-- `ReadInt64`: whether it returns true, `*console_id`, and the input. -/
def readInt64 (cin : InputStream) (consoleId : Int) : Bool × Int × InputStream :=
  let number := cin.readInt64 consoleId
  let cin := number.2.ignore
  (cin.good, number.1, cin)

/-- Result of `InteractiveConfig`, with `*console_id` and `*created_console`. -/
structure InteractiveConfigResult where
  ok : Bool
  consoleId : Variable
  createdConsole : Bool
  cin : InputStream
  sent : List Sent
deriving DecidableEq

/-- `InteractiveConfig`. -/
def interactiveConfig (configHandler : ConfigHandler) (goodname md5 : String)
    (env : Environment) : InteractiveConfigResult :=
  let consoleId : Variable := ⟨(M64Config.fromConfigHandler configHandler).consoleId, true⟩
  match readBool env.cin with
  | (none, cin) => ⟨false, consoleId, false, cin, []⟩
  | (some true, cin) =>
      let sent : List Sent := [.makeConsole ⟨goodname, md5⟩]
      match makeConsole env.makeConsole .unknown ⟨env.indeterminate, false⟩ with
      | (false, _, _) => ⟨false, consoleId, true, cin, sent⟩
      | (true, _, consoleIdInt) => ⟨true, consoleIdInt, true, cin, sent⟩
  | (some false, cin) =>
      let number := readInt64 cin consoleId.value
      ⟨number.1, ⟨number.2.1, true⟩, false, number.2.2, []⟩

/-- `InteractiveStartConsole`: its result, the input, and what it sends. -/
def interactiveStartConsole (consoleId : Int) (cin : InputStream) (env : Environment) :
    Bool × InputStream × List Sent :=
  ((startGame env.startGame .unknown).1, cin.ignoreLine,
    [.startGame (startGameRequest consoleId)])

/-! ### The controller table -/

namespace NetplayInfo

/-- A loop that fills the entries of ports; `none` is a write outside the table. -/
def setControllers (ports : PortEnum) :
    List (Port × NetplayController) → NetplayInfo → Option NetplayInfo
  | [], info => some info
  | (port, controller) :: rest, info =>
      match info.setController (portToM64Port ports port) controller with
      | none => none
      | some info => setControllers ports rest info

end NetplayInfo

section

variable {ButtonsType : Type*}

/-- What the first loop of `PermuteNetplayControllers` writes: local ports are
allocated to input plugin channels. -/
def localControllers (handler : EventStreamHandler ButtonsType) (availableChannels : List Int) :
    List (Port × NetplayController) :=
  (availableChannels.zip handler.localPorts.toList).map fun (channel, port) =>
    (port,
      { present := 1
        remote := 0
        delay := handler.delayFramesForPort port
        channel := channel })

/-- What its second loop writes. -/
def remoteControllers (handler : EventStreamHandler ButtonsType) :
    List (Port × NetplayController) :=
  handler.remotePorts.toList.map fun port =>
    (port,
      { present := 1
        remote := 1
        delay := handler.delayFramesForPort port
        channel := -1 })

/-- `PermuteNetplayControllers`; `none` is a write outside the table.  The requested
ports are not looked at. -/
def permuteNetplayControllers (ports : PortEnum) (handler : EventStreamHandler ButtonsType)
    (_requestedPorts : List Port) (info : NetplayInfo) : Option (Bool × NetplayInfo) :=
  let availableChannels := info.availableChannels
  if availableChannels.length ≠ handler.localPorts.size then
    some (false, info)
  else
    match info.setControllers ports (localControllers handler availableChannels) with
    | none => none
    | some info =>
        match info.setControllers ports (remoteControllers handler) with
        | none => none
        | some info => some (true, info)

/-! ### `InitiateNetplay` -/

/-- The data members.  `cin_` and `cout_` are the environment's. -/
structure PluginImpl (ButtonsType : Type*) where
  configHandler : ConfigHandler
  client : NetplayClient
  streamHandler : Option (EventStreamHandler ButtonsType)

/-- How a call into the plugin ends: with a return value, in `std::abort`, or in
undefined behaviour. -/
inductive Ending
  | returned (value : Int)
  | aborted
  | outOfBounds
  | nullDereference
deriving DecidableEq

/-- How `InitiateNetplay` ended and what it left behind.  `consoleIdPassed` is the
variable it passed to `PlugControllers`, if it got there. -/
structure InitiateNetplayResult (ButtonsType : Type*) where
  ending : Ending
  impl : PluginImpl ButtonsType
  info : NetplayInfo
  cin : InputStream
  sent : List Sent
  consoleIdPassed : Option Variable

namespace PluginImpl

/-- `InitiateNetplay` from the call of `ClientReady` on. -/
def startSession (ports : PortEnum) (impl : PluginImpl ButtonsType) (info : NetplayInfo)
    (config : InteractiveConfigResult) (requestedPorts : List Port) (sent : List Sent)
    (handler : EventStreamHandler ButtonsType) (env : Environment) :
    InitiateNetplayResult ButtonsType :=
  let ready := handler.clientReady env.clientReadyOk
  let sent := sent ++ [.event ready.2.1]
  let impl := { impl with streamHandler := some ready.2.2 }
  if ready.1 = false then
    ⟨.returned 0, impl, info, config.cin, sent, some config.consoleId⟩
  else
    let start : Bool × InputStream × List Sent :=
      if config.createdConsole then
        interactiveStartConsole config.consoleId.value config.cin env
      else (true, config.cin, [])
    let sent := sent ++ start.2.2
    if start.1 = false then
      ⟨.returned 0, impl, info, start.2.1, sent, some config.consoleId⟩
    else
      let wait := ready.2.2.waitForConsoleStart ports env.startGameEvent
      let impl := { impl with streamHandler := some wait.2 }
      if wait.1 = false then
        ⟨.returned 0, impl, info, start.2.1, sent, some config.consoleId⟩
      else
        match permuteNetplayControllers ports wait.2 requestedPorts info with
        | none => ⟨.outOfBounds, impl, info, start.2.1, sent, some config.consoleId⟩
        | some (false, info) =>
            ⟨.returned 0, impl, info, start.2.1, sent, some config.consoleId⟩
        | some (true, info) =>
            ⟨.returned 1, impl, info, start.2.1, sent, some config.consoleId⟩

/-- `InitiateNetplay` from the call of `PlugControllers` on. -/
def plugAndStart (ports : PortEnum) (impl : PluginImpl ButtonsType) (info : NetplayInfo)
    (md5 : String) (config : InteractiveConfigResult) (requestedPorts : List Port)
    (env : Environment) : InitiateNetplayResult ButtonsType :=
  let plug := impl.client.plugControllers config.consoleId.value md5 requestedPorts
    env.plugController
  let impl := { impl with client := plug.client }
  let sent := config.sent ++ plug.request.toList.map Sent.plugController
  if plug.ok = false then
    ⟨.returned 0, impl, info, config.cin, sent, some config.consoleId⟩
  else
    match plug.client.makeEventStreamHandler ports with
    | none => ⟨.aborted, impl, info, config.cin, sent, some config.consoleId⟩
    | some handler => startSession ports impl info config requestedPorts sent handler env

/-- `InitiateNetplay`. -/
def initiateNetplay (ports : PortEnum) (impl : PluginImpl ButtonsType) (info : NetplayInfo)
    (goodname md5 : String) (env : Environment) : InitiateNetplayResult ButtonsType :=
  let configuration := M64Config.fromConfigHandler impl.configHandler
  let info := info.clear.setEnabled configuration.enabled
  if configuration.enabled = false then
    ⟨.returned 1, impl, info, env.cin, [], none⟩
  else if info.hasRawData then
    ⟨.returned 0, impl, info, env.cin, [], none⟩
  else
    let config := interactiveConfig impl.configHandler goodname md5 env
    if config.ok = false then
      ⟨.returned 0, impl, info, config.cin, config.sent, none⟩
    else
      match M64Config.requestPorts ports configuration.portRequests with
      | none => ⟨.returned 0, impl, info, config.cin, config.sent, none⟩
      | some requestedPorts => plugAndStart ports impl info md5 config requestedPorts env

/-! ### `PutButtons` and `GetButtons` -/

/-- `m64p_netplay_frame_update`. -/
structure FrameUpdate (ButtonsType : Type*) where
  port : Int
  frame : Int
  buttons : ButtonsType
deriving DecidableEq

/-- The loop of `PutButtons`; `none` is an invalid port number. -/
def buttonsFrameTuples (ports : PortEnum) :
    List (FrameUpdate ButtonsType) →
      Option (List (EventStreamHandler.ButtonsFrameTuple ButtonsType))
  | [] => some []
  | update :: updates =>
      let port := m64PortToPort ports update.port
      if port = ports.unknown then none
      else (buttonsFrameTuples ports updates).map (⟨port, update.frame, update.buttons⟩ :: ·)

/-- `PutButtons`, given whether a write to the stream succeeds. -/
def putButtons (ports : PortEnum) (coder : ButtonCoder ButtonsType)
    (impl : PluginImpl ButtonsType) (updates : List (FrameUpdate ButtonsType)) (writeOk : Bool) :
    Ending × PluginImpl ButtonsType × List Sent :=
  match buttonsFrameTuples ports updates with
  | none => (.returned 0, impl, [])
  | some tuples =>
      match impl.streamHandler with
      | none => (.nullDereference, impl, [])
      | some handler =>
          let put := handler.putButtons coder tuples writeOk
          (.returned (if put.status = .success then 1 else 0),
            { impl with streamHandler := some put.handler }, put.written.map Sent.event)

/-- `GetButtons`: how it ends, `*update->buttons`, and the reads not made. -/
def getButtons [Inhabited ButtonsType] (ports : PortEnum) (coder : ButtonCoder ButtonsType)
    (impl : PluginImpl ButtonsType) (update : FrameUpdate ButtonsType)
    (incoming : List (Option IncomingEventPB)) :
    Ending × PluginImpl ButtonsType × ButtonsType × List (Option IncomingEventPB) :=
  let port := m64PortToPort ports update.port
  if port = ports.unknown then
    (.returned 0, impl, update.buttons, incoming)
  else
    match impl.streamHandler with
    | none => (.nullDereference, impl, update.buttons, incoming)
    | some handler =>
        let get := handler.getButtons coder port update.frame update.buttons incoming
        (.returned (if get.status = .success then 1 else 0),
          { impl with streamHandler := some get.handler }, get.buttons, get.incoming)

end PluginImpl

end

end Plugin
end Netplay
