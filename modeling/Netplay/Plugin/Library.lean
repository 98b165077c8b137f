import Netplay.Client.Transmission
import Netplay.Plugin.Mupen64

/-!
# The library and its channels

The emulator may call what `mupen64.cc` exports in any order.  The static variables are
all that one call leaves to the next; the process goes on for as long as calls return.

Each `InitiateNetplay` with netplay enabled opens a channel to the server.  `Says` is the
conversation that the server is promised on it: at most one request of each kind, in
order, each after what it depends on, and key presses only in a game that has begun.
`every_channel_converses` is the agreement with the code, for every run of calls.
`keys_fatal_iff` says which calls of `PutKeys` and `GetKeys` a process does not survive.
-/

namespace Netplay
namespace Plugin
namespace Mupen64

open Client EventStreamHandler

variable {Handle ButtonsType : Type*}

/-! ### The static variables -/

/-- `m64p_error`, as far as the library returns it. -/
inductive M64pError
  | success
  | alreadyInit
deriving DecidableEq

/-- The static variables.  A null pointer is `none`. -/
structure Library (Handle ButtonsType : Type*) where
  pluginImpl : Option (PluginImpl ButtonsType)
  pluginStartupCalled : Bool
  coreLibHandle : Option Handle

/-- Their values when the library is loaded. -/
def Library.loaded : Library Handle ButtonsType := ⟨none, false, none⟩

/-- `PluginStartup`. -/
def pluginStartup (coreLibHandle : Option Handle) (library : Library Handle ButtonsType) :
    M64pError × Library Handle ButtonsType :=
  if library.pluginStartupCalled then
    (.alreadyInit, library)
  else
    (.success, { library with coreLibHandle := coreLibHandle, pluginStartupCalled := true })

/-- The exported functions.  `InitiateNetplay` comes with what `MakeConfigHandler` returns
for each handle, and the functions that use the stream with its outcome. -/
inductive Call (Handle ButtonsType : Type*)
  | pluginStartup (coreLibHandle : Option Handle)
  | pluginGetVersion
  | initiateNetplay (makeConfigHandler : Option Handle → Option ConfigHandler)
      (info : NetplayInfo) (goodname md5 : String) (env : Environment)
  | romOpen
  | romClosed
  | putKeys (updates : List (PluginImpl.FrameUpdate ButtonsType)) (writeOk : Bool)
  | getKeys (update : PluginImpl.FrameUpdate ButtonsType)
      (incoming : List (Option IncomingEventPB))
  | pluginShutdown

/-- A call of `InitiateNetplay` with the configuration it finds. -/
structure Opening where
  config : ConfigHandler
  info : NetplayInfo
  goodname : String
  md5 : String
  env : Environment

/-- A channel to the server: its address, the call that opened it, and what was sent. -/
structure Channel where
  serverAddr : String
  opening : Opening
  sent : List Sent

/-- A process that has loaded the library.  It runs until a call does not return.  The newest
channel comes first. -/
structure Process (Handle ButtonsType : Type*) where
  library : Library Handle ButtonsType
  running : Bool
  channels : List Channel

/-- The call returns. -/
def returns : Ending → Bool
  | .returned _ => true
  | _ => false

/-- What is sent between two calls of `InitiateNetplay` goes over the newest channel. -/
def send (sent : List Sent) : List Channel → List Channel
  | [] => []
  | channel :: older => { channel with sent := channel.sent ++ sent } :: older

namespace Process

variable [Inhabited ButtonsType]

/-- The process after a call. -/
def next (ports : PortEnum) (coder : ButtonCoder ButtonsType) (p : Process Handle ButtonsType)
    (call : Call Handle ButtonsType) : Process Handle ButtonsType :=
  match call with
  | .pluginStartup coreLibHandle =>
      { p with library := (pluginStartup coreLibHandle p.library).2 }
  | .initiateNetplay makeConfigHandler info goodname md5 env =>
      let configHandler := makeConfigHandler p.library.coreLibHandle
      let result := initiateNetplay ports p.library.pluginImpl configHandler info goodname md5 env
      { library := { p.library with pluginImpl := result.pluginImpl }
        running := returns result.ending
        channels :=
          match configHandler, result.serverAddr with
          | some config, some serverAddr =>
              ⟨serverAddr, ⟨config, info, goodname, md5, env⟩, result.sent⟩ :: p.channels
          | _, _ => p.channels }
  | .putKeys updates writeOk =>
      let put := putKeys ports coder p.library.pluginImpl updates writeOk
      { library := { p.library with pluginImpl := put.2.1 }
        running := returns put.1
        channels := send put.2.2 p.channels }
  | .getKeys update incoming =>
      let get := getKeys ports coder p.library.pluginImpl update incoming
      { p with
        library := { p.library with pluginImpl := get.2.1 }
        running := returns get.1 }
  -- these return without a look at the static variables
  | .pluginGetVersion => p
  | .romOpen => p
  | .romClosed => p
  | .pluginShutdown => p

/-- Any sequence of calls. -/
def system (ports : PortEnum) (coder : ButtonCoder ButtonsType) :
    TransitionSystem (Process Handle ButtonsType) (Call Handle ButtonsType) where
  init := fun p => p = ⟨.loaded, true, []⟩
  enabled := fun p _ => p.running = true
  next := next ports coder

end Process

/-! ### Conversations -/

/-- How far a conversation has got.  From `plugged` on it is about one console, and the game
on it is still to be requested or not. -/
inductive Phase
  | opened
  | made
  | plugged (consoleId : Int) (toRequest : Bool)
  | ready (consoleId : Int) (toRequest : Bool)
deriving DecidableEq

/-- Where the dialogue leaves a conversation. -/
def asked : UserAnswer → Phase
  | .create => .made
  | .enter _ => .opened

/-- The configuration of the plugin. -/
def Opening.configuration (opening : Opening) : M64Config :=
  M64Config.fromConfigHandler opening.config

/-- The event that a stream begins with. -/
def readyEvent (consoleId clientId : Int) : OutgoingEventPB :=
  { clientReady := some { consoleId := consoleId, clientId := clientId } }

/-- The server has announced this game for the console. -/
def Announces (env : Environment) (consoleId : Int) (startGame : StartGamePB) : Prop :=
  ∃ event, env.startGameEvent = some event ∧ event.hasStopConsole = false ∧
    event.startGame = some startGame ∧ startGame.consoleId = consoleId

/-- The key press is for this console and for a port that was granted and is in the game. -/
structure KeyFits (consoleId : Int) (granted : List Port) (startGame : StartGamePB)
    (key : KeyStatePB) : Prop where
  consoleId_eq : key.consoleId = consoleId
  granted : key.port ∈ granted
  connected : key.port ∈ startGame.connectedPorts.map ConnectedPortPB.port

/-- What may be said next on a channel, given the configuration, what the user answered and
what the server replied.  After the request for controllers the ids are those narrowed to
`int`. -/
inductive Says (ports : PortEnum) (opening : Opening) : Phase → Sent → Phase → Prop
  | makeConsole (hanswer : userAnswer opening.env.cin = some .create) :
      Says ports opening .opened (.makeConsole ⟨opening.goodname, opening.md5⟩) .made
  | plugController {answer : UserAnswer} {consoleId : Variable} {requestedPorts : List Port}
      {request : PlugControllerRequestPB}
      (hanswer : userAnswer opening.env.cin = some answer)
      (hchosen : chosenConsoleId opening.env answer = some consoleId)
      (hrequested : M64Config.requestPorts ports opening.configuration.portRequests =
        some requestedPorts)
      (hrequest : (NetplayClient.make opening.configuration.delayFrames).plugControllerRequest
        consoleId.value opening.md5 requestedPorts = some request) :
      Says ports opening (asked answer) (.plugController request)
        (.plugged consoleId.value (decide (answer = .create)))
  | clientReady {consoleId : Int} {toRequest : Bool} {response : PlugControllerResponsePB}
      (hplugged : opening.env.plugController = some response)
      (hid : response.consoleId = consoleId) :
      Says ports opening (.plugged consoleId toRequest)
        (.event (readyEvent (toInt consoleId) (toInt response.clientId)))
        (.ready consoleId toRequest)
  | startGame {consoleId : Int} (hready : opening.env.clientReadyOk = true) :
      Says ports opening (.ready consoleId true) (.startGame (startGameRequest consoleId))
        (.ready consoleId false)
  | keyPress {consoleId : Int} {response : PlugControllerResponsePB} {startGame : StartGamePB}
      {keys : List KeyStatePB} (hready : opening.env.clientReadyOk = true)
      (hplugged : opening.env.plugController = some response)
      (hannounced : Announces opening.env (toInt consoleId) startGame) (hkeys : keys ≠ [])
      (hfit : ∀ key ∈ keys, KeyFits (toInt consoleId) response.port startGame key) :
      Says ports opening (.ready consoleId false) (.event { keyPress := keys })
        (.ready consoleId false)

/-- The key presses in a message. -/
def keysOf : Sent → List KeyStatePB
  | .event event => event.keyPress
  | _ => []

/-- The ports and frames that key presses were sent for. -/
def slotsSent (sent : List Sent) : List (Port × Int) :=
  (sent.flatMap keysOf).map slotOfKey

/-- What was sent on the channel is a conversation, and no key press was sent twice. -/
structure Conversation (ports : PortEnum) (channel : Channel) : Prop where
  run : ∃ phase, LabelledRun (Says ports channel.opening) .opened channel.sent phase
  nodup : (slotsSent channel.sent).Nodup

/-- The call that opened the channel gets its controllers: no input controller is in
`RawData` mode, the answers of the user lead to a console, the configured ports are valid,
and the server replies for that console. -/
def Plugged (ports : PortEnum) (opening : Opening) : Prop :=
  opening.info.hasRawData = false ∧ ∃ answer consoleId requestedPorts,
    userAnswer opening.env.cin = some answer ∧
      chosenConsoleId opening.env answer = some consoleId ∧
      M64Config.requestPorts ports opening.configuration.portRequests = some requestedPorts ∧
      NetplayClient.PlugCall.Succeeds
        ⟨consoleId.value, opening.md5, requestedPorts, opening.env.plugController⟩

/-! ### What `InitiateNetplay` says -/

theorem interactiveConfig_sent (configHandler : ConfigHandler) (goodname md5 : String)
    (env : Environment) :
    (interactiveConfig configHandler goodname md5 env).sent =
      if (interactiveConfig configHandler goodname md5 env).createdConsole then
        [.makeConsole ⟨goodname, md5⟩]
      else [] := by
  unfold interactiveConfig
  cases readBool env.cin with
  | mk answer cin =>
  match answer with
  | none => rfl
  | some false => rfl
  | some true =>
      cases makeConsole env.makeConsole .unknown ⟨env.indeterminate, false⟩ with
      | mk made rest =>
      cases made with
      | true => rfl
      | false => rfl

/-- What a call leaves from `ClientReady` on: the handler has been told of the game at most
if the server knows that the client is ready, and the game is requested at most then. -/
structure SessionLeaves (ports : PortEnum) (config : InteractiveConfigResult) (sent : List Sent)
    (handler : EventStreamHandler ButtonsType) (env : Environment)
    (result : InitiateNetplayResult ButtonsType) : Prop where
  sent_eq : result.sent =
    sent ++ .event (readyEvent handler.consoleId handler.clientId) ::
      if config.createdConsole && env.clientReadyOk then
        [.startGame (startGameRequest config.consoleId.value)]
      else []
  streamHandler : result.impl.streamHandler = some (handler.clientReady env.clientReadyOk).2.2 ∨
    env.clientReadyOk = true ∧ result.impl.streamHandler =
      some ((handler.clientReady env.clientReadyOk).2.2.waitForConsoleStart ports
        env.startGameEvent).2

theorem startSession_leaves (ports : PortEnum) (impl : PluginImpl ButtonsType) (info : NetplayInfo)
    (config : InteractiveConfigResult) (requestedPorts : List Port) (sent : List Sent)
    (handler : EventStreamHandler ButtonsType) (env : Environment) :
    SessionLeaves ports config sent handler env
      (PluginImpl.startSession ports impl info config requestedPorts sent handler env) := by
  have hready : (handler.clientReady env.clientReadyOk).1 = env.clientReadyOk := rfl
  have hevent : (handler.clientReady env.clientReadyOk).2.1 =
    readyEvent handler.consoleId handler.clientId := rfl
  unfold PluginImpl.startSession
  simp only [hready, hevent]
  cases hok : env.clientReadyOk with
  | false =>
      rw [if_pos rfl]
      refine ⟨?_, Or.inl rfl⟩
      rw [hok, Bool.and_false]
      rfl
  | true =>
      rw [if_neg Bool.false_ne_true.symm]
      generalize hstart : (if config.createdConsole then
        interactiveStartConsole config.consoleId.value config.cin env
        else ((true, config.cin, []) : Bool × InputStream × List Sent)) = start
      have hsent : sent ++ [.event (readyEvent handler.consoleId handler.clientId)] ++ start.2.2 =
          sent ++ .event (readyEvent handler.consoleId handler.clientId) ::
            if config.createdConsole && env.clientReadyOk then
              [.startGame (startGameRequest config.consoleId.value)]
            else [] := by
        rw [← hstart, hok, List.append_assoc]
        cases config.createdConsole with
        | false => rfl
        | true => rfl
      cases start.1 with
      | false =>
          rw [if_pos rfl]
          exact ⟨hsent, Or.inl rfl⟩
      | true =>
          rw [if_neg Bool.false_ne_true.symm]
          cases hwait : (handler.clientReady true).2.2.waitForConsoleStart ports
              env.startGameEvent with
          | mk success started =>
          have hhandler : some started = some ((handler.clientReady
              env.clientReadyOk).2.2.waitForConsoleStart ports env.startGameEvent).2 := by
            rw [hok, hwait]
          cases success with
          | false =>
              rw [if_pos rfl]
              exact ⟨hsent, Or.inr ⟨hok, hhandler⟩⟩
          | true =>
              rw [if_neg Bool.false_ne_true.symm]
              simp only
              match permuteNetplayControllers ports started requestedPorts info with
              | none => exact ⟨hsent, Or.inr ⟨hok, hhandler⟩⟩
              | some (false, _) => exact ⟨hsent, Or.inr ⟨hok, hhandler⟩⟩
              | some (true, _) => exact ⟨hsent, Or.inr ⟨hok, hhandler⟩⟩

/-- What the dialogue has said, and where it leads if it succeeds. -/
inductive DialogueLeaves (ports : PortEnum) (opening : Opening) : InteractiveConfigResult → Prop
  | failed {config : InteractiveConfigResult} {phase : Phase} (hok : config.ok = false)
      (hrun : LabelledRun (Says ports opening) .opened config.sent phase)
      (hnone : ∀ answer consoleId, userAnswer opening.env.cin = some answer →
        chosenConsoleId opening.env answer ≠ some consoleId)
      (hkeys : slotsSent config.sent = []) :
      DialogueLeaves ports opening config
  | chosen {config : InteractiveConfigResult} {answer : UserAnswer} (hok : config.ok = true)
      (hrun : LabelledRun (Says ports opening) .opened config.sent (asked answer))
      (hanswer : userAnswer opening.env.cin = some answer)
      (hchosen : chosenConsoleId opening.env answer = some config.consoleId)
      (hcreated : config.createdConsole = decide (answer = .create))
      (hkeys : slotsSent config.sent = []) :
      DialogueLeaves ports opening config

theorem interactiveConfig_leaves (ports : PortEnum) (opening : Opening) :
    DialogueLeaves ports opening
      (interactiveConfig opening.config opening.goodname opening.md5 opening.env) := by
  have hsent := interactiveConfig_sent opening.config opening.goodname opening.md5 opening.env
  have hstep := interactiveConfig_step opening.config opening.goodname opening.md5 opening.env
  generalize interactiveConfig opening.config opening.goodname opening.md5 opening.env = config
    at hsent hstep
  have hkeys : slotsSent config.sent = [] := by
    rw [hsent]
    split_ifs
    · rfl
    · rfl
  have hmake (hanswer : userAnswer opening.env.cin = some .create) :
      LabelledRun (Says ports opening) .opened
        [.makeConsole ⟨opening.goodname, opening.md5⟩] .made := .single (.makeConsole hanswer)
  cases hstep with
  | unanswered hanswer =>
      refine .failed rfl (.nil Phase.opened) ?_ hkeys
      intro answer consoleId hsome
      cases hanswer.symm.trans hsome
  | @notMade _ _ sent hanswer hchosen _ =>
      have hmade : sent = [.makeConsole ⟨opening.goodname, opening.md5⟩] := hsent
      subst hmade
      refine .failed rfl (hmake hanswer) ?_ hkeys
      intro answer consoleId hsome
      cases hanswer.symm.trans hsome
      rw [hchosen]
      exact Option.some_ne_none consoleId |>.symm
  | @chosen answer _ _ sent hanswer hchosen _ =>
      refine .chosen rfl ?_ hanswer hchosen rfl hkeys
      cases answer with
      | create =>
          have hmade : sent = [.makeConsole ⟨opening.goodname, opening.md5⟩] := hsent
          subst hmade
          exact hmake hanswer
      | enter consoleId =>
          have hnone : sent = [] := hsent
          subst hnone
          exact .nil _

/-! ### How the handler stands to the conversation -/

/-- Without queues it has nothing to say; otherwise it plays the game that was announced, and
has seen what was sent. -/
inductive Stands (opening : Opening) (sent : List Sent) :
    Phase → Option (EventStreamHandler ButtonsType) → Prop
  | absent (phase : Phase) : Stands opening sent phase none
  | idle (phase : Phase) {handler : EventStreamHandler ButtonsType}
      (hqueues : handler.inputQueues = ∅) : Stands opening sent phase (some handler)
  | playing {consoleId : Int} {response : PlugControllerResponsePB} {startGame : StartGamePB}
      {handler : EventStreamHandler ButtonsType} (hready : opening.env.clientReadyOk = true)
      (hplugged : opening.env.plugController = some response)
      (hannounced : Announces opening.env (toInt consoleId) startGame)
      (hid : handler.consoleId = toInt consoleId)
      (hgranted : ∀ port ∈ handler.localPorts, port ∈ response.port)
      (hplaying : Playing startGame.connectedPorts handler)
      (hfilled : ∀ slot ∈ slotsSent sent, QueueMap.SeenAt handler.inputQueues slot) :
      Stands opening sent (.ready consoleId false) (some handler)

/-- What a call of `InitiateNetplay` leaves behind on its channel. -/
structure Opens (ports : PortEnum) (opening : Opening)
    (result : InitiateNetplayResult ButtonsType) : Prop where
  stands : ∃ phase, LabelledRun (Says ports opening) .opened result.sent phase ∧
    Stands opening result.sent phase result.impl.streamHandler
  slots : slotsSent result.sent = []
  handler_iff : returns result.ending = true →
    (result.impl.streamHandler.isSome = true ↔ Plugged ports opening)

/-- A console that starts plays the game that was announced. -/
theorem Announces.of_wait {ports : PortEnum} {env : Environment}
    {waiting : EventStreamHandler ButtonsType} (hunstarted : Unstarted ports waiting)
    (hwait : (waiting.waitForConsoleStart ports env.startGameEvent).1 = true) :
    ∃ startGame, Announces env waiting.consoleId startGame ∧
      Playing startGame.connectedPorts
        (waiting.waitForConsoleStart ports env.startGameEvent).2 := by
  obtain ⟨event, startGame, hread, hstop, hstart, hwell⟩ :=
    (waitForConsoleStart_eq_true_iff hunstarted.consoleId_pos _).mp hwait
  refine ⟨startGame, ⟨event, hread, hstop, hstart, hwell.consoleId_eq⟩, ?_⟩
  have hstarted : StartedBy ports startGame.connectedPorts
      (waiting.waitForConsoleStart ports env.startGameEvent).2 := by
    refine ⟨waiting, event, startGame, hunstarted, hstart, rfl, ?_⟩
    rw [← hread]
    exact Prod.ext hwait rfl
  exact hstarted.started.playing

/-- What is said from `ClientReady` on. -/
theorem says_ready {ports : PortEnum} {opening : Opening} {response : PlugControllerResponsePB}
    {consoleId : Int} (hplugged : opening.env.plugController = some response)
    (hid : response.consoleId = consoleId) (created : Bool) :
    LabelledRun (Says ports opening) (.plugged consoleId created)
      (.event (readyEvent (toInt consoleId) (toInt response.clientId)) ::
        if created && opening.env.clientReadyOk then [.startGame (startGameRequest consoleId)]
        else [])
      (.ready consoleId (created && !opening.env.clientReadyOk)) := by
  refine .cons (.clientReady hplugged hid) ?_
  cases created with
  | false => exact .nil _
  | true =>
      cases hready : opening.env.clientReadyOk with
      | false => exact .nil _
      | true => exact .single (.startGame hready)

theorem slotsSent_append (sent sent' : List Sent) :
    slotsSent (sent ++ sent') = slotsSent sent ++ slotsSent sent' := by
  rw [slotsSent, List.flatMap_append, List.map_append]
  rfl

/-- The session is opened once the handler is made. -/
theorem SessionLeaves.opens {ports : PortEnum} {opening : Opening}
    {response : PlugControllerResponsePB} {config : InteractiveConfigResult} {sent : List Sent}
    {timings : List TimingEvent} {result : InitiateNetplayResult ButtonsType}
    (hrun : LabelledRun (Says ports opening) .opened sent
      (.plugged config.consoleId.value config.createdConsole))
    (hslots : slotsSent sent = []) (hplugged : Plugged ports opening)
    (hresponse : opening.env.plugController = some response)
    (hid : response.consoleId = config.consoleId.value)
    (hconstructible : NetplayClient.Constructible ports (toInt config.consoleId.value)
      (toInt response.clientId) response.port)
    (h : SessionLeaves ports config sent (NetplayClient.freshHandler
      (toInt config.consoleId.value) (toInt response.clientId) response.port timings)
        opening.env result) :
    Opens ports opening result := by
  have hunstarted : Unstarted ports ((NetplayClient.freshHandler (toInt config.consoleId.value)
      (toInt response.clientId) response.port timings : EventStreamHandler ButtonsType).clientReady
        opening.env.clientReadyOk).2.2 :=
    .clientReady (.construct (NetplayClient.construct_eq_some_iff.mpr ⟨hconstructible, rfl⟩)) _
  have hslots' : slotsSent result.sent = [] := by
    rw [h.sent_eq, slotsSent_append, hslots]
    split_ifs
    · rfl
    · rfl
  have hstands : Stands opening result.sent
      (.ready config.consoleId.value (config.createdConsole && !opening.env.clientReadyOk))
      result.impl.streamHandler := by
    rcases h.streamHandler with hhandler | ⟨hready, hhandler⟩
    · rw [hhandler]
      exact .idle _ hunstarted.inputQueues_eq
    have hsame := waitForConsoleStart_sameClient hunstarted.consoleId_pos ports
      opening.env.startGameEvent
    rw [hhandler]
    cases hwait : ((NetplayClient.freshHandler (toInt config.consoleId.value)
      (toInt response.clientId) response.port timings : EventStreamHandler ButtonsType).clientReady
        opening.env.clientReadyOk).2.2.waitForConsoleStart ports opening.env.startGameEvent with
    | mk success started =>
    cases success with
    | false =>
        have hidle : Unstarted ports started := .notStarted hunstarted hwait
        exact .idle _ hidle.inputQueues_eq
    | true =>
        obtain ⟨startGame, hannounced, hplaying⟩ :=
          Announces.of_wait hunstarted (congrArg Prod.fst hwait)
        rw [hwait] at hplaying hsame
        rw [hready, Bool.not_true, Bool.and_false]
        refine .playing hready hresponse hannounced hsame.consoleId ?_ hplaying ?_
        · intro port hport
          rw [hsame.localPorts] at hport
          have hgranted : port ∈ Std.ExtTreeSet.ofList response.port := hport
          simpa using hgranted
        · rw [hslots']
          exact fun slot hslot => absurd hslot List.not_mem_nil
  refine ⟨⟨_, ?_, hstands⟩, hslots', fun _ => ⟨fun _ => hplugged, fun _ => ?_⟩⟩
  · rw [h.sent_eq]
    exact hrun.append (says_ready hresponse hid _)
  · rcases h.streamHandler with hhandler | ⟨-, hhandler⟩
    · rw [hhandler]
      rfl
    · rw [hhandler]
      rfl

/-- Once the dialogue has led to a console, all depends on `PlugControllers`. -/
theorem plugged_iff {ports : PortEnum} {opening : Opening} {answer : UserAnswer}
    {consoleId : Variable} {requestedPorts : List Port}
    (hraw : opening.info.hasRawData = false) (hanswer : userAnswer opening.env.cin = some answer)
    (hchosen : chosenConsoleId opening.env answer = some consoleId)
    (hrequested : M64Config.requestPorts ports opening.configuration.portRequests =
      some requestedPorts) :
    Plugged ports opening ↔ NetplayClient.PlugCall.Succeeds
      ⟨consoleId.value, opening.md5, requestedPorts, opening.env.plugController⟩ := by
  constructor
  · rintro ⟨-, answer', consoleId', requestedPorts', hanswer', hchosen', hrequested', hsucceeds⟩
    cases hanswer.symm.trans hanswer'
    cases hchosen.symm.trans hchosen'
    cases hrequested.symm.trans hrequested'
    exact hsucceeds
  · intro hsucceeds
    exact ⟨hraw, answer, consoleId, requestedPorts, hanswer, hchosen, hrequested, hsucceeds⟩

theorem plugAndStart_opens {ports : PortEnum} {opening : Opening} {info : NetplayInfo}
    {config : InteractiveConfigResult} {answer : UserAnswer} {requestedPorts : List Port}
    (hrun : LabelledRun (Says ports opening) .opened config.sent (asked answer))
    (hslots : slotsSent config.sent = []) (hraw : opening.info.hasRawData = false)
    (hanswer : userAnswer opening.env.cin = some answer)
    (hchosen : chosenConsoleId opening.env answer = some config.consoleId)
    (hcreated : config.createdConsole = decide (answer = .create))
    (hrequested : M64Config.requestPorts ports opening.configuration.portRequests =
      some requestedPorts) :
    Opens ports opening (PluginImpl.plugAndStart ports
      (newPluginImpl opening.config : PluginImpl ButtonsType) info opening.md5 config
        requestedPorts opening.env) := by
  have hplugged := plugged_iff hraw hanswer hchosen hrequested
  have hspec := NetplayClient.plugControllers_spec ⟨config.consoleId.value, opening.md5,
    requestedPorts, opening.env.plugController⟩ (.make opening.configuration.delayFrames)
  have hrequest := NetplayClient.plugControllers_request
    (.make opening.configuration.delayFrames) config.consoleId.value opening.md5 requestedPorts
      opening.env.plugController
  unfold NetplayClient.PlugCall.run at hspec
  simp only at hspec
  have hclient : (newPluginImpl opening.config : PluginImpl ButtonsType).client =
    .make opening.configuration.delayFrames := rfl
  unfold PluginImpl.plugAndStart
  simp only [hclient]
  generalize (NetplayClient.make opening.configuration.delayFrames).plugControllers
    config.consoleId.value opening.md5 requestedPorts opening.env.plugController = plug
      at hspec hrequest
  have hask {request : PlugControllerRequestPB} (hsome : plug.request = some request) :
      LabelledRun (Says ports opening) .opened
        (config.sent ++ (some request).toList.map Sent.plugController)
        (.plugged config.consoleId.value config.createdConsole) := by
    rw [hcreated]
    exact hrun.append (.single (.plugController hanswer hchosen hrequested
      (hrequest.symm.trans hsome)))
  have hnew (request : Option PlugControllerRequestPB) :
      slotsSent (config.sent ++ request.toList.map Sent.plugController) = [] := by
    rw [slotsSent_append, hslots]
    cases request with
    | none => rfl
    | some request => rfl
  cases hspec with
  | @failed request client' hfails _ =>
      rw [if_pos rfl]
      refine ⟨?_, hnew request, fun _ => ⟨nofun, fun h => absurd (hplugged.mp h) hfails⟩⟩
      cases request with
      | none => exact ⟨asked answer, by simpa using hrun, .absent _⟩
      | some request => exact ⟨_, hask rfl, .absent _⟩
  | @plugged response request client' hsucceeds hresponse hgrant =>
      rw [if_neg Bool.false_ne_true.symm]
      have hplug := hplugged.mpr hsucceeds
      obtain ⟨-, -, _, hsome, hid⟩ := hsucceeds
      cases hresponse.symm.trans hsome
      cases hmade : (client'.makeEventStreamHandler ports : Option (EventStreamHandler ButtonsType))
        with
      | none => exact ⟨⟨_, hask rfl, .absent _⟩, hnew _, nofun⟩
      | some handler =>
          obtain ⟨hconstructible, rfl⟩ :=
            (NetplayClient.makeEventStreamHandler_eq_some_iff hgrant).mp hmade
          exact (startSession_leaves ..).opens (hask rfl) (hnew _) hplug
            hresponse hid hconstructible

/-- Every channel begins with what its call of `InitiateNetplay` says. -/
theorem initiateNetplay_opens (ports : PortEnum) (opening : Opening)
    (henabled : opening.configuration.enabled = true) :
    Opens ports opening ((newPluginImpl opening.config : PluginImpl ButtonsType).initiateNetplay
      ports opening.info opening.goodname opening.md5 opening.env) := by
  have hconfiguration : M64Config.fromConfigHandler
    (newPluginImpl opening.config : PluginImpl ButtonsType).configHandler =
      opening.configuration := rfl
  have hraw : (opening.info.clear.setEnabled true).hasRawData = opening.info.hasRawData := rfl
  unfold PluginImpl.initiateNetplay
  simp only [hconfiguration, henabled, Bool.true_eq_false, if_false, hraw]
  cases hrawData : opening.info.hasRawData with
  | true =>
      simp only [if_true]
      refine ⟨⟨.opened, .nil _, .absent _⟩, rfl, fun _ => ⟨nofun, ?_⟩⟩
      rintro ⟨hnone, -⟩
      cases hrawData.symm.trans hnone
  | false =>
      simp only [Bool.false_eq_true, if_false]
      have hdialogue := interactiveConfig_leaves ports opening
      have hhandler : (newPluginImpl opening.config : PluginImpl ButtonsType).configHandler =
        opening.config := rfl
      simp only [hhandler]
      generalize interactiveConfig opening.config opening.goodname opening.md5 opening.env = config
        at hdialogue
      cases hdialogue with
      | failed hok hrun hnone hslots =>
          rw [if_pos hok]
          refine ⟨⟨_, hrun, .absent _⟩, hslots, fun _ => ⟨nofun, ?_⟩⟩
          rintro ⟨-, answer, consoleId, -, hanswer, hchosen, -⟩
          exact absurd hchosen (hnone answer consoleId hanswer)
      | chosen hok hrun hanswer hchosen hcreated hslots =>
          rw [hok, if_neg Bool.false_ne_true.symm]
          cases hrequested : M64Config.requestPorts ports opening.configuration.portRequests with
          | none =>
              refine ⟨⟨_, hrun, .absent _⟩, hslots, fun _ => ⟨nofun, ?_⟩⟩
              rintro ⟨-, _, _, requestedPorts, -, -, hsome, -⟩
              cases hrequested.symm.trans hsome
          | some requestedPorts =>
              exact plugAndStart_opens hrun hslots hrawData hanswer hchosen hcreated hrequested

/-! ### What `PutKeys` says -/

/-- No call makes queues. -/
theorem evolves_empty {handler handler' : EventStreamHandler ButtonsType}
    (hevolves : Evolves handler handler') (hqueues : handler.inputQueues = ∅) :
    handler'.inputQueues = ∅ := by
  apply Std.ExtTreeMap.ext_getElem?
  intro port
  have hnone : handler.inputQueues[port]? = none := by simp [hqueues]
  rw [(hevolves.queues.none_iff port).mpr hnone]
  simp

theorem evolves_valid_empty {handler : EventStreamHandler ButtonsType}
    (hqueues : handler.inputQueues = ∅) : QueueMap.Valid handler.inputQueues := by
  intro port queue hqueue
  simp [hqueues] at hqueue

/-- A call writes one event with all its key presses, or nothing.  They are for local ports
that have a queue. -/
theorem putButtons_written {coder : ButtonCoder ButtonsType} (hheader : coder.KeepsHeader)
    (tuples : List (ButtonsFrameTuple ButtonsType)) (writeOk : Bool)
    (handler : EventStreamHandler ButtonsType) :
    ∃ keys, (handler.putButtons coder tuples writeOk).written = keyPressEvents keys ∧
      ∀ key ∈ keys, key.consoleId = handler.consoleId ∧ key.port ∈ handler.localPorts ∧
        handler.inputQueues[key.port]?.isSome = true := by
  have hspec := putButtons_spec coder tuples writeOk handler
  by_cases hended : (handler.putButtons coder tuples writeOk).status = .success ∨
      (handler.putButtons coder tuples writeOk).status = .failedToTransmitRemote
  · obtain ⟨htaken, keys, hkeys, hencodes⟩ := hspec.written hended
    refine ⟨keys, hkeys, fun key hkey => ?_⟩
    obtain ⟨tuple, htuple, hencode⟩ := forall₂_mem_right hencodes hkey
    have htransmits := hencode.transmits hheader
    obtain ⟨hmem, hlocal⟩ := List.mem_filter.mp htuple
    rw [← htaken] at hmem
    obtain ⟨queue, hqueue, -⟩ := hspec.inTurn.accepts tuple hmem
    rw [htransmits.port, hqueue]
    exact ⟨htransmits.consoleId, by simpa using hlocal, rfl⟩
  -- a call that stops earlier does not get to `Write`
  · rw [not_or] at hended
    exact ⟨[], (hspec.not_written hended.1 hended.2).1,
      fun key hkey => absurd hkey List.not_mem_nil⟩

theorem slotsSent_events (events : List OutgoingEventPB) :
    slotsSent (events.map Sent.event) =
      (events.flatMap OutgoingEventPB.keyPress).map slotOfKey := by
  rw [slotsSent, List.flatMap_map]
  rfl

section Keys

variable [Inhabited ButtonsType]

/-- What a call of `PutButtons` adds to the conversation. -/
theorem Stands.putButtons (ports : PortEnum) {coder : ButtonCoder ButtonsType}
    (hheader : coder.KeepsHeader) {opening : Opening} {sent : List Sent} {phase : Phase}
    {handler : EventStreamHandler ButtonsType} (h : Stands opening sent phase (some handler))
    (tuples : List (ButtonsFrameTuple ButtonsType)) (writeOk : Bool) :
    LabelledRun (Says ports opening) phase
        ((handler.putButtons coder tuples writeOk).written.map Sent.event) phase ∧
      Stands opening (sent ++ (handler.putButtons coder tuples writeOk).written.map Sent.event)
        phase (some (handler.putButtons coder tuples writeOk).handler) ∧
      ((slotsSent sent).Nodup → (slotsSent (sent ++
        (handler.putButtons coder tuples writeOk).written.map Sent.event)).Nodup) := by
  have hevolves := putButtons_evolves coder tuples writeOk handler
  obtain ⟨keys, hwritten, hfor⟩ := putButtons_written hheader tuples writeOk handler
  cases h with
  | idle _ hqueues =>
      have hnone : keys = [] := by
        refine List.eq_nil_iff_forall_not_mem.mpr fun key hkey => ?_
        obtain ⟨-, -, hqueue⟩ := hfor key hkey
        simp [hqueues] at hqueue
      have hsilent : (handler.putButtons coder tuples writeOk).written = [] := by
        rw [hwritten, hnone]
        rfl
      rw [hsilent, List.map_nil, List.append_nil]
      exact ⟨.nil phase, .idle phase (evolves_empty hevolves hqueues), id⟩
  | @playing consoleId response startGame _ hready hplugged hannounced hid hgranted hplaying
      hfilled =>
      obtain ⟨hnodup, hnew, hseen⟩ := runCall_slots hheader (.putButtons tuples writeOk) [] handler
      have hslots : slotsSent (sent ++
          (handler.putButtons coder tuples writeOk).written.map Sent.event) =
          slotsSent sent ++ ((handler.putButtons coder tuples writeOk).written.flatMap
            OutgoingEventPB.keyPress).map slotOfKey := by
        rw [slotsSent_append, slotsSent_events]
      refine ⟨?_, .playing hready hplugged hannounced (hevolves.consoleId.trans hid) ?_
        (hplaying.evolves hevolves) ?_, ?_⟩
      · rw [hwritten, keyPressEvents]
        by_cases hempty : keys.isEmpty = true
        · rw [if_pos hempty]
          exact .nil _
        · rw [if_neg hempty]
          refine .single (.keyPress hready hplugged hannounced (by simpa using hempty) ?_)
          intro key hkey
          obtain ⟨hconsole, hlocal, -⟩ := hfor key hkey
          exact ⟨hconsole.trans hid, hgranted _ hlocal, hplaying.local_connected _ hlocal⟩
      · rw [hevolves.localPorts]
        exact hgranted
      · rw [hslots]
        intro slot hslot
        rcases List.mem_append.mp hslot with hold | hput
        · exact hevolves.queues.seenAt (hfilled slot hold)
        · obtain ⟨key, hkey, rfl⟩ := List.mem_map.mp hput
          exact hseen key hkey
      · intro hold
        rw [hslots]
        refine List.nodup_append.mpr ⟨hold, hnodup, ?_⟩
        -- what was sent before is in the queues, what is sent now was not
        rintro slot hslot slot' hslot' rfl
        obtain ⟨key, hkey, rfl⟩ := List.mem_map.mp hslot'
        exact hnew key hkey (hfilled _ hslot)

theorem Stands.getButtons {opening : Opening} {sent : List Sent} {phase : Phase}
    {handler : EventStreamHandler ButtonsType} (h : Stands opening sent phase (some handler))
    (coder : ButtonCoder ButtonsType) (port : Port) (frame : Int) (buttons : ButtonsType)
    (incoming : List (Option IncomingEventPB)) :
    Stands opening sent phase
      (some (handler.getButtons coder port frame buttons incoming).handler) := by
  cases h with
  | idle _ hqueues =>
      have hevolves := getButtons_evolves coder port frame buttons incoming
        (evolves_valid_empty hqueues)
      exact .idle phase (evolves_empty hevolves hqueues)
  | playing hready hplugged hannounced hid hgranted hplaying hfilled =>
      have hevolves := getButtons_evolves coder port frame buttons incoming hplaying.valid
      refine .playing hready hplugged hannounced (hevolves.consoleId.trans hid) ?_
        (hplaying.evolves hevolves) fun slot hslot => hevolves.queues.seenAt (hfilled slot hslot)
      rw [hevolves.localPorts]
      exact hgranted

end Keys

/-! ### Every run of calls -/

/-- The `PluginImpl` speaks on this channel.  While the process runs, it has a handler exactly
if the call that opened the channel got its controllers. -/
structure Attached (ports : PortEnum) (running : Bool) (channel : Channel)
    (impl : PluginImpl ButtonsType) : Prop where
  stands : ∃ phase, LabelledRun (Says ports channel.opening) .opened channel.sent phase ∧
    Stands channel.opening channel.sent phase impl.streamHandler
  handler_iff : running = true →
    (impl.streamHandler.isSome = true ↔ Plugged ports channel.opening)

/-- What a call of `PutButtons` leaves on the channel. -/
theorem Attached.putButtons [Inhabited ButtonsType] {ports : PortEnum}
    {coder : ButtonCoder ButtonsType} (hheader : coder.KeepsHeader) {channel : Channel}
    {impl : PluginImpl ButtonsType} (h : Attached ports true channel impl)
    (hconversation : Conversation ports channel)
    (updates : List (PluginImpl.FrameUpdate ButtonsType)) (writeOk : Bool) :
    Attached ports (returns (impl.putButtons ports coder updates writeOk).1)
        { channel with
          sent := channel.sent ++ (impl.putButtons ports coder updates writeOk).2.2 }
        (impl.putButtons ports coder updates writeOk).2.1 ∧
      Conversation ports
        { channel with
          sent := channel.sent ++ (impl.putButtons ports coder updates writeOk).2.2 } := by
  obtain ⟨phase, hrun, hstands⟩ := h.stands
  have hiff := h.handler_iff rfl
  unfold PluginImpl.putButtons
  cases PluginImpl.buttonsFrameTuples ports updates with
  | none =>
      simp only [List.append_nil]
      exact ⟨⟨⟨phase, hrun, hstands⟩, fun _ => hiff⟩, hconversation⟩
  | some tuples =>
      cases hhandler : impl.streamHandler with
      | none =>
          simp only [List.append_nil]
          exact ⟨⟨⟨phase, hrun, hstands⟩, fun _ => hiff⟩, hconversation⟩
      | some handler =>
          rw [hhandler] at hstands hiff
          obtain ⟨hsaid, hstands', hnodup⟩ := hstands.putButtons ports hheader tuples writeOk
          exact ⟨⟨⟨phase, hrun.append hsaid, hstands'⟩, fun _ => hiff⟩,
            ⟨⟨phase, hrun.append hsaid⟩, hnodup hconversation.nodup⟩⟩

theorem buttonsFrameTuples_isSome_iff (ports : PortEnum)
    (updates : List (PluginImpl.FrameUpdate ButtonsType)) :
    (PluginImpl.buttonsFrameTuples ports updates).isSome = true ↔
      ∀ update ∈ updates, m64PortToPort ports update.port ≠ ports.unknown := by
  induction updates with
  | nil => simp [PluginImpl.buttonsFrameTuples]
  | cons update updates ih =>
      rw [PluginImpl.buttonsFrameTuples, List.forall_mem_cons, ← ih]
      by_cases hport : m64PortToPort ports update.port = ports.unknown
      · simp [hport]
      · simp [hport]

/-- Invalid port numbers are found before the handler is looked at. -/
theorem returns_putButtons_iff (ports : PortEnum) (coder : ButtonCoder ButtonsType)
    (impl : PluginImpl ButtonsType) (updates : List (PluginImpl.FrameUpdate ButtonsType))
    (writeOk : Bool) :
    returns (impl.putButtons ports coder updates writeOk).1 = false ↔
      impl.streamHandler.isSome = false ∧
        ∀ update ∈ updates, m64PortToPort ports update.port ≠ ports.unknown := by
  rw [← buttonsFrameTuples_isSome_iff]
  unfold PluginImpl.putButtons
  cases PluginImpl.buttonsFrameTuples ports updates with
  | none => simp [returns]
  | some tuples =>
      cases impl.streamHandler with
      | none => simp [returns]
      | some handler => simp [returns]

theorem returns_getButtons_iff [Inhabited ButtonsType] (ports : PortEnum)
    (coder : ButtonCoder ButtonsType) (impl : PluginImpl ButtonsType)
    (update : PluginImpl.FrameUpdate ButtonsType) (incoming : List (Option IncomingEventPB)) :
    returns (impl.getButtons ports coder update incoming).1 = false ↔
      impl.streamHandler.isSome = false ∧
        m64PortToPort ports update.port ≠ ports.unknown := by
  unfold PluginImpl.getButtons
  by_cases hport : m64PortToPort ports update.port = ports.unknown
  · simp [hport, returns]
  · cases impl.streamHandler with
    | none => simp [hport, returns]
    | some handler => simp [hport, returns]

namespace Process

structure Inv (ports : PortEnum) (p : Process Handle ButtonsType) : Prop where
  conversations : ∀ channel ∈ p.channels, Conversation ports channel
  newest : (p.channels = [] ∧ p.library.pluginImpl = none) ∨
    ∃ channel older impl, p.channels = channel :: older ∧ p.library.pluginImpl = some impl ∧
      Attached ports p.running channel impl

variable [Inhabited ButtonsType] {ports : PortEnum} {coder : ButtonCoder ButtonsType}
  {p : Process Handle ButtonsType}

omit [Inhabited ButtonsType] in
/-- What is neither a `PluginImpl` nor a channel plays no part. -/
theorem Inv.of_eq {p' : Process Handle ButtonsType} (h : Inv ports p)
    (hchannels : p'.channels = p.channels)
    (himpl : p'.library.pluginImpl = p.library.pluginImpl)
    (hrunning : p'.running = true → p.running = true) : Inv ports p' := by
  refine ⟨by rw [hchannels]; exact h.conversations, ?_⟩
  rw [hchannels, himpl]
  rcases h.newest with hnone | ⟨channel, older, impl, hcons, hsome, hattached⟩
  · exact Or.inl hnone
  · exact Or.inr ⟨channel, older, impl, hcons, hsome, hattached.stands, fun hruns =>
      hattached.handler_iff (hrunning hruns)⟩

theorem Inv.initiateNetplay (coder : ButtonCoder ButtonsType) (h : Inv ports p)
    (hrunning : p.running = true) (makeConfigHandler : Option Handle → Option ConfigHandler)
    (info : NetplayInfo) (goodname md5 : String) (env : Environment) :
    Inv ports (next ports coder p (.initiateNetplay makeConfigHandler info goodname md5 env)) := by
  cases hconfig : makeConfigHandler p.library.coreLibHandle with
  | none =>
      refine h.of_eq ?_ ?_ fun _ => hrunning
      · simp only [next, hconfig]
      · simp only [next, hconfig, Mupen64.initiateNetplay]
  | some config =>
      cases henabled : (M64Config.fromConfigHandler config).enabled with
      | false =>
          have hdisabled := initiateNetplay_disabled henabled ports p.library.pluginImpl info
            goodname md5 env
          refine h.of_eq ?_ ?_ fun _ => hrunning
          · simp only [next, hconfig, hdisabled]
          · simp only [next, hconfig, hdisabled]
      | true =>
          have hopens : Opens ports ⟨config, info, goodname, md5, env⟩
              ((newPluginImpl config : PluginImpl ButtonsType).initiateNetplay ports info goodname
                md5 env) := initiateNetplay_opens ports ⟨config, info, goodname, md5, env⟩ henabled
          simp only [next, hconfig, Mupen64.initiateNetplay, henabled, Bool.true_eq_false, if_false]
          obtain ⟨phase, hrun, hstands⟩ := hopens.stands
          refine ⟨?_, Or.inr ⟨_, _, _, rfl, rfl, ⟨phase, hrun, hstands⟩, hopens.handler_iff⟩⟩
          refine List.forall_mem_cons.mpr ⟨⟨⟨phase, hrun⟩, ?_⟩, h.conversations⟩
          rw [hopens.slots]
          exact List.nodup_nil

theorem Inv.putKeys (hheader : coder.KeepsHeader) (h : Inv ports p) (hrunning : p.running = true)
    (updates : List (PluginImpl.FrameUpdate ButtonsType)) (writeOk : Bool) :
    Inv ports (next ports coder p (.putKeys updates writeOk)) := by
  rcases h.newest with ⟨hnil, hnone⟩ | ⟨channel, older, impl, hcons, hsome, hattached⟩
  · refine h.of_eq ?_ ?_ fun _ => hrunning
    · simp only [next, hnil, hnone, Mupen64.putKeys, send]
    · simp only [next, hnone, Mupen64.putKeys]
  · rw [hrunning] at hattached
    have hall := h.conversations
    rw [hcons] at hall
    obtain ⟨hconversation, holder⟩ := List.forall_mem_cons.mp hall
    obtain ⟨hattached', hconversation'⟩ :=
      hattached.putButtons hheader hconversation updates writeOk
    simp only [next, hcons, hsome, Mupen64.putKeys, send]
    exact ⟨List.forall_mem_cons.mpr ⟨hconversation', holder⟩,
      Or.inr ⟨_, _, _, rfl, rfl, hattached'⟩⟩

theorem Inv.getKeys (h : Inv ports p) (hrunning : p.running = true)
    (update : PluginImpl.FrameUpdate ButtonsType) (incoming : List (Option IncomingEventPB)) :
    Inv ports (next ports coder p (.getKeys update incoming)) := by
  rcases h.newest with ⟨hnil, hnone⟩ | ⟨channel, older, impl, hcons, hsome, hattached⟩
  · refine h.of_eq rfl ?_ fun _ => hrunning
    simp only [next, hnone, Mupen64.getKeys]
  · rw [hrunning] at hattached
    simp only [next, hsome, Mupen64.getKeys]
    refine ⟨h.conversations, Or.inr ⟨channel, older, _, hcons, rfl, ?_⟩⟩
    obtain ⟨phase, hrun, hstands⟩ := hattached.stands
    have hiff := hattached.handler_iff rfl
    unfold PluginImpl.getButtons
    by_cases hport : m64PortToPort ports update.port = ports.unknown
    · simp only [if_pos hport]
      exact ⟨⟨phase, hrun, hstands⟩, fun _ => hiff⟩
    · simp only [if_neg hport]
      cases hhandler : impl.streamHandler with
      | none =>
          exact ⟨⟨phase, hrun, hstands⟩, fun _ => hiff⟩
      | some handler =>
          rw [hhandler] at hstands hiff
          exact ⟨⟨phase, hrun, hstands.getButtons coder _ _ _ _⟩, fun _ => hiff⟩

theorem reachable_inv (hheader : coder.KeepsHeader)
    (hreach : (system ports coder).Reachable p) : Inv ports p := by
  refine hreach.invariant ?_ ?_
  · rintro p rfl
    exact ⟨fun channel hmem => absurd hmem List.not_mem_nil, Or.inl ⟨rfl, rfl⟩⟩
  intro p call h hrunning
  cases call with
  | pluginStartup coreLibHandle =>
      refine h.of_eq rfl ?_ id
      show (pluginStartup coreLibHandle p.library).2.pluginImpl = p.library.pluginImpl
      unfold pluginStartup
      split_ifs
      · rfl
      · rfl
  | initiateNetplay makeConfigHandler info goodname md5 env =>
      exact h.initiateNetplay coder hrunning makeConfigHandler info goodname md5 env
  | putKeys updates writeOk => exact h.putKeys hheader hrunning updates writeOk
  | getKeys update incoming => exact h.getKeys hrunning update incoming
  | pluginGetVersion => exact h
  | romOpen => exact h
  | romClosed => exact h
  | pluginShutdown => exact h

/-- **Every channel carries a conversation.**  In whatever order the emulator calls the
library, whatever the user types and the server replies: each channel carries the requests of
one session, each at most once and after what it depends on, then key presses for ports that
were granted and are in the game, and never two for one port and frame. -/
theorem every_channel_converses (hheader : coder.KeepsHeader)
    (hreach : (system ports coder).Reachable p) :
    ∀ channel ∈ p.channels, Conversation ports channel :=
  (reachable_inv hheader hreach).conversations

/-- There is nothing for the key functions to dereference: no call of `InitiateNetplay` has
opened a channel, or the last one that did has not got its controllers. -/
def Handlerless (ports : PortEnum) (p : Process Handle ButtonsType) : Prop :=
  ∀ channel, p.channels.head? = some channel → ¬ Plugged ports channel.opening

omit [Inhabited ButtonsType] in
theorem handlerless_iff {channel : Channel} {older : List Channel}
    {impl : PluginImpl ButtonsType} (hcons : p.channels = channel :: older)
    (hrunning : p.running = true) (h : Attached ports p.running channel impl) :
    Handlerless ports p ↔ impl.streamHandler.isSome = false := by
  rw [← Bool.not_eq_true, h.handler_iff hrunning, Handlerless, hcons]
  simp

/-- **When a key call does not return.**  In whatever order the emulator has called the library
so far, the process survives the next call of `PutKeys` or `GetKeys`, exactly unless
`InitiateNetplay` has left no handler to dereference, and either no `PluginImpl` (the ports do
not matter then) or the call gets past the check of its port numbers. -/
theorem keys_fatal_iff (hheader : coder.KeepsHeader) (hreach : (system ports coder).Reachable p)
    (hrunning : p.running = true) :
    (∀ updates writeOk,
      ((next ports coder p (.putKeys updates writeOk)).running = false ↔
        Handlerless ports p ∧ (p.channels = [] ∨
          ∀ update ∈ updates, m64PortToPort ports update.port ≠ ports.unknown))) ∧
    ∀ update incoming,
      ((next ports coder p (.getKeys update incoming)).running = false ↔
        Handlerless ports p ∧ (p.channels = [] ∨
          m64PortToPort ports update.port ≠ ports.unknown)) := by
  rcases (reachable_inv hheader hreach).newest with
    ⟨hnil, hnone⟩ | ⟨channel, older, impl, hcons, hsome, hattached⟩
  · have hless : Handlerless ports p := by
      intro channel hhead
      rw [hnil] at hhead
      cases hhead
    constructor
    · intro updates writeOk
      simp only [next, hnone, Mupen64.putKeys, returns, hless, hnil, true_or, true_and]
    · intro update incoming
      simp only [next, hnone, Mupen64.getKeys, returns, hless, hnil, true_or, true_and]
  · have hsome' : p.channels ≠ [] := by
      rw [hcons]
      exact List.cons_ne_nil channel older
    simp only [handlerless_iff hcons hrunning hattached, hsome', false_or]
    constructor
    · intro updates writeOk
      simp only [next, hsome, Mupen64.putKeys]
      exact returns_putButtons_iff ports coder impl updates writeOk
    · intro update incoming
      simp only [next, hsome, Mupen64.getKeys]
      exact returns_getButtons_iff ports coder impl update incoming

end Process

namespace Process

instance [Inhabited ButtonsType] (ports : PortEnum) (coder : ButtonCoder ButtonsType)
    (p : Process Handle ButtonsType) (call : Call Handle ButtonsType) :
    Decidable ((system ports coder).enabled p call) :=
  inferInstanceAs (Decidable (p.running = true))

/-- The library is loaded, joins console 1, and takes the keys of a frame. -/
def joinAndPlay : List (Call Unit Int) :=
  [.pluginStartup (some ()),
    .initiateNetplay (fun handle => handle.map fun _ => PluginImpl.onePortConfig) oneController
      "" "" (PluginImpl.joinConsole .success),
    .putKeys [⟨0, 0, 7⟩] true,
    .getKeys ⟨0, 0, 0⟩ []]

def loadedProcess : Process Unit Int := ⟨.loaded, true, []⟩

theorem every_channel_converses_joinAndPlay :
    ∃ channel ∈ (joinAndPlay.foldl (next portNumbers integerCoder) loadedProcess).channels,
      channel.sent.length = 3 ∧ Conversation portNumbers channel := by
  have hschedule : (system portNumbers integerCoder).Schedule loadedProcess joinAndPlay := by
    decide
  have hreach : (system portNumbers integerCoder).Reachable
      (joinAndPlay.foldl (next portNumbers integerCoder) loadedProcess) :=
    TransitionSystem.Reachable.foldl (.init rfl) hschedule
  have hlength : ∀ channel ∈
      (joinAndPlay.foldl (next portNumbers integerCoder) loadedProcess).channels,
        channel.sent.length = 3 := by decide
  obtain ⟨channel, hmem⟩ := List.exists_mem_of_length_pos (by decide :
    0 < (joinAndPlay.foldl (next portNumbers integerCoder) loadedProcess).channels.length)
  exact ⟨channel, hmem, hlength channel hmem,
    every_channel_converses integerCoder_keepsHeader hreach channel hmem⟩

/-- The library has asked for controllers of console 1, and the server has not replied. -/
def unanswered : List (Call Unit Int) :=
  [.pluginStartup (some ()),
    .initiateNetplay (fun handle => handle.map fun _ => PluginImpl.onePortConfig) oneController
      "" "" { PluginImpl.joinConsole .success with plugController := none }]

def afterUnanswered : Process Unit Int :=
  unanswered.foldl (next portNumbers integerCoder) loadedProcess

/-- Keys for the first two controllers are fatal then, but not if there is a fifth among them. -/
theorem keys_fatal_iff_unanswered :
    ((next portNumbers integerCoder afterUnanswered
          (.putKeys [⟨0, 0, 7⟩, ⟨1, 0, 5⟩] true)).running = false ∧
        (next portNumbers integerCoder afterUnanswered
          (.putKeys [⟨0, 0, 7⟩, ⟨4, 0, 5⟩] true)).running = true) ∧
      (next portNumbers integerCoder afterUnanswered (.getKeys ⟨0, 0, 0⟩ [])).running = false ∧
        (next portNumbers integerCoder afterUnanswered (.getKeys ⟨4, 0, 0⟩ [])).running = true := by
  have hschedule : (system portNumbers integerCoder).Schedule loadedProcess unanswered := by
    decide
  have hreach : (system portNumbers integerCoder).Reachable afterUnanswered :=
    TransitionSystem.Reachable.foldl (.init rfl) hschedule
  obtain ⟨hput, hget⟩ := keys_fatal_iff integerCoder_keepsHeader hreach rfl
  have hnil : afterUnanswered.channels ≠ [] := by decide
  have hless : Handlerless portNumbers afterUnanswered := by
    rintro channel ⟨⟩ ⟨-, answer, consoleId, requestedPorts, -, -, -, -, -, response, hreply, -⟩
    cases hreply
  refine ⟨⟨(hput _ true).mpr ⟨hless, Or.inr (by decide)⟩, ?_⟩,
    (hget _ []).mpr ⟨hless, Or.inr (by decide)⟩, ?_⟩
  · refine Bool.eq_true_of_not_eq_false fun hstopped => ?_
    obtain ⟨-, hempty | hvalid⟩ := (hput _ true).mp hstopped
    · exact hnil hempty
    · exact absurd hvalid (by decide)
  · refine Bool.eq_true_of_not_eq_false fun hstopped => ?_
    obtain ⟨-, hempty | hvalid⟩ := (hget _ []).mp hstopped
    · exact hnil hempty
    · exact absurd hvalid (by decide)

end Process

end Mupen64
end Plugin
end Netplay
