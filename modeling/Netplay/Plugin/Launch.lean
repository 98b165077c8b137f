import Netplay.Plugin.ControllerTable
import Netplay.Plugin.Dialogue

/-!
# How a session starts

`InitiateNetplay` is a chain of steps, each of which may fail.  `Reaches` is what
gets it to `PlugControllers`, `Launch` what gets it from there to its end; both
speak of the configuration, the user's input and the replies of the server alone.
`initiateNetplay_step` and `plugAndStart_step` are the agreement with
the code.

Neither asks for the status of a reply.
-/

namespace Netplay
namespace Plugin

open Client EventStreamHandler

variable {ButtonsType : Type*}

namespace PluginImpl

/-- The configuration of the plugin. -/
def configuration (impl : PluginImpl ButtonsType) : M64Config :=
  M64Config.fromConfigHandler impl.configHandler

/-- `InitiateNetplay` gets to `PlugControllers`, with this answer of the user, this
console id and these ports. -/
structure Reaches (ports : PortEnum) (impl : PluginImpl ButtonsType) (info : NetplayInfo)
    (env : Environment) (answer : UserAnswer) (consoleId : Variable)
    (requestedPorts : List Port) : Prop where
  enabled : impl.configuration.enabled = true
  noRawData : info.hasRawData = false
  answered : userAnswer env.cin = some answer
  chosen : chosenConsoleId env answer = some consoleId
  requested : M64Config.requestPorts ports impl.configuration.portRequests = some requestedPorts

/-- The configuration and the environment say what is passed to `PlugControllers`. -/
theorem Reaches.unique {ports : PortEnum} {impl : PluginImpl ButtonsType} {info : NetplayInfo}
    {env : Environment} {answer answer' : UserAnswer} {consoleId consoleId' : Variable}
    {requestedPorts requestedPorts' : List Port}
    (h : Reaches ports impl info env answer consoleId requestedPorts)
    (h' : Reaches ports impl info env answer' consoleId' requestedPorts') :
    answer = answer' ∧ consoleId = consoleId' ∧ requestedPorts = requestedPorts' := by
  cases h.answered.symm.trans h'.answered
  exact ⟨rfl, Option.some.inj (h.chosen.symm.trans h'.chosen),
    Option.some.inj (h.requested.symm.trans h'.requested)⟩

/-- The ways `InitiateNetplay` can go: it returns 1 because netplay is disabled, it
returns 0 before `PlugControllers`, or it goes on from there. -/
inductive InitiateStep (ports : PortEnum) (impl : PluginImpl ButtonsType) (info : NetplayInfo)
    (md5 : String) (env : Environment) : InitiateNetplayResult ButtonsType → Prop
  | disabled (hdisabled : impl.configuration.enabled = false) :
      InitiateStep ports impl info md5 env
        ⟨.returned 1, impl, info.clear.setEnabled false, env.cin, [], none⟩
  | stopped {cin : InputStream} {sent : List Sent} (henabled : impl.configuration.enabled = true)
      (hstopped : ∀ answer consoleId requestedPorts,
        ¬ Reaches ports impl info env answer consoleId requestedPorts)
      (hsent : OnlyMakesConsole sent) :
      InitiateStep ports impl info md5 env
        ⟨.returned 0, impl, info.clear.setEnabled true, cin, sent, none⟩
  | reached {answer : UserAnswer} {requestedPorts : List Port} {config : InteractiveConfigResult}
      (hreaches : Reaches ports impl info env answer config.consoleId requestedPorts)
      (hcreated : config.createdConsole = decide (answer = .create)) :
      InitiateStep ports impl info md5 env
        (plugAndStart ports impl (info.clear.setEnabled true) md5 config requestedPorts env)

theorem initiateNetplay_step (ports : PortEnum) (impl : PluginImpl ButtonsType)
    (info : NetplayInfo) (goodname md5 : String) (env : Environment) :
    InitiateStep ports impl info md5 env (initiateNetplay ports impl info goodname md5 env) := by
  unfold initiateNetplay
  have hconfiguration : M64Config.fromConfigHandler impl.configHandler = impl.configuration := rfl
  simp only [hconfiguration]
  cases henabled : impl.configuration.enabled with
  | false => exact .disabled henabled
  | true =>
      have hraw : (info.clear.setEnabled true).hasRawData = info.hasRawData := rfl
      simp only [Bool.true_eq_false, if_false, hraw]
      cases hrawData : info.hasRawData with
      | true =>
          simp only [if_true]
          refine .stopped henabled ?_ nofun
          rintro answer consoleId requestedPorts ⟨-, hnone, -, -, -⟩
          rw [hrawData] at hnone
          cases hnone
      | false =>
          simp only [Bool.false_eq_true, if_false]
          have hstep := interactiveConfig_step impl.configHandler goodname md5 env
          generalize interactiveConfig impl.configHandler goodname md5 env = config at hstep
          cases hstep with
          | unanswered hanswer =>
              simp only [if_true]
              refine .stopped henabled ?_ nofun
              rintro answer consoleId requestedPorts ⟨-, -, hsome, -, -⟩
              rw [hanswer] at hsome
              cases hsome
          | notMade hanswer hchosen hsent =>
              simp only [if_true]
              refine .stopped henabled ?_ hsent
              rintro answer consoleId requestedPorts ⟨-, -, hsame, hsome, -⟩
              cases hanswer.symm.trans hsame
              rw [hchosen] at hsome
              cases hsome
          | chosen hanswer hchosen hsent =>
              simp only [Bool.true_eq_false, if_false]
              cases hrequested :
                  M64Config.requestPorts ports impl.configuration.portRequests with
              | none =>
                  refine .stopped henabled ?_ hsent
                  rintro answer consoleId requestedPorts ⟨-, -, -, -, hsome⟩
                  rw [hrequested] at hsome
                  cases hsome
              | some requestedPorts =>
                  exact .reached ⟨henabled, hrawData, hanswer, hchosen, hrequested⟩ rfl

/-! ### From `ClientReady` on -/

/-- The steps after the construction of the handler succeed: they leave this handler
and this controller table. -/
structure SessionStarts (ports : PortEnum) (info : NetplayInfo) (createdConsole : Bool)
    (requestedPorts : List Port) (handler : EventStreamHandler ButtonsType) (env : Environment)
    (started : EventStreamHandler ButtonsType) (permuted : NetplayInfo) : Prop where
  ready : env.clientReadyOk = true
  gameRequested : createdConsole = true → env.startGame.isSome = true
  waited : (handler.clientReady env.clientReadyOk).2.2.waitForConsoleStart ports
    env.startGameEvent = (true, started)
  permuted : permuteNetplayControllers ports started requestedPorts info = some (true, permuted)

/-- The session starts, or the call ends otherwise with the table untouched. -/
inductive SessionStep (ports : PortEnum) (impl : PluginImpl ButtonsType) (info : NetplayInfo)
    (config : InteractiveConfigResult) (requestedPorts : List Port)
    (handler : EventStreamHandler ButtonsType) (env : Environment) :
    InitiateNetplayResult ButtonsType → Prop
  | failed {ending : Ending} {impl' : PluginImpl ButtonsType} {cin : InputStream}
      {sent : List Sent} (hending : ending ≠ .returned 1)
      (hfailed : ∀ started permuted, ¬ SessionStarts ports info config.createdConsole
        requestedPorts handler env started permuted) :
      SessionStep ports impl info config requestedPorts handler env
        ⟨ending, impl', info, cin, sent, some config.consoleId⟩
  | started {started : EventStreamHandler ButtonsType} {permuted : NetplayInfo}
      {cin : InputStream} {sent : List Sent}
      (hstarts : SessionStarts ports info config.createdConsole requestedPorts handler env
        started permuted) :
      SessionStep ports impl info config requestedPorts handler env
        ⟨.returned 1, { impl with streamHandler := some started }, permuted, cin, sent,
          some config.consoleId⟩

theorem startGame_fst (response : Option StartGameResponsePB) (status : ResponseStatus) :
    (startGame response status).1 = response.isSome := by
  cases response with
  | none => rfl
  | some response => rfl

theorem startSession_step (ports : PortEnum) (impl : PluginImpl ButtonsType) (info : NetplayInfo)
    (config : InteractiveConfigResult) (requestedPorts : List Port) (sent : List Sent)
    (handler : EventStreamHandler ButtonsType) (env : Environment) :
    SessionStep ports impl info config requestedPorts handler env
      (startSession ports impl info config requestedPorts sent handler env) := by
  have hone : (Ending.returned 0) ≠ .returned 1 := by decide
  unfold startSession
  simp only
  by_cases hready : (handler.clientReady env.clientReadyOk).1 = false
  · rw [if_pos hready]
    refine .failed hone fun started permuted hstarts => ?_
    exact Bool.false_ne_true (hready.symm.trans hstarts.ready)
  rw [if_neg hready]
  generalize hstart : (if config.createdConsole then
    interactiveStartConsole config.consoleId.value config.cin env
    else ((true, config.cin, []) : Bool × InputStream × List Sent)) = start
  have hgame : start.1 = true ↔ (config.createdConsole = true → env.startGame.isSome = true) := by
    rw [← hstart]
    cases config.createdConsole with
    | false => simp
    | true => simp [interactiveStartConsole, startGame_fst]
  by_cases hrequested : start.1 = false
  · rw [if_pos hrequested]
    refine .failed hone fun started permuted hstarts => ?_
    exact Bool.false_ne_true (hrequested.symm.trans (hgame.mpr hstarts.gameRequested))
  rw [if_neg hrequested]
  cases hwait : (handler.clientReady env.clientReadyOk).2.2.waitForConsoleStart ports
      env.startGameEvent with
  | mk success started =>
  cases success with
  | false =>
      rw [if_pos rfl]
      refine .failed hone fun started' permuted hstarts => ?_
      cases hwait.symm.trans hstarts.waited
  | true =>
      rw [if_neg Bool.false_ne_true.symm]
      have hfailed {outcome : Option (Bool × NetplayInfo)}
          (houtcome : permuteNetplayControllers ports started requestedPorts info = outcome)
          (hne : ∀ permuted, outcome ≠ some (true, permuted)) :
          ∀ started' permuted, ¬ SessionStarts ports info config.createdConsole requestedPorts
            handler env started' permuted := by
        intro started' permuted hstarts
        cases hwait.symm.trans hstarts.waited
        exact hne permuted (houtcome.symm.trans hstarts.permuted)
      match hpermute : permuteNetplayControllers ports started requestedPorts info with
      | none => exact .failed (by decide) (hfailed hpermute (by simp))
      | some (false, permuted) =>
          cases eq_of_permuteNetplayControllers_false hpermute
          exact .failed hone (hfailed hpermute (by simp))
      | some (true, permuted) =>
          refine .started ⟨?_, hgame.mp ?_, hwait, hpermute⟩
          · exact Bool.not_eq_false _ ▸ hready
          · exact Bool.not_eq_false _ ▸ hrequested

/-! ### The conditions of a launch -/

/-- What the steps after the construction of a handler take, told by the replies: the
game is requested if the console is new, and its start message connects every port of
this client and none without a table entry, one input channel for each. -/
structure GameStarts (ports : PortEnum) (info : NetplayInfo) (createdConsole : Bool)
    (consoleId : Int) (localPorts : List Port) (env : Environment) (startGame : StartGamePB) :
    Prop where
  ready : env.clientReadyOk = true
  gameRequested : createdConsole = true → env.startGame.isSome = true
  message : ∃ event, env.startGameEvent = some event ∧ event.hasStopConsole = false ∧
    event.startGame = some startGame
  wellFormed : startGame.WellFormed ports consoleId (Std.ExtTreeSet.ofList localPorts)
  channels : info.availableChannels.length = localPorts.length
  inTable : ∀ connectedPort ∈ startGame.connectedPorts, InTable ports connectedPort.port

/-- What it takes from `PlugControllers` on.  The status of no reply is part of it. -/
structure Launch (ports : PortEnum) (client : NetplayClient) (info : NetplayInfo)
    (env : Environment) (createdConsole : Bool) (consoleId : Int) (requestedPorts : List Port)
    (response : PlugControllerResponsePB) (startGame : StartGamePB) : Prop extends
    GameStarts ports info createdConsole (toInt consoleId) (client.localPorts ++ response.port)
      env startGame where
  requested_pos : 1 ≤ requestedPorts.length
  requested_le : requestedPorts.length ≤ 4
  plugged : env.plugController = some response
  consoleId_eq : response.consoleId = consoleId
  constructible : NetplayClient.Constructible ports (toInt consoleId) (toInt response.clientId)
    (client.localPorts ++ response.port)

/-- A session that starts was started by a message for this console. -/
theorem SessionStarts.started_by {ports : PortEnum} {info : NetplayInfo} {createdConsole : Bool}
    {requestedPorts localPorts : List Port} {consoleId clientId : Int}
    {timings : List TimingEvent} {env : Environment} {started : EventStreamHandler ButtonsType}
    {permuted : NetplayInfo}
    (hconstructible : NetplayClient.Constructible ports consoleId clientId localPorts)
    (h : SessionStarts ports info createdConsole requestedPorts
      (NetplayClient.freshHandler consoleId clientId localPorts timings) env started permuted) :
    ∃ event startGame, env.startGameEvent = some event ∧ event.hasStopConsole = false ∧
      event.startGame = some startGame ∧
      startGame.WellFormed ports consoleId (Std.ExtTreeSet.ofList localPorts) ∧
      Started ports startGame.connectedPorts started ∧
      started.localPorts = Std.ExtTreeSet.ofList localPorts := by
  have hunstarted : Unstarted ports ((NetplayClient.freshHandler consoleId clientId localPorts
      timings : EventStreamHandler ButtonsType).clientReady env.clientReadyOk).2.2 :=
    .clientReady (.construct (NetplayClient.construct_eq_some_iff.mpr ⟨hconstructible, rfl⟩)) _
  have hpos := hunstarted.consoleId_pos
  have hwait := h.waited
  have hkeeps := (waitForConsoleStart_sameClient hpos ports env.startGameEvent).localPorts
  have hstarts := @waitForConsoleStart_eq_true_iff _ ports _ hpos env.startGameEvent
  rw [hwait] at hstarts hkeeps
  obtain ⟨event, startGame, hread, hstop, hevent, hwell⟩ := hstarts.mp rfl
  rw [hread] at hwait
  exact ⟨event, startGame, hread, hstop, hevent, hwell,
    StartedBy.started ⟨_, event, startGame, hunstarted, hevent, rfl, hwait⟩, hkeeps⟩

/-- The steps after the construction succeed exactly on replies that start the game. -/
theorem sessionStarts_iff {ports : PortEnum} {info : NetplayInfo} {createdConsole : Bool}
    {requestedPorts localPorts : List Port} {consoleId clientId : Int}
    {timings : List TimingEvent} {env : Environment}
    (hconstructible : NetplayClient.Constructible ports consoleId clientId localPorts) :
    (∃ (started : EventStreamHandler ButtonsType) (permuted : NetplayInfo),
      SessionStarts ports info createdConsole requestedPorts
        (NetplayClient.freshHandler consoleId clientId localPorts timings) env started permuted) ↔
      ∃ startGame, GameStarts ports info createdConsole consoleId localPorts env startGame := by
  have hunstarted : Unstarted ports ((NetplayClient.freshHandler consoleId clientId localPorts
      timings : EventStreamHandler ButtonsType).clientReady env.clientReadyOk).2.2 :=
    .clientReady (.construct (NetplayClient.construct_eq_some_iff.mpr ⟨hconstructible, rfl⟩)) _
  have hsize : (Std.ExtTreeSet.ofList localPorts).size = localPorts.length :=
    OrderedSet.size_ofList_eq_length_iff.mpr hconstructible.nodup
  have hpos := hunstarted.consoleId_pos
  have hkeeps := (waitForConsoleStart_sameClient hpos ports env.startGameEvent).localPorts
  have hstarts := @waitForConsoleStart_eq_true_iff _ ports _ hpos env.startGameEvent
  constructor
  · rintro ⟨started, permuted, hsession⟩
    obtain ⟨event, startGame, hread, hstop, hevent, hwell, hstarted, hlocalPorts⟩ :=
      hsession.started_by hconstructible
    obtain ⟨hchannels, hinTable⟩ := (permuteNetplayControllers_eq_true_iff hstarted
      requestedPorts info).mp ⟨permuted, hsession.permuted⟩
    rw [hlocalPorts, hsize] at hchannels
    exact ⟨startGame, hsession.ready, hsession.gameRequested, ⟨event, hread, hstop, hevent⟩,
      hwell, hchannels, hinTable⟩
  · rintro ⟨startGame, hready, hgame, ⟨event, hread, hstop, hevent⟩, hwell, hchannels, hinTable⟩
    have htrue := hstarts.mpr ⟨event, startGame, hread, hstop, hevent, hwell⟩
    generalize hwait : (NetplayClient.freshHandler consoleId clientId localPorts timings
      |>.clientReady env.clientReadyOk).2.2.waitForConsoleStart ports env.startGameEvent =
        waited at htrue hkeeps
    obtain ⟨success, started⟩ := waited
    cases htrue
    rw [hread] at hwait
    have hstarted : Started ports startGame.connectedPorts started :=
      StartedBy.started ⟨_, event, startGame, hunstarted, hevent, rfl, hwait⟩
    have hlocal : started.localPorts.size = localPorts.length :=
      (congrArg Std.ExtTreeSet.size hkeeps).trans hsize
    obtain ⟨permuted, hpermute⟩ := (permuteNetplayControllers_eq_true_iff hstarted requestedPorts
      info).mpr ⟨hchannels.trans hlocal.symm, hinTable⟩
    rw [← hread] at hwait
    exact ⟨started, permuted, hready, hgame, hwait, hpermute⟩

/-- The session is launched, or the call ends otherwise with the table untouched. -/
inductive LaunchStep (ports : PortEnum) (impl : PluginImpl ButtonsType) (info : NetplayInfo)
    (config : InteractiveConfigResult) (requestedPorts : List Port) (env : Environment) :
    InitiateNetplayResult ButtonsType → Prop
  | failed {ending : Ending} {impl' : PluginImpl ButtonsType} {cin : InputStream}
      {sent : List Sent} (hending : ending ≠ .returned 1)
      (hfailed : ∀ response startGame, ¬ Launch ports impl.client info env config.createdConsole
        config.consoleId.value requestedPorts response startGame) :
      LaunchStep ports impl info config requestedPorts env
        ⟨ending, impl', info, cin, sent, some config.consoleId⟩
  | launched {response : PlugControllerResponsePB} {startGame : StartGamePB}
      {impl' : PluginImpl ButtonsType} {started : EventStreamHandler ButtonsType}
      {permuted : NetplayInfo} {cin : InputStream} {sent : List Sent}
      (hlaunch : Launch ports impl.client info env config.createdConsole config.consoleId.value
        requestedPorts response startGame)
      (hhandler : impl'.streamHandler = some started)
      (hpermute : permuteNetplayControllers ports started requestedPorts info =
        some (true, permuted)) :
      LaunchStep ports impl info config requestedPorts env
        ⟨.returned 1, impl', permuted, cin, sent, some config.consoleId⟩

/-- The variable that `PlugControllers` was given. -/
theorem LaunchStep.consoleIdPassed_eq {ports : PortEnum} {impl : PluginImpl ButtonsType}
    {info : NetplayInfo} {config : InteractiveConfigResult} {requestedPorts : List Port}
    {env : Environment} {result : InitiateNetplayResult ButtonsType}
    (h : LaunchStep ports impl info config requestedPorts env result) :
    result.consoleIdPassed = some config.consoleId := by
  cases h with
  | failed _ _ => rfl
  | launched _ _ _ => rfl

/-- `PlugControllers` fails or the constructor aborts, or the call goes on with a handler
made from what was granted. -/
inductive PlugAndStartStep (ports : PortEnum) (impl : PluginImpl ButtonsType)
    (info : NetplayInfo) (config : InteractiveConfigResult) (requestedPorts : List Port)
    (sent : List Sent) (env : Environment) : InitiateNetplayResult ButtonsType → Prop
  | ended {ending : Ending} {impl' : PluginImpl ButtonsType} (hending : ending ≠ .returned 1)
      (hended : ∀ response startGame, ¬ Launch ports impl.client info env config.createdConsole
        config.consoleId.value requestedPorts response startGame) :
      PlugAndStartStep ports impl info config requestedPorts sent env
        ⟨ending, impl', info, config.cin, sent, some config.consoleId⟩
  | connected {response : PlugControllerResponsePB} {client' : NetplayClient}
      (hlower : 1 ≤ requestedPorts.length) (hupper : requestedPorts.length ≤ 4)
      (hresponse : env.plugController = some response)
      (hid : response.consoleId = config.consoleId.value)
      (hconstructible : NetplayClient.Constructible ports (toInt config.consoleId.value)
        (toInt response.clientId) (impl.client.localPorts ++ response.port)) :
      PlugAndStartStep ports impl info config requestedPorts sent env
        (startSession ports { impl with client := client' } info config requestedPorts sent
          (NetplayClient.freshHandler (toInt config.consoleId.value) (toInt response.clientId)
            (impl.client.localPorts ++ response.port) client'.timings) env)

/-- The requests of the call are that of `PlugControllers` and those before it. -/
theorem plugAndStart_connect (ports : PortEnum) (impl : PluginImpl ButtonsType)
    (info : NetplayInfo) (md5 : String) (config : InteractiveConfigResult)
    (requestedPorts : List Port) (env : Environment) :
    PlugAndStartStep ports impl info config requestedPorts
      (config.sent ++ (impl.client.plugControllerRequest config.consoleId.value md5
        requestedPorts).toList.map Sent.plugController) env
      (plugAndStart ports impl info md5 config requestedPorts env) := by
  unfold plugAndStart
  have hspec := NetplayClient.plugControllers_spec
    ⟨config.consoleId.value, md5, requestedPorts, env.plugController⟩ impl.client
  have hrequest := impl.client.plugControllers_request config.consoleId.value md5 requestedPorts
    env.plugController
  unfold NetplayClient.PlugCall.run at hspec
  simp only at hspec ⊢
  generalize impl.client.plugControllers config.consoleId.value md5 requestedPorts
    env.plugController = plug at hspec hrequest
  rw [hrequest]
  cases hspec with
  | failed hfails _ =>
      rw [if_pos rfl]
      refine .ended (by decide) ?_
      intro response startGame hlaunch
      exact hfails ⟨hlaunch.requested_pos, hlaunch.requested_le, response, hlaunch.plugged,
        hlaunch.consoleId_eq⟩
  | @plugged response request client' hsucceeds hresponse hgrant =>
      rw [if_neg Bool.false_ne_true.symm]
      obtain ⟨hlower, hupper, _, hsome, hid⟩ := hsucceeds
      cases hresponse.symm.trans hsome
      have hhandler (handler : EventStreamHandler ButtonsType) :=
        @NetplayClient.makeEventStreamHandler_eq_some_iff _ ports _ _ _ _ hgrant handler
      cases hmade : (client'.makeEventStreamHandler ports : Option (EventStreamHandler ButtonsType))
        with
      | none =>
          refine .ended (by decide) ?_
          intro response' startGame hlaunch
          cases hlaunch.plugged.symm.trans hresponse
          have hsome := (hhandler _).mpr ⟨hlaunch.constructible, rfl⟩
          cases hmade.symm.trans hsome
      | some handler =>
          obtain ⟨hconstructible, rfl⟩ := (hhandler handler).mp hmade
          exact .connected hlower hupper hresponse hid hconstructible

/-- A session that starts with a handler made from the grant is a launch. -/
theorem SessionStep.launchStep {ports : PortEnum} {impl : PluginImpl ButtonsType}
    {info : NetplayInfo} {config : InteractiveConfigResult} {requestedPorts : List Port}
    {env : Environment} {response : PlugControllerResponsePB} {client' : NetplayClient}
    {timings : List TimingEvent} {result : InitiateNetplayResult ButtonsType}
    (hlower : 1 ≤ requestedPorts.length) (hupper : requestedPorts.length ≤ 4)
    (hresponse : env.plugController = some response)
    (hid : response.consoleId = config.consoleId.value)
    (hconstructible : NetplayClient.Constructible ports (toInt config.consoleId.value)
      (toInt response.clientId) (impl.client.localPorts ++ response.port))
    (h : SessionStep ports { impl with client := client' } info config requestedPorts
      (NetplayClient.freshHandler (toInt config.consoleId.value) (toInt response.clientId)
        (impl.client.localPorts ++ response.port) timings) env result) :
    LaunchStep ports impl info config requestedPorts env result := by
  cases h with
  | failed hending hfailed =>
      refine .failed hending ?_
      intro response' startGame hlaunch
      cases hlaunch.plugged.symm.trans hresponse
      obtain ⟨started, permuted, hstarts⟩ := (sessionStarts_iff hconstructible).mpr
        ⟨startGame, hlaunch.toGameStarts⟩
      exact hfailed started permuted hstarts
  | started hstarts =>
      obtain ⟨startGame, hgame⟩ := (sessionStarts_iff hconstructible).mp ⟨_, _, hstarts⟩
      exact .launched ⟨hgame, hlower, hupper, hresponse, hid, hconstructible⟩ rfl hstarts.permuted

theorem plugAndStart_step (ports : PortEnum) (impl : PluginImpl ButtonsType) (info : NetplayInfo)
    (md5 : String) (config : InteractiveConfigResult) (requestedPorts : List Port)
    (env : Environment) :
    LaunchStep ports impl info config requestedPorts env
      (plugAndStart ports impl info md5 config requestedPorts env) := by
  have hconnect := plugAndStart_connect ports impl info md5 config requestedPorts env
  generalize plugAndStart ports impl info md5 config requestedPorts env = result at hconnect
  cases hconnect with
  | ended hending hended => exact .failed hending hended
  | connected hlower hupper hresponse hid hconstructible =>
      exact (startSession_step ..).launchStep hlower hupper hresponse hid hconstructible

/-- The table and the flag play no part in a launch. -/
theorem launch_setEnabled_iff {ports : PortEnum} {client : NetplayClient} {info : NetplayInfo}
    {enabled : Bool} {env : Environment} {createdConsole : Bool} {consoleId : Int}
    {requestedPorts : List Port} {response : PlugControllerResponsePB} {startGame : StartGamePB} :
    Launch ports client (info.clear.setEnabled enabled) env createdConsole consoleId requestedPorts
        response startGame ↔
      Launch ports client info env createdConsole consoleId requestedPorts response startGame :=
  ⟨fun h => { h with channels := h.channels }, fun h => { h with channels := h.channels }⟩

/-- Everything that `InitiateNetplay` asks for to start a session. -/
def Launches (ports : PortEnum) (impl : PluginImpl ButtonsType) (info : NetplayInfo)
    (env : Environment) : Prop :=
  ∃ answer consoleId requestedPorts response startGame,
    Reaches ports impl info env answer consoleId requestedPorts ∧
      Launch ports impl.client info env (decide (answer = .create)) consoleId.value requestedPorts
        response startGame

/-- `InitiateNetplay` returns 1 exactly if netplay is disabled or a session is
launched. -/
theorem initiateNetplay_eq_one_iff (ports : PortEnum) (impl : PluginImpl ButtonsType)
    (info : NetplayInfo) (goodname md5 : String) (env : Environment) :
    (initiateNetplay ports impl info goodname md5 env).ending = .returned 1 ↔
      impl.configuration.enabled = false ∨ Launches ports impl info env := by
  have hstep := initiateNetplay_step ports impl info goodname md5 env
  generalize initiateNetplay ports impl info goodname md5 env = result at hstep
  cases hstep with
  | disabled hdisabled => simp [hdisabled]
  | stopped henabled hstopped _ =>
      constructor
      · rintro ⟨⟩
      · rintro (hdisabled | ⟨answer, consoleId, requestedPorts, _, _, hreaches, -⟩)
        · cases henabled.symm.trans hdisabled
        · exact absurd hreaches (hstopped answer consoleId requestedPorts)
  | @reached answer requestedPorts config hreaches hcreated =>
      have hlaunch := plugAndStart_step ports impl (info.clear.setEnabled true) md5 config
        requestedPorts env
      generalize plugAndStart ports impl (info.clear.setEnabled true) md5 config requestedPorts
        env = result at hlaunch
      cases hlaunch with
      | failed hending hfailed =>
          refine ⟨fun hone => absurd hone hending, ?_⟩
          rintro (hdisabled | ⟨_, _, _, response, startGame, hreaches', hlaunch⟩)
          · cases hreaches.enabled.symm.trans hdisabled
          · obtain ⟨rfl, rfl, rfl⟩ := hreaches.unique hreaches'
            rw [hcreated] at hfailed
            exact absurd (launch_setEnabled_iff.mpr hlaunch) (hfailed response startGame)
      | launched hlaunch _ _ =>
          rw [hcreated, launch_setEnabled_iff] at hlaunch
          exact ⟨fun _ => Or.inr ⟨answer, _, requestedPorts, _, _, hreaches, hlaunch⟩,
            fun _ => rfl⟩

/-- With netplay disabled the function clears `NETPLAY_INFO`. -/
theorem initiateNetplay_disabled {impl : PluginImpl ButtonsType}
    (hdisabled : impl.configuration.enabled = false) (ports : PortEnum) (info : NetplayInfo)
    (goodname md5 : String) (env : Environment) :
    (initiateNetplay ports impl info goodname md5 env).info = info.clear.setEnabled false := by
  unfold configuration at hdisabled
  simp only [initiateNetplay, hdisabled, if_true]

/-- A session that starts leaves the flag set and a handler. -/
theorem initiateNetplay_started {ports : PortEnum} {impl : PluginImpl ButtonsType}
    {info : NetplayInfo} {goodname md5 : String} {env : Environment}
    (henabled : impl.configuration.enabled = true)
    (hone : (initiateNetplay ports impl info goodname md5 env).ending = .returned 1) :
    (initiateNetplay ports impl info goodname md5 env).info.enabled = 1 ∧
      ∃ handler, (initiateNetplay ports impl info goodname md5 env).impl.streamHandler =
        some handler := by
  have hstep := initiateNetplay_step ports impl info goodname md5 env
  generalize initiateNetplay ports impl info goodname md5 env = result at hstep hone
  cases hstep with
  | disabled hdisabled => cases henabled.symm.trans hdisabled
  | stopped _ _ _ => cases hone
  | @reached answer requestedPorts config hreaches _ =>
      have hlaunch := plugAndStart_step ports impl (info.clear.setEnabled true) md5 config
        requestedPorts env
      generalize plugAndStart ports impl (info.clear.setEnabled true) md5 config requestedPorts
        env = result at hlaunch hone
      cases hlaunch with
      | failed hending _ => exact absurd hone hending
      | launched _ hhandler hpermute =>
          exact ⟨(permuteNetplayControllers_frame hpermute).1, _, hhandler⟩

/-! ### Consent of the server -/

/-- The server has agreed to what the user asked for. -/
structure Consents (env : Environment) : Prop where
  plugController : ∃ response, env.plugController = some response ∧ response.status = .success
  makeConsole : userAnswer env.cin = some .create →
    ∃ response, env.makeConsole = some response ∧ response.status = .success
  startGame : userAnswer env.cin = some .create →
    ∃ response, env.startGame = some response ∧ response.status = .success

/-- The server has refused something in a reply. -/
inductive Refuses (env : Environment) : Prop
  | plugController (response : PlugControllerResponsePB)
      (hresponse : env.plugController = some response) (hstatus : response.status ≠ .success)
  | makeConsole (response : MakeConsoleResponsePB) (hanswer : userAnswer env.cin = some .create)
      (hresponse : env.makeConsole = some response) (hstatus : response.status ≠ .success)
  | startGame (response : StartGameResponsePB) (hanswer : userAnswer env.cin = some .create)
      (hresponse : env.startGame = some response) (hstatus : response.status ≠ .success)

/-- There is a reply to everything that was asked for when a session is launched, so
what was not refused was agreed to. -/
theorem Launches.consents_iff {ports : PortEnum} {impl : PluginImpl ButtonsType}
    {info : NetplayInfo} {env : Environment} (h : Launches ports impl info env) :
    Consents env ↔ ¬ Refuses env := by
  obtain ⟨answer, consoleId, requestedPorts, response, startGame, hreaches, hlaunch⟩ := h
  constructor
  · rintro ⟨⟨response, hplug, hsuccess⟩, hmake, hgame⟩ hrefuses
    cases hrefuses with
    | plugController response' hresponse hstatus =>
        cases hplug.symm.trans hresponse
        exact hstatus hsuccess
    | makeConsole response' hanswer hresponse hstatus =>
        obtain ⟨_, hmade, hsuccess⟩ := hmake hanswer
        cases hmade.symm.trans hresponse
        exact hstatus hsuccess
    | startGame response' hanswer hresponse hstatus =>
        obtain ⟨_, hstarted, hsuccess⟩ := hgame hanswer
        cases hstarted.symm.trans hresponse
        exact hstatus hsuccess
  · intro hagreed
    refine ⟨⟨response, hlaunch.plugged, ?_⟩, ?_, ?_⟩
    · by_contra hstatus
      exact hagreed (.plugController response hlaunch.plugged hstatus)
    · intro hanswer
      cases hreaches.answered.symm.trans hanswer
      have hchosen := hreaches.chosen
      unfold chosenConsoleId at hchosen
      cases hmade : env.makeConsole with
      | none =>
          rw [hmade] at hchosen
          cases hchosen
      | some made =>
          refine ⟨made, rfl, ?_⟩
          by_contra hstatus
          exact hagreed (.makeConsole made hanswer hmade hstatus)
    · intro hanswer
      cases hreaches.answered.symm.trans hanswer
      obtain ⟨game, hgame⟩ := Option.isSome_iff_exists.mp (hlaunch.gameRequested (by decide))
      refine ⟨game, hgame, ?_⟩
      by_contra hstatus
      exact hagreed (.startGame game hanswer hgame hstatus)

/-- **A refusal does not stop a session.**  With netplay enabled, `InitiateNetplay`
starts sessions with the server's consent only, exactly unless everything is there
that it asks for and some reply is a refusal. -/
theorem initiateNetplay_consent_iff {impl : PluginImpl ButtonsType}
    (henabled : impl.configuration.enabled = true) (ports : PortEnum) (info : NetplayInfo)
    (goodname md5 : String) (env : Environment) :
    ((initiateNetplay ports impl info goodname md5 env).ending = .returned 1 → Consents env) ↔
      ¬ (Launches ports impl info env ∧ Refuses env) := by
  rw [initiateNetplay_eq_one_iff, henabled]
  simp only [Bool.true_eq_false, false_or, not_and]
  exact forall_congr' fun hlaunches => hlaunches.consents_iff

/-- A configuration in which the first input controller asks for any port, in the
numbering of `portNumbers`. -/
def onePortConfig : ConfigHandler where
  getString := fun _ => some ""
  getInt := fun name => if name = "Port1Request" then 0 else -1
  getBool := fun _ => true

/-- The plugin before its first session. -/
def freshImpl : PluginImpl Int where
  configHandler := onePortConfig
  client := .make 0
  streamHandler := none

/-- The user joins console 1, which starts with port 1. -/
def joinConsole (status : ResponseStatus) : Environment where
  cin := { chars := ['n', '\n', '1', '\n'] }
  indeterminate := 0
  makeConsole := none
  plugController := some { status := status, consoleId := 1, clientId := 7, port := [1] }
  startGame := none
  clientReadyOk := true
  startGameEvent := some (startPort 1)

theorem initiateNetplay_consent_join :
    (initiateNetplay portNumbers freshImpl oneController "" "" (joinConsole .success)).ending =
      .returned 1 ∧ Consents (joinConsole .success) := by
  have hone : (initiateNetplay portNumbers freshImpl oneController "" ""
      (joinConsole .success)).ending = .returned 1 := by
    decide
  have henabled : freshImpl.configuration.enabled = true := rfl
  refine ⟨hone, (initiateNetplay_consent_iff henabled portNumbers oneController "" ""
    (joinConsole .success)).mpr ?_ hone⟩
  rintro ⟨-, hrefuses⟩
  have hanswer : userAnswer (joinConsole .success).cin = some (.enter 1) := by decide
  cases hrefuses with
  | plugController _ hresponse hstatus =>
      cases hresponse
      exact hstatus rfl
  | makeConsole _ hcreate _ _ => cases hanswer.symm.trans hcreate
  | startGame _ hcreate _ _ => cases hanswer.symm.trans hcreate

/-- The server refuses the controllers, and the session starts. -/
theorem initiateNetplay_not_consent :
    ¬ ∀ (ports : PortEnum) (impl : PluginImpl Int) (info : NetplayInfo)
      (goodname md5 : String) (env : Environment), impl.configuration.enabled = true →
      (initiateNetplay ports impl info goodname md5 env).ending = .returned 1 →
        Consents env := by
  intro h
  have hconsents := h portNumbers freshImpl oneController "" ""
    (joinConsole .unspecifiedFailure) rfl (by decide)
  obtain ⟨response, hresponse, hstatus⟩ := hconsents.plugController
  cases hresponse
  cases hstatus

end PluginImpl

end Plugin
end Netplay
