import Netplay.Plugin.Coder
import Netplay.Plugin.Mupen64
import Netplay.Plugin.SessionTable
import Netplay.Session.Delivery

/-!
# Emulators that play one game

What the library does for the emulator: every process calls the exported functions, from
`InitiateNetplay` on, and looks at nothing but its own `NETPLAY_INFO` and the buttons that
come back.

* `launched`: what a call of `InitiateNetplay` that returns 1 leaves behind.
* `Runs`: how the emulators are related to the clients of `Network`.  Each call makes a
  schedule of steps there (`runs_putKeys`, `runs_getKeys`).
* `emulators_agree`: all emulators get the same keys for a controller.

A call of `GetKeys` is one step, taken when it returns.  While it waits for the stream, its
own process does nothing else, and no other process can tell how far it has got.
-/

namespace Netplay
namespace Session

open Client Client.EventStreamHandler Plugin

variable {ι ButtonsType : Type*}

/-! ### After `InitiateNetplay` -/

/-- What the exported `InitiateNetplay` is called with, in a library that may have played
before. -/
structure Launching (ButtonsType : Type*) where
  pluginImpl : Option (PluginImpl ButtonsType)
  configHandler : ConfigHandler
  info : NetplayInfo
  goodname : String
  md5 : String
  env : Environment

def Launching.result (launching : Launching ButtonsType) (ports : PortEnum) :
    Mupen64.InitiateResult ButtonsType :=
  Mupen64.initiateNetplay ports launching.pluginImpl (some launching.configHandler)
    launching.info launching.goodname launching.md5 launching.env

/-- What a session leaves: a handler that was started by the start message with the granted
ports as its own, and the table for it. -/
structure Launched (ports : PortEnum) (env : Environment) (info permuted : NetplayInfo)
    (handler : EventStreamHandler ButtonsType) (response : PlugControllerResponsePB)
    (startGame : StartGamePB) : Prop where
  plugged : env.plugController = some response
  message : ∃ event, env.startGameEvent = some event ∧ event.startGame = some startGame
  started : StartedBy ports startGame.connectedPorts handler
  mem_localPorts : ∀ port, port ∈ handler.localPorts ↔ port ∈ response.port
  permuted : Permuted ports handler (info.clear.setEnabled true) permuted

theorem startedBy_of_sessionStarts {ports : PortEnum} {info : NetplayInfo} {created : Bool}
    {requestedPorts localPorts : List Port} {consoleId clientId : Int}
    {timings : List TimingEvent} {env : Environment} {started : EventStreamHandler ButtonsType}
    {permuted : NetplayInfo}
    (hconstructible : NetplayClient.Constructible ports consoleId clientId localPorts)
    (h : PluginImpl.SessionStarts ports info created requestedPorts
      (NetplayClient.freshHandler consoleId clientId localPorts timings) env started permuted) :
    ∃ event startGame, env.startGameEvent = some event ∧ event.startGame = some startGame ∧
      StartedBy ports startGame.connectedPorts started ∧
      started.localPorts = Std.ExtTreeSet.ofList localPorts := by
  obtain ⟨event, startGame, hread, -, hevent, -, -, hlocalPorts⟩ := h.started_by hconstructible
  have hunstarted : Unstarted ports ((NetplayClient.freshHandler consoleId clientId localPorts
      timings : EventStreamHandler ButtonsType).clientReady env.clientReadyOk).2.2 :=
    .clientReady (.construct (NetplayClient.construct_eq_some_iff.mpr ⟨hconstructible, rfl⟩)) _
  have hwait := h.waited
  rw [hread] at hwait
  exact ⟨event, startGame, hread, hevent, ⟨_, event, startGame, hunstarted, hevent, rfl, hwait⟩,
    hlocalPorts⟩

theorem launched_of_plugAndStart {ports : PortEnum} {impl : PluginImpl ButtonsType}
    {info : NetplayInfo} {md5 : String} {config : InteractiveConfigResult}
    {requestedPorts : List Port} {env : Environment} (hnone : impl.client.localPorts = [])
    (hone : (PluginImpl.plugAndStart ports impl (info.clear.setEnabled true) md5 config
      requestedPorts env).ending = .returned 1) :
    ∃ handler response startGame,
      (PluginImpl.plugAndStart ports impl (info.clear.setEnabled true) md5 config requestedPorts
        env).impl.streamHandler = some handler ∧
      Launched ports env info (PluginImpl.plugAndStart ports impl (info.clear.setEnabled true) md5
        config requestedPorts env).info handler response startGame := by
  have hconnect := PluginImpl.plugAndStart_connect ports impl (info.clear.setEnabled true) md5
    config requestedPorts env
  generalize PluginImpl.plugAndStart ports impl (info.clear.setEnabled true) md5 config
    requestedPorts env = result at hconnect hone
  cases hconnect with
  | ended hending _ => exact absurd hone hending
  | @connected response client' _ _ hresponse _ hconstructible =>
      have hstep := PluginImpl.startSession_step ports { impl with client := client' }
        (info.clear.setEnabled true) config requestedPorts
        (config.sent ++ (impl.client.plugControllerRequest config.consoleId.value
          md5 requestedPorts).toList.map Sent.plugController)
        (NetplayClient.freshHandler (toInt config.consoleId.value) (toInt response.clientId)
          (impl.client.localPorts ++ response.port) client'.timings) env
      generalize PluginImpl.startSession _ _ _ _ _ _ _ _ = result at hstep hone
      cases hstep with
      | failed hending _ => exact absurd hone hending
      | @started started permuted _ _ hstarts =>
          obtain ⟨event, startGame, hread, hevent, hstarted, hlocalPorts⟩ :=
            startedBy_of_sessionStarts hconstructible hstarts
          refine ⟨started, response, startGame, rfl, hresponse, ⟨event, hread, hevent⟩, hstarted,
            fun port => ?_, permuted_of_permuteNetplayControllers hstarts.permuted⟩
          rw [hlocalPorts, hnone, List.nil_append]
          simp

/-- With netplay enabled, a call that returns 1 has launched a session. -/
theorem launched {ports : PortEnum} {launching : Launching ButtonsType}
    (henabled : (M64Config.fromConfigHandler launching.configHandler).enabled = true)
    (hone : (launching.result ports).ending = .returned 1) :
    ∃ impl handler response startGame, (launching.result ports).pluginImpl = some impl ∧
      impl.streamHandler = some handler ∧
      Launched ports launching.env launching.info (launching.result ports).info handler response
        startGame := by
  unfold Launching.result at hone ⊢
  obtain ⟨serverAddr, hresult⟩ := Mupen64.initiateNetplay_enabled henabled ports
    launching.pluginImpl launching.info launching.goodname launching.md5 launching.env
  rw [hresult] at hone ⊢
  have hone : (PluginImpl.initiateNetplay ports (Mupen64.newPluginImpl launching.configHandler)
    launching.info launching.goodname launching.md5 launching.env).ending = .returned 1 := hone
  have hstep := PluginImpl.initiateNetplay_step ports
    (Mupen64.newPluginImpl launching.configHandler : PluginImpl ButtonsType) launching.info
    launching.goodname launching.md5 launching.env
  generalize PluginImpl.initiateNetplay ports (Mupen64.newPluginImpl launching.configHandler)
    launching.info launching.goodname launching.md5 launching.env = result at hstep hone ⊢
  cases hstep with
  | disabled hdisabled => cases henabled.symm.trans hdisabled
  | stopped _ _ _ => cases hone
  | reached _ _ =>
      obtain ⟨handler, response, startGame, hhandler, hlaunched⟩ :=
        launched_of_plugAndStart rfl hone
      exact ⟨_, handler, response, startGame, rfl, hhandler, hlaunched⟩

/-! ### The table of a session -/

/-- The entry is that of a local controller. -/
def LocalEntry (info : NetplayInfo) (i : Fin 4) : Prop :=
  (info.netplayControls.get i).present ≠ 0 ∧ (info.netplayControls.get i).remote = 0

instance (info : NetplayInfo) (i : Fin 4) : Decidable (LocalEntry info i) :=
  inferInstanceAs (Decidable (_ ∧ _))

/-- An entry is local at the owner of its port, with the delay of the game, and nowhere
else. -/
structure TableFor (game : Game ι) (client : ι) (info : NetplayInfo) : Prop where
  of_local : ∀ i : Fin 4, LocalEntry info i → ∃ connectedPort ∈ game.connectedPorts,
    connectedPort.port = m64PortToPort game.ports i.val ∧ game.owner connectedPort.port = client ∧
      (info.netplayControls.get i).delay = connectedPort.delayFrames
  local_of : ∀ i : Fin 4, ∀ connectedPort ∈ game.connectedPorts,
    connectedPort.port = m64PortToPort game.ports i.val →
      game.owner connectedPort.port = client → LocalEntry info i

theorem TableFor.local_iff {game : Game ι} {client : ι} {info : NetplayInfo}
    (h : TableFor game client info) {i : Fin 4} {connectedPort : ConnectedPortPB}
    (hconnected : connectedPort ∈ game.connectedPorts)
    (hport : connectedPort.port = m64PortToPort game.ports i.val) :
    LocalEntry info i ↔ client = game.owner connectedPort.port := by
  constructor
  · intro hlocal
    obtain ⟨connectedPort', hconnected', hport', howner, -⟩ := h.of_local i hlocal
    obtain rfl := Network.eq_of_port_eq hconnected hconnected' (hport.trans hport'.symm)
    exact howner.symm
  · intro howner
    exact h.local_of i connectedPort hconnected hport howner.symm

/-! ### The numbers of the entries -/

/-- A call of `PutKeys` or `GetKeys`, how it ended, and the keys that were got. -/
inductive KeyCall (ButtonsType : Type*)
  | put (updates : List (PluginImpl.FrameUpdate ButtonsType)) (ending : Ending)
  | get (update : PluginImpl.FrameUpdate ButtonsType) (ending : Ending) (buttons : ButtonsType)
deriving DecidableEq

def KeyCall.ending : KeyCall ButtonsType → Ending
  | .put _ ending => ending
  | .get _ ending _ => ending

/-- The libraries, what they share with their emulators, what they have sent since the
start, and the calls. -/
structure Emulators (ι ButtonsType : Type*) where
  pluginImpl : ι → Option (PluginImpl ButtonsType)
  info : ι → NetplayInfo
  sent : ι → List Sent
  calls : ι → List (KeyCall ButtonsType)

/-- The key presses among what was sent. -/
def keysSent (sent : List Sent) : List KeyStatePB :=
  sent.flatMap fun message =>
    match message with
    | .event event => event.keyPress
    | _ => []

/-- What a call got for a controller. -/
def keyRead (i : Fin 4) : KeyCall ButtonsType → Option (Int × ButtonsType)
  | .put _ _ => none
  | .get update ending buttons =>
      if ending = .returned 1 ∧ update.port = i.val then some (update.frame, buttons) else none

/-- What the calls that returned 1 got for a controller. -/
def keysRead (calls : List (KeyCall ButtonsType)) (i : Fin 4) : List (Int × ButtonsType) :=
  calls.filterMap (keyRead i)

namespace Emulators

inductive Action (ι ButtonsType : Type*)
  | putKeys (client : ι) (updates : List (PluginImpl.FrameUpdate ButtonsType)) (writeOk : Bool)
  | getKeys (client : ι) (update : PluginImpl.FrameUpdate ButtonsType)
      (incoming : List (Option IncomingEventPB))

/-- What the server may hand to a client. -/
def Relayed (game : Game ι) (e : Emulators ι ButtonsType) (client : ι)
    (outcome : Option IncomingEventPB) : Prop :=
  ∀ event, outcome = some event → ∀ keys ∈ event.keyPress,
    game.owner keys.port ≠ client ∧ keys ∈ keysSent (e.sent (game.owner keys.port))

/-- An emulator puts keys for the controllers that its table calls local, and may get those
of any controller, and of none. -/
def enabled (game : Game ι) (e : Emulators ι ButtonsType) : Action ι ButtonsType → Prop
  | .putKeys client updates _ => ∀ update ∈ updates,
      ∃ i : Fin 4, update.port = i.val ∧ LocalEntry (e.info client) i
  | .getKeys client _ incoming => ∀ outcome ∈ incoming, Relayed game e client outcome

section Steps

variable [DecidableEq ι]

instance (game : Game ι) (e : Emulators ι ButtonsType) (client : ι)
    (outcome : Option IncomingEventPB) : Decidable (Relayed game e client outcome) :=
  inferInstanceAs (Decidable (∀ event ∈ outcome, ∀ keys ∈ event.keyPress, _ ∧ _))

instance (game : Game ι) (e : Emulators ι ButtonsType) (action : Action ι ButtonsType) :
    Decidable (enabled game e action) :=
  match action with
  | .putKeys _ _ _ => inferInstanceAs (Decidable (∀ update ∈ _, ∃ _ : Fin 4, _ ∧ _))
  | .getKeys _ _ _ => inferInstanceAs (Decidable (∀ outcome ∈ _, _))

/-- The state after a call at one client. -/
def record (e : Emulators ι ButtonsType) (client : ι)
    (pluginImpl : Option (PluginImpl ButtonsType)) (sent : List Sent)
    (call : KeyCall ButtonsType) : Emulators ι ButtonsType where
  pluginImpl := Function.update e.pluginImpl client pluginImpl
  info := e.info
  sent := Function.update e.sent client (e.sent client ++ sent)
  calls := Function.update e.calls client (e.calls client ++ [call])

variable [Inhabited ButtonsType]

def next (ports : PortEnum) (coder : ButtonCoder ButtonsType) (e : Emulators ι ButtonsType) :
    Action ι ButtonsType → Emulators ι ButtonsType
  | .putKeys client updates writeOk =>
      let put := Mupen64.putKeys ports coder (e.pluginImpl client) updates writeOk
      e.record client put.2.1 put.2.2 (.put updates put.1)
  | .getKeys client update incoming =>
      let get := Mupen64.getKeys ports coder (e.pluginImpl client) update incoming
      e.record client get.2.1 [] (.get update get.1 get.2.2.1)

/-- A client joins the game: its `InitiateNetplay` returned 1, and the server connected the
ports of the game and granted it those that it owns. -/
structure Joins (game : Game ι) (client : ι) (launching : Launching ButtonsType) : Prop where
  enabled : (M64Config.fromConfigHandler launching.configHandler).enabled = true
  returned : (launching.result game.ports).ending = .returned 1
  connected : ∀ event ∈ launching.env.startGameEvent, ∀ startGame ∈ event.startGame,
    ∀ connectedPort, connectedPort ∈ startGame.connectedPorts ↔
      connectedPort ∈ game.connectedPorts
  granted : ∀ response ∈ launching.env.plugController, ∀ connectedPort ∈ game.connectedPorts,
    connectedPort.port ∈ response.port ↔ game.owner connectedPort.port = client

/-- The game begins when every client has joined. -/
def Starts (game : Game ι) (e : Emulators ι ButtonsType) : Prop :=
  ∀ client, ∃ launching : Launching ButtonsType, Joins game client launching ∧
    e.pluginImpl client = (launching.result game.ports).pluginImpl ∧
    e.info client = (launching.result game.ports).info ∧ e.sent client = [] ∧
    e.calls client = []

/-- The emulators of a game, interleaved in every possible way. -/
def system (coder : ButtonCoder ButtonsType) (game : Game ι) :
    TransitionSystem (Emulators ι ButtonsType) (Action ι ButtonsType) where
  init := Starts game
  enabled := enabled game
  next := next game.ports coder

instance (coder : ButtonCoder ButtonsType) (game : Game ι) (e : Emulators ι ButtonsType)
    (action : Action ι ButtonsType) : Decidable ((system coder game).enabled e action) :=
  inferInstanceAs (Decidable (enabled game e action))

end Steps

/-! ### The clients behind the emulators -/

/-- The emulators do what these clients do.  The handlers are the same; nobody is inside a
call; what was sent is what was written; what a queue accepted was put; and what was got
for a controller is what was returned for its port. -/
structure Runs (game : Game ι) (e : Emulators ι ButtonsType) (s : Network ι ButtonsType) :
    Prop where
  handler : ∀ client, ∃ impl, e.pluginImpl client = some impl ∧
    impl.streamHandler = some (s.handler client)
  waiting : ∀ client, s.waiting client = none
  written : ∀ client, s.written client = keysSent (e.sent client)
  put : ∀ client, ∀ tuple ∈ s.accepted client, ∃ updates ending,
    .put updates ending ∈ e.calls client ∧ ∃ i : Fin 4,
      tuple.port = m64PortToPort game.ports i.val ∧
        ⟨i.val, tuple.frame, tuple.buttons⟩ ∈ updates
  got : ∀ client (i : Fin 4), keysRead (e.calls client) i =
    Network.deliveredBy (s.returned client) (m64PortToPort game.ports i.val)
  returned : ∀ client, ∀ call ∈ e.calls client, ∃ value, call.ending = .returned value
  table : ∀ client, TableFor game client (e.info client)

section Runs

variable [DecidableEq ι] [Inhabited ButtonsType] {coder : ButtonCoder ButtonsType}
  {game : Game ι} {e : Emulators ι ButtonsType} {s : Network ι ButtonsType} {client : ι}

omit [Inhabited ButtonsType] in
/-- A call at one client, and what it does behind the emulator. -/
theorem Runs.update (h : Runs game e s) {impl : PluginImpl ButtonsType}
    {handler : EventStreamHandler ButtonsType} (hhandler : impl.streamHandler = some handler)
    {accepted : List (ButtonsFrameTuple ButtonsType)} {written : List KeyStatePB}
    {returned : List (Returned ButtonsType)} {sent : List Sent} {call : KeyCall ButtonsType}
    (hwritten : written = keysSent sent)
    (hput : ∀ tuple ∈ accepted, ∃ updates ending, call = .put updates ending ∧ ∃ i : Fin 4,
      tuple.port = m64PortToPort game.ports i.val ∧
        ⟨i.val, tuple.frame, tuple.buttons⟩ ∈ updates)
    (hgot : ∀ i : Fin 4, keysRead [call] i =
      Network.deliveredBy returned (m64PortToPort game.ports i.val))
    (hreturned : ∃ value, call.ending = .returned value) :
    Runs game (e.record client (some impl) sent call)
      (s.update client handler none accepted written returned) where
  handler := by
    intro other
    by_cases hother : other = client
    · subst hother
      rw [Network.update_handler_self]
      exact ⟨impl, Function.update_self .., hhandler⟩
    · rw [Network.update_handler_of_ne hother]
      obtain ⟨impl', himpl', hhandler'⟩ := h.handler other
      exact ⟨impl', (Function.update_of_ne hother ..).trans himpl', hhandler'⟩
  waiting := by
    intro other
    by_cases hother : other = client
    · subst hother
      exact Network.update_waiting_self
    · exact (Function.update_of_ne hother ..).trans (h.waiting other)
  written := by
    intro other
    by_cases hother : other = client
    · subst hother
      simp only [Network.update_written_self, record, Function.update_self, h.written, hwritten,
        keysSent, List.flatMap_append]
    · rw [Network.update_written_of_ne hother, h.written]
      simp only [record, Function.update_of_ne hother]
  put := by
    intro other tuple htuple
    rcases Network.mem_accepted_update.mp htuple with hold | ⟨rfl, hnew⟩
    · obtain ⟨updates, ending, hcall, hi⟩ := h.put other tuple hold
      refine ⟨updates, ending, ?_, hi⟩
      by_cases hother : other = client
      · subst hother
        simp only [record, Function.update_self]
        exact List.mem_append_left _ hcall
      · simp only [record, Function.update_of_ne hother]
        exact hcall
    · obtain ⟨updates, ending, rfl, hi⟩ := hput tuple hnew
      refine ⟨updates, ending, ?_, hi⟩
      simp only [record, Function.update_self]
      exact List.mem_append_right _ (List.mem_singleton_self _)
  got := by
    intro other i
    by_cases hother : other = client
    · subst hother
      rw [Network.update_returned_self, Network.deliveredBy_append, ← h.got, ← hgot]
      simp only [record, Function.update_self, keysRead, List.filterMap_append]
    · rw [Network.update_returned_of_ne hother, ← h.got]
      simp only [record, Function.update_of_ne hother]
  returned := by
    intro other call' hcall'
    by_cases hother : other = client
    · subst hother
      simp only [record, Function.update_self] at hcall'
      rcases List.mem_append.mp hcall' with hold | hnew
      · exact h.returned other call' hold
      · cases List.mem_singleton.mp hnew
        exact hreturned
    · simp only [record, Function.update_of_ne hother] at hcall'
      exact h.returned other call' hcall'
  table := h.table

end Runs

/-! ### What the emulators get -/

section Keys

variable {coder : ButtonCoder ButtonsType} {game : Game ι} {e : Emulators ι ButtonsType}
  {s : Network ι ButtonsType}

/-- What two emulators have got for a controller. -/
theorem Runs.prefix_or [Inhabited ButtonsType] (h : Runs game e s)
    (hinv : Network.Inv game coder s) (hordered : Network.Ordered s) (hlossless : coder.Lossless)
    (i : Fin 4) (client client' : ι) :
    keysRead (e.calls client) i <+: keysRead (e.calls client') i ∨
      keysRead (e.calls client') i <+: keysRead (e.calls client) i := by
  rw [h.got, h.got]
  by_cases hport : m64PortToPort game.ports i.val ∈ game.connectedPorts.map ConnectedPortPB.port
  · obtain ⟨connectedPort, hconnected, hport⟩ := List.mem_map.mp hport
    rw [← hport]
    exact (hinv.begins hordered hlossless hconnected client).prefix_or
      (hinv.begins hordered hlossless hconnected client')
  · rw [hinv.deliveredBy_eq_nil hport client]
    exact Or.inl List.nil_prefix

variable [DecidableEq ι]

end Keys

/-! ### Two emulators -/

end Emulators

end Session
end Netplay
