import Netplay.Client.LifeCycle
import Netplay.Foundations.MachineInt
import Netplay.Plugin.Coder
import Netplay.Plugin.Library

/-!
# The ids on their way to the stream

`NetplayClient` carries the ids of console and client as `int64_t`, the constructor of
the handler and `StartGame` take them as `int`, and so does `MakeConsole` for the id of a
console that it creates.  The handler writes and compares what it was given, in whatever
order its methods are called (`EventStreamHandler.keepsIds`), and `StartGame` is asked for
what the dialogue handed out (`mem_plugAndStart_sent_iff`), so the ids arrive exactly if they
survive the conversions (`keepsIds_iff`).
-/

namespace Netplay
namespace Client

/-- What the conversion leaves alone. -/
theorem toInt_eq_self_iff_isInt {x : Int} : toInt x = x ↔ IsInt x := by
  rw [toInt_eq_self_iff]
  unfold IsInt
  omega

namespace EventStreamHandler

variable {ButtonsType : Type*} [Inhabited ButtonsType]

/-- Whatever is called on the handler, it gets ready as this client of this console,
writes key presses of this console, and waits for its start. -/
structure KeepsIds (ports : PortEnum) (coder : ButtonCoder ButtonsType)
    (consoleId clientId : Int) (handler : EventStreamHandler ButtonsType) : Prop where
  clientReady : ∀ calls writeOk,
    ((HandlerCall.runAll coder ports calls handler).clientReady writeOk).2.1.clientReady =
      some ⟨consoleId, clientId⟩
  keyPress : ∀ calls tuples writeOk,
    ∀ event ∈ ((HandlerCall.runAll coder ports calls handler).putButtons coder tuples
      writeOk).written, ∀ key ∈ event.keyPress, key.consoleId = consoleId
  startGame : ∀ calls read,
    ((HandlerCall.runAll coder ports calls handler).waitForConsoleStart ports read).1 = true ↔
      ∃ event startGame, read = some event ∧ event.hasStopConsole = false ∧
        event.startGame = some startGame ∧
        startGame.WellFormed ports consoleId handler.localPorts

omit [Inhabited ButtonsType] in
/-- The key presses of a call are those of the handler's console. -/
theorem consoleId_of_written {coder : ButtonCoder ButtonsType} (hheader : coder.KeepsHeader)
    {tuples : List (ButtonsFrameTuple ButtonsType)} {writeOk : Bool}
    {handler : EventStreamHandler ButtonsType} {event : OutgoingEventPB}
    (hevent : event ∈ (handler.putButtons coder tuples writeOk).written) {key : KeyStatePB}
    (hkey : key ∈ event.keyPress) : key.consoleId = handler.consoleId := by
  have hspec := putButtons_spec coder tuples writeOk handler
  have hwrites : (handler.putButtons coder tuples writeOk).status = .success ∨
      (handler.putButtons coder tuples writeOk).status = .failedToTransmitRemote := by
    by_contra hnot
    obtain ⟨hsuccess, hfailed⟩ := not_or.mp hnot
    rw [(hspec.not_written hsuccess hfailed).1] at hevent
    cases hevent
  obtain ⟨-, keys, hwritten, hencodes⟩ := hspec.written hwrites
  rw [hwritten, keyPressEvents] at hevent
  split_ifs at hevent
  · cases hevent
  · obtain rfl := List.mem_singleton.mp hevent
    obtain ⟨tuple, -, -, hencode⟩ := forall₂_mem_right hencodes hkey
    exact (hheader hencode).1

/-- A handler keeps the ids that it was given. -/
theorem keepsIds {coder : ButtonCoder ButtonsType} (hheader : coder.KeepsHeader)
    {handler : EventStreamHandler ButtonsType} (hid : 0 < handler.consoleId)
    (ports : PortEnum) : KeepsIds ports coder handler.consoleId handler.clientId handler := by
  have hsame := HandlerCall.runAll_sameClient hid coder ports
  refine ⟨?_, ?_, ?_⟩
  · intro calls writeOk
    rw [← (hsame calls).consoleId, ← (hsame calls).clientId]
    rfl
  · intro calls tuples writeOk event hevent key hkey
    rw [← (hsame calls).consoleId]
    exact consoleId_of_written hheader hevent hkey
  · intro calls read
    have hpos : 0 < (HandlerCall.runAll coder ports calls handler).consoleId := by
      rw [(hsame calls).consoleId]
      exact hid
    rw [waitForConsoleStart_eq_true_iff hpos, (hsame calls).startsConsole_iff]
    rfl

end EventStreamHandler
end Client

namespace Plugin

open Client EventStreamHandler

variable {ButtonsType : Type*} [Inhabited ButtonsType]

omit [Inhabited ButtonsType] in
/-- The ids that the constructor is given after a `PlugControllers` that returns true. -/
theorem ids_of_made {ports : PortEnum} {client : NetplayClient} {call : NetplayClient.PlugCall}
    {response : PlugControllerResponsePB} {handler : EventStreamHandler ButtonsType}
    (hok : (call.run client).ok = true) (hresponse : call.response = some response)
    (hmade : (call.run client).client.makeEventStreamHandler ports = some handler) :
    handler.consoleId = toInt call.consoleId ∧ handler.clientId = toInt response.clientId ∧
      0 < handler.consoleId := by
  have hgrant := call.run_grant client
  rw [if_pos ((call.run_ok_iff client).mp hok)] at hgrant
  obtain ⟨hconstructible, rfl⟩ :=
    (NetplayClient.makeEventStreamHandler_eq_some_iff hgrant).mp hmade
  refine ⟨rfl, ?_, hconstructible.consoleId_pos⟩
  show toInt call.granted.clientId = toInt response.clientId
  rw [NetplayClient.PlugCall.granted, hresponse]

/-! ### The console that the user created -/

/-- The user asks for a new console, the server creates `created`, and the dialogue hands out
`consoleId` for it. -/
structure Creates (env : Environment) (created consoleId : Int) : Prop where
  answered : userAnswer env.cin = some .create
  made : ∃ response, env.makeConsole = some response ∧ response.status = .success ∧
    response.consoleId = created
  chosen : chosenConsoleId env .create = some ⟨consoleId, true⟩

/-- What is handed out has been an `int`. -/
theorem Creates.consoleId_eq {env : Environment} {created consoleId : Int}
    (h : Creates env created consoleId) : consoleId = toInt created := by
  obtain ⟨response, hmade, hstatus, rfl⟩ := h.made
  have hchosen := h.chosen
  simp only [chosenConsoleId, hmade, hstatus, if_true] at hchosen
  cases hchosen
  rfl

theorem Creates.interactiveConfig {env : Environment} {created consoleId : Int}
    (h : Creates env created consoleId) (configHandler : ConfigHandler) (goodname md5 : String) :
    (interactiveConfig configHandler goodname md5 env).createdConsole = true ∧
      (interactiveConfig configHandler goodname md5 env).consoleId = ⟨consoleId, true⟩ ∧
        OnlyMakesConsole (interactiveConfig configHandler goodname md5 env).sent := by
  have hstep := interactiveConfig_step configHandler goodname md5 env
  generalize Plugin.interactiveConfig configHandler goodname md5 env = config at hstep
  cases hstep with
  | unanswered hanswer => cases hanswer.symm.trans h.answered
  | notMade _ hnone _ => cases hnone.symm.trans h.chosen
  | chosen hanswer hchosen hsent =>
      cases hanswer.symm.trans h.answered
      cases hchosen.symm.trans h.chosen
      exact ⟨rfl, rfl, hsent⟩

/-- However `InitiateNetplay` goes on after the dialogue in `env` with this call of
`PlugControllers`, it asks for the start of this console only. -/
def StartsOnly (ButtonsType : Type*) (ports : PortEnum) (client : NetplayClient)
    (call : NetplayClient.PlugCall) (env : Environment) (console : Int) : Prop :=
  ∀ (impl : PluginImpl ButtonsType) (info : NetplayInfo) (goodname : String)
    (later : Environment) (request : StartGameRequestPB), impl.client = client →
    later.plugController = call.response →
    .startGame request ∈ (impl.plugAndStart ports info call.romMd5
      (interactiveConfig impl.configHandler goodname call.romMd5 env) call.localPorts
      later).sent →
    request.consoleId = console

omit [Inhabited ButtonsType] in
/-- With the call that made the handler, `InitiateNetplay` goes on to `ClientReady`. -/
theorem plugAndStart_eq_startSession {ports : PortEnum} {impl : PluginImpl ButtonsType}
    {call : NetplayClient.PlugCall} {handler : EventStreamHandler ButtonsType}
    (hok : (call.run impl.client).ok = true)
    (hmade : (call.run impl.client).client.makeEventStreamHandler ports = some handler)
    {config : InteractiveConfigResult} (hid : config.consoleId.value = call.consoleId)
    {later : Environment} (hlater : later.plugController = call.response) (info : NetplayInfo) :
    impl.plugAndStart ports info call.romMd5 config call.localPorts later =
      PluginImpl.startSession ports { impl with client := (call.run impl.client).client } info
        config call.localPorts
        (config.sent ++ (call.run impl.client).request.toList.map Sent.plugController) handler
        later := by
  have hrun : impl.client.plugControllers config.consoleId.value call.romMd5 call.localPorts
      later.plugController = call.run impl.client := by rw [hid, hlater, NetplayClient.PlugCall.run]
  have htrue : ¬ (call.run impl.client).ok = false := by simp [hok]
  simp only [PluginImpl.plugAndStart, hrun, if_neg htrue, hmade]

omit [Inhabited ButtonsType] in
/-- After a dialogue that created a console, `StartGame` is asked for once `ClientReady` was
written, for what is left of the id that the dialogue handed out. -/
theorem mem_plugAndStart_sent_iff {ports : PortEnum} (impl : PluginImpl ButtonsType)
    {call : NetplayClient.PlugCall} {handler : EventStreamHandler ButtonsType}
    (hok : (call.run impl.client).ok = true)
    (hmade : (call.run impl.client).client.makeEventStreamHandler ports = some handler)
    {env : Environment} {created : Int} (hcreates : Creates env created call.consoleId)
    (later : Environment) (hlater : later.plugController = call.response) (info : NetplayInfo)
    (goodname : String) (request : StartGameRequestPB) :
    .startGame request ∈ (impl.plugAndStart ports info call.romMd5
        (interactiveConfig impl.configHandler goodname call.romMd5 env) call.localPorts
        later).sent ↔
      later.clientReadyOk = true ∧ request = startGameRequest call.consoleId := by
  obtain ⟨hcreated, hid, hsent⟩ :=
    hcreates.interactiveConfig impl.configHandler goodname call.romMd5
  generalize interactiveConfig impl.configHandler goodname call.romMd5 env = config
    at hcreated hid hsent
  have hvalue : config.consoleId.value = call.consoleId := by rw [hid]
  have hbefore : Sent.startGame request ∉
      config.sent ++ (call.run impl.client).request.toList.map Sent.plugController := by
    intro hmem
    rcases List.mem_append.mp hmem with hmem | hmem
    · obtain ⟨_, hmake⟩ := hsent _ hmem
      cases hmake
    · obtain ⟨_, -, hplug⟩ := List.mem_map.mp hmem
      cases hplug
  rw [plugAndStart_eq_startSession hok hmade hvalue hlater info,
    (Mupen64.startSession_leaves ..).sent_eq, List.mem_append, or_iff_right hbefore, hcreated,
    hvalue, Bool.true_and]
  cases later.clientReadyOk with
  | false => simp
  | true => simp

omit [Inhabited ButtonsType] in
/-- So the narrowed id has to be that of the console. -/
theorem startsOnly_iff {ports : PortEnum} {client : NetplayClient} {call : NetplayClient.PlugCall}
    {handler : EventStreamHandler ButtonsType} (hok : (call.run client).ok = true)
    (hmade : (call.run client).client.makeEventStreamHandler ports = some handler)
    {env : Environment} {created : Int} (hcreates : Creates env created call.consoleId)
    {console : Int} :
    StartsOnly ButtonsType ports client call env console ↔ toInt call.consoleId = console := by
  constructor
  · intro hstarts
    -- any plugin with this client will do, if its `ClientReady` gets through
    let impl : PluginImpl ButtonsType := ⟨PluginImpl.onePortConfig, client, none⟩
    let later : Environment :=
      { env with plugController := call.response, clientReadyOk := true }
    have hmem := (mem_plugAndStart_sent_iff impl hok hmade hcreates later rfl oneController ""
      (startGameRequest call.consoleId)).mpr ⟨rfl, rfl⟩
    exact hstarts impl oneController "" later _ rfl rfl hmem
  · rintro hsame impl info goodname later request rfl hlater hmem
    obtain ⟨-, rfl⟩ := (mem_plugAndStart_sent_iff impl hok hmade hcreates later hlater info
      goodname request).mp hmem
    exact hsame

/-- **When the ids survive.**  After a `PlugControllers` that returns true and the
construction of the handler, all messages name the console that was confirmed and the
client id that the server assigned, and if the user created the console, `StartGame` names the
one that the server created, exactly if these ids are `int`s. -/
theorem keepsIds_iff {ports : PortEnum} {coder : ButtonCoder ButtonsType}
    (hheader : coder.KeepsHeader) {client : NetplayClient} {call : NetplayClient.PlugCall}
    {response : PlugControllerResponsePB} {handler : EventStreamHandler ButtonsType}
    (hok : (call.run client).ok = true) (hresponse : call.response = some response)
    (hmade : (call.run client).client.makeEventStreamHandler ports = some handler)
    (env : Environment) :
    (KeepsIds ports coder call.consoleId response.clientId handler ∧
        (∀ cin later, (interactiveStartConsole call.consoleId cin later).2.2 =
          [.startGame ⟨call.consoleId⟩]) ∧
        ∀ created, Creates env created call.consoleId →
          StartsOnly ButtonsType ports client call env created) ↔
      IsInt call.consoleId ∧ IsInt response.clientId ∧
        ∀ created, Creates env created call.consoleId → IsInt created := by
  obtain ⟨hconsole, hclient, hid⟩ := ids_of_made hok hresponse hmade
  simp only [← toInt_eq_self_iff_isInt]
  rw [← hconsole, ← hclient]
  constructor
  · rintro ⟨hkeeps, -, hstarts⟩
    -- before any other call, `ClientReady` tells which ids the handler has
    have hready := Option.some.inj (hkeeps.clientReady [] true)
    have hsameConsole : handler.consoleId = call.consoleId :=
      congrArg ClientReadyPB.consoleId hready
    refine ⟨hsameConsole, congrArg ClientReadyPB.clientId hready, fun created hcreates => ?_⟩
    rw [← hcreates.consoleId_eq, ← hsameConsole, hconsole]
    exact (startsOnly_iff hok hmade hcreates).mp (hstarts created hcreates)
  · rintro ⟨hsameConsole, hsameClient, hsameCreated⟩
    refine ⟨?_, ?_, ?_⟩
    · rw [← hsameConsole, ← hsameClient]
      exact EventStreamHandler.keepsIds hheader hid ports
    · intro cin later
      rw [interactiveStartConsole, startGameRequest, ← hconsole, hsameConsole]
    · intro created hcreates
      refine (startsOnly_iff hok hmade hcreates).mpr ?_
      rw [← hconsole, hsameConsole, hcreates.consoleId_eq, hsameCreated created hcreates]

/-- A request for any port of this console, answered with port 1 for this client. -/
def plugIds (consoleId clientId : Int) : NetplayClient.PlugCall :=
  ⟨consoleId, "", [5],
    some { status := .success, consoleId := consoleId, clientId := clientId, port := [1] }⟩

/-- The handler with these ids. -/
def idsHandler (consoleId clientId : Int) : EventStreamHandler Buttons :=
  NetplayClient.freshHandler consoleId clientId [1]
    [.plugControllerRequest, .plugControllerResponse]

/-- The user creates a console, which the server calls `created`, and starts it. -/
def creating (created : Int) : Environment where
  cin := { chars := ['y', '\n', '\n'] }
  indeterminate := 0
  makeConsole := some { status := .success, consoleId := created }
  plugController :=
    some { status := .success, consoleId := toInt created, clientId := 7, port := [1] }
  startGame := some { status := .success }
  clientReadyOk := true
  startGameEvent := none

theorem keepsIds_iff_one :
    KeepsIds portNumbers mupen64ButtonCoder 1 7 (idsHandler 1 7) ∧
      StartsOnly Buttons portNumbers (.make 0) (plugIds 1 7) (creating 1) 1 := by
  have hok : ((plugIds 1 7).run (.make 0)).ok = true := by decide
  have hmade : ((plugIds 1 7).run (.make 0)).client.makeEventStreamHandler portNumbers =
      some (idsHandler 1 7) := by
    decide
  have hcreates : Creates (creating 1) 1 1 := ⟨by decide, ⟨_, rfl, rfl, rfl⟩, by decide⟩
  have hcreated : ∀ created, Creates (creating 1) created 1 → IsInt created := by
    intro created hother
    obtain ⟨response, hresponse, -, rfl⟩ := hother.made
    cases hresponse
    decide
  obtain ⟨hkeeps, -, hstarts⟩ := (keepsIds_iff Mupen64ButtonCoder.keepsHeader hok rfl hmade
    (creating 1)).mpr ⟨by decide, by decide, hcreated⟩
  exact ⟨hkeeps, hstarts 1 hcreates⟩

/-- Console 4294967301 is created, and console 5 is started. -/
example : (PluginImpl.initiateNetplay portNumbers PluginImpl.freshImpl oneController "" ""
    (creating 4294967301)).sent.getLast? = some (.startGame ⟨5⟩) := by
  decide

/-- The handler for console 4294967297 gets ready for console 1, and when console 4294967301
was created, the start of another one is asked for. -/
theorem not_keepsIds :
    (¬ ∀ (ports : PortEnum) (coder : ButtonCoder Buttons) (client : NetplayClient)
      (call : NetplayClient.PlugCall) (response : PlugControllerResponsePB)
      (handler : EventStreamHandler Buttons), coder.KeepsHeader →
      (call.run client).ok = true → call.response = some response →
      (call.run client).client.makeEventStreamHandler ports = some handler →
        KeepsIds ports coder call.consoleId response.clientId handler) ∧
      Creates (creating 4294967301) 4294967301 5 ∧
        ¬ StartsOnly Buttons portNumbers (.make 0) (plugIds 5 7) (creating 4294967301)
          4294967301 := by
  refine ⟨fun h => ?_, ?_⟩
  · have hmade : ((plugIds 4294967297 7).run (.make 0)).client.makeEventStreamHandler
        portNumbers = some (idsHandler 1 7) := by
      decide
    have hkeeps := h portNumbers mupen64ButtonCoder (.make 0) (plugIds 4294967297 7) _
      (idsHandler 1 7) Mupen64ButtonCoder.keepsHeader (by decide) rfl hmade
    have hready := Option.some.inj (hkeeps.clientReady [] true)
    have hconsole : (1 : Int) = 4294967297 := congrArg ClientReadyPB.consoleId hready
    exact absurd hconsole (by decide)
  · have hmade : ((plugIds 5 7).run (.make 0)).client.makeEventStreamHandler portNumbers =
        some (idsHandler 5 7) := by
      decide
    have hcreates : Creates (creating 4294967301) 4294967301 5 :=
      ⟨by decide, ⟨_, rfl, rfl, rfl⟩, by decide⟩
    refine ⟨hcreates, fun hstarts => ?_⟩
    have hsame : toInt 5 = 4294967301 := (startsOnly_iff (by decide) hmade hcreates).mp hstarts
    exact absurd hsame (by decide)

end Plugin
end Netplay
