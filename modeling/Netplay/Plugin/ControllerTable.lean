import Netplay.Client.StartMessage
import Netplay.Plugin.PluginImpl

/-!
# The controller table

`PermuteNetplayControllers` writes an entry for each local and each remote port,
at the index that `PortToM64Port` gives the port.  Nothing on the way from the
server to this function asks whether a port is one of the four that have an
entry, so the writes stay inside the table exactly if the server connects no
other port (`permuteNetplayControllers_inTable_iff`).
-/

namespace Netplay
namespace Plugin

open Client EventStreamHandler

variable {ButtonsType : Type*}

theorem NetplayInfo.setController_isSome_iff (info : NetplayInfo) (index : Int)
    (controller : NetplayController) :
    (info.setController index controller).isSome = true ↔ 0 ≤ index ∧ index < 4 := by
  unfold setController
  split_ifs with hindex
  · simp [hindex]
  · simp [hindex]

/-- A loop writes to the controller table and nothing else. -/
theorem NetplayInfo.setControllers_frame {ports : PortEnum}
    {entries : List (Port × NetplayController)} {info info' : NetplayInfo}
    (h : info.setControllers ports entries = some info') :
    info'.enabled = info.enabled ∧ info'.controls = info.controls := by
  induction entries generalizing info with
  | nil =>
      cases h
      exact ⟨rfl, rfl⟩
  | cons entry rest ih =>
      obtain ⟨port, controller⟩ := entry
      rw [setControllers, setController] at h
      split_ifs at h with hindex
      obtain ⟨henabled, hcontrols⟩ := @ih { info with netplayControls := _ } h
      exact ⟨henabled, hcontrols⟩

/-- A loop gets through exactly if all its ports have an entry. -/
theorem NetplayInfo.setControllers_isSome_iff (ports : PortEnum)
    (entries : List (Port × NetplayController)) (info : NetplayInfo) :
    (info.setControllers ports entries).isSome = true ↔
      ∀ entry ∈ entries, InTable ports entry.1 := by
  induction entries generalizing info with
  | nil => simp [setControllers]
  | cons entry rest ih =>
      obtain ⟨port, controller⟩ := entry
      have hindex := info.setController_isSome_iff (portToM64Port ports port) controller
      rw [portToM64Port_mem_iff] at hindex
      rw [setControllers, List.forall_mem_cons]
      cases hset : info.setController (portToM64Port ports port) controller with
      | none =>
          rw [hset] at hindex
          constructor
          · rintro ⟨⟩
          · rintro ⟨hin, -⟩
            exact absurd (hindex.mpr hin) Bool.false_ne_true
      | some info' =>
          rw [hset] at hindex
          exact (ih info').trans ⟨fun hrest => ⟨hindex.mp rfl, hrest⟩, And.right⟩

/-- Two loops in a row write what one over both lists writes. -/
theorem NetplayInfo.setControllers_append (ports : PortEnum)
    (entries later : List (Port × NetplayController)) (info : NetplayInfo) :
    info.setControllers ports (entries ++ later) =
      (info.setControllers ports entries).bind fun info => info.setControllers ports later := by
  induction entries generalizing info with
  | nil => rfl
  | cons entry rest ih =>
      obtain ⟨port, controller⟩ := entry
      rw [List.cons_append, setControllers, setControllers]
      cases info.setController (portToM64Port ports port) controller with
      | none => rfl
      | some info' => exact ih info'

/-- The entries that the two loops of `PermuteNetplayControllers` write. -/
def permutedControllers (handler : EventStreamHandler ButtonsType) (info : NetplayInfo) :
    List (Port × NetplayController) :=
  localControllers handler info.availableChannels ++ remoteControllers handler

theorem permuteNetplayControllers_eq (ports : PortEnum)
    (handler : EventStreamHandler ButtonsType) (requestedPorts : List Port) (info : NetplayInfo) :
    permuteNetplayControllers ports handler requestedPorts info =
      if info.availableChannels.length ≠ handler.localPorts.size then some (false, info)
      else (info.setControllers ports (permutedControllers handler info)).map (true, ·) := by
  rw [permuteNetplayControllers, permutedControllers, NetplayInfo.setControllers_append]
  by_cases hchannels : info.availableChannels.length ≠ handler.localPorts.size
  · simp only [if_pos hchannels]
  · simp only [if_neg hchannels]
    cases info.setControllers ports (localControllers handler info.availableChannels) with
    | none => rfl
    | some info' =>
        simp only [Option.bind_some]
        cases info'.setControllers ports (remoteControllers handler) with
        | none => rfl
        | some info' => rfl

/-- When the function fails it has not written anything. -/
theorem eq_of_permuteNetplayControllers_false {ports : PortEnum}
    {handler : EventStreamHandler ButtonsType} {requestedPorts : List Port}
    {info info' : NetplayInfo}
    (h : permuteNetplayControllers ports handler requestedPorts info = some (false, info')) :
    info' = info := by
  rw [permuteNetplayControllers_eq] at h
  split_ifs at h with hchannels
  · cases h
    rfl
  · obtain ⟨permuted, -, hpair⟩ := Option.map_eq_some_iff.mp h
    cases hpair

theorem permuteNetplayControllers_frame {ports : PortEnum}
    {handler : EventStreamHandler ButtonsType} {requestedPorts : List Port}
    {info permuted : NetplayInfo}
    (h : permuteNetplayControllers ports handler requestedPorts info = some (true, permuted)) :
    permuted.enabled = info.enabled ∧ permuted.controls = info.controls := by
  rw [permuteNetplayControllers_eq] at h
  split_ifs at h with hchannels
  · cases h
  · obtain ⟨_, hset, hpair⟩ := Option.map_eq_some_iff.mp h
    cases hpair
    exact NetplayInfo.setControllers_frame hset

/-- The indices at which the two loops access the table. -/
def accessedIndices (ports : PortEnum) (handler : EventStreamHandler ButtonsType)
    (info : NetplayInfo) : List Int :=
  if info.availableChannels.length ≠ handler.localPorts.size then
    []
  else
    (permutedControllers handler info).map fun entry => portToM64Port ports entry.1

/-- The function gets to its end exactly if no access is outside the table. -/
theorem permuteNetplayControllers_isSome_iff (ports : PortEnum)
    (handler : EventStreamHandler ButtonsType) (requestedPorts : List Port) (info : NetplayInfo) :
    (permuteNetplayControllers ports handler requestedPorts info).isSome = true ↔
      ∀ index ∈ accessedIndices ports handler info, 0 ≤ index ∧ index < 4 := by
  rw [permuteNetplayControllers_eq, accessedIndices]
  split_ifs with hchannels
  · simp
  · rw [Option.isSome_map, NetplayInfo.setControllers_isSome_iff, List.forall_mem_map]
    simp only [portToM64Port_mem_iff]

/-- With a channel for each local port, the ports whose entries are written are
the local and the remote ones. -/
theorem map_fst_permutedControllers {handler : EventStreamHandler ButtonsType}
    {info : NetplayInfo} (h : info.availableChannels.length = handler.localPorts.size) :
    (permutedControllers handler info).map Prod.fst =
      handler.localPorts.toList ++ handler.remotePorts.toList := by
  have hlength : handler.localPorts.toList.length ≤ info.availableChannels.length := by
    rw [Std.ExtTreeSet.length_toList, h]
  unfold permutedControllers localControllers remoteControllers
  rw [List.map_append, List.map_map, List.map_map]
  exact congrArg₂ _ (List.map_snd_zip hlength) (List.map_id _)

/-- A started handler writes the entries of the connected ports, and of no other. -/
theorem accessedIndices_inTable_iff {ports : PortEnum} {connectedPorts : List ConnectedPortPB}
    {handler : EventStreamHandler ButtonsType} (hstarted : Started ports connectedPorts handler)
    (info : NetplayInfo) :
    (∀ index ∈ accessedIndices ports handler info, 0 ≤ index ∧ index < 4) ↔
      info.availableChannels.length ≠ handler.localPorts.size ∨
        ∀ connectedPort ∈ connectedPorts, InTable ports connectedPort.port := by
  unfold accessedIndices
  by_cases hchannels : info.availableChannels.length = handler.localPorts.size
  · rw [if_neg (not_not.mpr hchannels)]
    have hports := map_fst_permutedControllers hchannels
    have hindices : (permutedControllers handler info).map
        (fun entry => portToM64Port ports entry.1) =
          (handler.localPorts.toList ++ handler.remotePorts.toList).map (portToM64Port ports) := by
      rw [← hports, List.map_map]
      rfl
    rw [hindices, List.forall_mem_map]
    simp only [portToM64Port_mem_iff, hchannels, ne_eq, not_true_eq_false, false_or,
      List.mem_append, Std.ExtTreeSet.mem_toList, hstarted.mem_remotePorts]
    constructor
    · intro hall connectedPort hconnected
      apply hall
      by_cases hlocal : connectedPort.port ∈ handler.localPorts
      · exact Or.inl hlocal
      · exact Or.inr ⟨List.mem_map_of_mem hconnected, hlocal⟩
    · intro hall port hport
      have hlisted : port ∈ connectedPorts.map ConnectedPortPB.port := by
        rcases hport with hlocal | ⟨hlisted, -⟩
        · exact hstarted.local_connected port hlocal
        · exact hlisted
      obtain ⟨connectedPort, hconnected, rfl⟩ := List.mem_map.mp hlisted
      exact hall connectedPort hconnected
  · rw [if_pos hchannels]
    simp [hchannels]

/-- When the function succeeds. -/
theorem permuteNetplayControllers_eq_true_iff {ports : PortEnum}
    {connectedPorts : List ConnectedPortPB} {handler : EventStreamHandler ButtonsType}
    (hstarted : Started ports connectedPorts handler) (requestedPorts : List Port)
    (info : NetplayInfo) :
    (∃ permuted, permuteNetplayControllers ports handler requestedPorts info =
        some (true, permuted)) ↔
      info.availableChannels.length = handler.localPorts.size ∧
        ∀ connectedPort ∈ connectedPorts, InTable ports connectedPort.port := by
  have hinside := permuteNetplayControllers_isSome_iff ports handler requestedPorts info
  rw [accessedIndices_inTable_iff hstarted, permuteNetplayControllers_eq] at hinside
  rw [permuteNetplayControllers_eq]
  by_cases hchannels : info.availableChannels.length = handler.localPorts.size
  · simp only [hchannels, ne_eq, not_true_eq_false, false_or, if_false, true_and,
      Option.isSome_map] at hinside ⊢
    rw [← hinside, Option.isSome_iff_exists]
    simp
  · simp [hchannels]

/-- The handler of a client holds each of the client's ports once. -/
theorem size_localPorts_of_make {ports : PortEnum} {client : NetplayClient}
    {handler : EventStreamHandler ButtonsType}
    (h : client.makeEventStreamHandler ports = some handler) :
    handler.localPorts.size = client.localPorts.length := by
  obtain ⟨hconstructible, rfl⟩ :=
    (NetplayClient.makeEventStreamHandler_eq_some_iff rfl).mp h
  exact OrderedSet.size_ofList_eq_length_iff.mpr hconstructible.nodup

/-- **What the server can make the plugin write to.**  After everything that
`PlugControllers`, the constructor of the handler and `WaitForConsoleStart` check,
all accesses to the controller table are inside it exactly if the plugin has another
number of input channels than ports, or the server connects none but the four ports
that have an entry. -/
theorem permuteNetplayControllers_inTable_iff {ports : PortEnum} {client : NetplayClient}
    {call : NetplayClient.PlugCall} {handler started : EventStreamHandler ButtonsType}
    {event : IncomingEventPB} {startGame : StartGamePB}
    (hplug : (call.run client).ok = true)
    (hmade : (call.run client).client.makeEventStreamHandler ports = some handler)
    (writeOk : Bool) (hevent : event.startGame = some startGame)
    (hwait : (handler.clientReady writeOk).2.2.waitForConsoleStart ports (some event) =
      (true, started))
    (requestedPorts : List Port) (info : NetplayInfo) :
    ((∀ index ∈ accessedIndices ports started info, 0 ≤ index ∧ index < 4) ∧
        permuteNetplayControllers ports started requestedPorts info ≠ none) ↔
      info.availableChannels.length ≠ (client.localPorts ++ call.grantedPorts).length ∨
        ∀ connectedPort ∈ startGame.connectedPorts, InTable ports connectedPort.port := by
  have hunstarted : Unstarted ports (handler.clientReady writeOk).2.2 :=
    .clientReady (.construct hmade) writeOk
  have hstarted : Started ports startGame.connectedPorts started :=
    StartedBy.started ⟨_, event, startGame, hunstarted, hevent, rfl, hwait⟩
  have hsize : started.localPorts.size = (client.localPorts ++ call.grantedPorts).length := by
    have hlocal :=
      (waitForConsoleStart_sameClient hunstarted.consoleId_pos ports (some event)).localPorts
    have hgrant := call.run_grant client
    rw [if_pos ((call.run_ok_iff client).mp hplug)] at hgrant
    rw [hwait] at hlocal
    rw [show started.localPorts = handler.localPorts from hlocal, size_localPorts_of_make hmade]
    exact congrArg (fun grant => grant.ports.length) hgrant
  rw [← Option.isSome_iff_ne_none, permuteNetplayControllers_isSome_iff, and_self,
    accessedIndices_inTable_iff hstarted, hsize]

/-- A client that is granted this port. -/
def plugPort (port : Port) : NetplayClient.PlugCall :=
  ⟨1, "", [5], some { status := .success, consoleId := 1, clientId := 7, port := [port] }⟩

/-- The console starts with this port alone. -/
def startPort (port : Port) : IncomingEventPB :=
  { startGame := some ⟨1, [⟨port, 1⟩]⟩ }

/-- The handler for this port. -/
def portHandler (port : Port) : EventStreamHandler Int :=
  NetplayClient.freshHandler 1 7 [port] [.plugControllerRequest, .plugControllerResponse]

/-- One input controller, and an empty controller table. -/
def oneController : NetplayInfo where
  enabled := 0
  controls := #v[{ present := 1 }, {}, {}, {}]
  netplayControls := Vector.replicate 4 NetplayController.absent

theorem permuteNetplayControllers_inTable_portOne :
    (∀ index ∈ accessedIndices portNumbers
        (((portHandler 1).clientReady true).2.2.waitForConsoleStart portNumbers
          (some (startPort 1))).2 oneController, 0 ≤ index ∧ index < 4) ∧
      permuteNetplayControllers portNumbers
        (((portHandler 1).clientReady true).2.2.waitForConsoleStart portNumbers
          (some (startPort 1))).2 [5] oneController ≠ none := by
  have hplug : ((plugPort 1).run (.make 0)).ok = true := by decide
  have hmade : ((plugPort 1).run (.make 0)).client.makeEventStreamHandler portNumbers =
      some (portHandler 1) := by
    decide
  have hwait : ((portHandler 1).clientReady true).2.2.waitForConsoleStart portNumbers
      (some (startPort 1)) = (true, (((portHandler 1).clientReady true).2.2.waitForConsoleStart
        portNumbers (some (startPort 1))).2) :=
    Prod.ext (by decide) rfl
  exact (permuteNetplayControllers_inTable_iff hplug hmade true rfl hwait [5]
    oneController).mpr (Or.inr (by decide))

/-- A port that the enum calls `UNKNOWN` is accepted all the way, and makes the
plugin write before the table. -/
theorem permuteNetplayControllers_not_inTable :
    ¬ ∀ (ports : PortEnum) (client : NetplayClient) (call : NetplayClient.PlugCall)
      (handler started : EventStreamHandler Int) (event : IncomingEventPB),
      (call.run client).ok = true →
      (call.run client).client.makeEventStreamHandler ports = some handler →
      (handler.clientReady true).2.2.waitForConsoleStart ports (some event) = (true, started) →
      ∀ info, ∀ index ∈ accessedIndices ports started info, 0 ≤ index ∧ index < 4 := by
  intro h
  have hwait : ((portHandler 0).clientReady true).2.2.waitForConsoleStart portNumbers
      (some (startPort 0)) = (true, (((portHandler 0).clientReady true).2.2.waitForConsoleStart
        portNumbers (some (startPort 0))).2) :=
    Prod.ext (by decide) rfl
  have hinside := h portNumbers (.make 0) (plugPort 0) (portHandler 0) _ (startPort 0)
    (by decide) (by decide) hwait oneController (-1) (by decide)
  exact absurd hinside.1 (by decide)

end Plugin
end Netplay
