import Mathlib.Order.Fin.Basic
import Netplay.Foundations.SortedPairing
import Netplay.Client.CallRun
import Netplay.Plugin.Launch

/-!
# What the controller table says about a session

`PermuteNetplayControllers` fills the table in two loops, after everything that can fail.
Entry `i` belongs to one port; `MatchesSession` says what it has to hold for the ports
that were granted, the ports that the start message connects, and the channels of the
input plugin.

* `get_setControllers`: what a loop over different ports leaves in an entry.
* `Permuted.channel_iff`: local ports are paired with the channels in order.
* `session_table`: the table that `InitiateNetplay` leaves.
-/

namespace Netplay
namespace Plugin

open Client EventStreamHandler

variable {ButtonsType : Type*}

/-! ### The entries of ports -/

/-- An index belongs to the port that it is translated to. -/
theorem portToM64Port_eq_iff (ports : PortEnum) (port : Port) (i : Fin 4) :
    portToM64Port ports port = i.val ↔ port = m64PortToPort ports i.val := by
  constructor
  · intro hindex
    unfold portToM64Port at hindex
    split_ifs at hindex with hport hport hport hport
    · rw [hport, ← hindex]
      rfl
    · rw [hport, ← hindex]
      rfl
    · rw [hport, ← hindex]
      rfl
    · rw [hport, ← hindex]
      rfl
  · rintro rfl
    have hdistinct := ports.distinct
    simp only [List.nodup_cons, List.mem_cons, List.not_mem_nil, or_false, not_or] at hdistinct
    obtain ⟨-, -, ⟨h12, h13, h14⟩, ⟨h23, h24⟩, h34, -⟩ := hdistinct
    match i with
    | 0 => exact if_pos rfl
    | 1 => exact (if_neg (Ne.symm h12)).trans (if_pos rfl)
    | 2 => exact (if_neg (Ne.symm h13)).trans ((if_neg (Ne.symm h23)).trans (if_pos rfl))
    | 3 =>
        exact (if_neg (Ne.symm h14)).trans
          ((if_neg (Ne.symm h24)).trans ((if_neg (Ne.symm h34)).trans (if_pos rfl)))

theorem inTable_iff (ports : PortEnum) (port : Port) :
    InTable ports port ↔ ∃ i : Fin 4, port = m64PortToPort ports i.val := by
  simp only [← portToM64Port_eq_iff, ← portToM64Port_mem_iff]
  constructor
  · rintro ⟨hlow, hhigh⟩
    exact ⟨⟨(portToM64Port ports port).toNat, by omega⟩, by simp; omega⟩
  · rintro ⟨i, hi⟩
    omega

namespace NetplayInfo

theorem get_clear (info : NetplayInfo) (enabled : Bool) (i : Fin 4) :
    (info.clear.setEnabled enabled).netplayControls.get i = .absent := by
  show (Vector.replicate 4 NetplayController.absent)[i.val] = .absent
  rw [Vector.getElem_replicate]

theorem get_setController {info info' : NetplayInfo} {index : Int}
    {controller : NetplayController} (h : info.setController index controller = some info')
    (i : Fin 4) :
    info'.netplayControls.get i =
      if index = i.val then controller else info.netplayControls.get i := by
  unfold setController at h
  split_ifs at h with hindex
  cases h
  have hsame : index.toNat = i.val ↔ index = i.val := by omega
  show (info.netplayControls.setIfInBounds index.toNat controller)[i.val] =
    if index = i.val then controller else info.netplayControls[i.val]
  simp only [Vector.getElem_setIfInBounds, hsame]

/-- A loop over different ports leaves each of them its entry and all other ports theirs. -/
theorem get_setControllers {ports : PortEnum} {entries : List (Port × NetplayController)}
    {info info' : NetplayInfo} (h : info.setControllers ports entries = some info')
    (hnodup : (entries.map Prod.fst).Nodup) (i : Fin 4) :
    (∀ controller, (m64PortToPort ports i.val, controller) ∈ entries →
        info'.netplayControls.get i = controller) ∧
      (m64PortToPort ports i.val ∉ entries.map Prod.fst →
        info'.netplayControls.get i = info.netplayControls.get i) := by
  induction entries generalizing info with
  | nil =>
      cases h
      exact ⟨nofun, fun _ => rfl⟩
  | cons entry rest ih =>
      obtain ⟨port, written⟩ := entry
      rw [setControllers] at h
      cases hset : info.setController (portToM64Port ports port) written with
      | none =>
          rw [hset] at h
          cases h
      | some first =>
          rw [hset] at h
          obtain ⟨hnew, hrest⟩ := List.nodup_cons.mp hnodup
          obtain ⟨hlater, hkept⟩ := ih h hrest
          have hfirst := get_setController hset i
          simp only [portToM64Port_eq_iff] at hfirst
          refine ⟨?_, ?_⟩
          · intro controller hmem
            rcases List.mem_cons.mp hmem with hhead | htail
            · cases hhead
              rw [hkept hnew, hfirst, if_pos rfl]
            · exact hlater controller htail
          · intro hnot
            rw [List.map_cons, List.mem_cons, not_or] at hnot
            rw [hkept hnot.2, hfirst, if_neg (Ne.symm hnot.1)]

/-! ### The channels -/

theorem mem_availableChannels {info : NetplayInfo} {channel : Int} :
    channel ∈ info.availableChannels ↔
      ∃ i : Fin 4, (info.controls.get i).present ≠ 0 ∧ (i.val : Int) = channel := by
  show channel ∈ info.availableChannels ↔
    ∃ i : Fin 4, info.controls[i.val].present ≠ 0 ∧ (i.val : Int) = channel
  simp [availableChannels, List.mem_filterMap]

theorem availableChannels_increasing (info : NetplayInfo) :
    info.availableChannels.Pairwise (· < ·) := by
  unfold availableChannels
  refine List.Pairwise.filterMap _ ?_ (List.pairwise_lt_finRange 4)
  intro i j hlt channel hi channel' hj
  simp only [Option.ite_none_right_eq_some, Option.some.injEq] at hi hj
  omega

end NetplayInfo

/-! ### What `PermuteNetplayControllers` leaves -/

theorem toList_increasing (localPorts : Std.ExtTreeSet Port) :
    localPorts.toList.Pairwise (· < ·) := by
  refine Std.ExtTreeSet.ordered_toList.imp ?_
  intro port port' h
  exact compare_lt_iff_lt.mp h

/-- The table of a handler with a channel for each local port. -/
structure Permuted (ports : PortEnum) (handler : EventStreamHandler ButtonsType)
    (info permuted : NetplayInfo) : Prop where
  channels : info.availableChannels.length = handler.localPorts.toList.length
  ofLocal : ∀ (i : Fin 4) channel,
    (channel, m64PortToPort ports i.val) ∈
        info.availableChannels.zip handler.localPorts.toList →
      permuted.netplayControls.get i =
        { present := 1
          remote := 0
          delay := handler.delayFramesForPort (m64PortToPort ports i.val)
          channel := channel }
  ofRemote : ∀ i : Fin 4, m64PortToPort ports i.val ∈ handler.remotePorts →
    permuted.netplayControls.get i =
      { present := 1
        remote := 1
        delay := handler.delayFramesForPort (m64PortToPort ports i.val)
        channel := -1 }
  ofNone : ∀ i : Fin 4, m64PortToPort ports i.val ∉ handler.localPorts →
    m64PortToPort ports i.val ∉ handler.remotePorts →
      permuted.netplayControls.get i = info.netplayControls.get i

theorem permuted_of_permuteNetplayControllers {ports : PortEnum}
    {handler : EventStreamHandler ButtonsType} {requestedPorts : List Port}
    {info permuted : NetplayInfo}
    (h : permuteNetplayControllers ports handler requestedPorts info = some (true, permuted)) :
    Permuted ports handler info permuted := by
  rw [permuteNetplayControllers_eq] at h
  split_ifs at h with hchannels
  · cases h
  rw [ne_eq, not_not] at hchannels
  obtain ⟨_, hset, hpair⟩ := Option.map_eq_some_iff.mp h
  cases hpair
  have hports := map_fst_permutedControllers hchannels
  have hnodup : ((permutedControllers handler info).map Prod.fst).Nodup := by
    rw [hports]
    refine List.nodup_append.mpr ⟨OrderedSet.nodup_toList _, OrderedSet.nodup_toList _, ?_⟩
    rintro port hlocal _ hremote rfl
    rw [Std.ExtTreeSet.mem_toList] at hlocal hremote
    exact (EventStreamHandler.mem_remotePorts.mp hremote).2 hlocal
  have hentry := NetplayInfo.get_setControllers hset hnodup
  refine ⟨by rw [hchannels, Std.ExtTreeSet.length_toList], ?_, ?_, ?_⟩
  · intro i channel hpaired
    refine (hentry i).1 _ (List.mem_append_left _ ?_)
    exact List.mem_map.mpr ⟨_, hpaired, rfl⟩
  · intro i hremote
    refine (hentry i).1 _ (List.mem_append_right _ ?_)
    exact List.mem_map.mpr ⟨_, Std.ExtTreeSet.mem_toList.mpr hremote, rfl⟩
  · intro i hlocal hremote
    refine (hentry i).2 ?_
    rw [hports, List.mem_append, Std.ExtTreeSet.mem_toList, Std.ExtTreeSet.mem_toList, not_or]
    exact ⟨hlocal, hremote⟩

/-- The channel of a local port is the one that is preceded by as many channels as the
port is by local ports. -/
theorem Permuted.channel_iff {ports : PortEnum} {handler : EventStreamHandler ButtonsType}
    {info permuted : NetplayInfo} (h : Permuted ports handler info permuted) {i : Fin 4}
    (hlocal : m64PortToPort ports i.val ∈ handler.localPorts) (channel : Int) :
    (permuted.netplayControls.get i).channel = channel ↔
      (channel, m64PortToPort ports i.val) ∈
        info.availableChannels.zip handler.localPorts.toList := by
  constructor
  · rintro rfl
    have hlisted : m64PortToPort ports i.val ∈
        (info.availableChannels.zip handler.localPorts.toList).map Prod.snd := by
      rw [List.map_snd_zip h.channels.ge]
      exact Std.ExtTreeSet.mem_toList.mpr hlocal
    obtain ⟨⟨channel, port⟩, hpaired, hport⟩ := List.mem_map.mp hlisted
    obtain rfl : port = m64PortToPort ports i.val := hport
    rw [h.ofLocal i channel hpaired]
    exact hpaired
  · intro hpaired
    rw [h.ofLocal i channel hpaired]

/-- Each channel is that of a local port. -/
theorem Permuted.exists_port {ports : PortEnum} {handler : EventStreamHandler ButtonsType}
    {info permuted : NetplayInfo} (h : Permuted ports handler info permuted) {channel : Int}
    (havailable : channel ∈ info.availableChannels) :
    ∃ port ∈ handler.localPorts,
      (channel, port) ∈ info.availableChannels.zip handler.localPorts.toList := by
  have hlisted : channel ∈
      (info.availableChannels.zip handler.localPorts.toList).map Prod.fst := by
    rw [List.map_fst_zip h.channels.le]
    exact havailable
  obtain ⟨⟨_, port⟩, hpaired, rfl⟩ := List.mem_map.mp hlisted
  exact ⟨port, Std.ExtTreeSet.mem_toList.mp (List.of_mem_zip hpaired).2, hpaired⟩

/-- Channels are in the order of the local ports. -/
theorem Permuted.channel_lt_iff {ports : PortEnum} {handler : EventStreamHandler ButtonsType}
    {info permuted : NetplayInfo} (h : Permuted ports handler info permuted) {i j : Fin 4}
    (hi : m64PortToPort ports i.val ∈ handler.localPorts)
    (hj : m64PortToPort ports j.val ∈ handler.localPorts) :
    (permuted.netplayControls.get i).channel < (permuted.netplayControls.get j).channel ↔
      m64PortToPort ports i.val < m64PortToPort ports j.val :=
  SortedPairing.lt_iff_of_mem_zip info.availableChannels_increasing (toList_increasing _)
    h.channels ((h.channel_iff hi _).mp rfl) ((h.channel_iff hj _).mp rfl)

/-- No two local ports have the same channel. -/
theorem Permuted.eq_of_channel_eq {ports : PortEnum} {handler : EventStreamHandler ButtonsType}
    {info permuted : NetplayInfo} (h : Permuted ports handler info permuted) {i j : Fin 4}
    (hi : m64PortToPort ports i.val ∈ handler.localPorts)
    (hj : m64PortToPort ports j.val ∈ handler.localPorts)
    (hsame : (permuted.netplayControls.get i).channel =
      (permuted.netplayControls.get j).channel) :
    i = j := by
  have hnotLt := (h.channel_lt_iff hi hj).not.mp (not_lt.mpr hsame.ge)
  have hnotGt := (h.channel_lt_iff hj hi).not.mp (not_lt.mpr hsame.le)
  have hport := le_antisymm (not_lt.mp hnotGt) (not_lt.mp hnotLt)
  have hindex := (portToM64Port_eq_iff ports _ j).mpr hport
  rw [(portToM64Port_eq_iff ports _ i).mpr rfl] at hindex
  exact Fin.ext (by omega)

/-- Local ports of a started handler that are all in the table have an entry. -/
theorem exists_entry {ports : PortEnum} {connectedPorts : List ConnectedPortPB}
    {handler : EventStreamHandler ButtonsType} (hstarted : Started ports connectedPorts handler)
    (hinTable : ∀ connectedPort ∈ connectedPorts, InTable ports connectedPort.port)
    {port : Port} (hlocal : port ∈ handler.localPorts) :
    ∃ i : Fin 4, port = m64PortToPort ports i.val := by
  obtain ⟨connectedPort, hconnected, rfl⟩ :=
    List.mem_map.mp (hstarted.local_connected port hlocal)
  exact (inTable_iff ports _).mp (hinTable connectedPort hconnected)

/-! ### The table of a session -/

/-- The enum numbers the four ports in increasing order. -/
def Increasing (ports : PortEnum) : Prop :=
  ports.port1 < ports.port2 ∧ ports.port2 < ports.port3 ∧ ports.port3 < ports.port4

instance (ports : PortEnum) : Decidable (Increasing ports) :=
  inferInstanceAs (Decidable (_ ∧ _ ∧ _))

/-- Greater entries belong to greater ports. -/
theorem Increasing.m64PortToPort_lt {ports : PortEnum} (h : Increasing ports) {i j : Fin 4}
    (hlt : i < j) : m64PortToPort ports i.val < m64PortToPort ports j.val := by
  obtain ⟨h12, h23, h34⟩ := h
  have hmono : StrictMono fun i : Fin 4 => m64PortToPort ports i.val := by
    refine Fin.strictMono_iff_lt_succ.mpr fun i => ?_
    match i with
    | 0 => exact h12
    | 1 => exact h23
    | 2 => exact h34
  exact hmono hlt

/-- The table of a session in which these ports were granted and those connected. -/
structure MatchesSession (ports : PortEnum) (info : NetplayInfo) (localPorts : List Port)
    (connectedPorts : List ConnectedPortPB) (controls : Vector NetplayController 4) : Prop where
  hasEntry : ∀ connectedPort ∈ connectedPorts,
    ∃ i : Fin 4, connectedPort.port = m64PortToPort ports i.val
  local_connected : ∀ port ∈ localPorts, port ∈ connectedPorts.map ConnectedPortPB.port
  ofLocal : ∀ i : Fin 4, ∀ connectedPort ∈ connectedPorts,
    connectedPort.port = m64PortToPort ports i.val → connectedPort.port ∈ localPorts →
      ∃ channel, controls.get i =
        { present := 1, remote := 0, delay := connectedPort.delayFrames, channel := channel }
  ofRemote : ∀ i : Fin 4, ∀ connectedPort ∈ connectedPorts,
    connectedPort.port = m64PortToPort ports i.val → connectedPort.port ∉ localPorts →
      controls.get i = { present := 1, remote := 1, delay := 0, channel := -1 }
  ofNone : ∀ i : Fin 4, m64PortToPort ports i.val ∉ connectedPorts.map ConnectedPortPB.port →
    controls.get i = .absent
  channels : ∀ channel, (∃ i : Fin 4, m64PortToPort ports i.val ∈ localPorts ∧
      (controls.get i).channel = channel) ↔
    ∃ j : Fin 4, (info.controls.get j).present ≠ 0 ∧ (j.val : Int) = channel
  increasing : ∀ i j : Fin 4, i < j → m64PortToPort ports i.val ∈ localPorts →
    m64PortToPort ports j.val ∈ localPorts → (controls.get i).channel < (controls.get j).channel

/-- A handler that was started fills the table for its session. -/
theorem Permuted.matchesSession {ports : PortEnum} (hincreasing : Increasing ports)
    {handler : EventStreamHandler ButtonsType} {info permuted : NetplayInfo}
    (h : Permuted ports handler (info.clear.setEnabled true) permuted) {localPorts : List Port}
    (hlocalPorts : handler.localPorts = Std.ExtTreeSet.ofList localPorts)
    {connectedPorts : List ConnectedPortPB} (hstarted : Started ports connectedPorts handler)
    (hinTable : ∀ connectedPort ∈ connectedPorts, InTable ports connectedPort.port) :
    MatchesSession ports info localPorts connectedPorts permuted.netplayControls := by
  have hmem (port : Port) : port ∈ handler.localPorts ↔ port ∈ localPorts := by
    rw [hlocalPorts]
    simp
  have hdelay : ∀ connectedPort ∈ connectedPorts, handler.delayFramesForPort connectedPort.port =
      if connectedPort.port ∈ handler.localPorts then connectedPort.delayFrames else 0 :=
    fun _ hconnected => hstarted.playing.delayFramesForPort hconnected
  refine ⟨?_, ?_, ?_, ?_, ?_, ?_, ?_⟩
  · intro connectedPort hconnected
    exact (inTable_iff ports _).mp (hinTable connectedPort hconnected)
  · intro port hport
    exact hstarted.local_connected port ((hmem port).mpr hport)
  · intro i connectedPort hconnected hport hlocal
    have hlocal' := (hmem _).mpr hlocal
    have hentry := h.ofLocal i _ ((h.channel_iff (hport ▸ hlocal') _).mp rfl)
    rw [← hport, hdelay connectedPort hconnected, if_pos hlocal'] at hentry
    exact ⟨_, hentry⟩
  · intro i connectedPort hconnected hport hnot
    have hremote := hstarted.mem_remotePorts.mpr
      ⟨List.mem_map_of_mem hconnected, fun hlocal => hnot ((hmem _).mp hlocal)⟩
    rw [h.ofRemote i (hport ▸ hremote), ← hport, hdelay connectedPort hconnected,
      if_neg fun hlocal => hnot ((hmem _).mp hlocal)]
  · intro i hnot
    rw [h.ofNone i (fun hlocal => hnot (hstarted.local_connected _ hlocal))
      (fun hremote => hnot (hstarted.mem_remotePorts.mp hremote).1)]
    exact NetplayInfo.get_clear info true i
  · intro channel
    have hpresent : channel ∈ (info.clear.setEnabled true).availableChannels ↔ _ :=
      NetplayInfo.mem_availableChannels
    refine Iff.trans ?_ hpresent
    constructor
    · rintro ⟨i, hlocal, hchannel⟩
      exact (List.of_mem_zip ((h.channel_iff ((hmem _).mpr hlocal) channel).mp hchannel)).1
    · intro havailable
      obtain ⟨port, hlocal, hpaired⟩ := h.exists_port havailable
      obtain ⟨i, rfl⟩ := exists_entry hstarted hinTable hlocal
      exact ⟨i, (hmem _).mp hlocal, (h.channel_iff hlocal _).mpr hpaired⟩
  · intro i j hlt hi hj
    exact (h.channel_lt_iff ((hmem _).mpr hi) ((hmem _).mpr hj)).mpr
      (hincreasing.m64PortToPort_lt hlt)

/-! ### The table that `InitiateNetplay` leaves -/

/-- A session that was started: the replies, the handler they led to, and the table. -/
structure StartedSession (ports : PortEnum) (client : NetplayClient) (info : NetplayInfo)
    (env : Environment) (response : PlugControllerResponsePB) (startGame : StartGamePB)
    (handler : EventStreamHandler ButtonsType) (permuted : NetplayInfo) : Prop where
  plugged : env.plugController = some response
  message : ∃ event, env.startGameEvent = some event ∧ event.startGame = some startGame
  nodup : (client.localPorts ++ response.port).Nodup
  started : Started ports startGame.connectedPorts handler
  localPorts_eq : handler.localPorts = Std.ExtTreeSet.ofList (client.localPorts ++ response.port)
  inTable : ∀ connectedPort ∈ startGame.connectedPorts, InTable ports connectedPort.port
  permuted : Permuted ports handler info permuted

namespace PluginImpl

theorem plugAndStart_session {ports : PortEnum} {impl : PluginImpl ButtonsType}
    {info : NetplayInfo} {md5 : String} {config : InteractiveConfigResult}
    {requestedPorts : List Port} {env : Environment}
    (hone : (plugAndStart ports impl info md5 config requestedPorts env).ending = .returned 1) :
    ∃ (response : PlugControllerResponsePB) (startGame : StartGamePB)
      (started : EventStreamHandler ButtonsType),
      StartedSession ports impl.client info env response startGame started
        (plugAndStart ports impl info md5 config requestedPorts env).info := by
  have hconnect := plugAndStart_connect ports impl info md5 config requestedPorts env
  generalize plugAndStart ports impl info md5 config requestedPorts env = result at hconnect hone
  cases hconnect with
  | ended hending _ => exact absurd hone hending
  | @connected response client' _ _ hresponse _ hconstructible =>
      have hstep := startSession_step ports { impl with client := client' } info config
        requestedPorts (config.sent ++ (impl.client.plugControllerRequest config.consoleId.value
          md5 requestedPorts).toList.map Sent.plugController)
        (NetplayClient.freshHandler (toInt config.consoleId.value) (toInt response.clientId)
          (impl.client.localPorts ++ response.port) client'.timings) env
      generalize startSession _ _ _ _ _ _ _ _ = result at hstep hone
      cases hstep with
      | failed hending _ => exact absurd hone hending
      | @started started permuted _ _ hstarts =>
          obtain ⟨event, startGame, hread, -, hevent, -, hstarted, hlocalPorts⟩ :=
            hstarts.started_by hconstructible
          have hinTable := ((permuteNetplayControllers_eq_true_iff hstarted requestedPorts
            info).mp ⟨permuted, hstarts.permuted⟩).2
          exact ⟨response, startGame, started, hresponse, ⟨event, hread, hevent⟩,
            hconstructible.nodup, hstarted, hlocalPorts, hinTable,
            permuted_of_permuteNetplayControllers hstarts.permuted⟩

theorem initiateNetplay_session {ports : PortEnum} {impl : PluginImpl ButtonsType}
    {info : NetplayInfo} {goodname md5 : String} {env : Environment}
    (henabled : impl.configuration.enabled = true)
    (hone : (initiateNetplay ports impl info goodname md5 env).ending = .returned 1) :
    ∃ (response : PlugControllerResponsePB) (startGame : StartGamePB)
      (started : EventStreamHandler ButtonsType),
      StartedSession ports impl.client (info.clear.setEnabled true) env response startGame
        started (initiateNetplay ports impl info goodname md5 env).info := by
  have hstep := initiateNetplay_step ports impl info goodname md5 env
  generalize initiateNetplay ports impl info goodname md5 env = result at hstep hone
  cases hstep with
  | disabled hdisabled => cases henabled.symm.trans hdisabled
  | stopped _ _ _ => cases hone
  | reached _ _ => exact plugAndStart_session hone

/-- A call that returns 0 has cleared the table and not written to it. -/
theorem initiateNetplay_zero {ports : PortEnum} {impl : PluginImpl ButtonsType}
    {info : NetplayInfo} {goodname md5 : String} {env : Environment}
    (hzero : (initiateNetplay ports impl info goodname md5 env).ending = .returned 0) :
    (initiateNetplay ports impl info goodname md5 env).info = info.clear.setEnabled true := by
  have hstep := initiateNetplay_step ports impl info goodname md5 env
  generalize initiateNetplay ports impl info goodname md5 env = result at hstep hzero
  cases hstep with
  | disabled _ => cases hzero
  | stopped _ _ _ => rfl
  | @reached answer requestedPorts config _ _ =>
      have hlaunch := plugAndStart_step ports impl (info.clear.setEnabled true) md5 config
        requestedPorts env
      generalize plugAndStart ports impl (info.clear.setEnabled true) md5 config requestedPorts
        env = result at hlaunch hzero
      cases hlaunch with
      | failed _ _ => rfl
      | launched _ _ _ => cases hzero

/-- **The controller table matches the session, or is untouched.**  A call that returns 0
leaves four absent controllers.  One that starts a session gives each granted port a
channel of the input plugin and the delay of the start message, in the order of the
channels, each other connected port a remote controller, and all others none. -/
theorem session_table {ports : PortEnum} (hincreasing : Increasing ports)
    {impl : PluginImpl ButtonsType} {delayFrames : Int} (hfresh : impl.client = .make delayFrames)
    (info : NetplayInfo) (goodname md5 : String) (env : Environment) :
    ((initiateNetplay ports impl info goodname md5 env).ending = .returned 0 →
      ∀ i : Fin 4, (initiateNetplay ports impl info goodname md5 env).info.netplayControls.get i =
        .absent) ∧
      (impl.configuration.enabled = true →
        (initiateNetplay ports impl info goodname md5 env).ending = .returned 1 →
          ∃ response event startGame, env.plugController = some response ∧
            env.startGameEvent = some event ∧ event.startGame = some startGame ∧
            MatchesSession ports info response.port startGame.connectedPorts
              (initiateNetplay ports impl info goodname md5 env).info.netplayControls) := by
  refine ⟨fun hzero i => ?_, fun henabled hone => ?_⟩
  · rw [initiateNetplay_zero hzero]
    exact NetplayInfo.get_clear info true i
  · obtain ⟨response, startGame, started, hsession⟩ := initiateNetplay_session henabled hone
    obtain ⟨event, hread, hevent⟩ := hsession.message
    have hlocalPorts := hsession.localPorts_eq
    rw [hfresh, show (NetplayClient.make delayFrames).localPorts = [] from rfl,
      List.nil_append] at hlocalPorts
    exact ⟨response, event, startGame, hsession.plugged, hread, hevent,
      hsession.permuted.matchesSession hincreasing hlocalPorts hsession.started hsession.inTable⟩

/-- The second and the fourth input controller ask for any port. -/
def twoPortImpl : PluginImpl Int where
  configHandler :=
    { getString := fun _ => some ""
      getInt := fun name => if name = "Port2Request" ∨ name = "Port4Request" then 0 else -1
      getBool := fun _ => true }
  client := .make 0
  streamHandler := none

/-- These two are plugged in, and the table is that of another session. -/
def secondAndFourth : NetplayInfo where
  enabled := 1
  controls := #v[{}, { present := 1 }, {}, { present := 1 }]
  netplayControls := Vector.replicate 4 { present := 1, remote := 1, delay := 9, channel := 9 }

/-- The user joins console 1 with ports 3 and 1, against another player on port 2. -/
def joinWithTwo : Environment :=
  { joinConsole .success with
    plugController := some { status := .success, consoleId := 1, clientId := 7, port := [3, 1] }
    startGameEvent := some
      { startGame := some { consoleId := 1, connectedPorts := [⟨3, 2⟩, ⟨2, 4⟩, ⟨1, 1⟩] } } }

theorem session_table_joinWithTwo :
    (∃ response event startGame, joinWithTwo.plugController = some response ∧
      joinWithTwo.startGameEvent = some event ∧ event.startGame = some startGame ∧
      MatchesSession portNumbers secondAndFourth response.port startGame.connectedPorts
        (initiateNetplay portNumbers twoPortImpl secondAndFourth "" ""
          joinWithTwo).info.netplayControls) ∧
      (initiateNetplay portNumbers twoPortImpl secondAndFourth "" ""
          joinWithTwo).info.netplayControls =
        #v[⟨1, 0, 1, 1⟩, ⟨1, 1, 0, -1⟩, ⟨1, 0, 2, 3⟩, .absent] := by
  have hincreasing : Increasing portNumbers := by decide
  refine ⟨?_, by decide⟩
  exact (session_table hincreasing (rfl : twoPortImpl.client = .make 0) secondAndFourth "" ""
    joinWithTwo).2 rfl (by decide)

end PluginImpl

end Plugin
end Netplay
