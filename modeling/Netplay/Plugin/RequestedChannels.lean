import Netplay.Plugin.PortRequests
import Netplay.Plugin.SessionTable

/-!
# Who gets the requested ports

Each input controller may ask for a port of its own (`Port1Request` to `Port4Request`).
The requests are sent as a list, the granted ports come back into a set, and
`PermuteNetplayControllers` pairs this set with the channels in order, without a look at
the requests.  So a controller gets the port that it asked for exactly if it has the same
place among the requests as the port among the granted ones (`honoursRequests_iff`).
-/

namespace Netplay
namespace Plugin

open Client

variable {ButtonsType : Type*}

namespace M64Config

/-- The `Port*Request` of an input controller. -/
def portRequest (config : M64Config) (i : Fin 4) : Int := config.portRequests.get i

/-- The controllers that make a request. -/
def requesting (config : M64Config) : List (Fin 4) :=
  (List.finRange 4).filter fun i => config.portRequest i ≠ -1

theorem mem_requesting {config : M64Config} {i : Fin 4} :
    i ∈ config.requesting ↔ config.portRequest i ≠ -1 := by
  simp [requesting]

/-- The list of requested ports leaves out the controllers without a request. -/
theorem translated_portRequests (ports : PortEnum) (config : M64Config) :
    translated ports config.portRequests =
      config.requesting.map fun i => m64RequestedIntToPort ports (config.portRequest i) := by
  have hlist : config.portRequests = (List.finRange 4).map config.portRequest := rfl
  rw [translated, hlist, List.filter_map, List.map_map]
  rfl

end M64Config

/-- The port is one that the number asks for. -/
def Answers (ports : PortEnum) (encodedPort : Int) (port : Port) : Prop :=
  encodedPort = 0 ∨ Denotes ports encodedPort port

/-- The server grants exactly what is requested: a port for each request, in some order. -/
def Grants (ports : PortEnum) (config : M64Config) (granted : List Port) : Prop :=
  ∃ listed, listed.Perm granted ∧
    List.Forall₂ (fun i => Answers ports (config.portRequest i)) config.requesting listed

/-- A specific port was asked for. -/
def M64Config.AsksFor (config : M64Config) (i p : Fin 4) : Prop :=
  config.portRequest i = p.val + 1

instance (config : M64Config) (i p : Fin 4) : Decidable (config.AsksFor i p) :=
  inferInstanceAs (Decidable (_ = _))

/-- The channel of a specific port is the controller that asked for it, and the other
granted ports go to those who asked for any port. -/
structure HonoursRequests (ports : PortEnum) (config : M64Config) (granted : List Port)
    (controls : Vector NetplayController 4) : Prop where
  specific : ∀ i p : Fin 4, config.AsksFor i p → (controls.get p).channel = i.val
  any : ∀ i : Fin 4, config.portRequest i = 0 ↔
    ∃ p : Fin 4, m64PortToPort ports p.val ∈ granted ∧ (∀ j, ¬ config.AsksFor j p) ∧
      (controls.get p).channel = i.val

/-- The number of requests before that of a controller. -/
def precedingRequests (config : M64Config) (i : Fin 4) : Nat :=
  config.requesting.countP fun j => decide (j < i)

/-- The number of granted ports before a port. -/
def precedingGrants (granted : List Port) (port : Port) : Nat :=
  granted.countP fun other => decide (other < port)

/-- Whoever asks for a specific port has the same place among the requests as the port
among the granted ones. -/
def RequestsInPlace (ports : PortEnum) (config : M64Config) (granted : List Port) : Prop :=
  ∀ i p : Fin 4, config.AsksFor i p →
    precedingRequests config i = precedingGrants granted (m64PortToPort ports p.val)

instance (ports : PortEnum) (config : M64Config) (granted : List Port) :
    Decidable (RequestsInPlace ports config granted) :=
  inferInstanceAs (Decidable (∀ _ _, _ → _))

/-! ### What a grant says -/

theorem denotes_iff {ports : PortEnum} {p : Fin 4} {port : Port} :
    Denotes ports (p.val + 1) port ↔ port = m64PortToPort ports p.val := by
  have htranslated : m64RequestedIntToPort ports (p.val + 1) = m64PortToPort ports p.val := by
    match p with
    | 0 => rfl
    | 1 => rfl
    | 2 => rfl
    | 3 => rfl
  constructor
  · intro h
    rw [h.eq, htranslated]
  · rintro rfl
    rw [← htranslated]
    exact denotes_m64RequestedIntToPort (by omega) (by omega)

theorem M64Config.AsksFor.mem_requesting {config : M64Config} {i p : Fin 4}
    (h : config.AsksFor i p) : i ∈ config.requesting := by
  unfold M64Config.AsksFor at h
  rw [M64Config.mem_requesting, h]
  omega

/-- Each request is answered by a granted port. -/
theorem Grants.answered {ports : PortEnum} {config : M64Config} {granted : List Port}
    (h : Grants ports config granted) {i : Fin 4} (hi : i ∈ config.requesting) :
    ∃ port ∈ granted, Answers ports (config.portRequest i) port := by
  obtain ⟨listed, hperm, hanswers⟩ := h
  obtain ⟨port, hmem, hanswer⟩ := EventStreamHandler.forall₂_mem_right hanswers.flip hi
  exact ⟨port, hperm.mem_iff.mp hmem, hanswer⟩

/-- A port that was asked for is granted. -/
theorem Grants.mem_of_asksFor {ports : PortEnum} {config : M64Config} {granted : List Port}
    (h : Grants ports config granted) {i p : Fin 4} (hasks : config.AsksFor i p) :
    m64PortToPort ports p.val ∈ granted := by
  obtain ⟨port, hmem, hany | hdenotes⟩ := h.answered hasks.mem_requesting
  · unfold M64Config.AsksFor at hasks
    omega
  · unfold M64Config.AsksFor at hasks
    rw [hasks, denotes_iff] at hdenotes
    rwa [← hdenotes]

/-- A request is for any port or for a specific one. -/
theorem Grants.request_cases {ports : PortEnum} {config : M64Config} {granted : List Port}
    (h : Grants ports config granted) {i : Fin 4} (hi : i ∈ config.requesting) :
    config.portRequest i = 0 ∨ ∃ p : Fin 4, config.AsksFor i p := by
  obtain ⟨port, -, hany | hdenotes⟩ := h.answered hi
  · exact Or.inl hany
  · unfold M64Config.AsksFor
    generalize config.portRequest i = encodedPort at hdenotes
    cases hdenotes with
    | any => exact Or.inl rfl
    | port1 => exact Or.inr ⟨0, rfl⟩
    | port2 => exact Or.inr ⟨1, rfl⟩
    | port3 => exact Or.inr ⟨2, rfl⟩
    | port4 => exact Or.inr ⟨3, rfl⟩

theorem answers_iff {ports : PortEnum} {encodedPort : Int} {port : Port}
    (hlow : 0 ≤ encodedPort) (hhigh : encodedPort ≤ 4) :
    Answers ports encodedPort port ↔
      m64RequestedIntToPort ports encodedPort = ports.portAny ∨
        port = m64RequestedIntToPort ports encodedPort := by
  have hdenotes := @denotes_m64RequestedIntToPort ports encodedPort hlow hhigh
  refine or_congr ⟨?_, ?_⟩ ⟨Denotes.eq, ?_⟩
  · rintro rfl
    rfl
  · intro hany
    rw [hany] at hdenotes
    exact hdenotes.eq_zero
  · rintro rfl
    exact hdenotes

/-- A grant in terms of the ports that `PlugControllers` is given: each of them is granted
as it is, or any port for `PORT_ANY`. -/
theorem grants_iff {ports : PortEnum} {config : M64Config} {granted : List Port}
    (h : ∀ encodedPort ∈ config.portRequests, IsPortRequest encodedPort) :
    Grants ports config granted ↔ ∃ listed, listed.Perm granted ∧
      List.Forall₂ (fun requested port => requested = ports.portAny ∨ port = requested)
        (M64Config.translated ports config.portRequests) listed := by
  refine exists_congr fun listed => and_congr_right fun _ => ?_
  rw [M64Config.translated_portRequests, List.forall₂_map_left_iff, List.forall₂_iff_zip,
    List.forall₂_iff_zip]
  refine and_congr_right fun _ => forall_congr' fun i => forall_congr' fun port =>
    forall_congr' fun hpair => ?_
  obtain ⟨hlow, hhigh⟩ := h _ (List.get_mem config.portRequests i)
  have hne := M64Config.mem_requesting.mp (List.of_mem_zip hpair).1
  unfold M64Config.portRequest at hne ⊢
  exact answers_iff (by omega) hhigh

theorem Grants.length_eq {ports : PortEnum} {config : M64Config} {granted : List Port}
    (h : Grants ports config granted) : granted.length = config.requesting.length := by
  obtain ⟨listed, hperm, hanswers⟩ := h
  rw [← hperm.length_eq, hanswers.length_eq]

/-! ### What the table says -/

/-- The channels that are there are the controllers that make a request. -/
theorem availableChannels_eq {config : M64Config} {info : NetplayInfo}
    (h : ∀ i : Fin 4, (info.controls.get i).present ≠ 0 ↔ config.portRequest i ≠ -1) :
    info.availableChannels = config.requesting.map fun i => (i.val : Int) := by
  unfold NetplayInfo.availableChannels M64Config.requesting
  rw [← List.filterMap_eq_map, List.filterMap_filter]
  refine List.filterMap_congr fun i _ => ?_
  show (if (info.controls.get i).present ≠ 0 then some (i.val : Int) else none) =
    if decide (config.portRequest i ≠ -1) = true then some (i.val : Int) else none
  simp only [h i, decide_eq_true_iff]

theorem rank_requesting (config : M64Config) (i : Fin 4) :
    SortedPairing.rank (config.requesting.map fun i => (i.val : Int)) (i.val : Int) =
      precedingRequests config i := by
  unfold SortedPairing.rank precedingRequests
  rw [List.countP_map]
  refine List.countP_congr fun j _ => ?_
  simp only [Function.comp_apply, decide_eq_true_iff, Fin.lt_def]
  omega

theorem rank_granted {granted : List Port} (hnodup : granted.Nodup) (port : Port) :
    SortedPairing.rank (Std.ExtTreeSet.ofList granted).toList port =
      precedingGrants granted port := by
  have hperm : (Std.ExtTreeSet.ofList granted).toList.Perm granted := by
    refine (List.perm_ext_iff_of_nodup (OrderedSet.nodup_toList _) hnodup).mpr fun other => ?_
    simp
  exact hperm.countP_eq _

/-- The requesting controllers and the granted ports are paired in order. -/
structure ChannelsPaired (ports : PortEnum) (config : M64Config) (granted : List Port)
    (controls : Vector NetplayController 4) : Prop where
  channel_iff : ∀ i p : Fin 4, m64PortToPort ports p.val ∈ granted →
    ((controls.get p).channel = i.val ↔ i ∈ config.requesting ∧
      precedingRequests config i = precedingGrants granted (m64PortToPort ports p.val))
  used : ∀ i ∈ config.requesting, ∃ p : Fin 4, m64PortToPort ports p.val ∈ granted ∧
    (controls.get p).channel = i.val
  once : ∀ p p' : Fin 4, m64PortToPort ports p.val ∈ granted →
    m64PortToPort ports p'.val ∈ granted →
      (controls.get p).channel = (controls.get p').channel → p = p'

/-- With a channel for each request there is no room for ports of an earlier grant. -/
theorem StartedSession.localPorts_of_grants {ports : PortEnum} {client : NetplayClient}
    {info : NetplayInfo} {config : M64Config} {env : Environment}
    {response : PlugControllerResponsePB} {startGame : StartGamePB}
    {handler : EventStreamHandler ButtonsType} {permuted : NetplayInfo}
    (h : StartedSession ports client info env response startGame handler permuted)
    (hchannels : ∀ i : Fin 4, (info.controls.get i).present ≠ 0 ↔ config.portRequest i ≠ -1)
    (hgrants : Grants ports config response.port) :
    response.port.Nodup ∧ handler.localPorts = Std.ExtTreeSet.ofList response.port := by
  have hcount := h.permuted.channels
  have hsize : handler.localPorts.toList.length = (client.localPorts ++ response.port).length := by
    rw [Std.ExtTreeSet.length_toList, h.localPorts_eq]
    exact OrderedSet.size_ofList_eq_length_iff.mpr h.nodup
  rw [hsize, availableChannels_eq hchannels, List.length_map, ← hgrants.length_eq,
    List.length_append] at hcount
  have hnone : client.localPorts = [] := List.eq_nil_of_length_eq_zero (by omega)
  have hlocalPorts := h.localPorts_eq
  have hnodup := h.nodup
  rw [hnone, List.nil_append] at hlocalPorts hnodup
  exact ⟨hnodup, hlocalPorts⟩

theorem StartedSession.channelsPaired {ports : PortEnum} {client : NetplayClient}
    {info : NetplayInfo} {config : M64Config} {env : Environment}
    {response : PlugControllerResponsePB} {startGame : StartGamePB}
    {handler : EventStreamHandler ButtonsType} {permuted : NetplayInfo}
    (h : StartedSession ports client info env response startGame handler permuted)
    (hchannels : ∀ i : Fin 4, (info.controls.get i).present ≠ 0 ↔ config.portRequest i ≠ -1)
    (hgrants : Grants ports config response.port) :
    ChannelsPaired ports config response.port permuted.netplayControls := by
  have havailable := availableChannels_eq hchannels
  have hcount := h.permuted.channels
  obtain ⟨hnodup, hlocalPorts⟩ := h.localPorts_of_grants hchannels hgrants
  have hmem (port : Port) : port ∈ handler.localPorts ↔ port ∈ response.port := by
    rw [hlocalPorts]
    simp
  have hmemToList (port : Port) : port ∈ handler.localPorts.toList ↔ port ∈ response.port := by
    rw [Std.ExtTreeSet.mem_toList, hmem]
  refine ⟨?_, ?_, ?_⟩
  · intro i p hgranted
    rw [h.permuted.channel_iff ((hmem _).mpr hgranted),
      SortedPairing.mem_zip_iff info.availableChannels_increasing (toList_increasing _) hcount,
      hmemToList, havailable, rank_requesting, hlocalPorts, rank_granted hnodup]
    have hrequesting : (i.val : Int) ∈ config.requesting.map (fun i => (i.val : Int)) ↔
        i ∈ config.requesting :=
      List.mem_map_of_injective fun j j' hsame => Fin.ext (by exact_mod_cast hsame)
    rw [hrequesting, and_iff_right hgranted]
  · intro i hi
    have hchannel : (i.val : Int) ∈ info.availableChannels := by
      rw [havailable]
      exact List.mem_map_of_mem hi
    obtain ⟨port, hlocal, hzip⟩ := h.permuted.exists_port hchannel
    obtain ⟨p, rfl⟩ := exists_entry h.started h.inTable hlocal
    exact ⟨p, (hmem _).mp hlocal, (h.permuted.channel_iff hlocal _).mpr hzip⟩
  · intro p p' hp hp'
    exact h.permuted.eq_of_channel_eq ((hmem _).mpr hp) ((hmem _).mpr hp')

/-- Requests are honoured by a pairing in order exactly if they are in place. -/
theorem ChannelsPaired.honours_iff {ports : PortEnum} {config : M64Config}
    {granted : List Port} {controls : Vector NetplayController 4}
    (h : ChannelsPaired ports config granted controls) (hgrants : Grants ports config granted) :
    HonoursRequests ports config granted controls ↔ RequestsInPlace ports config granted := by
  constructor
  · intro hhonours i p hasks
    exact ((h.channel_iff i p (hgrants.mem_of_asksFor hasks)).mp (hhonours.specific i p hasks)).2
  · intro hplace
    have hspecific : ∀ i p : Fin 4, config.AsksFor i p → (controls.get p).channel = i.val :=
      fun i p hasks => (h.channel_iff i p (hgrants.mem_of_asksFor hasks)).mpr
        ⟨hasks.mem_requesting, hplace i p hasks⟩
    refine ⟨hspecific, fun i => ⟨fun hany => ?_, ?_⟩⟩
    · have hi : i ∈ config.requesting := by
        rw [M64Config.mem_requesting, hany]
        decide
      obtain ⟨p, hgranted, hchannel⟩ := h.used i hi
      refine ⟨p, hgranted, fun j hasks => ?_, hchannel⟩
      -- the port of a specific request has the channel of another controller
      have hj := (hspecific j p hasks).symm.trans hchannel
      obtain rfl : j = i := Fin.ext (by exact_mod_cast hj)
      unfold M64Config.AsksFor at hasks
      omega
    · rintro ⟨p, hgranted, hfree, hchannel⟩
      have hi := ((h.channel_iff i p hgranted).mp hchannel).1
      rcases hgrants.request_cases hi with hany | ⟨q, hasks⟩
      · exact hany
      · have hsame := hchannel.trans (hspecific i q hasks).symm
        obtain rfl := h.once p q hgranted (hgrants.mem_of_asksFor hasks) hsame
        exact absurd hasks (hfree i)

namespace PluginImpl

/-- **When a request is honoured for the controller that made it.**  With a channel for
each request, a server that grants exactly what is requested and a game that starts, each
specific port goes to the controller that asked for it and the others to those that asked
for any, exactly if each specific request has the same place among the requests as its
port among the granted ports. -/
theorem honoursRequests_iff {ports : PortEnum} {impl : PluginImpl ButtonsType}
    {info : NetplayInfo} {goodname md5 : String} {env : Environment}
    {response : PlugControllerResponsePB} (henabled : impl.configuration.enabled = true)
    (hchannels : ∀ i : Fin 4,
      (info.controls.get i).present ≠ 0 ↔ impl.configuration.portRequest i ≠ -1)
    (hresponse : env.plugController = some response)
    (hgrants : Grants ports impl.configuration response.port)
    (hone : (initiateNetplay ports impl info goodname md5 env).ending = .returned 1) :
    HonoursRequests ports impl.configuration response.port
        (initiateNetplay ports impl info goodname md5 env).info.netplayControls ↔
      RequestsInPlace ports impl.configuration response.port := by
  obtain ⟨_, startGame, handler, hsession⟩ := initiateNetplay_session henabled hone
  cases hsession.plugged.symm.trans hresponse
  exact (hsession.channelsPaired hchannels hgrants).honours_iff hgrants

/-- The plugin with two controllers that ask for these ports. -/
def twoRequestsImpl (port1Request port2Request : Int) : PluginImpl Int where
  configHandler :=
    { getString := fun _ => some ""
      getInt := fun name =>
        if name = "Port1Request" then port1Request
        else if name = "Port2Request" then port2Request
        else -1
      getBool := fun _ => true }
  client := .make 0
  streamHandler := none

/-- Two input controllers, and an empty controller table. -/
def twoControllers : NetplayInfo where
  enabled := 0
  controls := #v[{ present := 1 }, { present := 1 }, {}, {}]
  netplayControls := Vector.replicate 4 NetplayController.absent

/-- The user joins console 1, which starts with ports 1 and 2, both granted here. -/
def joinWithBoth : Environment where
  cin := { chars := ['n', '\n', '1', '\n'] }
  indeterminate := 0
  makeConsole := none
  plugController := some { status := .success, consoleId := 1, clientId := 7, port := [1, 2] }
  startGame := none
  clientReadyOk := true
  startGameEvent := some { startGame := some ⟨1, [⟨1, 0⟩, ⟨2, 0⟩]⟩ }

theorem grants_both {port1Request port2Request : Int}
    (h : (port1Request, port2Request) = (1, 2) ∨ (port1Request, port2Request) = (2, 1)) :
    Grants EventStreamHandler.portNumbers
      (twoRequestsImpl port1Request port2Request).configuration [1, 2] := by
  rcases h with ⟨⟨⟩⟩ | ⟨⟨⟩⟩
  · exact ⟨[1, 2], by decide, .cons (Or.inr .port1) (.cons (Or.inr .port2) .nil)⟩
  · exact ⟨[2, 1], by decide, .cons (Or.inr .port2) (.cons (Or.inr .port1) .nil)⟩

theorem honoursRequests_iff_inOrder :
    HonoursRequests EventStreamHandler.portNumbers (twoRequestsImpl 1 2).configuration [1, 2]
      (initiateNetplay EventStreamHandler.portNumbers (twoRequestsImpl 1 2) twoControllers "" ""
        joinWithBoth).info.netplayControls := by
  have hchannels : ∀ i : Fin 4, (twoControllers.controls.get i).present ≠ 0 ↔
      (twoRequestsImpl 1 2).configuration.portRequest i ≠ -1 := by
    decide
  have hone : (initiateNetplay EventStreamHandler.portNumbers (twoRequestsImpl 1 2)
      twoControllers "" "" joinWithBoth).ending = .returned 1 := by
    decide
  exact (honoursRequests_iff rfl hchannels rfl (grants_both (Or.inl rfl)) hone).mpr (by decide)

/-- The first controller asks for port 2 and the second for port 1: they get the port of
each other. -/
theorem not_honoursRequests :
    ¬ ∀ (ports : PortEnum) (impl : PluginImpl Int) (info : NetplayInfo) (goodname md5 : String)
      (env : Environment) (response : PlugControllerResponsePB),
      impl.configuration.enabled = true →
      (∀ i : Fin 4, (info.controls.get i).present ≠ 0 ↔ impl.configuration.portRequest i ≠ -1) →
      env.plugController = some response → Grants ports impl.configuration response.port →
      (initiateNetplay ports impl info goodname md5 env).ending = .returned 1 →
        HonoursRequests ports impl.configuration response.port
          (initiateNetplay ports impl info goodname md5 env).info.netplayControls := by
  intro h
  have hhonours := h EventStreamHandler.portNumbers (twoRequestsImpl 2 1) twoControllers "" ""
    joinWithBoth _ rfl (by decide) rfl (grants_both (Or.inr rfl)) (by decide)
  have hchannel := hhonours.specific 0 1 rfl
  exact absurd hchannel (by decide)

end PluginImpl

end Plugin
end Netplay
