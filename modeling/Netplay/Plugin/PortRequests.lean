import Netplay.Plugin.Launch

/-!
# Which ports are requested

The configuration numbers ports by itself: -1 for none, 0 for any port, 1 to 4 for a
specific one (`Denotes`).  `InitiateNetplay` translates these numbers with
`M64RequestedIntToPort`, but asks `Port_IsValid` about them first, which knows the numbers
of the enum.  So the check is right exactly if the two numberings agree on whether there
is a bad number (`validatesRequests_iff`).
-/

namespace Netplay
namespace Plugin

open Client

variable {ButtonsType : Type*}

/-! ### The numbering of the configuration -/

/-- The numbers that a `Port*Request` may have. -/
def IsPortRequest (encodedPort : Int) : Prop := -1 ≤ encodedPort ∧ encodedPort ≤ 4

instance (encodedPort : Int) : Decidable (IsPortRequest encodedPort) :=
  inferInstanceAs (Decidable (_ ∧ _))

/-- The port that a number asks for. -/
inductive Denotes (ports : PortEnum) : Int → Port → Prop
  | any : Denotes ports 0 ports.portAny
  | port1 : Denotes ports 1 ports.port1
  | port2 : Denotes ports 2 ports.port2
  | port3 : Denotes ports 3 ports.port3
  | port4 : Denotes ports 4 ports.port4

theorem denotes_m64RequestedIntToPort {ports : PortEnum} {encodedPort : Int}
    (hlow : 0 ≤ encodedPort) (hhigh : encodedPort ≤ 4) :
    Denotes ports encodedPort (m64RequestedIntToPort ports encodedPort) := by
  obtain rfl | rfl | rfl | rfl | rfl : encodedPort = 0 ∨ encodedPort = 1 ∨ encodedPort = 2 ∨
      encodedPort = 3 ∨ encodedPort = 4 := by
    omega
  · exact .any
  · exact .port1
  · exact .port2
  · exact .port3
  · exact .port4

theorem Denotes.eq {ports : PortEnum} {encodedPort : Int} {port : Port}
    (h : Denotes ports encodedPort port) : port = m64RequestedIntToPort ports encodedPort := by
  cases h with
  | any => rfl
  | port1 => rfl
  | port2 => rfl
  | port3 => rfl
  | port4 => rfl

/-- No port of a number is called `UNKNOWN`. -/
theorem Denotes.ne_unknown {ports : PortEnum} {encodedPort : Int} {port : Port}
    (h : Denotes ports encodedPort port) : port ≠ ports.unknown := by
  have hunknown := (List.nodup_cons.mp ports.distinct).1
  rintro rfl
  generalize hport : ports.unknown = unknown at h hunknown
  cases h with
  | any => simp at hunknown
  | port1 => simp at hunknown
  | port2 => simp at hunknown
  | port3 => simp at hunknown
  | port4 => simp at hunknown

/-- Only 0 asks for any port. -/
theorem Denotes.eq_zero {ports : PortEnum} {encodedPort : Int}
    (h : Denotes ports encodedPort ports.portAny) : encodedPort = 0 := by
  have hany := (List.nodup_cons.mp (List.nodup_cons.mp ports.distinct).2).1
  generalize hport : ports.portAny = portAny at h hany
  cases h with
  | any => rfl
  | port1 => simp at hany
  | port2 => simp at hany
  | port3 => simp at hany
  | port4 => simp at hany

/-- All other numbers are translated to `UNKNOWN`. -/
theorem m64RequestedIntToPort_of_not {ports : PortEnum} {encodedPort : Int}
    (h : ¬ (0 ≤ encodedPort ∧ encodedPort ≤ 4)) :
    m64RequestedIntToPort ports encodedPort = ports.unknown := by
  unfold m64RequestedIntToPort
  rw [if_neg (by omega), if_neg (by omega), if_neg (by omega), if_neg (by omega),
    if_neg (by omega)]

namespace M64Config

/-- Every number other than -1 is one of the enum. -/
def AllValid (ports : PortEnum) (encodedPorts : List Int) : Prop :=
  ∀ encodedPort ∈ encodedPorts, encodedPort = -1 ∨ portIsValid ports encodedPort = true

instance (ports : PortEnum) (encodedPorts : List Int) : Decidable (AllValid ports encodedPorts) :=
  inferInstanceAs (Decidable (∀ _ ∈ _, _))

/-- The requested ports, for numbers that pass the check. -/
def translated (ports : PortEnum) (encodedPorts : List Int) : List Port :=
  (encodedPorts.filter (· ≠ -1)).map (m64RequestedIntToPort ports)

/-- The loop checks in one numbering and translates in the other. -/
theorem requestPorts_eq (ports : PortEnum) (encodedPorts : List Int) :
    requestPorts ports encodedPorts =
      if AllValid ports encodedPorts then some (translated ports encodedPorts) else none := by
  unfold AllValid translated
  induction encodedPorts with
  | nil => rfl
  | cons encodedPort rest ih =>
      rw [requestPorts, ih]
      by_cases hnone : encodedPort = -1
      · simp [hnone]
      · cases hvalid : portIsValid ports encodedPort with
        | false => simp [hnone, hvalid]
        | true =>
            simp only [hnone, hvalid, if_false, Bool.true_eq_false, List.forall_mem_cons,
              or_true, true_and, List.filter_cons, decide_not, decide_false, Bool.not_false,
              if_true, List.map_cons]
            split_ifs <;> rfl

theorem forall₂_denotes_translated {ports : PortEnum} {encodedPorts : List Int}
    (h : ∀ encodedPort ∈ encodedPorts, IsPortRequest encodedPort) :
    List.Forall₂ (Denotes ports) (encodedPorts.filter (· ≠ -1))
      (translated ports encodedPorts) := by
  unfold translated
  rw [List.forall₂_map_right_iff, List.forall₂_same]
  intro encodedPort hmem
  obtain ⟨hlisted, hne⟩ := List.mem_filter.mp hmem
  obtain ⟨hlow, hhigh⟩ := h encodedPort hlisted
  rw [decide_eq_true_iff] at hne
  exact denotes_m64RequestedIntToPort (by omega) hhigh

theorem unknown_mem_translated_iff {ports : PortEnum} {encodedPorts : List Int} :
    ports.unknown ∈ translated ports encodedPorts ↔
      ∃ encodedPort ∈ encodedPorts, ¬ IsPortRequest encodedPort := by
  unfold translated IsPortRequest
  simp only [List.mem_map, List.mem_filter, decide_eq_true_iff]
  constructor
  · rintro ⟨encodedPort, ⟨hlisted, hne⟩, hunknown⟩
    refine ⟨encodedPort, hlisted, fun hrange => ?_⟩
    have hdenotes := @denotes_m64RequestedIntToPort ports encodedPort (by omega) hrange.2
    exact hdenotes.ne_unknown hunknown
  · rintro ⟨encodedPort, hlisted, hrange⟩
    exact ⟨encodedPort, ⟨hlisted, by omega⟩, m64RequestedIntToPort_of_not (by omega)⟩

end M64Config

/-! ### What is asked of the server -/

/-- The requests of `PlugControllers` among the messages. -/
def plugRequests (sent : List Sent) : List PlugControllerRequestPB :=
  sent.filterMap fun message =>
    match message with
    | .plugController request => some request
    | _ => none

theorem plugRequests_append (sent later : List Sent) :
    plugRequests (sent ++ later) = plugRequests sent ++ plugRequests later :=
  List.filterMap_append

/-- The dialogue asks for no port. -/
theorem OnlyMakesConsole.plugRequests_eq {sent : List Sent} (h : OnlyMakesConsole sent) :
    plugRequests sent = [] := by
  refine List.filterMap_eq_nil_iff.mpr fun message hmem => ?_
  obtain ⟨request, rfl⟩ := h message hmem
  rfl

/-- The ports of a request, in order. -/
def requestedPorts (request : PlugControllerRequestPB) : List Port :=
  [request.requestedPort1, request.requestedPort2, request.requestedPort3,
    request.requestedPort4].reduceOption

/-- A request is for the ports that `PlugControllers` is given; for none there is no
request. -/
theorem requestedPorts_plugControllerRequest (client : NetplayClient) (consoleId : Int)
    (romMd5 : String) {localPorts : List Port} (h : localPorts.length ≤ 4) :
    (client.plugControllerRequest consoleId romMd5 localPorts).toList.map requestedPorts =
      if localPorts = [] then [] else [localPorts] := by
  match localPorts with
  | [] => rfl
  | [_] => rfl
  | [_, _] => rfl
  | [_, _, _] => rfl
  | [_, _, _, _] => rfl
  | _ :: _ :: _ :: _ :: _ :: _ =>
      simp only [List.length_cons] at h
      omega

namespace PluginImpl

/-- No port is asked for after the construction of the handler. -/
theorem startSession_plugRequests (ports : PortEnum) (impl : PluginImpl ButtonsType)
    (info : NetplayInfo) (config : InteractiveConfigResult) (requestedPorts : List Port)
    (sent : List Sent) (handler : EventStreamHandler ButtonsType) (env : Environment) :
    plugRequests (startSession ports impl info config requestedPorts sent handler env).sent =
      plugRequests sent := by
  have hready (event : OutgoingEventPB) : plugRequests [.event event] = [] := rfl
  unfold startSession
  simp only
  generalize hstart : (if config.createdConsole then
    interactiveStartConsole config.consoleId.value config.cin env
    else ((true, config.cin, []) : Bool × InputStream × List Sent)) = start
  have hgame : plugRequests start.2.2 = [] := by
    rw [← hstart]
    split_ifs
    · rfl
    · rfl
  split_ifs
  · simp only [plugRequests_append, hready, List.append_nil]
  · simp only [plugRequests_append, hready, hgame, List.append_nil]
  · simp only [plugRequests_append, hready, hgame, List.append_nil]
  · generalize permuteNetplayControllers ports _ requestedPorts info = outcome
    match outcome with
    | none => simp only [plugRequests_append, hready, hgame, List.append_nil]
    | some (false, _) => simp only [plugRequests_append, hready, hgame, List.append_nil]
    | some (true, _) => simp only [plugRequests_append, hready, hgame, List.append_nil]

theorem plugAndStart_plugRequests {ports : PortEnum} {impl : PluginImpl ButtonsType}
    {info : NetplayInfo} {md5 : String} {config : InteractiveConfigResult}
    (hsent : OnlyMakesConsole config.sent) (localPorts : List Port) (env : Environment) :
    plugRequests (plugAndStart ports impl info md5 config localPorts env).sent =
      (impl.client.plugControllerRequest config.consoleId.value md5 localPorts).toList := by
  have hbefore : plugRequests (config.sent ++ (impl.client.plugControllerRequest
      config.consoleId.value md5 localPorts).toList.map Sent.plugController) =
        (impl.client.plugControllerRequest config.consoleId.value md5 localPorts).toList := by
    rw [plugRequests_append, hsent.plugRequests_eq, List.nil_append]
    cases impl.client.plugControllerRequest config.consoleId.value md5 localPorts with
    | none => rfl
    | some request => rfl
  have hconnect := plugAndStart_connect ports impl info md5 config localPorts env
  generalize plugAndStart ports impl info md5 config localPorts env = result at hconnect
  cases hconnect with
  | ended _ _ => exact hbefore
  | connected _ _ _ _ _ => exact (startSession_plugRequests ..).trans hbefore

/-- Once the user has chosen a console, the call is a matter of the requested ports. -/
theorem initiateNetplay_of_chosen {impl : PluginImpl ButtonsType} {info : NetplayInfo}
    {env : Environment} {answer : UserAnswer} {consoleId : Variable}
    (henabled : impl.configuration.enabled = true) (hraw : info.hasRawData = false)
    (hanswer : userAnswer env.cin = some answer)
    (hchosen : chosenConsoleId env answer = some consoleId) (ports : PortEnum)
    (goodname md5 : String) :
    ∃ config : InteractiveConfigResult, config.consoleId = consoleId ∧
      OnlyMakesConsole config.sent ∧
        initiateNetplay ports impl info goodname md5 env =
          match M64Config.requestPorts ports impl.configuration.portRequests with
          | none =>
              ⟨.returned 0, impl, info.clear.setEnabled true, config.cin, config.sent, none⟩
          | some localPorts =>
              plugAndStart ports impl (info.clear.setEnabled true) md5 config localPorts env := by
  have hconfiguration : M64Config.fromConfigHandler impl.configHandler = impl.configuration := rfl
  have hrawData : (info.clear.setEnabled true).hasRawData = false := hraw
  have hstep := interactiveConfig_step impl.configHandler goodname md5 env
  unfold initiateNetplay
  simp only [hconfiguration, henabled, Bool.true_eq_false, if_false, hrawData, Bool.false_eq_true]
  generalize interactiveConfig impl.configHandler goodname md5 env = config at hstep ⊢
  cases hstep with
  | unanswered hnone => cases hnone.symm.trans hanswer
  | notMade hcreate hnone _ =>
      cases hcreate.symm.trans hanswer
      cases hnone.symm.trans hchosen
  | chosen hsame hid hsent =>
      cases hsame.symm.trans hanswer
      cases hid.symm.trans hchosen
      exact ⟨_, rfl, hsent, rfl⟩

/-- The requests are checked and translated in their own numbering: a call refuses the
numbers that are no requests, asks for just the ports of the others, in order, and never
asks for `UNKNOWN`. -/
structure ValidatesRequests (ports : PortEnum) (encodedPorts : List Int)
    (result : InitiateNetplayResult ButtonsType) : Prop where
  refuses : result.ending = .returned 0 ∧ result.consoleIdPassed = none ↔
    ∃ encodedPort ∈ encodedPorts, ¬ IsPortRequest encodedPort
  asks : (∀ encodedPort ∈ encodedPorts, IsPortRequest encodedPort) →
    ∃ localPorts, List.Forall₂ (Denotes ports) (encodedPorts.filter (· ≠ -1)) localPorts ∧
      result.consoleIdPassed.isSome = true ∧
      (plugRequests result.sent).map requestedPorts = if localPorts = [] then [] else [localPorts]
  neverUnknown : ∀ request ∈ plugRequests result.sent, ports.unknown ∉ requestedPorts request

theorem length_translated_le (ports : PortEnum) (config : M64Config) :
    (M64Config.translated ports config.portRequests).length ≤ 4 := by
  unfold M64Config.translated
  rw [List.length_map]
  exact List.length_filter_le _ _

/-- A call that gets to `PlugControllers` is right if all numbers are requests. -/
theorem validatesRequests_iff_of_passed {ports : PortEnum} {encodedPorts : List Int}
    {result : InitiateNetplayResult ButtonsType} {consoleId : Variable}
    (hpassed : result.consoleIdPassed = some consoleId)
    (hasked : (plugRequests result.sent).map requestedPorts =
      if M64Config.translated ports encodedPorts = [] then []
      else [M64Config.translated ports encodedPorts]) :
    ValidatesRequests ports encodedPorts result ↔
      ∀ encodedPort ∈ encodedPorts, IsPortRequest encodedPort := by
  have hnotRefused : ¬ (result.ending = .returned 0 ∧ result.consoleIdPassed = none) := by
    rintro ⟨-, hnone⟩
    cases hpassed.symm.trans hnone
  constructor
  · intro h encodedPort hmem
    by_contra hnot
    exact hnotRefused (h.refuses.mpr ⟨encodedPort, hmem, hnot⟩)
  · intro hall
    have hgood : ¬ ∃ encodedPort ∈ encodedPorts, ¬ IsPortRequest encodedPort := by
      rintro ⟨encodedPort, hmem, hnot⟩
      exact hnot (hall encodedPort hmem)
    refine ⟨⟨fun h => absurd h hnotRefused, fun h => absurd h hgood⟩, fun _ => ?_, ?_⟩
    · exact ⟨_, M64Config.forall₂_denotes_translated hall, by rw [hpassed]; rfl, hasked⟩
    · intro request hrequest hunknown
      have hmem : requestedPorts request ∈ (plugRequests result.sent).map requestedPorts :=
        List.mem_map_of_mem hrequest
      rw [hasked] at hmem
      split_ifs at hmem
      · cases hmem
      · rw [List.mem_singleton.mp hmem] at hunknown
        exact hgood (M64Config.unknown_mem_translated_iff.mp hunknown)

/-- A call that refuses is right if some number is no request. -/
theorem validatesRequests_iff_of_refused {ports : PortEnum} {encodedPorts : List Int}
    {result : InitiateNetplayResult ButtonsType} (hzero : result.ending = .returned 0)
    (hnone : result.consoleIdPassed = none) (hasked : plugRequests result.sent = []) :
    ValidatesRequests ports encodedPorts result ↔
      ¬ ∀ encodedPort ∈ encodedPorts, IsPortRequest encodedPort := by
  constructor
  · intro h hall
    obtain ⟨encodedPort, hmem, hnot⟩ := h.refuses.mp ⟨hzero, hnone⟩
    exact hnot (hall encodedPort hmem)
  · intro hbad
    refine ⟨⟨fun _ => ?_, fun _ => ⟨hzero, hnone⟩⟩, fun hall => absurd hall hbad, ?_⟩
    · simpa only [not_forall, exists_prop] using hbad
    · intro request hrequest
      rw [hasked] at hrequest
      cases hrequest

/-- **When requests are validated in their own numbering.**  Once the user has chosen a
console, the call treats the configured numbers as they are meant, exactly if the enum has
all of them but -1 just when they all are requests. -/
theorem validatesRequests_iff {impl : PluginImpl ButtonsType} {info : NetplayInfo}
    {env : Environment} {answer : UserAnswer} {consoleId : Variable}
    (henabled : impl.configuration.enabled = true) (hraw : info.hasRawData = false)
    (hanswer : userAnswer env.cin = some answer)
    (hchosen : chosenConsoleId env answer = some consoleId) (ports : PortEnum)
    (goodname md5 : String) :
    ValidatesRequests ports impl.configuration.portRequests
        (initiateNetplay ports impl info goodname md5 env) ↔
      (M64Config.AllValid ports impl.configuration.portRequests ↔
        ∀ encodedPort ∈ impl.configuration.portRequests, IsPortRequest encodedPort) := by
  obtain ⟨config, rfl, hsent, hcall⟩ :=
    initiateNetplay_of_chosen henabled hraw hanswer hchosen ports goodname md5
  have hlength := length_translated_le ports impl.configuration
  rw [hcall, M64Config.requestPorts_eq]
  generalize impl.configuration.portRequests = encodedPorts at hlength ⊢
  by_cases hvalid : M64Config.AllValid ports encodedPorts
  · rw [if_pos hvalid, iff_true_left hvalid]
    refine validatesRequests_iff_of_passed (plugAndStart_step ..).consoleIdPassed_eq ?_
    rw [plugAndStart_plugRequests hsent]
    exact requestedPorts_plugControllerRequest _ _ _ hlength
  · rw [if_neg hvalid, iff_false_left hvalid]
    exact validatesRequests_iff_of_refused rfl rfl hsent.plugRequests_eq

theorem validatesRequests_iff_join :
    ValidatesRequests EventStreamHandler.portNumbers freshImpl.configuration.portRequests
      (initiateNetplay EventStreamHandler.portNumbers freshImpl oneController "" ""
        (joinConsole .success)) := by
  have hanswer : userAnswer (joinConsole .success).cin = some (.enter 1) := by decide
  exact (validatesRequests_iff rfl (by decide) hanswer rfl EventStreamHandler.portNumbers ""
    "").mpr (by decide)

/-- A configuration with the number 5, which the enum gives to `PORT_ANY`. -/
def numberFiveImpl : PluginImpl Int where
  configHandler :=
    { getString := fun _ => some ""
      getInt := fun name => if name = "Port1Request" then 5 else -1
      getBool := fun _ => true }
  client := .make 0
  streamHandler := none

/-- The number 5 is not refused. -/
theorem not_validatesRequests :
    ¬ ∀ (ports : PortEnum) (impl : PluginImpl Int) (info : NetplayInfo) (goodname md5 : String)
      (env : Environment) (answer : UserAnswer) (consoleId : Variable),
      impl.configuration.enabled = true → info.hasRawData = false →
      userAnswer env.cin = some answer → chosenConsoleId env answer = some consoleId →
        ValidatesRequests ports impl.configuration.portRequests
          (initiateNetplay ports impl info goodname md5 env) := by
  intro h
  have hanswer : userAnswer (joinConsole .success).cin = some (.enter 1) := by decide
  have hvalidates := h EventStreamHandler.portNumbers numberFiveImpl oneController "" ""
    (joinConsole .success) (.enter 1) ⟨1, true⟩ rfl (by decide) hanswer rfl
  obtain ⟨-, hnone⟩ := hvalidates.refuses.mpr ⟨5, by decide, by decide⟩
  have hpassed : (initiateNetplay EventStreamHandler.portNumbers numberFiveImpl oneController ""
      "" (joinConsole .success)).consoleIdPassed = some ⟨1, true⟩ := by
    decide
  cases hpassed.symm.trans hnone

end PluginImpl

end Plugin
end Netplay
