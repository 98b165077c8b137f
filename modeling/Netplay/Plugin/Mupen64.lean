import Netplay.Plugin.Launch

/-!
# The exported functions

What `mupen64.cc` exports to the emulator.  The library holds one `PluginImpl`, which
`InitiateNetplay` replaces; `PutKeys` and `GetKeys` dereference it, and the handler in
it.

`InitiateNetplay` returns 1 without a look at `NETPLAY_INFO` when netplay is disabled,
where the function of `PluginImpl` clears it (`initiateNetplay_agrees_iff`).
-/

namespace Netplay
namespace Plugin
namespace Mupen64

open Client

variable {ButtonsType : Type*}

/-- How the exported `InitiateNetplay` ended, what it left behind, and the address it
opened a channel to. -/
structure InitiateResult (ButtonsType : Type*) where
  ending : Ending
  pluginImpl : Option (PluginImpl ButtonsType)
  info : NetplayInfo
  cin : InputStream
  sent : List Sent
  serverAddr : Option String

/-- A `PluginImpl` for this configuration, with a client of its own. -/
def newPluginImpl (configHandler : ConfigHandler) : PluginImpl ButtonsType where
  configHandler := configHandler
  client := .make (M64Config.fromConfigHandler configHandler).delayFrames
  streamHandler := none

/-- `InitiateNetplay`, given what `MakeConfigHandler` returns.  The configuration does
not change during the call. -/
def initiateNetplay (ports : PortEnum) (pluginImpl : Option (PluginImpl ButtonsType))
    (configHandler : Option ConfigHandler) (info : NetplayInfo) (goodname md5 : String)
    (env : Environment) : InitiateResult ButtonsType :=
  match configHandler with
  | none => ⟨.nullDereference, pluginImpl, info, env.cin, [], none⟩
  | some configHandler =>
      let config := M64Config.fromConfigHandler configHandler
      if config.enabled = false then
        ⟨.returned 1, pluginImpl, info, env.cin, [], none⟩
      else
        let serverAddr := config.serverHostname ++ ":" ++ toString config.serverPort
        let result := (newPluginImpl configHandler).initiateNetplay ports info goodname md5 env
        ⟨result.ending, some result.impl, result.info, result.cin, result.sent, some serverAddr⟩

/-- `PutKeys`. -/
def putKeys (ports : PortEnum) (coder : ButtonCoder ButtonsType)
    (pluginImpl : Option (PluginImpl ButtonsType))
    (updates : List (PluginImpl.FrameUpdate ButtonsType)) (writeOk : Bool) :
    Ending × Option (PluginImpl ButtonsType) × List Sent :=
  match pluginImpl with
  | none => (.nullDereference, none, [])
  | some impl =>
      let put := impl.putButtons ports coder updates writeOk
      (put.1, some put.2.1, put.2.2)

/-- `GetKeys`. -/
def getKeys [Inhabited ButtonsType] (ports : PortEnum) (coder : ButtonCoder ButtonsType)
    (pluginImpl : Option (PluginImpl ButtonsType)) (update : PluginImpl.FrameUpdate ButtonsType)
    (incoming : List (Option IncomingEventPB)) :
    Ending × Option (PluginImpl ButtonsType) × ButtonsType × List (Option IncomingEventPB) :=
  match pluginImpl with
  | none => (.nullDereference, none, update.buttons, incoming)
  | some impl =>
      let get := impl.getButtons ports coder update incoming
      (get.1, some get.2.1, get.2.2)

/-- The objects that `PutKeys` and `GetKeys` dereference are there. -/
def HandlerPresent (pluginImpl : Option (PluginImpl ButtonsType)) : Prop :=
  ∃ impl handler, pluginImpl = some impl ∧ impl.streamHandler = some handler

/-- With them, no call dereferences a null pointer, and they stay. -/
theorem HandlerPresent.putKeys {pluginImpl : Option (PluginImpl ButtonsType)}
    (h : HandlerPresent pluginImpl) (ports : PortEnum) (coder : ButtonCoder ButtonsType)
    (updates : List (PluginImpl.FrameUpdate ButtonsType)) (writeOk : Bool) :
    (putKeys ports coder pluginImpl updates writeOk).1 ≠ .nullDereference ∧
      HandlerPresent (putKeys ports coder pluginImpl updates writeOk).2.1 := by
  obtain ⟨impl, handler, rfl, hhandler⟩ := h
  simp only [Mupen64.putKeys, PluginImpl.putButtons, hhandler]
  cases PluginImpl.buttonsFrameTuples ports updates with
  | none => exact ⟨by simp, impl, handler, rfl, hhandler⟩
  | some tuples => exact ⟨by simp, _, _, rfl, rfl⟩

theorem HandlerPresent.getKeys [Inhabited ButtonsType]
    {pluginImpl : Option (PluginImpl ButtonsType)} (h : HandlerPresent pluginImpl)
    (ports : PortEnum) (coder : ButtonCoder ButtonsType)
    (update : PluginImpl.FrameUpdate ButtonsType) (incoming : List (Option IncomingEventPB)) :
    (getKeys ports coder pluginImpl update incoming).1 ≠ .nullDereference ∧
      HandlerPresent (getKeys ports coder pluginImpl update incoming).2.1 := by
  obtain ⟨impl, handler, rfl, hhandler⟩ := h
  simp only [Mupen64.getKeys, PluginImpl.getButtons, hhandler]
  by_cases hport : m64PortToPort ports update.port = ports.unknown
  · rw [if_pos hport]
    exact ⟨by simp, impl, handler, rfl, hhandler⟩
  · rw [if_neg hport]
    exact ⟨by simp, _, _, rfl, rfl⟩

/-- With netplay disabled the function touches nothing. -/
theorem initiateNetplay_disabled {config : ConfigHandler}
    (hdisabled : (M64Config.fromConfigHandler config).enabled = false) (ports : PortEnum)
    (pluginImpl : Option (PluginImpl ButtonsType)) (info : NetplayInfo) (goodname md5 : String)
    (env : Environment) :
    initiateNetplay ports pluginImpl (some config) info goodname md5 env =
      ⟨.returned 1, pluginImpl, info, env.cin, [], none⟩ := by
  simp only [initiateNetplay, hdisabled, if_true]

/-- Otherwise it does what the function of a new `PluginImpl` does. -/
theorem initiateNetplay_enabled {config : ConfigHandler}
    (henabled : (M64Config.fromConfigHandler config).enabled = true) (ports : PortEnum)
    (pluginImpl : Option (PluginImpl ButtonsType)) (info : NetplayInfo) (goodname md5 : String)
    (env : Environment) :
    ∃ serverAddr, initiateNetplay ports pluginImpl (some config) info goodname md5 env =
      let result := (newPluginImpl config).initiateNetplay ports info goodname md5 env
      ⟨result.ending, some result.impl, result.info, result.cin, result.sent, serverAddr⟩ := by
  simp only [initiateNetplay, henabled, Bool.true_eq_false, if_false]
  exact ⟨_, rfl⟩

/-- The result agrees with what the function of `PluginImpl` makes of `NETPLAY_INFO`:
the flag is the configured one, the controllers are absent when netplay is disabled, and
with the flag set there is a handler. -/
structure Agrees (config : ConfigHandler) (expected : NetplayInfo)
    (result : InitiateResult ButtonsType) : Prop where
  info_eq : result.info = expected
  enabled_eq : result.info.enabled =
    if (M64Config.fromConfigHandler config).enabled then 1 else 0
  absent : (M64Config.fromConfigHandler config).enabled = false →
    result.info.netplayControls = Vector.replicate 4 NetplayController.absent
  handlerPresent : result.info.enabled ≠ 0 → HandlerPresent result.pluginImpl

/-- **When the exported function agrees with `PluginImpl`.**  Whenever it returns 1 it
agrees with the function of `PluginImpl`, exactly if netplay is enabled or
`NETPLAY_INFO` is empty before the call: the flag off, and all controllers absent. -/
theorem initiateNetplay_agrees_iff (ports : PortEnum)
    (pluginImpl : Option (PluginImpl ButtonsType)) (configHandler : Option ConfigHandler)
    (info : NetplayInfo) (goodname md5 : String) (env : Environment) :
    ((initiateNetplay ports pluginImpl configHandler info goodname md5 env).ending =
        .returned 1 →
      ∃ config, configHandler = some config ∧
        Agrees config ((newPluginImpl config : PluginImpl ButtonsType).initiateNetplay ports info
            goodname md5 env).info
          (initiateNetplay ports pluginImpl configHandler info goodname md5 env)) ↔
      ∀ config, configHandler = some config →
        (M64Config.fromConfigHandler config).enabled = true ∨
          info = info.clear.setEnabled false := by
  cases configHandler with
  | none =>
      constructor
      · rintro - config ⟨⟩
      · rintro - ⟨⟩
  | some config =>
      simp only [Option.some.injEq, forall_eq', exists_eq_left']
      cases henabled : (M64Config.fromConfigHandler config).enabled with
      | false =>
          have hconfigured : (newPluginImpl config : PluginImpl ButtonsType).configuration.enabled =
            false := henabled
          have hexpected := PluginImpl.initiateNetplay_disabled hconfigured ports info goodname md5
            env
          rw [initiateNetplay_disabled henabled, hexpected]
          constructor
          · intro hagrees
            exact Or.inr (hagrees rfl).info_eq
          · rintro (⟨⟨⟩⟩ | hempty) -
            refine ⟨hempty, ?_, fun _ => ?_, fun hflag => absurd ?_ hflag⟩
            · rw [hempty, henabled]
              rfl
            · rw [hempty]
              rfl
            · rw [hempty]
              rfl
      | true =>
          obtain ⟨serverAddr, hresult⟩ :=
            initiateNetplay_enabled henabled ports pluginImpl info goodname md5 env
          rw [hresult]
          refine ⟨fun _ => Or.inl rfl, fun _ hone => ?_⟩
          have hconfigured : (newPluginImpl config : PluginImpl ButtonsType).configuration.enabled =
            true := henabled
          obtain ⟨hflag, handler, hhandler⟩ :=
            PluginImpl.initiateNetplay_started hconfigured hone
          refine ⟨rfl, ?_, ?_, fun _ => ⟨_, handler, rfl, hhandler⟩⟩
          · rw [henabled]
            exact hflag
          · intro hdisabled
            cases henabled.symm.trans hdisabled

/-- Netplay is switched off in the configuration. -/
def disabledConfig : ConfigHandler where
  getString := fun _ => some ""
  getInt := fun _ => -1
  getBool := fun _ => false

/-- Netplay is disabled and the flag of `NETPLAY_INFO` set: it stays, and there is no
plugin to take keys. -/
theorem initiateNetplay_not_agrees :
    ¬ ∀ (ports : PortEnum) (pluginImpl : Option (PluginImpl Int)) (config : ConfigHandler)
      (info : NetplayInfo) (goodname md5 : String) (env : Environment),
      (initiateNetplay ports pluginImpl (some config) info goodname md5 env).ending =
        .returned 1 →
      (initiateNetplay ports pluginImpl (some config) info goodname md5 env).info =
          ((newPluginImpl config : PluginImpl Int).initiateNetplay ports info goodname md5
            env).info ∧
        ((initiateNetplay ports pluginImpl (some config) info goodname md5 env).info.enabled ≠ 0 →
          HandlerPresent
            (initiateNetplay ports pluginImpl (some config) info goodname md5 env).pluginImpl) := by
  intro h
  obtain ⟨-, hpresent⟩ := h EventStreamHandler.portNumbers none disabledConfig
    (oneController.setEnabled true) "" "" (PluginImpl.joinConsole .success) (by decide)
  obtain ⟨impl, handler, hnone, -⟩ := hpresent (by decide)
  cases hnone

end Mupen64
end Plugin
end Netplay
