import Netplay.Plugin.Launch

/-!
# Where the console id comes from

`InteractiveConfig` hands out the id of the console through two output parameters.
`MakeConsole` assigns its own on `SUCCESS` only, but returns true whenever the RPC
came back, and its parameter is an `int`.  So a refused request for a console is
carried on with a variable that nothing was assigned to
(`consoleIdPassed_provenance_iff`).
-/

namespace Netplay
namespace Plugin

open Client

variable {ButtonsType : Type*}

/-- The ids that `InitiateNetplay` may use: the one the user entered, or the one of a
console that the server created for the user. -/
inductive Provenance (env : Environment) : Int → Prop
  | entered {consoleId : Int} (hanswer : userAnswer env.cin = some (.enter consoleId)) :
      Provenance env consoleId
  | created {response : MakeConsoleResponsePB} (hanswer : userAnswer env.cin = some .create)
      (hresponse : env.makeConsole = some response) (hstatus : response.status = .success) :
      Provenance env response.consoleId

namespace PluginImpl

/-- The user asks for a new console, the server answers, and the variable for its id
does not get the id of a new console: the server refused, or the id is no `int`. -/
structure Misassigned (ports : PortEnum) (impl : PluginImpl ButtonsType) (info : NetplayInfo)
    (env : Environment) (response : MakeConsoleResponsePB) (requestedPorts : List Port) :
    Prop where
  enabled : impl.configuration.enabled = true
  noRawData : info.hasRawData = false
  answered : userAnswer env.cin = some .create
  made : env.makeConsole = some response
  requested : M64Config.requestPorts ports impl.configuration.portRequests = some requestedPorts
  lost : response.status ≠ .success ∨
    ¬ (-2 ^ 31 ≤ response.consoleId ∧ response.consoleId < 2 ^ 31)

/-- The variable that `InteractiveConfig` hands out for a response of `MakeConsole`. -/
theorem chosenConsoleId_create {env : Environment} {response : MakeConsoleResponsePB}
    (hmade : env.makeConsole = some response) :
    chosenConsoleId env .create =
      if response.status = .success then some ⟨toInt response.consoleId, true⟩
      else some ⟨env.indeterminate, false⟩ := by
  rw [chosenConsoleId, hmade]

/-- Such a variable is passed on. -/
theorem Misassigned.reaches {ports : PortEnum} {impl : PluginImpl ButtonsType}
    {info : NetplayInfo} {env : Environment} {response : MakeConsoleResponsePB}
    {requestedPorts : List Port}
    (h : Misassigned ports impl info env response requestedPorts) :
    ∃ consoleId, Reaches ports impl info env .create consoleId requestedPorts := by
  have hchosen := chosenConsoleId_create h.made
  by_cases hstatus : response.status = .success
  · rw [if_pos hstatus] at hchosen
    exact ⟨_, h.enabled, h.noRawData, h.answered, hchosen, h.requested⟩
  · rw [if_neg hstatus] at hchosen
    exact ⟨_, h.enabled, h.noRawData, h.answered, hchosen, h.requested⟩

/-- It is not assigned, or to a number that the server did not send. -/
theorem Misassigned.not_provenance {ports : PortEnum} {impl : PluginImpl ButtonsType}
    {info : NetplayInfo} {env : Environment} {response : MakeConsoleResponsePB}
    {requestedPorts : List Port} (h : Misassigned ports impl info env response requestedPorts)
    {consoleId : Variable}
    (hreaches : Reaches ports impl info env .create consoleId requestedPorts) :
    ¬ (consoleId.assigned = true ∧ Provenance env consoleId.value) := by
  have hchosen := hreaches.chosen
  rw [chosenConsoleId_create h.made] at hchosen
  rintro ⟨hassigned, hprovenance⟩
  by_cases hstatus : response.status = .success
  · rw [if_pos hstatus] at hchosen
    cases hchosen
    have hrange := h.lost.resolve_left (not_not.mpr hstatus)
    rw [← toInt_eq_self_iff] at hrange
    generalize hid : toInt response.consoleId = id at hprovenance hrange
    cases hprovenance with
    | entered hanswer => cases h.answered.symm.trans hanswer
    | created _ hresponse _ =>
        cases h.made.symm.trans hresponse
        exact hrange rfl
  · rw [if_neg hstatus] at hchosen
    cases hchosen
    cases hassigned

/-- Otherwise the variable has its value from where it should. -/
theorem Reaches.provenance {ports : PortEnum} {impl : PluginImpl ButtonsType}
    {info : NetplayInfo} {env : Environment} {answer : UserAnswer} {consoleId : Variable}
    {requestedPorts : List Port}
    (h : Reaches ports impl info env answer consoleId requestedPorts)
    (hkept : ∀ response, ¬ Misassigned ports impl info env response requestedPorts) :
    consoleId.assigned = true ∧ Provenance env consoleId.value := by
  have hchosen := h.chosen
  cases answer with
  | enter entered =>
      cases hchosen
      exact ⟨rfl, .entered h.answered⟩
  | create =>
      cases hmade : env.makeConsole with
      | none =>
          rw [chosenConsoleId, hmade] at hchosen
          cases hchosen
      | some response =>
          have hgood : ¬ (response.status ≠ .success ∨
              ¬ (-2 ^ 31 ≤ response.consoleId ∧ response.consoleId < 2 ^ 31)) := fun hlost =>
            hkept response ⟨h.enabled, h.noRawData, h.answered, hmade, h.requested, hlost⟩
          rw [not_or, not_not, not_not] at hgood
          obtain ⟨hstatus, hrange⟩ := hgood
          rw [chosenConsoleId_create hmade, if_pos hstatus, toInt_eq_self_iff.mpr hrange] at hchosen
          cases hchosen
          exact ⟨rfl, .created h.answered hmade hstatus⟩

/-- **Where the console id comes from.**  What `PlugControllers` is given has been
assigned, and comes from the user or from a `MakeConsole` that succeeded, and without
either nothing is requested and the call fails, exactly unless the user asks for a
console, the RPC comes back without one or with an id that is no `int`, and the
configured ports are valid. -/
theorem consoleIdPassed_provenance_iff (ports : PortEnum) (impl : PluginImpl ButtonsType)
    (info : NetplayInfo) (goodname md5 : String) (env : Environment) :
    ((∀ consoleId,
        (initiateNetplay ports impl info goodname md5 env).consoleIdPassed = some consoleId →
          consoleId.assigned = true ∧ Provenance env consoleId.value) ∧
      ((∀ consoleId, ¬ Provenance env consoleId) →
        (∀ request, .plugController request ∉
          (initiateNetplay ports impl info goodname md5 env).sent) ∧
        (impl.configuration.enabled = true →
          (initiateNetplay ports impl info goodname md5 env).ending = .returned 0))) ↔
      ¬ ∃ response requestedPorts, Misassigned ports impl info env response requestedPorts := by
  have hstep := initiateNetplay_step ports impl info goodname md5 env
  generalize initiateNetplay ports impl info goodname md5 env = result at hstep
  cases hstep with
  | disabled hdisabled =>
      refine ⟨?_, fun _ => ⟨nofun, fun _ => ⟨nofun, fun henabled => ?_⟩⟩⟩
      · rintro - ⟨response, requestedPorts, hlost⟩
        cases hdisabled.symm.trans hlost.enabled
      · cases hdisabled.symm.trans henabled
  | stopped _ hstopped hsent =>
      refine ⟨?_, fun _ => ⟨nofun, fun _ => ⟨?_, fun _ => rfl⟩⟩⟩
      · rintro - ⟨response, requestedPorts, hlost⟩
        obtain ⟨consoleId, hreaches⟩ := hlost.reaches
        exact hstopped _ _ _ hreaches
      · intro request hmem
        obtain ⟨_, hmake⟩ := hsent _ hmem
        cases hmake
  | @reached answer requestedPorts config hreaches _ =>
      have hpassed := (plugAndStart_step ports impl (info.clear.setEnabled true) md5 config
        requestedPorts env).consoleIdPassed_eq
      constructor
      · rintro ⟨hprovenance, -⟩ ⟨response, requestedPorts', hlost⟩
        obtain ⟨consoleId, hreaches'⟩ := hlost.reaches
        obtain ⟨rfl, rfl, rfl⟩ := hreaches.unique hreaches'
        exact hlost.not_provenance hreaches (hprovenance _ hpassed)
      · intro hkept
        have hprovenance := hreaches.provenance fun response hlost =>
          hkept ⟨response, requestedPorts, hlost⟩
        refine ⟨?_, fun hnone => absurd hprovenance.2 (hnone _)⟩
        intro consoleId hsome
        cases hpassed.symm.trans hsome
        exact hprovenance

/-- The user asks for a new console, the server refuses, and the memory of the
variable holds this number. -/
def refusedConsole (indeterminate : Int) : Environment where
  cin := { chars := ['y', '\n'] }
  indeterminate := indeterminate
  makeConsole := some { status := .unspecifiedFailure }
  plugController := none
  startGame := none
  clientReadyOk := true
  startGameEvent := none

/-- The server refuses a console, and is asked for the ports of another. -/
theorem consoleIdPassed_not_provenance :
    ¬ ∀ (ports : PortEnum) (impl : PluginImpl Int) (info : NetplayInfo)
      (goodname md5 : String) (env : Environment) (consoleId : Variable),
      (initiateNetplay ports impl info goodname md5 env).consoleIdPassed = some consoleId →
        consoleId.assigned = true := by
  intro h
  have hpassed : (initiateNetplay EventStreamHandler.portNumbers freshImpl oneController "" ""
      (refusedConsole 1)).consoleIdPassed = some ⟨1, false⟩ := by
    decide
  have hassigned := h _ _ _ _ _ _ _ hpassed
  cases hassigned

end PluginImpl

end Plugin
end Netplay
