import Netplay.Plugin.PluginImpl

/-!
# The dialogue with the user

`InteractiveConfig` asks whether to create a console and otherwise for the id of
one.  `userAnswer` is what the input says to these questions, and
`chosenConsoleId` the variable that the answer leads to.
`interactiveConfig_step` lists the ways the dialogue can go, and
`initiateNetplay_step` what `InitiateNetplay` makes of them on its way to
`PlugControllers`.
-/

namespace Netplay
namespace Plugin

open Client

/-- What the user asks for: a new console, or the one with this id. -/
inductive UserAnswer
  | create
  | enter (consoleId : Int)
deriving DecidableEq

/-- The answers at the head of the input, if they can be read. -/
def userAnswer (cin : InputStream) : Option UserAnswer :=
  match readBool cin with
  | (none, _) => none
  | (some true, _) => some .create
  | (some false, cin) =>
      let number := readInt64 cin 0
      if number.1 then some (.enter number.2.1) else none

/-- The console id that an answer leads to.  The id of a new console is assigned
only if the server says `SUCCESS`. -/
def chosenConsoleId (env : Environment) : UserAnswer → Option Variable
  | .enter consoleId => some ⟨consoleId, true⟩
  | .create =>
      match env.makeConsole with
      | none => none
      | some response =>
          if response.status = .success then some ⟨toInt response.consoleId, true⟩
          else some ⟨env.indeterminate, false⟩

/-- What the variable held before does not matter, unless there is nothing to read. -/
theorem readInt64_eq_or (cin : InputStream) (consoleId other : Int) :
    readInt64 cin consoleId = readInt64 cin other ∨
      (readInt64 cin consoleId).1 = false ∧ (readInt64 cin other).1 = false := by
  unfold readInt64 InputStream.readInt64
  cases hskip : cin.skipSpace with
  | mk ok cin' =>
  cases ok with
  | true => exact Or.inl rfl
  | false =>
      have hbad := cin.ignore_skipSpace_of_false hskip
      exact Or.inr ⟨hbad, hbad⟩

/-- No RPC but `MakeConsole` is part of the dialogue. -/
def OnlyMakesConsole (sent : List Sent) : Prop :=
  ∀ message ∈ sent, ∃ request, message = .makeConsole request

/-- The ways the dialogue can go. -/
inductive ConfigStep (env : Environment) : InteractiveConfigResult → Prop
  | unanswered {consoleId : Variable} {cin : InputStream} (hanswer : userAnswer env.cin = none) :
      ConfigStep env ⟨false, consoleId, false, cin, []⟩
  | notMade {consoleId : Variable} {cin : InputStream} {sent : List Sent}
      (hanswer : userAnswer env.cin = some .create)
      (hchosen : chosenConsoleId env .create = none) (hsent : OnlyMakesConsole sent) :
      ConfigStep env ⟨false, consoleId, true, cin, sent⟩
  | chosen {answer : UserAnswer} {consoleId : Variable} {cin : InputStream} {sent : List Sent}
      (hanswer : userAnswer env.cin = some answer)
      (hchosen : chosenConsoleId env answer = some consoleId) (hsent : OnlyMakesConsole sent) :
      ConfigStep env ⟨true, consoleId, decide (answer = .create), cin, sent⟩

theorem interactiveConfig_step (configHandler : ConfigHandler) (goodname md5 : String)
    (env : Environment) :
    ConfigStep env (interactiveConfig configHandler goodname md5 env) := by
  unfold interactiveConfig
  generalize (M64Config.fromConfigHandler configHandler).consoleId = configured
  cases hread : readBool env.cin with
  | mk answer cin =>
  match answer with
  | none => exact .unanswered (by rw [userAnswer, hread])
  | some true =>
      have hanswer : userAnswer env.cin = some .create := by rw [userAnswer, hread]
      have hsent : OnlyMakesConsole [.makeConsole ⟨goodname, md5⟩] := by
        intro message hmem
        exact ⟨_, List.mem_singleton.mp hmem⟩
      cases hmade : env.makeConsole with
      | none => exact .notMade hanswer (by rw [chosenConsoleId, hmade]) hsent
      | some response =>
          by_cases hstatus : response.status = .success
          · simp only [makeConsole, hstatus, if_true]
            refine .chosen hanswer ?_ hsent
            simp only [chosenConsoleId, hmade, hstatus, if_true]
          · simp only [makeConsole, hstatus, if_false]
            refine .chosen hanswer ?_ hsent
            simp only [chosenConsoleId, hmade, hstatus, if_false]
  | some false =>
      have hanswer : userAnswer env.cin =
          if (readInt64 cin 0).1 then some (.enter (readInt64 cin 0).2.1) else none := by
        rw [userAnswer, hread]
      rcases readInt64_eq_or cin configured 0 with hsame | ⟨hbad, hzero⟩
      · simp only [hsame]
        generalize readInt64 cin 0 = number at hanswer
        obtain ⟨ok, consoleId, rest⟩ := number
        cases ok with
        | true => exact .chosen hanswer rfl nofun
        | false => exact .unanswered hanswer
      · rw [hzero] at hanswer
        simp only [hbad]
        exact .unanswered hanswer

end Plugin
end Netplay
