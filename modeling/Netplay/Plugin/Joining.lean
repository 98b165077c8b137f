import Netplay.Plugin.Ids
import Netplay.Plugin.Library

/-!
# Joining a console

Whoever creates a console reads its id on the terminal and passes it on; the others type it
in.  The dialogue prints a number of type `int64_t` and reads one, but the id goes through an
`int` on its way to the terminal, and again on its way to the server.

`userAnswer_enters` is the round trip through the dialogue, `one_narrowed_console` what it is
for: all of them talk to the server about the same console, the one with the number that the
`int` made of the id.  It is the console that was created if the id is an `int`
(`one_console`).
-/

namespace Netplay
namespace Plugin

open Client EventStreamHandler

/-! ### What is typed -/

/-- A word that the user types, with white space before it and after it. -/
structure Typed where
  before : List Char
  word : List Char
  after : Char
  before_space : ∀ c ∈ before, InputStream.isSpace c = true
  word_ne_nil : word ≠ []
  word_solid : ∀ c ∈ word, InputStream.isSpace c = false
  after_space : InputStream.isSpace after = true

def Typed.chars (typed : Typed) : List Char := typed.before ++ (typed.word ++ [typed.after])

/-- What `ReadBool` makes of a word. -/
def boolAnswer (word : List Char) : Option Bool :=
  if word = ['y'] ∨ word = ['y', 'e', 's'] then some true
  else if word = ['n'] ∨ word = ['n', 'o'] then some false
  else none

theorem readWord_typed (typed : Typed) (rest held : List Char) :
    InputStream.readWord { chars := typed.chars ++ rest } held =
      (typed.word, { chars := typed.after :: rest }) := by
  have hchars : typed.chars ++ rest = typed.before ++ (typed.word ++ typed.after :: rest) := by
    simp [Typed.chars]
  rw [hchars]
  exact InputStream.readWord_append typed.before_space typed.word_ne_nil typed.word_solid
    typed.after_space rest held

/-- One round of `ReadBool`. -/
theorem readBool_typed (typed : Typed) (rest : List Char) :
    readBool { chars := typed.chars ++ rest } =
      match boolAnswer typed.word with
      | some answer => (some answer, { chars := rest })
      | none => readBool { chars := rest } := by
  have hignore : InputStream.ignore { chars := typed.after :: rest } = { chars := rest } := rfl
  have hgood : ¬ InputStream.good { chars := rest } = false := Bool.false_ne_true.symm
  rw [readBool_eq]
  simp only [readWord_typed, hignore, if_neg hgood, boolAnswer]
  split_ifs
  · rfl
  · rfl
  · rfl

/-- Words that are no answer are asked about again. -/
theorem readBool_unclear {unclear : List Typed}
    (hunclear : ∀ typed ∈ unclear, boolAnswer typed.word = none) (rest : List Char) :
    readBool { chars := unclear.flatMap Typed.chars ++ rest } = readBool { chars := rest } := by
  induction unclear with
  | nil => rfl
  | cons typed unclear ih =>
      obtain ⟨hfirst, hothers⟩ := List.forall_mem_cons.mp hunclear
      rw [List.flatMap_cons, List.append_assoc, readBool_typed, hfirst]
      exact ih hothers

/-- The user says no, after any number of words that are no answer, and then enters the
characters of a number. -/
inductive Enters (number : List Char) : InputStream → Prop
  | mk {unclear : List Typed} {no : Typed} {before : List Char} {after : Char}
      {rest : List Char} (hunclear : ∀ typed ∈ unclear, boolAnswer typed.word = none)
      (hno : boolAnswer no.word = some false)
      (hbefore : ∀ c ∈ before, InputStream.isSpace c = true) (hafter : after.isDigit = false) :
      Enters number
        { chars := unclear.flatMap Typed.chars ++
            (no.chars ++ (before ++ (number ++ after :: rest))) }

/-- **The round trip through the dialogue.** -/
theorem userAnswer_enters {consoleId : Int} (hlow : -2 ^ 63 ≤ consoleId)
    (hhigh : consoleId < 2 ^ 63) {cin : InputStream}
    (h : Enters (InputStream.printInt64 consoleId) cin) :
    userAnswer cin = some (.enter consoleId) := by
  cases h with
  | @mk unclear no before after rest hunclear hno hbefore hafter =>
      have hnumber := InputStream.readInt64_printInt64 hlow hhigh hbefore hafter rest 0
      rw [userAnswer, readBool_unclear hunclear, readBool_typed, hno]
      simp only [readInt64, hnumber]
      rfl

/-! ### What is printed -/

def breakLine : List Char :=
  "==================================================================".toList

/-- What `ReadBool` prints, in a bounded number of rounds. -/
def readBoolPrints (prompt : List Char) : Nat → InputStream → List Char
  | 0, _ => []
  | rounds + 1, cin =>
      let word := cin.readWord []
      let cin := word.2.ignore
      '\n' :: prompt ++
        if cin.good = false then []
        else
          match boolAnswer word.1 with
          | some _ => []
          | none => readBoolPrints prompt rounds cin

/-- What the creator of a console is told. -/
def createdConsole (consoleId : Int) : List Char :=
  "Created new console with ID: ".toList ++ InputStream.printInt64 consoleId

/-- What `InteractiveConfig` prints after the answer to its first question. -/
def answerPrints (env : Environment) : List Char :=
  match readBool env.cin with
  | (none, _) => []
  | (some true, _) =>
      match makeConsole env.makeConsole .unknown ⟨env.indeterminate, false⟩ with
      | (false, _, _) => []
      | (true, _, consoleId) =>
          '\n' :: '\n' :: breakLine ++ '\n' :: createdConsole consoleId.value
  | (some false, _) =>
      '\n' :: '\n' :: breakLine ++ '\n' :: "Enter new console ID: ".toList

/-- What `InteractiveConfig` prints. -/
def interactiveConfigPrints (env : Environment) : List Char :=
  '\n' :: '\n' :: breakLine ++
    readBoolPrints "Do you want to create a new console? [y/n]: ".toList
      (env.cin.chars.length + 1) env.cin ++
    answerPrints env

/-- A console that was created is announced last. -/
theorem interactiveConfigPrints_created {env : Environment} {response : MakeConsoleResponsePB}
    (hcreate : userAnswer env.cin = some .create) (hmade : env.makeConsole = some response)
    (hstatus : response.status = .success) :
    ∃ text, interactiveConfigPrints env = text ++ createdConsole (toInt response.consoleId) := by
  have hanswer : answerPrints env =
      '\n' :: '\n' :: breakLine ++ '\n' :: createdConsole (toInt response.consoleId) := by
    unfold answerPrints
    unfold userAnswer at hcreate
    cases hread : readBool env.cin with
    | mk answer cin =>
    rw [hread] at hcreate
    match answer with
    | none => cases hcreate
    | some false =>
        simp only at hcreate
        split_ifs at hcreate
        cases hcreate
    | some true => simp only [makeConsole, hmade, hstatus, if_true]
  rw [interactiveConfigPrints, hanswer, List.append_cons _ '\n', ← List.append_assoc]
  exact ⟨_, rfl⟩

/-! ### One console -/

/-- The console ids in a message. -/
def consoleIdsIn : Sent → List Int
  | .makeConsole _ => []
  | .plugController request => [request.consoleId]
  | .startGame request => [request.consoleId]
  | .event event =>
      event.clientReady.toList.map ClientReadyPB.consoleId ++
        event.keyPress.map KeyStatePB.consoleId

namespace Mupen64

/-- The conversation is about this console, if about any. -/
def About (consoleId : Int) : Phase → Prop
  | .opened => True
  | .made => True
  | .plugged id _ => id = consoleId
  | .ready id _ => id = consoleId

/-- The request for controllers carries the id that it was built with. -/
theorem plugControllerRequest_consoleId {client : NetplayClient} {consoleId : Int}
    {romMd5 : String} {localPorts : List Port} {request : PlugControllerRequestPB}
    (h : client.plugControllerRequest consoleId romMd5 localPorts = some request) :
    request.consoleId = consoleId := by
  unfold NetplayClient.plugControllerRequest at h
  split at h
  · cases h
    rfl
  · cases h
    rfl
  · cases h
    rfl
  · cases h
    rfl
  · cases h

/-- A conversation whose console is known names no other. -/
theorem consoleIdsIn_of_says {ports : PortEnum} {opening : Opening} {consoleId : Int}
    (hint : toInt consoleId = consoleId)
    (hknown : ∀ answer chosen, userAnswer opening.env.cin = some answer →
      chosenConsoleId opening.env answer = some chosen → chosen.value = consoleId)
    {sent : List Sent} {phase : Phase}
    (h : LabelledRun (Says ports opening) .opened sent phase) :
    ∀ message ∈ sent, ∀ id ∈ consoleIdsIn message, id = consoleId := by
  refine (h.invariant (I := About consoleId) ?_ trivial).1
  intro s message t habout hsaid
  cases hsaid with
  | makeConsole hanswer => exact ⟨fun id hid => absurd hid List.not_mem_nil, trivial⟩
  | plugController hanswer hchosen _ hrequest =>
      have hvalue := hknown _ _ hanswer hchosen
      refine ⟨fun id hid => ?_, hvalue⟩
      rw [List.mem_singleton.mp hid, plugControllerRequest_consoleId hrequest, hvalue]
  | clientReady hplugged _ =>
      cases habout
      refine ⟨fun id hid => ?_, rfl⟩
      exact (List.mem_singleton.mp hid).trans hint
  | startGame _ =>
      cases habout
      exact ⟨fun id hid => (List.mem_singleton.mp hid).trans hint, rfl⟩
  | keyPress _ _ _ _ hfit =>
      cases habout
      refine ⟨fun id hid => ?_, rfl⟩
      obtain ⟨key, hkey, rfl⟩ := List.mem_map.mp hid
      exact (hfit key hkey).consoleId_eq.trans hint

/-- What goes through an `int` fits into an `int`. -/
theorem toInt_mem (x : Int) : -2 ^ 31 ≤ toInt x ∧ toInt x < 2 ^ 31 := by
  have hlow : -(((2 ^ 32 : Nat) : Int) / 2) ≤ toInt x := Int.le_bmod (by decide)
  have hhigh : toInt x < (((2 ^ 32 : Nat) : Int) + 1) / 2 := Int.bmod_lt (by decide)
  omega

variable {Handle ButtonsType : Type*} [Inhabited ButtonsType]

/-- The creator of a console is told what is left of its number at the end of the dialogue.
Whoever enters this, in another process, talks to the server about the same console as the
creator. -/
theorem one_narrowed_console {ports : PortEnum} {coder : ButtonCoder ButtonsType}
    (hheader : coder.KeepsHeader) {p p' : Process Handle ButtonsType}
    (hreach : (Process.system ports coder).Reachable p)
    (hreach' : (Process.system ports coder).Reachable p') {creator joiner : Channel}
    (hcreator : creator ∈ p.channels) (hjoiner : joiner ∈ p'.channels)
    {response : MakeConsoleResponsePB}
    (hcreate : userAnswer creator.opening.env.cin = some .create)
    (hmade : creator.opening.env.makeConsole = some response)
    (hstatus : response.status = .success) :
    (∃ text, interactiveConfigPrints creator.opening.env =
        text ++ createdConsole (toInt response.consoleId)) ∧
      (Enters (InputStream.printInt64 (toInt response.consoleId)) joiner.opening.env.cin →
        ∀ message ∈ creator.sent ++ joiner.sent, ∀ id ∈ consoleIdsIn message,
          id = toInt response.consoleId) := by
  obtain ⟨hlow, hhigh⟩ := toInt_mem response.consoleId
  have hint := toInt_eq_self_iff.mpr ⟨hlow, hhigh⟩
  refine ⟨interactiveConfigPrints_created hcreate hmade hstatus, fun henters message hmessage => ?_⟩
  rcases List.mem_append.mp hmessage with hmessage | hmessage
  · obtain ⟨phase, hrun⟩ := ((Process.reachable_inv hheader hreach).conversations creator
      hcreator).run
    refine consoleIdsIn_of_says hint (fun answer chosen hanswer hchosen => ?_) hrun message
      hmessage
    cases hcreate.symm.trans hanswer
    simp only [chosenConsoleId, hmade, hstatus, if_true] at hchosen
    cases hchosen
    rfl
  · obtain ⟨phase, hrun⟩ := ((Process.reachable_inv hheader hreach').conversations joiner
      hjoiner).run
    refine consoleIdsIn_of_says hint (fun answer chosen hanswer hchosen => ?_) hrun message
      hmessage
    cases (userAnswer_enters (by omega) (by omega) henters).symm.trans hanswer
    cases hchosen
    rfl

/-- **One console.**  If the id of the console that was created is an `int`, its creator is
told this id at the end of the dialogue.  Whoever enters the number, in another process, talks
to the server about the same console as the creator: no message on either channel names
another. -/
theorem one_console {ports : PortEnum} {coder : ButtonCoder ButtonsType}
    (hheader : coder.KeepsHeader) {p p' : Process Handle ButtonsType}
    (hreach : (Process.system ports coder).Reachable p)
    (hreach' : (Process.system ports coder).Reachable p') {creator joiner : Channel}
    (hcreator : creator ∈ p.channels) (hjoiner : joiner ∈ p'.channels)
    {response : MakeConsoleResponsePB}
    (hcreate : userAnswer creator.opening.env.cin = some .create)
    (hmade : creator.opening.env.makeConsole = some response)
    (hstatus : response.status = .success) (hint : IsInt response.consoleId) :
    (∃ text, interactiveConfigPrints creator.opening.env =
        text ++ createdConsole response.consoleId) ∧
      (Enters (InputStream.printInt64 response.consoleId) joiner.opening.env.cin →
        ∀ message ∈ creator.sent ++ joiner.sent, ∀ id ∈ consoleIdsIn message,
          id = response.consoleId) := by
  have hnarrowed := one_narrowed_console hheader hreach hreach' hcreator hjoiner hcreate hmade
    hstatus
  rw [toInt_eq_self_iff_isInt.mpr hint] at hnarrowed
  exact hnarrowed

/-- The user creates a console, gets number 5, and presses enter to start it. -/
def createFive : Environment where
  cin := { chars := ['y', '\n', '\n'] }
  indeterminate := 0
  makeConsole := some { status := .success, consoleId := 5 }
  plugController := some { status := .success, consoleId := 5, clientId := 7, port := [1] }
  startGame := some { status := .success }
  clientReadyOk := true
  startGameEvent :=
    some { startGame := some { consoleId := 5, connectedPorts := [⟨1, 0⟩, ⟨2, 0⟩] } }

/-- Another user says no at the second attempt, and enters 5. -/
def enterFive : Environment where
  cin := { chars := ['?', '\n', 'n', 'o', '\n', '5', '\n'] }
  indeterminate := 0
  makeConsole := none
  plugController := some { status := .success, consoleId := 5, clientId := 8, port := [2] }
  startGame := none
  clientReadyOk := true
  startGameEvent :=
    some { startGame := some { consoleId := 5, connectedPorts := [⟨1, 0⟩, ⟨2, 0⟩] } }

/-- The library has joined a session in this environment. -/
def joined (env : Environment) : List (Call Unit Int) :=
  [.initiateNetplay (fun _ => some PluginImpl.onePortConfig) oneController "" "" env,
    .putKeys [⟨0, 0, 7⟩] true]

/-- The process after it. -/
def afterJoining (env : Environment) : Process Unit Int :=
  (joined env).foldl (Process.next portNumbers integerCoder) Process.loadedProcess

theorem one_console_five :
    ∃ creator ∈ (afterJoining createFive).channels, ∃ joiner ∈ (afterJoining enterFive).channels,
      creator.sent.length = 5 ∧ joiner.sent.length = 2 ∧
        ∀ message ∈ creator.sent ++ joiner.sent, ∀ id ∈ consoleIdsIn message, id = 5 := by
  have hreach (env : Environment) (hschedule : (Process.system portNumbers integerCoder).Schedule
      Process.loadedProcess (joined env)) :
      (Process.system portNumbers integerCoder).Reachable (afterJoining env) :=
    TransitionSystem.Reachable.foldl (.init rfl) hschedule
  have henters : Enters (InputStream.printInt64 5) enterFive.cin :=
    @Enters.mk _ [⟨[], ['?'], '\n', List.forall_mem_nil _, by decide,
        List.forall_mem_singleton.mpr rfl, by decide⟩]
      ⟨[], ['n', 'o'], '\n', List.forall_mem_nil _, by decide,
        List.forall_mem_cons.mpr ⟨rfl, List.forall_mem_singleton.mpr rfl⟩, by decide⟩
      [] '\n' [] (List.forall_mem_singleton.mpr rfl) (by decide) (List.forall_mem_nil _) (by decide)
  have hcreate : ∀ creator ∈ (afterJoining createFive).channels,
      creator.opening.env = createFive ∧ creator.sent.length = 5 := by decide
  have hjoin : ∀ joiner ∈ (afterJoining enterFive).channels,
      joiner.opening.env = enterFive ∧ joiner.sent.length = 2 := by decide
  obtain ⟨creator, hcreator⟩ := List.exists_mem_of_length_pos
    (by decide : 0 < (afterJoining createFive).channels.length)
  obtain ⟨joiner, hjoiner⟩ := List.exists_mem_of_length_pos
    (by decide : 0 < (afterJoining enterFive).channels.length)
  obtain ⟨hcreatorEnv, hcreatorSent⟩ := hcreate creator hcreator
  obtain ⟨hjoinerEnv, hjoinerSent⟩ := hjoin joiner hjoiner
  have hmade : creator.opening.env.makeConsole = some { status := .success, consoleId := 5 } := by
    rw [hcreatorEnv]
    rfl
  refine ⟨creator, hcreator, joiner, hjoiner, hcreatorSent, hjoinerSent, ?_⟩
  exact (one_console integerCoder_keepsHeader (hreach createFive (by decide))
    (hreach enterFive (by decide)) hcreator hjoiner (by rw [hcreatorEnv]; decide) hmade rfl
    (by decide)).2 (by rw [hjoinerEnv]; exact henters)

end Mupen64

end Plugin
end Netplay
