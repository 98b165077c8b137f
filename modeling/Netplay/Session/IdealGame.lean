import Netplay.Session.Completion
import Netplay.Session.SharedConsole

/-!
# The game that everybody plays

Players press buttons at what they see, and what they see depends on what was pressed.  With
netplay the buttons go through the coder, the streams, the server and the queues, and come
back to the consoles in whatever order the steps happen.  The ideal game has none of this:
one console, and each port given, after its delay, what its player presses at the screen of
so many frames before (`Play.ideal`).

* `reachable_reacted`: what an owner has put is what its player pressed at what it saw.
* `play_is_ideal`: whichever key presses the server loses or holds back, nobody sees anything
  but the ideal game.
* `play_completes`: over a reliable server everybody sees all of it.
-/

namespace Netplay
namespace Session

open Client Client.EventStreamHandler ReplicatedMachine

/-- How a console takes a step, where it starts, and what the players press: for a port and
a frame, at the state that the console is in before that frame. -/
structure Play (ι ButtonsType σ : Type*) where
  step : σ → List ButtonsType → σ
  start : σ
  pressed : ι → Port → ℕ → σ → ButtonsType

namespace Play

variable {ι ButtonsType σ : Type*}

/-- The ideal game. -/
def ideal [Inhabited ButtonsType] (play : Play ι ButtonsType σ) (game : Game ι) :
    ClosedLoop ButtonsType ConnectedPortPB σ where
  step := play.step
  start := play.start
  channels := game.connectedPorts
  delay := fun connectedPort => connectedPort.delayFrames.toNat
  idle := default
  react := fun connectedPort => play.pressed (game.owner connectedPort.port) connectedPort.port

/-- The state of a client's console after a number of frames, if it has read all of them. -/
def seen (play : Play ι ButtonsType σ) (game : Game ι) (s : Lockstep ι ButtonsType)
    (client : ι) (frames : ℕ) : Option σ :=
  Network.console play.step play.start game s.net client frames

/-- A client puts what its player presses at the state of its console. -/
def Reacts (play : Play ι ButtonsType σ) (game : Game ι) (s : Lockstep ι ButtonsType) :
    Lockstep.Action ι ButtonsType → Prop
  | .put client tuples _ => ∀ state ∈ play.seen game s client (s.framesPut client),
      ∀ tuple ∈ tuples, tuple.buttons = play.pressed client tuple.port (s.framesPut client) state
  | .get _ _ _ => True
  | .read _ _ => True

/-- A step of such a player over a reliable server, which brings what it reads. -/
structure Advances (play : Play ι ButtonsType σ) (game : Game ι) (s : Lockstep ι ButtonsType)
    (action : Lockstep.Action ι ButtonsType) : Prop where
  reliable : s.Reliable action
  reacts : play.Reacts game s action
  brings : Lockstep.Brings action

instance [DecidableEq ButtonsType] (play : Play ι ButtonsType σ) (game : Game ι)
    (s : Lockstep ι ButtonsType) (action : Lockstep.Action ι ButtonsType) :
    Decidable (play.Reacts game s action) :=
  match action with
  | .put _ _ _ => inferInstanceAs (Decidable (∀ state ∈ play.seen game s _ _, ∀ tuple ∈ _, _))
  | .get _ _ _ => isTrue trivial
  | .read _ _ => isTrue trivial

instance [DecidableEq ButtonsType] (play : Play ι ButtonsType σ) (game : Game ι)
    (s : Lockstep ι ButtonsType) (action : Lockstep.Action ι ButtonsType) :
    Decidable (play.Advances game s action) :=
  decidable_of_iff (s.Reliable action ∧ play.Reacts game s action ∧ Lockstep.Brings action)
    ⟨fun h => ⟨h.1, h.2.1, h.2.2⟩, fun h => ⟨h.reliable, h.reacts, h.brings⟩⟩

section Systems

variable [DecidableEq ι] [Inhabited ButtonsType]

/-- Lockstep with these players, over a server that may lose key presses. -/
def system (play : Play ι ButtonsType σ) (coder : ButtonCoder ButtonsType) (game : Game ι) :
    TransitionSystem (Lockstep ι ButtonsType) (Lockstep.Action ι ButtonsType) :=
  (Lockstep.system coder game).restrict (play.Reacts game)

/-- Lockstep with these players over a reliable server. -/
def advancingSystem (play : Play ι ButtonsType σ) (coder : ButtonCoder ButtonsType)
    (game : Game ι) : TransitionSystem (Lockstep ι ButtonsType) (Lockstep.Action ι ButtonsType) :=
  (Lockstep.system coder game).restrict (play.Advances game)

end Systems

/-- What the players press for the frames that they put next. -/
def pressedNext [Inhabited ButtonsType] (play : Play ι ButtonsType σ) (game : Game ι)
    (s : Lockstep ι ButtonsType) (client : ι) (port : Port) (_frame : Int) : ButtonsType :=
  match play.seen game s client (s.framesPut client) with
  | some state => play.pressed client port (s.framesPut client) state
  | none => default

theorem reacts_of_plays [Inhabited ButtonsType] {play : Play ι ButtonsType σ} {game : Game ι}
    {s : Lockstep ι ButtonsType} {action : Lockstep.Action ι ButtonsType}
    (hplays : Lockstep.Plays (play.pressedNext game s) action) : play.Reacts game s action := by
  cases action with
  | put client tuples writeOk =>
      intro state hstate tuple htuple
      rw [hplays tuple htuple, pressedNext, Option.mem_def.mp hstate]
  | get client port buttons => trivial
  | read client outcome => trivial

end Play

/-! ### What a client has seen -/

namespace Network

variable {ι ButtonsType σ : Type*} {s s' : Network ι ButtonsType} {game : Game ι}
  {step : σ → List ButtonsType → σ} {start : σ} {client : ι}

/-- A console does not go back. -/
theorem console_mono (hreturned : s.returned client <+: s'.returned client) {frames : ℕ}
    {state : σ} (hstate : console step start game s client frames = some state) :
    console step start game s' client frames = some state := by
  refine stateAfter_mono (fun connectedPort _ frame value hread => ?_) hstate
  obtain ⟨later, hlater⟩ := hreturned
  obtain ⟨delivered, hdelivered, rfl⟩ := Option.map_eq_some_iff.mp hread
  obtain ⟨hlt, -⟩ := List.getElem?_eq_some_iff.mp hdelivered
  rw [inputRead, ← hlater, deliveredBy_append, List.getElem?_append_left hlt, hdelivered]
  rfl

end Network

namespace Lockstep

open Network

variable {ι ButtonsType σ : Type*} [Inhabited ButtonsType] {coder : ButtonCoder ButtonsType}
  {game : Game ι} {s : Lockstep ι ButtonsType} {play : Play ι ButtonsType σ}

/-- A client that is about to put a frame has seen the state before it. -/
theorem Sound.seen_of_remaining_nil (h : Sound game coder s) (hordered : Ordered s.net)
    (play : Play ι ButtonsType σ) {client : ι} (hidle : s.net.waiting client = none)
    (hrunning : s.Running client) (hread : s.remaining client = []) :
    ∃ state, play.seen game s client (s.framesPut client) = some state := by
  refine Option.isSome_iff_exists.mp (console_isSome fun connectedPort hconnected => ?_)
  have hpace := h.paced.pace client
  rw [hidle, hread] at hpace
  have hcursor := hpace.read connectedPort.port (List.mem_map_of_mem hconnected)
    List.not_mem_nil (by simp)
  rw [h.inv.cursorOf_eq hordered hconnected client] at hcursor
  rcases hcursor with hcursor | ⟨⟨call, hcall, hfailed⟩, -⟩
  · have hframes := Option.some.inj hcursor
    omega
  · exact absurd (hrunning call hcall) hfailed

/-- What the queues accepted is what the players pressed at what they saw. -/
def Reacted (play : Play ι ButtonsType σ) (game : Game ι) (s : Lockstep ι ButtonsType) : Prop :=
  ∀ client, ∀ tuple ∈ s.net.accepted client, ∃ frame : ℕ, tuple.frame = frame ∧
    ∃ state, play.seen game s client frame = some state ∧
      tuple.buttons = play.pressed client tuple.port frame state

variable [DecidableEq ι]

theorem reacted_next (h : Reacted play game s) (hsound : Sound game coder s)
    (hordered : Ordered s.net) {action : Action ι ButtonsType} (henabled : s.enabled action)
    (hreacts : play.Reacts game s action) : Reacted play game (next coder game s action) := by
  intro client tuple htuple
  have hreturned : s.net.returned client <+: (next coder game s action).net.returned client := by
    rw [next_net]
    exact returned_prefix_next coder s.net _ client
  -- a tuple with its state keeps it
  have hkeeps : ∀ (frame : ℕ) state, play.seen game s client frame = some state →
      play.seen game (next coder game s action) client frame = some state :=
    fun frame state hstate => console_mono hreturned hstate
  have hold : tuple ∈ s.net.accepted client → ∃ frame : ℕ, tuple.frame = frame ∧
      ∃ state, play.seen game (next coder game s action) client frame = some state ∧
        tuple.buttons = play.pressed client tuple.port frame state := by
    intro hmem
    obtain ⟨frame, hframe, state, hstate, hbuttons⟩ := h client tuple hmem
    exact ⟨frame, hframe, state, hkeeps frame state hstate, hbuttons⟩
  rw [next_net] at htuple
  rcases accepted_next coder s.net (s.networkAction action) client with
    hsame | ⟨tuples, writeOk, hput, haccepted⟩
  · rw [hsame] at htuple
    exact hold htuple
  · rw [haccepted] at htuple
    rcases List.mem_append.mp htuple with hmem | htaken
    · exact hold hmem
    · cases action with
      | put actor tuples' writeOk' =>
          cases hput
          obtain ⟨⟨hidle, hrunning⟩, hread, -, hframes⟩ := henabled
          obtain ⟨state, hstate⟩ :=
            hsound.seen_of_remaining_nil hordered play hidle hrunning hread
          have hmem : tuple ∈ tuples := by
            obtain ⟨rest, hrest, -⟩ :=
              (putButtons_spec coder tuples writeOk (s.net.handler client)).stopped
            rw [hrest]
            exact List.mem_append_left _ htaken
          exact ⟨s.framesPut client, hframes tuple hmem, state, hkeeps _ state hstate,
            hreacts state hstate tuple hmem⟩
      | get actor port buttons => cases hput
      | read actor outcome => cases hput

theorem reachable_reacted (hheader : coder.KeepsHeader)
    (hreach : (play.system coder game).Reachable s) : Reacted play game s := by
  refine hreach.invariant_of (J := fun s => Sound game coder s ∧ Ordered s.net) ?_ ?_ ?_
  · intro s hs
    have hs := hs.of_restrict
    exact ⟨reachable_sound hheader hs,
      reachable_ordered hheader (reachable_network hheader hs).1⟩
  · intro s hinit client tuple htuple
    rw [(hinit.1.2.2 client).2.1] at htuple
    cases htuple
  · rintro s action ⟨hsound, hordered⟩ h ⟨henabled, hreacts⟩
    exact reacted_next h hsound hordered henabled hreacts

/-! ### The input of the ports answers to the consoles -/

omit [DecidableEq ι] in
/-- The owner of a port has pressed at its own console, which the shared one has been at. -/
theorem Reacted.answers (h : Reacted play game s) (hinv : Network.Inv game coder s.net)
    (hordered : Ordered s.net) (hlossless : coder.Lossless) :
    (play.ideal game).Answers
      fun connectedPort frame => inputOf game s.net connectedPort frame := by
  intro connectedPort hconnected frame value hinput
  have hdelay := game.delay_nonneg connectedPort hconnected
  have hcast : ((frame : Int) < connectedPort.delayFrames) ↔
      frame < connectedPort.delayFrames.toNat := by omega
  replace hinput : inputOf game s.net connectedPort frame = some value := hinput
  unfold inputOf at hinput
  show if frame < connectedPort.delayFrames.toNat then value = default else _
  by_cases hearly : frame < connectedPort.delayFrames.toNat
  · rw [if_pos (hcast.mpr hearly)] at hinput
    rw [if_pos hearly]
    exact (Option.some.inj hinput).symm
  · rw [if_neg (mt hcast.mp hearly)] at hinput
    rw [if_neg hearly]
    obtain ⟨tuple, hfind, rfl⟩ := Option.map_eq_some_iff.mp hinput
    have hfound := List.find?_some hfind
    simp only [decide_eq_true_eq] at hfound
    obtain ⟨pressedAt, hframe, state, hstate, hbuttons⟩ :=
      h _ tuple (List.mem_of_find?_eq_some hfind)
    obtain rfl : pressedAt = frame - connectedPort.delayFrames.toNat := by omega
    rw [hfound.1] at hbuttons
    exact ⟨state, hinv.sharedConsole_of_console hordered hlossless hstate, hbuttons⟩

/-! ### Every run -/

/-- The console of a client is in the state of the ideal game. -/
theorem seen_eq_ideal (hheader : coder.KeepsHeader) (hlossless : coder.Lossless)
    (hreach : (play.system coder game).Reachable s) {client : ι} {frames : ℕ} {state : σ}
    (hstate : play.seen game s client frames = some state) :
    state = (play.ideal game).state frames := by
  have hnetwork := (reachable_network hheader hreach.of_restrict).1
  have hinv := Network.reachable_inv hheader hnetwork
  have hordered := reachable_ordered hheader hnetwork
  have hanswers := (reachable_reacted hheader hreach).answers hinv hordered hlossless
  exact hanswers.stateAfter_eq (hinv.sharedConsole_of_console hordered hlossless hstate)

/-- A client has seen the ideal game up to the frame that it has put. -/
theorem seen_of_lt_framesPut (hheader : coder.KeepsHeader) (hlossless : coder.Lossless)
    (hreach : (play.system coder game).Reachable s) {client : ι} {frames : ℕ}
    (hput : frames < s.framesPut client) :
    play.seen game s client frames = some ((play.ideal game).state frames) := by
  have hlockstep := hreach.of_restrict
  have hsound := reachable_sound hheader hlockstep
  have hordered := reachable_ordered hheader (reachable_network hheader hlockstep).1
  obtain ⟨state, hstate⟩ : ∃ state, play.seen game s client frames = some state :=
    hsound.paced.exists_console hsound.inv hordered play.step play.start hput
  rw [hstate, seen_eq_ideal hheader hlossless hreach hstate]

/-- **Nobody sees anything but the ideal game.**  In every run of lockstep, whichever of the
written key presses the server loses, holds back or reorders: the console of a client is in
the state of the ideal game after as many frames, and a client that has put a frame has seen
the game up to it. -/
theorem play_is_ideal (hheader : coder.KeepsHeader) (hlossless : coder.Lossless)
    (hreach : (play.system coder game).Reachable s) (client : ι) (frames : ℕ) :
    (∀ state, play.seen game s client frames = some state →
        state = (play.ideal game).state frames) ∧
      (frames < s.framesPut client →
        play.seen game s client frames = some ((play.ideal game).state frames)) :=
  ⟨fun _ hstate => seen_eq_ideal hheader hlossless hreach hstate,
    fun hput => seen_of_lt_framesPut hheader hlossless hreach hput⟩

/-- **Everybody sees all of it.**  Over a reliable server every run can be continued, and
when it is long enough, all who play have seen so many frames of the ideal game, whatever
the order of the steps.  Here too a run has no reads that bring nothing. -/
theorem play_completes [Fintype ι] [Nonempty ι] (hheader : coder.KeepsHeader)
    (hlossless : coder.Lossless) (htotal : coder.Total) {start : Lockstep ι ButtonsType}
    (hstart : Starts game start) {schedule : List (Action ι ButtonsType)}
    (hschedule : (play.advancingSystem coder game).Schedule start schedule) :
    (∃ action, (play.advancingSystem coder game).enabled
        (schedule.foldl (next coder game) start) action) ∧
      ∀ client,
        (∃ connectedPort ∈ game.connectedPorts, game.owner connectedPort.port = client) →
        ∃ least, leastDelay game client = some least ∧ ∀ frames : ℕ,
          (Fintype.card ι * game.connectedPorts.length + 1) *
              (Fintype.card ι * (frames + (1 + least))) < (schedule.length : Int) →
            play.seen game (schedule.foldl (next coder game) start) client frames =
              some ((play.ideal game).state frames) := by
  have hinit : (play.advancingSystem coder game).Reachable start := .init hstart
  have hreach := hinit.foldl hschedule
  have hreliable := hreach.restrict_mono (Q := Reliable) fun _ _ h => h.reliable
  have hreacts := hreach.restrict_mono (Q := play.Reacts game) fun _ _ h => h.reacts
  refine ⟨?_, fun client howns => ?_⟩
  · have hflow := reachable_flowing hheader hlossless htotal hreliable
    obtain ⟨action, henabled, hworking⟩ := hflow.exists_working
      (reachable_sound hheader hreach.of_restrict) (play.pressedNext game _)
    exact ⟨action, henabled, hworking.reliable, Play.reacts_of_plays hworking.plays,
      hworking.brings⟩
  · obtain ⟨least, hleast, hlength⟩ :=
      length_le_framesPut hheader (fun _ _ h => h.brings) hstart hschedule howns
    refine ⟨least, hleast, fun frames hlong => ?_⟩
    have hput : frames < (schedule.foldl (next coder game) start).framesPut client := by
      by_contra hnot
      have hle : ((schedule.foldl (next coder game) start).framesPut client : Int) ≤ frames :=
        Int.ofNat_le.mpr (Nat.le_of_not_lt hnot)
      have hbound : (Fintype.card ι * game.connectedPorts.length + 1 : Int) *
          (Fintype.card ι *
            ((schedule.foldl (next coder game) start).framesPut client + (1 + least))) ≤
          (Fintype.card ι * game.connectedPorts.length + 1) *
            (Fintype.card ι * (frames + (1 + least))) := by
        gcongr
      omega
    exact seen_of_lt_framesPut hheader hlossless hreacts hput

/-! ### Two players who watch the screen -/

/-- A console that adds up what it reads, and players who press a little more than it shows. -/
def adding : Play Network.Player Int Int where
  step := fun total inputs => total + 1 + inputs.sum
  start := 0
  pressed := fun client _ _ shown => (if client = .one then 7 else 5) + shown

def keyAt (port frame value : Int) : KeyStatePB :=
  { consoleId := 1, frameNumber := frame, port := port, xAxis := value }

/-- Five frames in lockstep.  The server holds back what player 2 presses. -/
def watching : List (Action Network.Player Int) :=
  [.put .one [⟨1, 0, 7⟩] true, .put .two [⟨2, 0, 5⟩] true,
    .get .one 1 0, .get .one 2 0, .get .two 1 0, .get .two 2 0,
    .put .one [⟨1, 1, 8⟩] true, .put .two [⟨2, 1, 6⟩] true,
    .get .one 1 0, .get .one 2 0, .get .two 1 0,
    .read .two (some { keyPress := [keyAt 1 1 7, keyAt 1 2 8] }), .get .two 2 0,
    .put .one [⟨1, 2, 16⟩] true, .put .two [⟨2, 2, 14⟩] true,
    .get .one 1 0, .get .one 2 0,
    .read .one (some { keyPress := [keyAt 2 2 5, keyAt 2 3 6, keyAt 2 4 14] }),
    .get .two 1 0, .get .two 2 0,
    .put .one [⟨1, 3, 30⟩] true, .put .two [⟨2, 3, 28⟩] true,
    .get .one 1 0, .get .one 2 0, .get .two 1 0,
    .read .two (some { keyPress := [keyAt 1 3 16, keyAt 1 4 30] }), .get .two 2 0,
    .put .one [⟨1, 4, 53⟩] true, .put .two [⟨2, 4, 51⟩] true,
    .get .one 1 0, .get .one 2 0, .get .two 1 0, .get .two 2 0]

theorem play_is_ideal_watching :
    adding.seen Network.twoPlayers
        (watching.foldl (next integerCoder Network.twoPlayers) twoStarted) .two 4 =
          some ((adding.ideal Network.twoPlayers).state 4) ∧
      (adding.ideal Network.twoPlayers).state 4 = 46 := by
  have hschedule : (adding.system integerCoder Network.twoPlayers).Schedule
      twoStarted watching := by
    unfold Play.system
    decide
  have hinit : (adding.system integerCoder Network.twoPlayers).Reachable twoStarted :=
    .init twoStarted_starts
  exact ⟨(play_is_ideal integerCoder_keepsHeader integerCoder_lossless (hinit.foldl hschedule)
    .two 4).2 (by decide), by decide⟩

theorem play_completes_watching :
    (∃ action, (adding.advancingSystem integerCoder Network.twoPlayers).enabled
        (watching.foldl (next integerCoder Network.twoPlayers) twoStarted) action) ∧
      adding.seen Network.twoPlayers
        (watching.foldl (next integerCoder Network.twoPlayers) twoStarted) .one 1 =
          some ((adding.ideal Network.twoPlayers).state 1) := by
  have hschedule : (adding.advancingSystem integerCoder Network.twoPlayers).Schedule
      twoStarted watching := by
    unfold Play.advancingSystem
    decide
  obtain ⟨hlive, hseen⟩ := play_completes integerCoder_keepsHeader integerCoder_lossless
    integerCoder_total twoStarted_starts hschedule
  obtain ⟨least, hleast, hlong⟩ := hseen .one (by decide)
  obtain rfl : least = 1 := by
    rw [show leastDelay Network.twoPlayers .one = some 1 by decide] at hleast
    exact (Option.some.inj hleast).symm
  exact ⟨hlive, hlong 1 (by decide)⟩

end Lockstep

end Session
end Netplay
