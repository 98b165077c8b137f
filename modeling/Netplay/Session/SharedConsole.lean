import Netplay.Session.Delivery
import Netplay.Session.Lockstep

/-!
# One console for all clients

What netplay is for: an emulated console is deterministic, so clients that feed theirs the
same buttons frame by frame all see the same game.  The abstract system is one shared
console that reads the input of every port (`sharedConsole`); a client runs a console of
its own with what its `GetButtons` calls returned (`console`).

* `Inv.sharedConsole_of_console`: a client's console is where the shared one was, at
  whatever pace the client goes and the server relays what the owners of the ports wrote.
* `sharedConsole_next`: what the shared console has read is never revised.
* `consoles_in_sync`: in lockstep a client has run its console up to the frame before the
  one it has put last.
-/

namespace Netplay
namespace Session

open Client Client.EventStreamHandler ReplicatedMachine

variable {ι ButtonsType σ : Type*}

namespace Network

/-- What the client read for a frame of a port. -/
def inputRead (s : Network ι ButtonsType) (client : ι) (connectedPort : ConnectedPortPB)
    (frame : ℕ) : Option ButtonsType :=
  ((deliveredBy (s.returned client) connectedPort.port)[frame]?).map Prod.snd

/-- The console of a client after a number of frames, if it has read all of them.  A frame
takes the buttons of the connected ports, in their order. -/
def console (step : σ → List ButtonsType → σ) (start : σ) (game : Game ι)
    (s : Network ι ButtonsType) (client : ι) (frames : ℕ) : Option σ :=
  stateAfter step start game.connectedPorts (s.inputRead client) frames

/-- The shared console after a number of frames, if the owners have put all of them. -/
def sharedConsole [Inhabited ButtonsType] (step : σ → List ButtonsType → σ) (start : σ)
    (game : Game ι) (s : Network ι ButtonsType) (frames : ℕ) : Option σ :=
  stateAfter step start game.connectedPorts
    (fun connectedPort frame => inputOf game s connectedPort frame) frames

section Consoles

variable [Inhabited ButtonsType] {game : Game ι} {coder : ButtonCoder ButtonsType}
  {s : Network ι ButtonsType} {step : σ → List ButtonsType → σ} {start : σ}

theorem Inv.inputOf_of_inputRead (h : Inv game coder s) (hordered : Ordered s)
    (hlossless : coder.Lossless) {connectedPort : ConnectedPortPB}
    (hconnected : connectedPort ∈ game.connectedPorts) {client : ι} {frame : ℕ}
    {value : ButtonsType} (hread : s.inputRead client connectedPort frame = some value) :
    inputOf game s connectedPort frame = some value := by
  obtain ⟨⟨delivered, _⟩, hdelivered, rfl⟩ := Option.map_eq_some_iff.mp hread
  have hstream := h.begins hordered hlossless hconnected client frame _ hdelivered
  obtain ⟨value, hvalue, hpair⟩ := Option.map_eq_some_iff.mp hstream
  cases hpair
  exact hvalue

theorem Inv.sharedConsole_of_console (h : Inv game coder s) (hordered : Ordered s)
    (hlossless : coder.Lossless) {client : ι} {frames : ℕ} {state : σ}
    (hstate : console step start game s client frames = some state) :
    sharedConsole step start game s frames = some state :=
  stateAfter_mono (fun _ hconnected _ _ hread =>
    h.inputOf_of_inputRead hordered hlossless hconnected hread) hstate

omit [Inhabited ButtonsType] in
/-- A client that has read so many frames of each port has run its console for them. -/
theorem console_isSome {client : ι} {frames : ℕ}
    (hread : ∀ connectedPort ∈ game.connectedPorts,
      frames ≤ (deliveredBy (s.returned client) connectedPort.port).length) :
    (console step start game s client frames).isSome = true := by
  refine stateAfter_isSome fun connectedPort hconnected frame hframe => ?_
  have hlt : frame < (deliveredBy (s.returned client) connectedPort.port).length := by
    have hle := hread connectedPort hconnected
    omega
  rw [inputRead, List.getElem?_eq_getElem hlt]
  rfl

/-! ### The input is not revised -/

omit [Inhabited ButtonsType] in
theorem pressedIn_append {accepted : List (ButtonsFrameTuple ButtonsType)} {port : Port}
    {frame : Int} {value : ButtonsType} (h : pressedIn accepted port frame = some value)
    (later : List (ButtonsFrameTuple ButtonsType)) :
    pressedIn (accepted ++ later) port frame = some value := by
  obtain ⟨tuple, hfind, rfl⟩ := Option.map_eq_some_iff.mp h
  rw [pressedIn, List.find?_append, hfind]
  rfl

/-- Once a frame has been put, its input stays what it is. -/
theorem inputOf_mono {s' : Network ι ButtonsType}
    (haccepted : ∀ client, s.accepted client <+: s'.accepted client)
    {connectedPort : ConnectedPortPB} {frame : Int} {value : ButtonsType}
    (h : inputOf game s connectedPort frame = some value) :
    inputOf game s' connectedPort frame = some value := by
  unfold inputOf at h ⊢
  split_ifs at h ⊢ with hearly
  · exact h
  · obtain ⟨later, hlater⟩ := haccepted (game.owner connectedPort.port)
    rw [← hlater]
    exact pressedIn_append h later

variable [DecidableEq ι]

theorem sharedConsole_next (action : Action ι ButtonsType) {frames : ℕ} {state : σ}
    (hstate : sharedConsole step start game s frames = some state) :
    sharedConsole step start game (next coder s action) frames = some state :=
  stateAfter_mono (fun _ _ _ _ hinput =>
    inputOf_mono (accepted_prefix_next coder s action) hinput) hstate

end Consoles

end Network

/-! ### In lockstep -/

namespace Lockstep

open Network

variable [DecidableEq ι] [Inhabited ButtonsType] {coder : ButtonCoder ButtonsType}
  {game : Game ι} {s : Lockstep ι ButtonsType}

omit [DecidableEq ι] in
/-- A client has read every frame before the one it has put last. -/
theorem Paced.delivered_ge (h : Paced game s) (hinv : Network.Inv game coder s.net)
    (hordered : Ordered s.net) {connectedPort : ConnectedPortPB}
    (hconnected : connectedPort ∈ game.connectedPorts) (client : ι) :
    s.framesPut client ≤
      (deliveredBy (s.net.returned client) connectedPort.port).length + 1 := by
  obtain ⟨frame, hcursor, hread, -⟩ := (h.pace client).cursor (List.mem_map_of_mem hconnected)
  rw [hinv.cursorOf_eq hordered hconnected client] at hcursor
  have hframe := Option.some.inj hcursor
  omega

omit [DecidableEq ι] in
/-- A client that has put a frame has run its console for all frames before. -/
theorem Paced.exists_console (h : Paced game s) (hinv : Network.Inv game coder s.net)
    (hordered : Ordered s.net) (step : σ → List ButtonsType → σ) (start : σ) {client : ι}
    {frames : ℕ} (hput : frames < s.framesPut client) :
    ∃ state, console step start game s.net client frames = some state := by
  refine Option.isSome_iff_exists.mp (console_isSome fun connectedPort hconnected => ?_)
  have hread := h.delivered_ge hinv hordered hconnected client
  omega

/-- **Consoles in sync.**  The server may lose, hold back and reorder the key presses that
it relays.  Every deterministic console that a client runs on what it reads is in the state
that the one shared console was in after as many frames; a client that has put a frame has
run its console for all frames before; and no later step takes a state of the shared console
back. -/
theorem consoles_in_sync (hheader : coder.KeepsHeader) (hlossless : coder.Lossless)
    (hreach : (system coder game).Reachable s) (step : σ → List ButtonsType → σ) (start : σ) :
    (∀ client frames state, console step start game s.net client frames = some state →
        sharedConsole step start game s.net frames = some state) ∧
      (∀ client frames, frames < s.framesPut client →
        ∃ state, console step start game s.net client frames = some state) ∧
      ∀ action frames state, sharedConsole step start game s.net frames = some state →
        sharedConsole step start game (next coder game s action).net frames = some state := by
  have hnetwork := (reachable_network hheader hreach).1
  have h := Network.reachable_inv hheader hnetwork
  have hordered := reachable_ordered hheader hnetwork
  have hpaced := reachable_paced hheader hreach
  refine ⟨fun client frames state hstate => h.sharedConsole_of_console hordered hlossless hstate,
    fun client frames hput => hpaced.exists_console h hordered step start hput,
    fun action frames state hstate => ?_⟩
  rw [next_net]
  exact sharedConsole_next _ hstate

/-- A console that counts up what it reads, after player 1 has run ahead. -/
theorem consoles_in_sync_runAhead :
    ∃ state, console (fun total inputs => total + inputs.sum) 0 Network.twoPlayers
        (runAhead.foldl (next integerCoder Network.twoPlayers) twoStarted).net .one 2 =
          some state ∧
      sharedConsole (fun total inputs => total + inputs.sum) 0 Network.twoPlayers
        (runAhead.foldl (next integerCoder Network.twoPlayers) twoStarted).net 2 =
          some state := by
  have hschedule : (system integerCoder Network.twoPlayers).Schedule twoStarted runAhead := by
    decide
  have hreach : (system integerCoder Network.twoPlayers).Reachable
      (runAhead.foldl (next integerCoder Network.twoPlayers) twoStarted) :=
    TransitionSystem.Reachable.foldl (.init twoStarted_starts) hschedule
  obtain ⟨hshared, hruns, -⟩ := consoles_in_sync integerCoder_keepsHeader integerCoder_lossless
    hreach (fun total inputs => total + inputs.sum) (0 : Int)
  obtain ⟨state, hstate⟩ := hruns .one 2 (by decide)
  exact ⟨state, hstate, hshared _ _ _ hstate⟩

end Lockstep

end Session
end Netplay
