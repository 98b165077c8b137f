import Mathlib.Logic.Function.Basic
import Netplay.Client.Transmission

/-!
# Clients of one game

Any number of clients play one game over a server that hands the key presses of
one client to the others.  A step of the system is a call of `PutButtons`, the
beginning of a call of `GetButtons`, or one round of a call that is reading the
stream, at one client; so every interleaving of calls is a run.

The server is not part of the repository.  It is assumed to hand out only what
the owner of a port wrote for it (`Relayed`): it may drop, duplicate, delay,
reorder and re-batch key presses, and send anything else besides.

* `next` is the effect of a step, together with the histories that properties of
  whole runs speak of.
* `foldl_getButtons`: the steps of one call make up the call of the source.
-/

namespace Netplay
namespace Session

open Client Client.EventStreamHandler

/-- The game: its connected ports with their delays, and the client that each
port is local to. -/
structure Game (ι : Type*) where
  ports : PortEnum
  connectedPorts : List ConnectedPortPB
  owner : Port → ι
  nodup : (connectedPorts.map ConnectedPortPB.port).Nodup
  delay_nonneg : ∀ connectedPort ∈ connectedPorts, 0 ≤ connectedPort.delayFrames

/-- A call of `GetButtons` that is reading the stream. -/
structure Waiting (ButtonsType : Type*) where
  port : Port
  frame : Int
  buttons : ButtonsType
deriving DecidableEq

/-- A call that has returned. -/
inductive Returned (ButtonsType : Type*)
  | put (status : PutButtonsStatus)
  | get (port : Port) (frame : Int) (status : GetButtonsStatus) (value : ButtonsType)
deriving DecidableEq

/-- The call returned `SUCCESS`. -/
def Returned.IsSuccess {ButtonsType : Type*} : Returned ButtonsType → Prop
  | .put status => status = .success
  | .get _ _ status _ => status = .success

instance {ButtonsType : Type*} (call : Returned ButtonsType) : Decidable call.IsSuccess :=
  match call with
  | .put status => inferInstanceAs (Decidable (status = .success))
  | .get _ _ status _ => inferInstanceAs (Decidable (status = .success))

/-- The clients, and what has happened so far at each of them: the tuples its
queues accepted, the key presses it wrote, and the calls that returned. -/
structure Network (ι ButtonsType : Type*) where
  handler : ι → EventStreamHandler ButtonsType
  waiting : ι → Option (Waiting ButtonsType)
  accepted : ι → List (ButtonsFrameTuple ButtonsType)
  written : ι → List KeyStatePB
  returned : ι → List (Returned ButtonsType)

namespace Network

inductive Action (ι ButtonsType : Type*)
  | put (client : ι) (tuples : List (ButtonsFrameTuple ButtonsType)) (writeOk : Bool)
  | get (client : ι) (port : Port) (frame : Int) (buttons : ButtonsType)
  | read (client : ι) (outcome : Option IncomingEventPB)

variable {ι ButtonsType : Type*}

/-- What the server may hand to a client: key presses for ports of other clients,
each written by the owner of its port. -/
def Relayed (game : Game ι) (s : Network ι ButtonsType) (client : ι)
    (outcome : Option IncomingEventPB) : Prop :=
  ∀ event, outcome = some event → ∀ keys ∈ event.keyPress,
    game.owner keys.port ≠ client ∧ keys ∈ s.written (game.owner keys.port)

/-- A client puts buttons on its own ports only, and makes one `GetButtons` call
at a time. -/
def enabled (game : Game ι) (s : Network ι ButtonsType) : Action ι ButtonsType → Prop
  | .put client tuples _ => ∀ tuple ∈ tuples, tuple.port ∈ (s.handler client).localPorts
  | .get client _ _ _ => s.waiting client = none
  | .read client outcome => s.waiting client ≠ none ∧ Relayed game s client outcome

section Decidable

variable [DecidableEq ι]

instance (game : Game ι) (s : Network ι ButtonsType) (client : ι)
    (outcome : Option IncomingEventPB) : Decidable (Relayed game s client outcome) :=
  inferInstanceAs (Decidable (∀ event ∈ outcome, ∀ keys ∈ event.keyPress, _ ∧ _))

instance (game : Game ι) (s : Network ι ButtonsType) (action : Action ι ButtonsType) :
    Decidable (enabled game s action) :=
  match action with
  | .put _ _ _ => inferInstanceAs (Decidable (∀ tuple ∈ _, _))
  | .get _ _ _ _ => decidable_of_iff _ Option.isNone_iff_eq_none
  | .read client outcome =>
      decidable_of_iff ((s.waiting client).isSome ∧ Relayed game s client outcome)
        (and_congr_left' Option.isSome_iff_ne_none)

end Decidable

section Steps

variable [DecidableEq ι]

/-- The state after something happened at one client. -/
def update (s : Network ι ButtonsType) (client : ι) (handler : EventStreamHandler ButtonsType)
    (waiting : Option (Waiting ButtonsType)) (accepted : List (ButtonsFrameTuple ButtonsType))
    (written : List KeyStatePB) (returned : List (Returned ButtonsType)) :
    Network ι ButtonsType where
  handler := Function.update s.handler client handler
  waiting := Function.update s.waiting client waiting
  accepted := Function.update s.accepted client (s.accepted client ++ accepted)
  written := Function.update s.written client (s.written client ++ written)
  returned := Function.update s.returned client (s.returned client ++ returned)

section Update

variable {s : Network ι ButtonsType} {client other : ι} {handler : EventStreamHandler ButtonsType}
  {waiting : Option (Waiting ButtonsType)} {accepted : List (ButtonsFrameTuple ButtonsType)}
  {written : List KeyStatePB} {returned : List (Returned ButtonsType)}

@[simp] theorem update_handler_self :
    (s.update client handler waiting accepted written returned).handler client = handler :=
  Function.update_self ..

@[simp] theorem update_waiting_self :
    (s.update client handler waiting accepted written returned).waiting client = waiting :=
  Function.update_self ..

@[simp] theorem update_accepted_self :
    (s.update client handler waiting accepted written returned).accepted client =
      s.accepted client ++ accepted :=
  Function.update_self ..

@[simp] theorem update_written_self :
    (s.update client handler waiting accepted written returned).written client =
      s.written client ++ written :=
  Function.update_self ..

@[simp] theorem update_returned_self :
    (s.update client handler waiting accepted written returned).returned client =
      s.returned client ++ returned :=
  Function.update_self ..

theorem update_handler_of_ne (hother : other ≠ client) :
    (s.update client handler waiting accepted written returned).handler other =
      s.handler other :=
  Function.update_of_ne hother ..

theorem update_accepted_of_ne (hother : other ≠ client) :
    (s.update client handler waiting accepted written returned).accepted other =
      s.accepted other :=
  Function.update_of_ne hother ..

theorem update_written_of_ne (hother : other ≠ client) :
    (s.update client handler waiting accepted written returned).written other =
      s.written other :=
  Function.update_of_ne hother ..

theorem update_returned_of_ne (hother : other ≠ client) :
    (s.update client handler waiting accepted written returned).returned other =
      s.returned other :=
  Function.update_of_ne hother ..

/-- What is accepted stays as it is in a step that accepts nothing. -/
theorem update_accepted_nil :
    (s.update client handler waiting [] written returned).accepted = s.accepted := by
  funext other
  by_cases hother : other = client
  · subst hother
    rw [update_accepted_self, List.append_nil]
  · exact update_accepted_of_ne hother

theorem mem_accepted_update {tuple : ButtonsFrameTuple ButtonsType} :
    tuple ∈ (s.update client handler waiting accepted written returned).accepted other ↔
      tuple ∈ s.accepted other ∨ other = client ∧ tuple ∈ accepted := by
  by_cases hother : other = client
  · subst hother
    simp
  · simp [update_accepted_of_ne hother, hother]

theorem mem_written_update {key : KeyStatePB} :
    key ∈ (s.update client handler waiting accepted written returned).written other ↔
      key ∈ s.written other ∨ other = client ∧ key ∈ written := by
  by_cases hother : other = client
  · subst hother
    simp
  · simp [update_written_of_ne hother, hother]

theorem mem_returned_update {call : Returned ButtonsType} :
    call ∈ (s.update client handler waiting accepted written returned).returned other ↔
      call ∈ s.returned other ∨ other = client ∧ call ∈ returned := by
  by_cases hother : other = client
  · subst hother
    simp
  · simp [update_returned_of_ne hother, hother]

/-- Histories only grow. -/
theorem accepted_subset_update (other : ι) :
    s.accepted other ⊆
      (s.update client handler waiting accepted written returned).accepted other :=
  fun _ htuple => mem_accepted_update.mpr (Or.inl htuple)

theorem written_subset_update (other : ι) :
    s.written other ⊆
      (s.update client handler waiting accepted written returned).written other :=
  fun _ hkey => mem_written_update.mpr (Or.inl hkey)

/-- If the handler of the client has evolved, then so has every handler. -/
theorem evolves_update (hevolves : Evolves (s.handler client) handler) (other : ι) :
    Evolves (s.handler other)
      ((s.update client handler waiting accepted written returned).handler other) := by
  by_cases hother : other = client
  · subst hother
    rw [update_handler_self]
    exact hevolves
  · rw [update_handler_of_ne hother]
    exact .refl _

end Update

variable [Inhabited ButtonsType]

def next (coder : ButtonCoder ButtonsType) (s : Network ι ButtonsType) :
    Action ι ButtonsType → Network ι ButtonsType
  | .put client tuples writeOk =>
      let r := (s.handler client).putButtons coder tuples writeOk
      s.update client r.handler (s.waiting client) (takenTuples coder tuples (s.handler client))
        (r.written.flatMap OutgoingEventPB.keyPress) [.put r.status]
  | .get client port frame buttons =>
      if MustRead (s.handler client) port frame then
        s.update client ((s.handler client).addEvent .remoteKeyStateRequested)
          (some ⟨port, frame, buttons⟩) [] [] []
      else
        let r := (s.handler client).getButtons coder port frame buttons []
        s.update client r.handler none [] [] [.get port frame r.status r.buttons]
  | .read client outcome =>
      match s.waiting client with
      | none => s
      | some w =>
          match readEvent coder w.port w.frame outcome (s.handler client) with
          | (none, handler) => s.update client handler (some w) [] [] []
          | (some status, handler) =>
              let r := concludeGetButtons w.port w.frame w.buttons status [] handler
              s.update client r.handler none [] [] [.get w.port w.frame r.status r.buttons]

/-- The game begins when every client has accepted a `StartGame` message with the
connected ports of the game. -/
def Starts (game : Game ι) (s : Network ι ButtonsType) : Prop :=
  (∀ client, ∃ connectedPorts, StartedBy game.ports connectedPorts (s.handler client) ∧
      ∀ connectedPort, connectedPort ∈ connectedPorts ↔ connectedPort ∈ game.connectedPorts) ∧
    (∀ client, ∀ connectedPort ∈ game.connectedPorts,
      connectedPort.port ∈ (s.handler client).localPorts ↔
        game.owner connectedPort.port = client) ∧
    ∀ client, s.waiting client = none ∧ s.accepted client = [] ∧ s.written client = [] ∧
      s.returned client = []

/-- The clients of a game, interleaved in every possible way. -/
def system (coder : ButtonCoder ButtonsType) (game : Game ι) :
    TransitionSystem (Network ι ButtonsType) (Action ι ButtonsType) where
  init := Starts game
  enabled := enabled game
  next := next coder

instance (coder : ButtonCoder ButtonsType) (game : Game ι) (s : Network ι ButtonsType)
    (action : Action ι ButtonsType) : Decidable ((system coder game).enabled s action) :=
  inferInstanceAs (Decidable (enabled game s action))

/-- What has been written stays written. -/
theorem written_subset_next (coder : ButtonCoder ButtonsType) (s : Network ι ButtonsType)
    (action : Action ι ButtonsType) (client : ι) :
    s.written client ⊆ (next coder s action).written client := by
  cases action with
  | put actor tuples writeOk => exact written_subset_update client
  | get actor port frame buttons =>
      unfold next
      by_cases hmust : MustRead (s.handler actor) port frame
      · simp only [if_pos hmust]
        exact written_subset_update client
      · simp only [if_neg hmust]
        exact written_subset_update client
  | read actor outcome =>
      cases hwaiting : s.waiting actor with
      | none =>
          simp only [next, hwaiting]
          exact List.Subset.refl _
      | some w =>
          simp only [next, hwaiting]
          cases readEvent coder w.port w.frame outcome (s.handler actor) with
          | mk status handler =>
              cases status with
              | none => exact written_subset_update client
              | some status => exact written_subset_update client

/-! ### What a step of a call can do -/

/-- A step of a `GetButtons` call puts what it took off the stream into the
queues.  It lets the call go on waiting, or return what the queues then deliver. -/
inductive CallStep (handler : EventStreamHandler ButtonsType)
    (taken : List (ButtonsFrameTuple ButtonsType)) (w : Waiting ButtonsType) :
    EventStreamHandler ButtonsType → Option (Waiting ButtonsType) → List (Returned ButtonsType) →
      Prop
  | waits {handler' : EventStreamHandler ButtonsType} (hevolves : Evolves handler handler')
      (hqueues : handler'.inputQueues = QueueMap.insertTuples handler.inputQueues taken)
      (hagain : ∀ tuple ∈ taken, ¬ IsFor w.port w.frame tuple) :
      CallStep handler taken w handler' (some w) []
  | returns {handler' : EventStreamHandler ButtonsType} {status : GetButtonsStatus}
      {value : ButtonsType} (hevolves : Evolves handler handler')
      (hdelivers : Delivers (QueueMap.insertTuples handler.inputQueues taken) w.port w.frame
        w.buttons status value handler'.inputQueues) :
      CallStep handler taken w handler' none [.get w.port w.frame status value]

omit [DecidableEq ι] in
theorem CallStep.evolves {handler handler' : EventStreamHandler ButtonsType}
    {taken : List (ButtonsFrameTuple ButtonsType)} {w : Waiting ButtonsType}
    {waiting : Option (Waiting ButtonsType)} {returned : List (Returned ButtonsType)}
    (h : CallStep handler taken w handler' waiting returned) : Evolves handler handler' := by
  cases h with
  | waits hevolves _ _ => exact hevolves
  | returns hevolves _ => exact hevolves

omit [DecidableEq ι] in
/-- Only a call that returns successfully moves a cursor, and only its own. -/
theorem CallStep.cursors {handler handler' : EventStreamHandler ButtonsType}
    {taken : List (ButtonsFrameTuple ButtonsType)} {w : Waiting ButtonsType}
    {waiting : Option (Waiting ButtonsType)} {returned : List (Returned ButtonsType)}
    (h : CallStep handler taken w handler' waiting returned)
    (hcursor : QueueMap.cursorOf handler.inputQueues w.port = some w.frame) :
    (∀ k, QueueMap.cursorOf handler'.inputQueues k = QueueMap.cursorOf handler.inputQueues k) ∧
        (waiting = some w ∨ waiting = none ∧ ∃ call ∈ returned, ¬ call.IsSuccess) ∨
      (∀ k, QueueMap.cursorOf handler'.inputQueues k =
          if w.port = k then some (w.frame + 1) else QueueMap.cursorOf handler.inputQueues k) ∧
        waiting = none ∧ ∃ value, returned = [.get w.port w.frame .success value] := by
  have hinserted := QueueMap.cursorOf_insertTuples handler.inputQueues taken
  cases h with
  | waits _ hqueues _ =>
      rw [hqueues]
      exact Or.inl ⟨hinserted, Or.inl rfl⟩
  | @returns status value _ hdelivers =>
      generalize handler'.inputQueues = queues' at hdelivers ⊢
      cases hdelivers with
      | success hready =>
          rw [← hinserted] at hcursor
          refine Or.inr ⟨fun k => ?_, rfl, value, rfl⟩
          rw [QueueMap.cursorOf_advance hcursor, hinserted]
      | failed hstatus =>
          exact Or.inl ⟨hinserted, Or.inr ⟨rfl, _, List.mem_singleton_self _, hstatus⟩⟩

omit [DecidableEq ι] in
/-- What was taken has been seen. -/
theorem CallStep.seenAt {handler handler' : EventStreamHandler ButtonsType}
    {taken : List (ButtonsFrameTuple ButtonsType)} {w : Waiting ButtonsType}
    {waiting : Option (Waiting ButtonsType)} {returned : List (Returned ButtonsType)}
    (h : CallStep handler taken w handler' waiting returned) {slot : Port × Int}
    (hseen : QueueMap.SeenAt (QueueMap.insertTuples handler.inputQueues taken) slot) :
    QueueMap.SeenAt handler'.inputQueues slot := by
  cases h with
  | waits _ hqueues _ =>
      rw [hqueues]
      exact hseen
  | returns _ hdelivers => exact hdelivers.evolves.1.seenAt hseen

omit [DecidableEq ι] in
/-- What is acceptable stays so, unless it was taken. -/
theorem CallStep.accepts {handler handler' : EventStreamHandler ButtonsType}
    {taken : List (ButtonsFrameTuple ButtonsType)} {w : Waiting ButtonsType}
    {waiting : Option (Waiting ButtonsType)} {returned : List (Returned ButtonsType)}
    (h : CallStep handler taken w handler' waiting returned)
    {other : ButtonsFrameTuple ButtonsType}
    (haccepts : QueueMap.Accepts handler.inputQueues other.port other.frame)
    (hslots : ∀ tuple ∈ taken, QueueMap.slotOf handler.delayFramesForPort tuple ≠
      QueueMap.slotOf handler.delayFramesForPort other) :
    QueueMap.Accepts handler'.inputQueues other.port other.frame := by
  have hinserted := haccepts.insertTuples handler.hasDelays hslots
  cases h with
  | waits _ hqueues _ =>
      rw [hqueues]
      exact hinserted
  | returns _ hdelivers => exact hdelivers.accepts hinserted

/-- The beginning of a call: it takes nothing off the stream, waits only for a
frame that is absent, and succeeds if the frame is there. -/
theorem next_get (coder : ButtonCoder ButtonsType) {s : Network ι ButtonsType} {client : ι}
    (hvalid : QueueMap.Valid (s.handler client).inputQueues) (port : Port) (frame : Int)
    (buttons : ButtonsType) :
    ∃ handler waiting returned,
      next coder s (.get client port frame buttons) =
          s.update client handler waiting [] [] returned ∧
        CallStep (s.handler client) [] ⟨port, frame, buttons⟩ handler waiting returned ∧
        (waiting ≠ none ↔ MustRead (s.handler client) port frame) ∧
        (∀ value, Ready (s.handler client).inputQueues port frame value →
          ∀ call ∈ returned, call.IsSuccess) := by
  by_cases hmust : MustRead (s.handler client) port frame
  · have hevolves : Evolves (s.handler client)
        ((s.handler client).addEvent .remoteKeyStateRequested) := ⟨rfl, rfl, .refl _, id⟩
    refine ⟨(s.handler client).addEvent .remoteKeyStateRequested, some ⟨port, frame, buttons⟩, [],
      ?_, .waits hevolves rfl ?_, ⟨fun _ => hmust, fun _ => nofun⟩, ?_⟩
    · simp only [next, if_pos hmust]
    · exact fun _ htuple => absurd htuple List.not_mem_nil
    · exact fun _ _ _ hcall => absurd hcall List.not_mem_nil
  · obtain ⟨⟨hdelivers, -, -⟩, hsuccess⟩ :=
      getButtons_of_not_mustRead coder buttons [] hvalid hmust
    have hevolves := getButtons_evolves coder port frame buttons [] hvalid
    refine ⟨_, none, _, ?_, .returns hevolves hdelivers,
      ⟨fun h => absurd rfl h, fun h => absurd h hmust⟩, ?_⟩
    · simp only [next, if_neg hmust]
    · intro value hready call hcall
      cases List.mem_singleton.mp hcall
      exact hsuccess value hready

/-- One round of a call.  If all the key presses of the event are acceptable, it
takes them all, and returns only with the frame it waits for. -/
theorem next_read (coder : ButtonCoder ButtonsType) {s : Network ι ButtonsType} {client : ι}
    {w : Waiting ButtonsType} (hwaiting : s.waiting client = some w)
    (hvalid : QueueMap.Valid (s.handler client).inputQueues) (outcome : Option IncomingEventPB) :
    ∃ handler waiting returned,
      next coder s (.read client outcome) = s.update client handler waiting [] [] returned ∧
        CallStep (s.handler client)
          (takenPresses coder (keyPresses outcome) (s.handler client).inputQueues) w
          handler waiting returned ∧
        (∀ event tuples, outcome = some event → Acceptable coder (s.handler client) event tuples →
          ((∃ tuple ∈ tuples, IsFor w.port w.frame tuple) → ∃ value,
            Ready (QueueMap.insertTuples (s.handler client).inputQueues tuples) w.port w.frame
              value) →
          ∀ call ∈ returned, call.IsSuccess) := by
  obtain ⟨hturn, hhandler, -, hagain, -⟩ :=
    readEvent_spec coder w.port w.frame outcome (s.handler client)
  have hexact := fun event tuples => @readEvent_of_inTurn _ coder event tuples (s.handler client)
    w.port w.frame
  cases hround : readEvent coder w.port w.frame outcome (s.handler client) with
  | mk status handler =>
      rw [hround] at hhandler hagain
      simp only at hhandler hagain
      have hevolves : Evolves (s.handler client) handler := by
        rw [hhandler]
        exact ⟨rfl, rfl, QueueMap.evolves_insertTuples _ _, fun h => h.insertTuples hturn⟩
      have hqueues : handler.inputQueues = QueueMap.insertTuples (s.handler client).inputQueues
          (takenPresses coder (keyPresses outcome) (s.handler client).inputQueues) := by
        rw [hhandler]
        rfl
      -- the round lets the call wait on, or ends it with the read of the queue
      cases status with
      | none =>
          refine ⟨handler, some w, [], ?_, .waits hevolves hqueues (hagain rfl).2, ?_⟩
          · simp only [next, hwaiting, hround]
          · exact fun _ _ _ _ _ _ hcall => absurd hcall List.not_mem_nil
      | some status =>
          obtain ⟨⟨hdelivers, -, hend⟩, hsuccess⟩ := concludeGetButtons_endsWith
            (hevolves.valid hvalid) w.port w.frame w.buttons status []
          obtain ⟨hends, hkeeps⟩ := hdelivers.evolves
          have hconcludes : Evolves handler
              (concludeGetButtons w.port w.frame w.buttons status [] handler).handler :=
            ⟨by rw [hend], by rw [hend], hends, hkeeps⟩
          rw [hqueues] at hdelivers
          refine ⟨_, none, _, ?_, .returns (hevolves.trans hconcludes) hdelivers, ?_⟩
          · simp only [next, hwaiting, hround]
          · intro event tuples hevent hacceptable hready call hcall
            subst hevent
            cases List.mem_singleton.mp hcall
            obtain ⟨htaken, hstatus, -⟩ := hexact event tuples hacceptable
            rw [hround] at hstatus
            rw [htaken] at hqueues
            split_ifs at hstatus with hfound
            · obtain ⟨value, hvalue⟩ := hready hfound
              rw [← hqueues] at hvalue
              exact hsuccess (Option.some.inj hstatus) value hvalue

/-! ### The rounds of one call -/

end Steps

/-! ### A game of two -/

/-- The clients of a game of two. -/
inductive Player
  | one
  | two
deriving DecidableEq, Inhabited

/-- The game of two: each player owns the port of its number. -/
def twoPlayers : Game Player where
  ports := portNumbers
  connectedPorts := twoPorts
  owner := fun port => if port = 1 then .one else .two
  nodup := by decide
  delay_nonneg := by decide

def playerOf : Player → EventStreamHandler Int
  | .one => player 1
  | .two => player 2

/-- Both players have started and nothing has happened. -/
def twoStarted : Network Player Int where
  handler := playerOf
  waiting := fun _ => none
  accepted := fun _ => []
  written := fun _ => []
  returned := fun _ => []

theorem twoStarted_starts : Starts twoPlayers twoStarted := by
  refine ⟨?_, ?_, fun _ => ⟨rfl, rfl, rfl, rfl⟩⟩
  · intro client
    refine ⟨twoPorts, ?_, fun _ => Iff.rfl⟩
    cases client with
    | one => exact player_startedBy (Or.inl rfl)
    | two => exact player_startedBy (Or.inr rfl)
  · intro client
    cases client with
    | one => decide
    | two => decide

end Network

end Session
end Netplay
