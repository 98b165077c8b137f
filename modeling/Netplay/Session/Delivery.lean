import Netplay.Foundations.ReplicatedMachine
import Netplay.Session.Agreement

/-!
# What a client reads of a port, in order

Every port has one stream of input: the default for the frames of its delay, and behind
them what its owner put (`inputOf`).  If the server relays only key presses that the owner
of the port wrote, a client reads this stream from its beginning, without gap and without
repetition; so of what two clients have read of a port, one is the beginning of the other.

* `deliveredBy` lists what the successful calls for a port returned.
* `InOrder` is kept by every step of a call (`InOrder.callStep`).
* `Inv.inputOf_of_correct`: a right value, in the sense of `Correct`, is the input.
-/

namespace Netplay
namespace Session
namespace Network

open Client Client.EventStreamHandler

variable {ι ButtonsType : Type*}

/-! ### Histories only grow -/

section Histories

variable [DecidableEq ι] {s : Network ι ButtonsType}

theorem accepted_prefix_update {client : ι} {handler : EventStreamHandler ButtonsType}
    {waiting : Option (Waiting ButtonsType)} {accepted : List (ButtonsFrameTuple ButtonsType)}
    {written : List KeyStatePB} {returned : List (Returned ButtonsType)} (other : ι) :
    s.accepted other <+:
      (s.update client handler waiting accepted written returned).accepted other := by
  by_cases hother : other = client
  · subst hother
    rw [update_accepted_self]
    exact List.prefix_append _ _
  · rw [update_accepted_of_ne hother]

theorem returned_prefix_update {client : ι} {handler : EventStreamHandler ButtonsType}
    {waiting : Option (Waiting ButtonsType)} {accepted : List (ButtonsFrameTuple ButtonsType)}
    {written : List KeyStatePB} {returned : List (Returned ButtonsType)} (other : ι) :
    s.returned other <+:
      (s.update client handler waiting accepted written returned).returned other := by
  by_cases hother : other = client
  · subst hother
    rw [update_returned_self]
    exact List.prefix_append _ _
  · rw [update_returned_of_ne hother]

variable [Inhabited ButtonsType]

/-- A step happens at one client, or it does nothing. -/
theorem next_eq_update (coder : ButtonCoder ButtonsType) (s : Network ι ButtonsType)
    (action : Action ι ButtonsType) :
    next coder s action = s ∨
      ∃ client handler waiting accepted written returned,
        next coder s action = s.update client handler waiting accepted written returned := by
  cases action with
  | put client tuples writeOk => exact Or.inr ⟨_, _, _, _, _, _, rfl⟩
  | get client port frame buttons =>
      unfold next
      by_cases hmust : MustRead (s.handler client) port frame
      · simp only [if_pos hmust]
        exact Or.inr ⟨_, _, _, _, _, _, rfl⟩
      · simp only [if_neg hmust]
        exact Or.inr ⟨_, _, _, _, _, _, rfl⟩
  | read client outcome =>
      cases hwaiting : s.waiting client with
      | none =>
          left
          simp only [next, hwaiting]
      | some w =>
          simp only [next, hwaiting]
          cases readEvent coder w.port w.frame outcome (s.handler client) with
          | mk status handler =>
              cases status with
              | none => exact Or.inr ⟨_, _, _, _, _, _, rfl⟩
              | some status => exact Or.inr ⟨_, _, _, _, _, _, rfl⟩

/-- A queue accepts nothing but what its own client puts. -/
theorem accepted_next (coder : ButtonCoder ButtonsType) (s : Network ι ButtonsType)
    (action : Action ι ButtonsType) (other : ι) :
    (next coder s action).accepted other = s.accepted other ∨
      ∃ tuples writeOk, action = .put other tuples writeOk ∧
        (next coder s action).accepted other =
          s.accepted other ++ takenTuples coder tuples (s.handler other) := by
  cases action with
  | put client tuples writeOk =>
      by_cases hother : other = client
      · subst hother
        exact Or.inr ⟨tuples, writeOk, rfl, update_accepted_self⟩
      · exact Or.inl (update_accepted_of_ne hother)
  | get client port frame buttons =>
      left
      unfold next
      by_cases hmust : MustRead (s.handler client) port frame
      · simp only [if_pos hmust, update_accepted_nil]
      · simp only [if_neg hmust, update_accepted_nil]
  | read client outcome =>
      left
      cases hwaiting : s.waiting client with
      | none => simp only [next, hwaiting]
      | some w =>
          simp only [next, hwaiting]
          cases readEvent coder w.port w.frame outcome (s.handler client) with
          | mk status handler =>
              cases status with
              | none => simp only [update_accepted_nil]
              | some status => simp only [update_accepted_nil]

/-- What an owner's queue accepted stays accepted, in its place. -/
theorem accepted_prefix_next (coder : ButtonCoder ButtonsType) (s : Network ι ButtonsType)
    (action : Action ι ButtonsType) (other : ι) :
    s.accepted other <+: (next coder s action).accepted other := by
  rcases next_eq_update coder s action with hsame | ⟨_, _, _, _, _, _, hupdate⟩
  · rw [hsame]
  · rw [hupdate]
    exact accepted_prefix_update other

/-- Calls that returned have returned. -/
theorem returned_prefix_next (coder : ButtonCoder ButtonsType) (s : Network ι ButtonsType)
    (action : Action ι ButtonsType) (other : ι) :
    s.returned other <+: (next coder s action).returned other := by
  rcases next_eq_update coder s action with hsame | ⟨_, _, _, _, _, _, hupdate⟩
  · rw [hsame]
  · rw [hupdate]
    exact returned_prefix_update other

end Histories

/-! ### The calls of one port -/

/-- The frame and buttons that a call returned for the port. -/
def deliveryFor (port : Port) : Returned ButtonsType → Option (Int × ButtonsType)
  | .get called frame .success value => if called = port then some (frame, value) else none
  | _ => none

/-- What successful calls returned for the port, oldest first. -/
def deliveredBy (calls : List (Returned ButtonsType)) (port : Port) :
    List (Int × ButtonsType) :=
  calls.filterMap (deliveryFor port)

@[simp] theorem deliveredBy_nil (port : Port) :
    deliveredBy ([] : List (Returned ButtonsType)) port = [] := rfl

theorem deliveredBy_append (calls later : List (Returned ButtonsType)) (port : Port) :
    deliveredBy (calls ++ later) port = deliveredBy calls port ++ deliveredBy later port :=
  List.filterMap_append

@[simp] theorem deliveredBy_put (status : PutButtonsStatus) (port : Port) :
    deliveredBy [(.put status : Returned ButtonsType)] port = [] := rfl

theorem deliveredBy_success (called port : Port) (frame : Int) (value : ButtonsType) :
    deliveredBy [.get called frame .success value] port =
      if called = port then [(frame, value)] else [] := by
  unfold deliveredBy
  rw [List.filterMap_cons, deliveryFor, List.filterMap_nil]
  by_cases hport : called = port
  · simp only [if_pos hport]
  · simp only [if_neg hport]

theorem deliveredBy_failed {status : GetButtonsStatus} (hstatus : status ≠ .success)
    (called port : Port) (frame : Int) (value : ButtonsType) :
    deliveredBy [.get called frame status value] port = [] := by
  cases status with
  | success => exact absurd rfl hstatus
  | noSuchPort => rfl
  | failure => rfl

theorem mem_deliveredBy {calls : List (Returned ButtonsType)} {port : Port} {frame : Int}
    {value : ButtonsType} :
    (frame, value) ∈ deliveredBy calls port ↔ .get port frame .success value ∈ calls := by
  unfold deliveredBy
  rw [List.mem_filterMap]
  constructor
  · rintro ⟨call, hcall, hdelivery⟩
    unfold deliveryFor at hdelivery
    split at hdelivery
    · split_ifs at hdelivery with hport
      cases hdelivery
      rw [← hport]
      exact hcall
    · cases hdelivery
  · intro hcall
    exact ⟨_, hcall, if_pos rfl⟩

/-- The frames of every port are returned in order from 0 on, and the cursor of its queue
is the next one. -/
structure InOrder (queues : QueueMap ButtonsType) (calls : List (Returned ButtonsType)) :
    Prop where
  frames : ∀ port, (deliveredBy calls port).map Prod.fst =
    (List.range (deliveredBy calls port).length).map Nat.cast
  cursor : ∀ port frame, QueueMap.cursorOf queues port = some frame →
    frame = (deliveredBy calls port).length

/-- No frame of a port is returned twice. -/
theorem InOrder.nodup {queues : QueueMap ButtonsType} {calls : List (Returned ButtonsType)}
    (h : InOrder queues calls) (port : Port) : (deliveredBy calls port).Nodup := by
  have hframes : ((deliveredBy calls port).map Prod.fst).Nodup := by
    rw [h.frames port]
    exact List.nodup_range.map Nat.cast_injective
  exact hframes.of_map _

/-- A call that returns nothing successfully changes nothing here. -/
theorem InOrder.of_deliveredBy_nil {queues queues' : QueueMap ButtonsType}
    {calls later : List (Returned ButtonsType)} (h : InOrder queues calls)
    (hcursor : ∀ port, QueueMap.cursorOf queues' port = QueueMap.cursorOf queues port)
    (hlater : ∀ port, deliveredBy later port = []) : InOrder queues' (calls ++ later) where
  frames := by
    intro port
    rw [deliveredBy_append, hlater, List.append_nil]
    exact h.frames port
  cursor := by
    intro port frame hframe
    rw [deliveredBy_append, hlater, List.append_nil]
    rw [hcursor] at hframe
    exact h.cursor port frame hframe

/-- The frame at the cursor is handed out. -/
theorem InOrder.advance [Inhabited ButtonsType] {queues : QueueMap ButtonsType}
    {calls : List (Returned ButtonsType)} (h : InOrder queues calls) {port : Port} {frame : Int}
    {value : ButtonsType} (hready : Ready queues port frame value) :
    InOrder (QueueMap.advance queues port) (calls ++ [.get port frame .success value]) := by
  have hframe := h.cursor port frame hready.cursorOf
  refine ⟨fun k => ?_, fun k next hnext => ?_⟩
  · rw [deliveredBy_append, deliveredBy_success]
    by_cases hport : port = k
    · subst hport
      rw [if_pos rfl, List.map_append, h.frames port, List.length_append, List.length_singleton,
        List.range_succ, List.map_append, hframe]
      rfl
    · rw [if_neg hport, List.append_nil]
      exact h.frames k
  · rw [deliveredBy_append, deliveredBy_success]
    rw [QueueMap.cursorOf_advance hready.cursorOf] at hnext
    by_cases hport : port = k
    · subst hport
      rw [if_pos rfl] at hnext ⊢
      rw [List.length_append, List.length_singleton, ← Option.some.inj hnext, hframe]
      push_cast
      rfl
    · rw [if_neg hport] at hnext ⊢
      rw [List.append_nil]
      exact h.cursor k next hnext

theorem InOrder.callStep [Inhabited ButtonsType] {handler handler' : EventStreamHandler ButtonsType}
    {calls : List (Returned ButtonsType)} (h : InOrder handler.inputQueues calls)
    {taken : List (ButtonsFrameTuple ButtonsType)} {w : Waiting ButtonsType}
    {waiting : Option (Waiting ButtonsType)} {returned : List (Returned ButtonsType)}
    (hstep : CallStep handler taken w handler' waiting returned) :
    InOrder handler'.inputQueues (calls ++ returned) := by
  have hinserted : InOrder (QueueMap.insertTuples handler.inputQueues taken) (calls ++ []) :=
    h.of_deliveredBy_nil (QueueMap.cursorOf_insertTuples _ taken) fun _ => rfl
  cases hstep with
  | waits _ hqueues _ =>
      rw [hqueues]
      exact hinserted
  | returns _ hdelivers =>
      rw [List.append_nil] at hinserted
      generalize handler'.inputQueues = queues' at hdelivers ⊢
      cases hdelivers with
      | success hready => exact hinserted.advance hready
      | failed hstatus =>
          exact hinserted.of_deliveredBy_nil (fun _ => rfl)
            fun port => deliveredBy_failed hstatus _ port _ _

/-! ### Every run -/

/-- Every client reads every port in order. -/
def Ordered (s : Network ι ButtonsType) : Prop :=
  ∀ client, InOrder (s.handler client).inputQueues (s.returned client)

section Runs

variable [Inhabited ButtonsType] {game : Game ι} {coder : ButtonCoder ButtonsType}
  {s : Network ι ButtonsType}

omit [Inhabited ButtonsType] in
theorem Ordered.init (hstart : Starts game s) : Ordered s := by
  obtain ⟨hstarted, -, hempty⟩ := hstart
  intro client
  rw [(hempty client).2.2.2]
  refine ⟨fun _ => rfl, fun port frame hframe => ?_⟩
  obtain ⟨connectedPorts, hstart, -⟩ := hstarted client
  obtain ⟨queue, hqueue, hexpected⟩ := Option.map_eq_some_iff.mp hframe
  rw [← hexpected, InputQueue.expectedFrame, (hstart.started.fresh hqueue).1]
  rfl

variable [DecidableEq ι]

omit [Inhabited ButtonsType] in
/-- A step at one client keeps the order if it does so there. -/
theorem Ordered.update (h : Ordered s) {client : ι} {handler : EventStreamHandler ButtonsType}
    (waiting : Option (Waiting ButtonsType)) (accepted : List (ButtonsFrameTuple ButtonsType))
    (written : List KeyStatePB) {returned : List (Returned ButtonsType)}
    (hclient : InOrder handler.inputQueues (s.returned client ++ returned)) :
    Ordered (s.update client handler waiting accepted written returned) := by
  intro other
  by_cases hother : other = client
  · subst hother
    rw [update_handler_self, update_returned_self]
    exact hclient
  · rw [update_handler_of_ne hother, update_returned_of_ne hother]
    exact h other

theorem ordered_next (hinv : Inv game coder s) (h : Ordered s) (action : Action ι ButtonsType) :
    Ordered (next coder s action) := by
  cases action with
  | put client tuples writeOk =>
      refine h.update _ _ _ ((h client).of_deliveredBy_nil (fun port => ?_) fun port => rfl)
      rw [putButtons_inputQueues, QueueMap.cursorOf_insertTuples]
  | get client port frame buttons =>
      obtain ⟨handler, waiting, returned, hnext, hstep, -, -⟩ :=
        next_get coder (hinv.playing client).valid port frame buttons
      rw [hnext]
      exact h.update _ _ _ ((h client).callStep hstep)
  | read client outcome =>
      cases hwaiting : s.waiting client with
      | none =>
          simp only [next, hwaiting]
          exact h
      | some w =>
          obtain ⟨handler, waiting, returned, hnext, hstep, -⟩ :=
            next_read coder hwaiting (hinv.playing client).valid outcome
          rw [hnext]
          exact h.update _ _ _ ((h client).callStep hstep)

theorem reachable_ordered (hheader : coder.KeepsHeader)
    (hreach : (system coder game).Reachable s) : Ordered s := by
  refine hreach.invariant_of (J := Inv game coder) (fun s hs => reachable_inv hheader hs)
    (fun s hinit => Ordered.init (s := s) hinit) ?_
  intro s action hinv h _
  exact ordered_next hinv h action

end Runs

/-! ### The input of a port -/

/-- The buttons that were put for a frame of a port, among the accepted ones. -/
def pressedIn (accepted : List (ButtonsFrameTuple ButtonsType)) (port : Port) (frame : Int) :
    Option ButtonsType :=
  (accepted.find? fun tuple => tuple.port = port ∧ tuple.frame = frame).map
    ButtonsFrameTuple.buttons

/-- What everybody is meant to read for a frame of a port: the default inside the delay,
and else what the owner put that many frames before. -/
def inputOf [Inhabited ButtonsType] (game : Game ι) (s : Network ι ButtonsType)
    (connectedPort : ConnectedPortPB) (frame : Int) : Option ButtonsType :=
  if frame < connectedPort.delayFrames then some default
  else pressedIn (s.accepted (game.owner connectedPort.port)) connectedPort.port
    (frame - connectedPort.delayFrames)

section Inputs

variable [Inhabited ButtonsType] {game : Game ι} {coder : ButtonCoder ButtonsType}
  {s : Network ι ButtonsType}

/-- An accepted tuple is the only one for its port and frame. -/
theorem Inv.pressedIn_eq (h : Inv game coder s) {client : ι}
    {tuple : ButtonsFrameTuple ButtonsType} (hmem : tuple ∈ s.accepted client) :
    pressedIn (s.accepted client) tuple.port tuple.frame = some tuple.buttons := by
  unfold pressedIn
  cases hfind : (s.accepted client).find? fun other =>
      other.port = tuple.port ∧ other.frame = tuple.frame with
  | none =>
      have hnone := List.find?_eq_none.mp hfind tuple hmem
      simp at hnone
  | some other =>
      have hfound := List.find?_some hfind
      simp only [decide_eq_true_eq] at hfound
      obtain rfl := h.accepted_unique (List.mem_of_find?_eq_some hfind) hmem hfound.1 hfound.2
      rfl

/-- A right value is the input of the port. -/
theorem Inv.inputOf_of_correct (h : Inv game coder s) (hlossless : coder.Lossless)
    {connectedPort : ConnectedPortPB} (hconnected : connectedPort ∈ game.connectedPorts)
    {frame : Int} {value : ButtonsType}
    (hcorrect : Correct game coder s.accepted connectedPort.port frame value) :
    inputOf game s connectedPort frame = some value := by
  obtain ⟨connectedPort', hconnected', hport, hvalue⟩ := hcorrect
  obtain rfl := eq_of_port_eq hconnected hconnected' hport.symm
  unfold inputOf
  rcases hvalue with ⟨hearly, hdefault⟩ | ⟨hlate, haccepted⟩
  · rw [if_pos hearly, hdefault]
  · obtain ⟨connectedPort', hconnected', hport', sent, hsent, harrives⟩ := haccepted
    obtain rfl := eq_of_port_eq hconnected hconnected' hport'.symm
    obtain rfl := hlossless.eq_of_arrives harrives
    rw [if_neg (by omega)]
    exact h.pressedIn_eq hsent

/-- The input of a port, each frame with its number. -/
def streamOf (game : Game ι) (s : Network ι ButtonsType) (connectedPort : ConnectedPortPB)
    (frame : ℕ) : Option (Int × ButtonsType) :=
  (inputOf game s connectedPort frame).map fun value => ((frame : Int), value)

/-- What was delivered is the beginning of the input. -/
theorem Inv.begins (h : Inv game coder s) (hordered : Ordered s) (hlossless : coder.Lossless)
    {connectedPort : ConnectedPortPB} (hconnected : connectedPort ∈ game.connectedPorts)
    (client : ι) :
    ReplicatedMachine.Begins (deliveredBy (s.returned client) connectedPort.port)
      (streamOf game s connectedPort) := by
  rintro position ⟨frame, value⟩ hread
  have hmem : .get connectedPort.port frame .success value ∈ s.returned client :=
    mem_deliveredBy.mp (List.mem_of_getElem? hread)
  -- the frame is the number of frames delivered before
  have hframe := congrArg (·[position]?) ((hordered client).frames connectedPort.port)
  simp only [List.getElem?_map, hread, Option.map_some] at hframe
  obtain ⟨n, hn, hcast⟩ := Option.map_eq_some_iff.mp hframe.symm
  obtain ⟨hposition, rfl⟩ := List.getElem?_eq_some_iff.mp hn
  rw [List.getElem_range] at hcast
  subst hcast
  have hvalue := h.inputOf_of_correct hlossless hconnected (h.returned client _ _ _ hmem)
  rw [streamOf, hvalue]
  rfl

/-- Nothing is delivered for a port that is not connected. -/
theorem Inv.deliveredBy_eq_nil (h : Inv game coder s) {port : Port}
    (hport : port ∉ game.connectedPorts.map ConnectedPortPB.port) (client : ι) :
    deliveredBy (s.returned client) port = [] := by
  refine List.eq_nil_iff_forall_not_mem.mpr ?_
  rintro ⟨frame, value⟩ hread
  obtain ⟨connectedPort, hconnected, rfl, -⟩ :=
    h.returned client port frame value (mem_deliveredBy.mp hread)
  exact hport (List.mem_map_of_mem hconnected)

/-- The cursor of a connected port is the number of frames delivered. -/
theorem Inv.cursorOf_eq (h : Inv game coder s) (hordered : Ordered s)
    {connectedPort : ConnectedPortPB} (hconnected : connectedPort ∈ game.connectedPorts)
    (client : ι) :
    QueueMap.cursorOf (s.handler client).inputQueues connectedPort.port =
      some ((deliveredBy (s.returned client) connectedPort.port).length : Int) := by
  obtain ⟨queue, hqueue, -⟩ := (h.playing client).queue_of_mem connectedPort hconnected
  have hsome := QueueMap.cursorOf_of_some hqueue
  rw [hsome, (hordered client).cursor connectedPort.port _ hsome]

variable [DecidableEq ι]

/-- **Prefix agreement.**  Whenever and however often the server relays what the owners of
the ports wrote, each client reads each connected port from frame 0 on, without gap or
repetition, and gets the input of the port; its cursor is where it has got to.  So of what
two clients have read of a port, one is the beginning of the other. -/
theorem deliveries_agree (hheader : coder.KeepsHeader) (hlossless : coder.Lossless)
    (hreach : (system coder game).Reachable s) :
    (∀ client, ∀ connectedPort ∈ game.connectedPorts,
      ReplicatedMachine.Begins (deliveredBy (s.returned client) connectedPort.port)
          (streamOf game s connectedPort) ∧
        QueueMap.cursorOf (s.handler client).inputQueues connectedPort.port =
          some ((deliveredBy (s.returned client) connectedPort.port).length : Int)) ∧
      ∀ client client' port,
        deliveredBy (s.returned client) port <+: deliveredBy (s.returned client') port ∨
          deliveredBy (s.returned client') port <+: deliveredBy (s.returned client) port := by
  have h := reachable_inv hheader hreach
  have hordered := reachable_ordered hheader hreach
  refine ⟨fun client connectedPort hconnected => ⟨h.begins hordered hlossless hconnected client,
    h.cursorOf_eq hordered hconnected client⟩, fun client client' port => ?_⟩
  by_cases hport : port ∈ game.connectedPorts.map ConnectedPortPB.port
  · obtain ⟨connectedPort, hconnected, rfl⟩ := List.mem_map.mp hport
    exact (h.begins hordered hlossless hconnected client).prefix_or
      (h.begins hordered hlossless hconnected client')
  · rw [h.deliveredBy_eq_nil hport client]
    exact Or.inl List.nil_prefix

end Inputs

theorem deliveries_agree_onePress :
    deliveredBy ((onePress.foldl (next integerCoder) twoStarted).returned .one) 1 <+:
        deliveredBy ((onePress.foldl (next integerCoder) twoStarted).returned .two) 1 ∨
      deliveredBy ((onePress.foldl (next integerCoder) twoStarted).returned .two) 1 <+:
        deliveredBy ((onePress.foldl (next integerCoder) twoStarted).returned .one) 1 := by
  have hschedule : (system integerCoder twoPlayers).Schedule twoStarted onePress := by decide
  have hreach : (system integerCoder twoPlayers).Reachable
      (onePress.foldl (next integerCoder) twoStarted) :=
    TransitionSystem.Reachable.foldl (.init twoStarted_starts) hschedule
  exact (deliveries_agree integerCoder_keepsHeader integerCoder_lossless hreach).2 .one .two 1

end Network
end Session
end Netplay
