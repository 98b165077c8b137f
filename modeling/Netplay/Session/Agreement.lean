import Netplay.Session.Network

/-!
# Integrity and agreement

Whatever a client reads is what the owner of the port put there, so two clients
read the same.  `Inv` ties every buffered frame and every written key press to a
tuple that the owner's queue accepted; each kind of step keeps it (`inv_put`,
`inv_get`, `inv_read`), and `Inv.update` is what the three share.
-/

namespace Netplay
namespace Session
namespace Network

open Client Client.EventStreamHandler

variable {ι ButtonsType : Type*}

/-! ### The invariant -/

/-- The owner's queue accepted buttons for the frame, and `value` is what may have
become of them elsewhere. -/
def Accepted (game : Game ι) (coder : ButtonCoder ButtonsType)
    (accepted : ι → List (ButtonsFrameTuple ButtonsType)) (port : Port) (frame : Int)
    (value : ButtonsType) : Prop :=
  ∃ connectedPort ∈ game.connectedPorts, connectedPort.port = port ∧ ∃ sent,
    ⟨port, frame - connectedPort.delayFrames, sent⟩ ∈ accepted (game.owner port) ∧
      coder.Arrives sent value

/-- A successful read is right: the default inside the initial delay, and what the
owner put there outside. -/
def Correct [Inhabited ButtonsType] (game : Game ι) (coder : ButtonCoder ButtonsType)
    (accepted : ι → List (ButtonsFrameTuple ButtonsType)) (port : Port) (frame : Int)
    (value : ButtonsType) : Prop :=
  ∃ connectedPort ∈ game.connectedPorts, connectedPort.port = port ∧
    (frame < connectedPort.delayFrames ∧ value = default ∨
      connectedPort.delayFrames ≤ frame ∧ Accepted game coder accepted port frame value)

/-- The slot that a tuple of a client fills in its own queues. -/
def slot (s : Network ι ButtonsType) (client : ι) (tuple : ButtonsFrameTuple ButtonsType) :
    Port × Int :=
  QueueMap.slotOf (s.handler client).delayFramesForPort tuple

/-- Everything buffered anywhere and everything written comes from a tuple that
the owner accepted, and an owner accepts at most one tuple for a slot. -/
structure Inv [Inhabited ButtonsType] (game : Game ι) (coder : ButtonCoder ButtonsType)
    (s : Network ι ButtonsType) : Prop where
  playing : ∀ client, Playing game.connectedPorts (s.handler client)
  local_iff : ∀ client, ∀ connectedPort ∈ game.connectedPorts,
    connectedPort.port ∈ (s.handler client).localPorts ↔ game.owner connectedPort.port = client
  buffered : ∀ client, QueueMap.Buffered (s.handler client).inputQueues
    (Accepted game coder s.accepted)
  written : ∀ client, ∀ key ∈ s.written client, ∃ tuple ∈ s.accepted client,
    s.slot client tuple = slotOfKey key ∧
      ∃ header, coder.encodeButtons tuple.buttons header = some key
  filled : ∀ client, ∀ tuple ∈ s.accepted client,
    tuple.port ∈ (s.handler client).localPorts ∧
      QueueMap.SeenAt (s.handler client).inputQueues (s.slot client tuple)
  once : ∀ client, ((s.accepted client).map (s.slot client)).Nodup
  returned : ∀ client port frame value,
    .get port frame .success value ∈ s.returned client →
      Correct game coder s.accepted port frame value

theorem Accepted.mono {game : Game ι} {coder : ButtonCoder ButtonsType}
    {accepted accepted' : ι → List (ButtonsFrameTuple ButtonsType)}
    (hsub : ∀ client, accepted client ⊆ accepted' client) {port : Port} {frame : Int}
    {value : ButtonsType} (h : Accepted game coder accepted port frame value) :
    Accepted game coder accepted' port frame value := by
  obtain ⟨connectedPort, hconnected, hport, sent, hsent, harrives⟩ := h
  exact ⟨connectedPort, hconnected, hport, sent, hsub _ hsent, harrives⟩

theorem Correct.mono [Inhabited ButtonsType] {game : Game ι} {coder : ButtonCoder ButtonsType}
    {accepted accepted' : ι → List (ButtonsFrameTuple ButtonsType)}
    (hsub : ∀ client, accepted client ⊆ accepted' client) {port : Port} {frame : Int}
    {value : ButtonsType} (h : Correct game coder accepted port frame value) :
    Correct game coder accepted' port frame value := by
  obtain ⟨connectedPort, hconnected, hport, hvalue | ⟨hframe, haccepted⟩⟩ := h
  · exact ⟨connectedPort, hconnected, hport, Or.inl hvalue⟩
  · exact ⟨connectedPort, hconnected, hport, Or.inr ⟨hframe, haccepted.mono hsub⟩⟩

section Invariant

variable [Inhabited ButtonsType] {game : Game ι} {coder : ButtonCoder ButtonsType}
  {s : Network ι ButtonsType}

/-- Local ports are connected, and owned by their client. -/
theorem Inv.local_port (h : Inv game coder s) {client : ι} {port : Port}
    (hlocal : port ∈ (s.handler client).localPorts) :
    ∃ connectedPort ∈ game.connectedPorts, connectedPort.port = port ∧
      game.owner port = client ∧
      (s.handler client).delayFramesForPort port = connectedPort.delayFrames := by
  obtain ⟨connectedPort, hconnected, rfl⟩ :=
    List.mem_map.mp ((h.playing client).local_connected port hlocal)
  refine ⟨connectedPort, hconnected, rfl, (h.local_iff client _ hconnected).mp hlocal, ?_⟩
  rw [(h.playing client).delayFramesForPort hconnected, if_pos hlocal]

/-- A tuple that a client accepted, told by its slot. -/
theorem Inv.accepted_of_mem (h : Inv game coder s) {client : ι}
    {accepted : ι → List (ButtonsFrameTuple ButtonsType)}
    {tuple : ButtonsFrameTuple ButtonsType} (hmem : tuple ∈ accepted client)
    (hlocal : tuple.port ∈ (s.handler client).localPorts) {value : ButtonsType}
    (harrives : coder.Arrives tuple.buttons value) :
    Accepted game coder accepted (s.slot client tuple).1 (s.slot client tuple).2 value := by
  obtain ⟨connectedPort, hconnected, hport, howner, hdelay⟩ := h.local_port hlocal
  refine ⟨connectedPort, hconnected, hport, tuple.buttons, ?_, harrives⟩
  have hframe : (s.slot client tuple).2 - connectedPort.delayFrames = tuple.frame := by
    show tuple.frame + (s.handler client).delayFramesForPort tuple.port -
      connectedPort.delayFrames = tuple.frame
    rw [hdelay]
    omega
  rw [hframe, show (s.slot client tuple).1 = tuple.port from rfl, howner]
  exact hmem

/-- What a written key press decodes to is accepted for its slot. -/
theorem Inv.accepted_of_written (h : Inv game coder s) {client : ι} {key : KeyStatePB}
    (hkey : key ∈ s.written client) {value : ButtonsType}
    (hdecode : coder.decodeButtons key = some value) :
    Accepted game coder s.accepted key.port key.frameNumber value := by
  obtain ⟨tuple, htuple, hslot, header, hencode⟩ := h.written client key hkey
  have haccepted := h.accepted_of_mem htuple (h.filled client tuple htuple).1
    (Or.inr ⟨header, key, hencode, hdecode⟩)
  rw [hslot] at haccepted
  exact haccepted

/-- A frame that is ready has the right value. -/
theorem correct_of_ready {accepted : ι → List (ButtonsFrameTuple ButtonsType)}
    {handler : EventStreamHandler ButtonsType} (hplaying : Playing game.connectedPorts handler)
    {queues : QueueMap ButtonsType} (hevolves : QueueMap.Evolves handler.inputQueues queues)
    (hbuffered : QueueMap.Buffered queues (Accepted game coder accepted)) {port : Port}
    {frame : Int} {value : ButtonsType} (hready : Ready queues port frame value) :
    Correct game coder accepted port frame value := by
  obtain ⟨queue, hqueue, -⟩ := id hready
  -- the queue is that of a connected port, with the delay of the port
  rcases hevolves port with ⟨-, hnone⟩ | ⟨queue₀, queue', hqueue₀, hqueue', hsame⟩
  · exact absurd hready (not_ready_of_none hnone)
  obtain ⟨-, hvalue⟩ := (ready_iff hqueue').mp hready
  obtain ⟨connectedPort, hconnected, rfl⟩ := hplaying.exists_connected hqueue₀
  obtain ⟨queue₁, hqueue₁, hinitial, -⟩ := hplaying.queue_of_mem connectedPort hconnected
  rw [hqueue₀] at hqueue₁
  cases hqueue₁
  refine ⟨connectedPort, hconnected, rfl, ?_⟩
  rw [InputQueue.buttonsAt, hsame.initialFrameDelay, hinitial] at hvalue
  split_ifs at hvalue with hearly
  · exact Or.inl ⟨hearly, (Option.some.inj hvalue).symm⟩
  · exact Or.inr ⟨by omega, hbuffered _ queue' hqueue' frame value hvalue⟩

/-! ### One step -/

variable [DecidableEq ι] {client : ι} {handler : EventStreamHandler ButtonsType}
  {waiting : Option (Waiting ButtonsType)} {accepted : List (ButtonsFrameTuple ButtonsType)}
  {written : List KeyStatePB} {returned : List (Returned ButtonsType)}

omit [Inhabited ButtonsType] in
theorem slot_update (hevolves : Evolves (s.handler client) handler) (other : ι) :
    (s.update client handler waiting accepted written returned).slot other = s.slot other := by
  funext tuple
  rw [slot, slot, QueueMap.slotOf, QueueMap.slotOf,
    (evolves_update hevolves other).delayFramesForPort]

/-- What has to be shown of a step at one client. -/
theorem Inv.update (h : Inv game coder s) (hevolves : Evolves (s.handler client) handler)
    (hbuffered : QueueMap.Buffered handler.inputQueues (Accepted game coder
      (s.update client handler waiting accepted written returned).accepted))
    (hwritten : ∀ key ∈ written, ∃ tuple ∈ accepted, s.slot client tuple = slotOfKey key ∧
      ∃ header, coder.encodeButtons tuple.buttons header = some key)
    (hfilled : ∀ tuple ∈ accepted, tuple.port ∈ (s.handler client).localPorts ∧
      QueueMap.SeenAt handler.inputQueues (s.slot client tuple))
    (hnew : ∀ tuple ∈ accepted,
      ¬ QueueMap.SeenAt (s.handler client).inputQueues (s.slot client tuple))
    (honce : (accepted.map (s.slot client)).Nodup)
    (hreturned : ∀ port frame value, .get port frame .success value ∈ returned →
      Correct game coder (s.update client handler waiting accepted written returned).accepted
        port frame value) :
    Inv game coder (s.update client handler waiting accepted written returned) := by
  have hsub := @accepted_subset_update _ _ _ s client handler waiting accepted written returned
  -- each part is new at `client` and as it was at every other client
  constructor
  · intro other
    exact (h.playing other).evolves (evolves_update hevolves other)
  · intro other connectedPort hconnected
    rw [(evolves_update hevolves other).localPorts]
    exact h.local_iff other connectedPort hconnected
  · intro other
    by_cases hother : other = client
    · subst hother
      rw [update_handler_self]
      exact hbuffered
    · rw [update_handler_of_ne hother]
      exact (h.buffered other).mono fun _ _ _ => Accepted.mono hsub
  · intro other key hkey
    rw [slot_update hevolves]
    rcases mem_written_update.mp hkey with hold | ⟨rfl, hsent⟩
    · obtain ⟨tuple, htuple, hfacts⟩ := h.written other key hold
      exact ⟨tuple, hsub other htuple, hfacts⟩
    · obtain ⟨tuple, htuple, hfacts⟩ := hwritten key hsent
      exact ⟨tuple, mem_accepted_update.mpr (Or.inr ⟨rfl, htuple⟩), hfacts⟩
  · intro other tuple htuple
    rw [slot_update hevolves]
    rcases mem_accepted_update.mp htuple with hold | ⟨rfl, hput⟩
    · obtain ⟨hlocal, hseen⟩ := h.filled other tuple hold
      rw [(evolves_update hevolves other).localPorts]
      exact ⟨hlocal, (evolves_update hevolves other).queues.seenAt hseen⟩
    · rw [update_handler_self, hevolves.localPorts]
      exact hfilled tuple hput
  · intro other
    rw [slot_update hevolves]
    by_cases hother : other = client
    · subst hother
      rw [update_accepted_self, List.map_append]
      -- what was accepted before has filled its slot, what is new has not
      refine List.nodup_append.mpr ⟨h.once other, honce, ?_⟩
      rintro slot hslot slot' hslot' rfl
      obtain ⟨tuple, htuple, rfl⟩ := List.mem_map.mp hslot
      obtain ⟨tuple', htuple', hsame⟩ := List.mem_map.mp hslot'
      apply hnew tuple' htuple'
      rw [hsame]
      exact (h.filled other tuple htuple).2
    · rw [update_accepted_of_ne hother]
      exact h.once other
  · intro other port frame value hmem
    rcases mem_returned_update.mp hmem with hold | ⟨rfl, hreturn⟩
    · exact (h.returned other port frame value hold).mono hsub
    · exact hreturned port frame value hreturn

theorem inv_put (hheader : coder.KeepsHeader) (h : Inv game coder s) (client : ι)
    (tuples : List (ButtonsFrameTuple ButtonsType)) (writeOk : Bool)
    (hlocal : ∀ tuple ∈ tuples, tuple.port ∈ (s.handler client).localPorts) :
    Inv game coder (next coder s (.put client tuples writeOk)) := by
  have hspec := putButtons_spec coder tuples writeOk (s.handler client)
  have hevolves := putButtons_evolves coder tuples writeOk (s.handler client)
  have hdelays := (s.handler client).hasDelays
  obtain ⟨honce, hnew, hfilled⟩ := hspec.inTurn.slots hdelays
  have htaken : ∀ tuple ∈ takenTuples coder tuples (s.handler client),
      tuple.port ∈ (s.handler client).localPorts := by
    obtain ⟨rest, hrest, -⟩ := hspec.stopped
    intro tuple htuple
    apply hlocal
    rw [hrest]
    exact List.mem_append_left _ htuple
  refine h.update hevolves ?_ ?_ ?_ hnew honce ?_
  · rw [putButtons_inputQueues]
    refine ((h.buffered client).mono fun _ _ _ => Accepted.mono
      accepted_subset_update).insertTuples hdelays fun tuple htuple => ?_
    refine h.accepted_of_mem ?_ (htaken tuple htuple) (Or.inl rfl)
    rw [update_accepted_self]
    exact List.mem_append_right _ htuple
  · intro key hkey
    obtain ⟨sent, hsub, htransmits⟩ :=
      putButtons_transmits hheader tuples writeOk (s.handler client)
    obtain ⟨tuple, htuple, htransmit, -⟩ := forall₂_mem_right htransmits hkey
    refine ⟨tuple, (hsub.trans List.filter_sublist).subset htuple, ?_, _, htransmit.encoded⟩
    rw [slotOfKey, htransmit.port, htransmit.frameNumber]
    rfl
  · intro tuple htuple
    refine ⟨htaken tuple htuple, ?_⟩
    rw [putButtons_inputQueues]
    exact hfilled tuple htuple
  · intro port frame value hmem
    cases List.mem_singleton.mp hmem

omit [DecidableEq ι] in
/-- A remote port applies no delay of its own. -/
theorem Inv.delay_remote (h : Inv game coder s) {client : ι} {connectedPort : ConnectedPortPB}
    (hconnected : connectedPort ∈ game.connectedPorts)
    (howner : game.owner connectedPort.port ≠ client) :
    (s.handler client).delayFramesForPort connectedPort.port = 0 := by
  rw [(h.playing client).delayFramesForPort hconnected,
    if_neg fun hlocal => howner ((h.local_iff client _ hconnected).mp hlocal)]

omit [DecidableEq ι] in
/-- What a round of reading takes is accepted by the owners. -/
theorem Inv.buffered_round (h : Inv game coder s) {client : ι} {outcome : Option IncomingEventPB}
    (hrelayed : Relayed game s client outcome) :
    QueueMap.Buffered
      (QueueMap.insertTuples (s.handler client).inputQueues
        (takenPresses coder (keyPresses outcome) (s.handler client).inputQueues))
      (Accepted game coder s.accepted) := by
  refine (h.buffered client).insertTuples (s.handler client).hasDelays fun tuple htuple => ?_
  obtain ⟨presses, rest, hpresses, hdecodes⟩ :=
    (readEvent_spec coder 0 0 outcome (s.handler client)).decodes
  obtain ⟨keys, hkeys, hdecode⟩ := forall₂_mem_right hdecodes htuple
  have hmem : keys ∈ keyPresses outcome := by
    rw [hpresses]
    exact List.mem_append_left _ hkeys
  obtain ⟨event, rfl, hevent⟩ := mem_keyPresses hmem
  obtain ⟨howner, hwritten⟩ := hrelayed event rfl keys hevent
  have haccepted := h.accepted_of_written hwritten hdecode.buttons
  have hslot := haccepted
  obtain ⟨connectedPort, hconnected, hport, -⟩ := hslot
  rw [← hport] at howner
  rw [← hdecode.port, ← hport, h.delay_remote hconnected howner, hport, ← hdecode.frame,
    Int.add_zero]
  exact haccepted

/-- A step of a call that took only what the owners accepted. -/
theorem Inv.callStep (h : Inv game coder s) {client : ι}
    {taken : List (ButtonsFrameTuple ButtonsType)} {w : Waiting ButtonsType}
    {handler : EventStreamHandler ButtonsType} {waiting : Option (Waiting ButtonsType)}
    {returned : List (Returned ButtonsType)}
    (hbuffered : QueueMap.Buffered (QueueMap.insertTuples (s.handler client).inputQueues taken)
      (Accepted game coder s.accepted))
    (hstep : CallStep (s.handler client) taken w handler waiting returned) :
    Inv game coder (s.update client handler waiting [] [] returned) := by
  -- such a step writes and accepts nothing, so only two parts are left to show
  cases hstep with
  | waits hevolves hqueues _ =>
      refine h.update hevolves ?_ (List.forall_mem_nil _) (List.forall_mem_nil _)
        (List.forall_mem_nil _) .nil fun _ _ _ hmem => absurd hmem List.not_mem_nil
      rw [update_accepted_nil, hqueues]
      exact hbuffered
  | returns hevolves hdelivers =>
      have hqueues := QueueMap.evolves_insertTuples (s.handler client).inputQueues taken
      refine h.update hevolves ?_ (List.forall_mem_nil _) (List.forall_mem_nil _)
        (List.forall_mem_nil _) .nil ?_
      · rw [update_accepted_nil]
        generalize handler.inputQueues = queues' at hdelivers ⊢
        cases hdelivers with
        | success _ => exact hbuffered.advance _
        | failed _ => exact hbuffered
      · intro port frame value hmem
        cases List.mem_singleton.mp hmem
        rw [update_accepted_nil]
        generalize handler.inputQueues = queues' at hdelivers
        cases hdelivers with
        | success hready => exact correct_of_ready (h.playing client) hqueues hbuffered hready
        | failed hstatus => exact absurd rfl hstatus

theorem inv_get (h : Inv game coder s) (client : ι) (port : Port) (frame : Int)
    (buttons : ButtonsType) : Inv game coder (next coder s (.get client port frame buttons)) := by
  obtain ⟨handler, waiting, returned, hnext, hstep, -, -⟩ :=
    next_get coder (h.playing client).valid port frame buttons
  rw [hnext]
  refine h.callStep ?_ hstep
  exact h.buffered client

theorem inv_read (h : Inv game coder s) (client : ι) (outcome : Option IncomingEventPB)
    (hrelayed : Relayed game s client outcome) :
    Inv game coder (next coder s (.read client outcome)) := by
  cases hwaiting : s.waiting client with
  | none =>
      simp only [next, hwaiting]
      exact h
  | some w =>
      obtain ⟨handler, waiting, returned, hnext, hstep, -⟩ :=
        next_read coder hwaiting (h.playing client).valid outcome
      rw [hnext]
      exact h.callStep (h.buffered_round hrelayed) hstep

/-! ### Every run -/

omit [DecidableEq ι] in
theorem inv_init (h : Starts game s) : Inv game coder s := by
  obtain ⟨hstarted, howner, hempty⟩ := h
  constructor
  · intro client
    obtain ⟨connectedPorts, hstart, hmem⟩ := hstarted client
    exact hstart.started.playing.of_mem_iff hmem
  · exact howner
  · intro client port queue hqueue frame value hvalue
    obtain ⟨connectedPorts, hstart, -⟩ := hstarted client
    rw [(hstart.started.fresh hqueue).2] at hvalue
    simp at hvalue
  · intro client key hkey
    rw [(hempty client).2.2.1] at hkey
    cases hkey
  · intro client tuple htuple
    rw [(hempty client).2.1] at htuple
    cases htuple
  · intro client
    rw [(hempty client).2.1]
    exact .nil
  · intro client port frame value hmem
    rw [(hempty client).2.2.2] at hmem
    cases hmem

theorem inv_next (hheader : coder.KeepsHeader) (h : Inv game coder s)
    {action : Action ι ButtonsType} (henabled : enabled game s action) :
    Inv game coder (next coder s action) := by
  cases action with
  | put client tuples writeOk => exact inv_put hheader h client tuples writeOk henabled
  | get client port frame buttons => exact inv_get h client port frame buttons
  | read client outcome => exact inv_read h client outcome henabled.2

theorem reachable_inv (hheader : coder.KeepsHeader) (hreach : (system coder game).Reachable s) :
    Inv game coder s := by
  refine hreach.invariant (fun s hinit => inv_init (s := s) hinit) ?_
  intro s action h henabled
  show Inv game coder (next coder s action)
  exact inv_next hheader h henabled

omit [DecidableEq ι] [Inhabited ButtonsType] in
/-- A port has one delay. -/
theorem eq_of_port_eq {connectedPort connectedPort' : ConnectedPortPB}
    (h : connectedPort ∈ game.connectedPorts) (h' : connectedPort' ∈ game.connectedPorts)
    (hport : connectedPort.port = connectedPort'.port) : connectedPort = connectedPort' :=
  List.inj_on_of_nodup_map game.nodup h h' hport

omit [DecidableEq ι] in
/-- An owner accepts one tuple for a port and frame. -/
theorem Inv.accepted_unique (h : Inv game coder s) {client : ι}
    {tuple tuple' : ButtonsFrameTuple ButtonsType} (hmem : tuple ∈ s.accepted client)
    (hmem' : tuple' ∈ s.accepted client) (hport : tuple.port = tuple'.port)
    (hframe : tuple.frame = tuple'.frame) : tuple = tuple' := by
  apply List.inj_on_of_nodup_map (h.once client) hmem hmem'
  simp only [slot, QueueMap.slotOf, hport, hframe]

/-- **Integrity and agreement.**  Whatever a client reads successfully is the
default below the delay of the port, and above it the buttons of the one tuple
that the owner's queue accepted for the frame.  So two clients that read one
frame of one port read the same. -/
theorem integrity_and_agreement (hheader : coder.KeepsHeader) (hlossless : coder.Lossless)
    (hreach : (system coder game).Reachable s) :
    (∀ client port frame value, .get port frame .success value ∈ s.returned client →
      ∃ connectedPort ∈ game.connectedPorts, connectedPort.port = port ∧
        (frame < connectedPort.delayFrames → value = default) ∧
        (connectedPort.delayFrames ≤ frame → ∀ tuple : ButtonsFrameTuple ButtonsType,
          tuple ∈ s.accepted (game.owner port) ∧ tuple.port = port ∧
              tuple.frame = frame - connectedPort.delayFrames ↔
            tuple = ⟨port, frame - connectedPort.delayFrames, value⟩)) ∧
      ∀ client client' port frame value value',
        .get port frame .success value ∈ s.returned client →
        .get port frame .success value' ∈ s.returned client' → value = value' := by
  have hinv := reachable_inv hheader hreach
  have hread : ∀ client port frame value, .get port frame .success value ∈ s.returned client →
      ∃ connectedPort ∈ game.connectedPorts, connectedPort.port = port ∧
        (frame < connectedPort.delayFrames → value = default) ∧
        (connectedPort.delayFrames ≤ frame → ∀ tuple : ButtonsFrameTuple ButtonsType,
          tuple ∈ s.accepted (game.owner port) ∧ tuple.port = port ∧
              tuple.frame = frame - connectedPort.delayFrames ↔
            tuple = ⟨port, frame - connectedPort.delayFrames, value⟩) := by
    intro client port frame value hmem
    obtain ⟨connectedPort, hconnected, hport, hvalue⟩ := hinv.returned client port frame value hmem
    refine ⟨connectedPort, hconnected, hport, ?_, ?_⟩
    · intro hearly
      rcases hvalue with ⟨-, hvalue⟩ | ⟨hlate, -⟩
      · exact hvalue
      · omega
    · intro hlate
      rcases hvalue with ⟨hearly, -⟩ | ⟨-, haccepted⟩
      · omega
      obtain ⟨connectedPort', hconnected', hport', sent, hsent, harrives⟩ := haccepted
      obtain rfl := eq_of_port_eq hconnected hconnected' (hport.trans hport'.symm)
      obtain rfl := hlossless.eq_of_arrives harrives
      rintro ⟨port', frame', buttons⟩
      constructor
      · rintro ⟨htuple, hsamePort, hsameFrame⟩
        exact hinv.accepted_unique htuple hsent hsamePort hsameFrame
      · rintro ⟨⟩
        exact ⟨hsent, rfl, rfl⟩
  refine ⟨hread, ?_⟩
  intro client client' port frame value value' hmem hmem'
  obtain ⟨connectedPort, hconnected, hport, hearly, hlate⟩ := hread client port frame value hmem
  obtain ⟨connectedPort', hconnected', hport', hearly', hlate'⟩ :=
    hread client' port frame value' hmem'
  obtain rfl := eq_of_port_eq hconnected hconnected' (hport.trans hport'.symm)
  by_cases hframe : frame < connectedPort.delayFrames
  · rw [hearly hframe, hearly' hframe]
  · have hsame := (hlate (by omega) _).mp ((hlate' (by omega) _).mpr rfl)
    cases hsame
    rfl

end Invariant

/-- Player 1 presses buttons in frame 0, and both players read the frame that
they appear in. -/
def onePress : List (Action Player Int) :=
  [.put .one [⟨1, 0, 7⟩] true, .get .two 1 0 0, .get .two 1 1 0,
    .read .two
      (some { keyPress := [{ consoleId := 1, frameNumber := 1, port := 1, xAxis := 7 }] }),
    .get .one 1 0 0, .get .one 1 1 0]

theorem integrity_and_agreement_onePress :
    .get 1 1 .success 7 ∈ (onePress.foldl (next integerCoder) twoStarted).returned .two ∧
      ∀ value, .get 1 1 .success value ∈
        (onePress.foldl (next integerCoder) twoStarted).returned .one → value = 7 := by
  have hreach : (system integerCoder twoPlayers).Reachable
      (onePress.foldl (next integerCoder) twoStarted) := by
    have hschedule : (system integerCoder twoPlayers).Schedule twoStarted onePress := by decide
    exact TransitionSystem.Reachable.foldl (.init twoStarted_starts) hschedule
  have hread : .get 1 1 .success 7 ∈
      (onePress.foldl (next integerCoder) twoStarted).returned .two := by decide
  refine ⟨hread, fun value hvalue => ?_⟩
  exact (integrity_and_agreement integerCoder_keepsHeader integerCoder_lossless hreach).2
    .one .two 1 1 value 7 hvalue hread

end Network

end Session
end Netplay
