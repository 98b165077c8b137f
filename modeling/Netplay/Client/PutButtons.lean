import Netplay.Client.ConsoleStart

/-!
# What `PutButtons` does

The loop of `PutButtons` inserts tuples one by one and has nothing to take them
out again.  So a call is described by the tuples it took (`takenTuples`), a
prefix of its argument.

* `putTuple_step` says what one round of the loop can do, guards included.
* `putTuples_spec` follows for the whole loop, and `putButtons_spec` for the
  call: its queues, why it stopped (`StoppedBy`), and the key presses it sent.
* `putButtons_failed` describes a failed call completely: the queues keep what
  was taken, and submitting the same tuples again is refused unless nothing was.
-/

namespace Netplay
namespace Client
namespace EventStreamHandler

variable {ButtonsType : Type*}

/-- The handler with one accepted tuple in its queue. -/
def insertTuple (handler : EventStreamHandler ButtonsType)
    (tuple : ButtonsFrameTuple ButtonsType) : EventStreamHandler ButtonsType :=
  { handler with inputQueues := QueueMap.insertTuple handler.inputQueues tuple }

/-- The handler with several accepted tuples in its queues. -/
def insertTuples (handler : EventStreamHandler ButtonsType)
    (tuples : List (ButtonsFrameTuple ButtonsType)) : EventStreamHandler ButtonsType :=
  { handler with inputQueues := QueueMap.insertTuples handler.inputQueues tuples }

/-- Storing back a queue that refused changes nothing. -/
theorem setQueue_self {handler : EventStreamHandler ButtonsType} {port : Port}
    {queue : InputQueue ButtonsType} (hqueue : handler.inputQueues[port]? = some queue) :
    handler.setQueue port queue = handler := by
  unfold setQueue
  rw [QueueMap.insert_self hqueue]

/-- Storing back a queue that accepted is the insertion of its tuple. -/
theorem setQueue_insertButtons {handler : EventStreamHandler ButtonsType}
    {tuple : ButtonsFrameTuple ButtonsType} {queue : InputQueue ButtonsType}
    (hqueue : handler.inputQueues[tuple.port]? = some queue) :
    handler.setQueue tuple.port (queue.insertButtons tuple.frame tuple.buttons) =
      handler.insertTuple tuple := by
  unfold setQueue
  rw [QueueMap.insert_eq_modify hqueue
    fun queue => queue.insertButtons tuple.frame tuple.buttons]
  rfl

/-- The message for a local tuple, before its buttons are encoded. -/
def keyHeader (handler : EventStreamHandler ButtonsType)
    (tuple : ButtonsFrameTuple ButtonsType) : KeyStatePB :=
  { consoleId := handler.consoleId
    frameNumber := tuple.frame + handler.delayFramesForPort tuple.port
    port := tuple.port }

/-- The tuples for local ports. -/
def localTuples (handler : EventStreamHandler ButtonsType)
    (tuples : List (ButtonsFrameTuple ButtonsType)) : List (ButtonsFrameTuple ButtonsType) :=
  tuples.filter fun tuple => tuple.port ∈ handler.localPorts

/-- `key` is what the coder makes of the tuple. -/
def Encodes (coder : ButtonCoder ButtonsType) (handler : EventStreamHandler ButtonsType)
    (tuple : ButtonsFrameTuple ButtonsType) (key : KeyStatePB) : Prop :=
  0 ≤ handler.delayFramesForPort tuple.port ∧
    coder.encodeButtons tuple.buttons (handler.keyHeader tuple) = some key

@[simp] theorem insertTuples_nil (handler : EventStreamHandler ButtonsType) :
    handler.insertTuples [] = handler := rfl

@[simp] theorem insertTuples_cons (handler : EventStreamHandler ButtonsType)
    (tuple : ButtonsFrameTuple ButtonsType) (tuples : List (ButtonsFrameTuple ButtonsType)) :
    handler.insertTuples (tuple :: tuples) = (handler.insertTuple tuple).insertTuples tuples :=
  rfl

theorem hasDelays (handler : EventStreamHandler ButtonsType) :
    QueueMap.HasDelays handler.inputQueues handler.delayFramesForPort := by
  intro port queue hqueue
  unfold delayFramesForPort
  rw [hqueue]

/-- The delays of a handler depend on nothing that its queues learn. -/
theorem delayFramesForPort_of_evolves {handler handler' : EventStreamHandler ButtonsType}
    (h : QueueMap.Evolves handler.inputQueues handler'.inputQueues) (port : Port) :
    handler'.delayFramesForPort port = handler.delayFramesForPort port := by
  unfold delayFramesForPort
  rcases h port with ⟨h₁, h₂⟩ | ⟨queue, queue', h₁, h₂, hevolves⟩
  · rw [h₁, h₂]
  · rw [h₁, h₂]
    exact hevolves.delayFrames

@[simp] theorem delayFramesForPort_insertTuple (handler : EventStreamHandler ButtonsType)
    (tuple : ButtonsFrameTuple ButtonsType) (port : Port) :
    (handler.insertTuple tuple).delayFramesForPort port = handler.delayFramesForPort port :=
  delayFramesForPort_of_evolves (QueueMap.evolves_insertTuple _ _) port

@[simp] theorem keyHeader_insertTuple (handler : EventStreamHandler ButtonsType)
    (tuple tuple' : ButtonsFrameTuple ButtonsType) :
    (handler.insertTuple tuple).keyHeader tuple' = handler.keyHeader tuple' := by
  simp only [keyHeader, delayFramesForPort_insertTuple]
  rfl

theorem encodes_insertTuple {coder : ButtonCoder ButtonsType}
    {handler : EventStreamHandler ButtonsType} {tuple : ButtonsFrameTuple ButtonsType}
    {tuples : List (ButtonsFrameTuple ButtonsType)} {keys : List KeyStatePB}
    (h : List.Forall₂ (Encodes coder (handler.insertTuple tuple)) tuples keys) :
    List.Forall₂ (Encodes coder handler) tuples keys := by
  refine h.imp fun tuple' key hencodes => ?_
  unfold Encodes at hencodes ⊢
  rw [delayFramesForPort_insertTuple, keyHeader_insertTuple] at hencodes
  exact hencodes

/-- In a list encoded tuple by tuple, each key press has its tuple. -/
theorem forall₂_mem_right {α β : Type*} {R : α → β → Prop} {as : List α} {bs : List β}
    (h : List.Forall₂ R as bs) {b : β} (hb : b ∈ bs) : ∃ a ∈ as, R a b := by
  induction h with
  | nil => cases hb
  | cons hfirst _ ih =>
      rcases List.mem_cons.mp hb with rfl | hb
      · exact ⟨_, List.mem_cons_self, hfirst⟩
      · obtain ⟨a, ha, hR⟩ := ih hb
        exact ⟨a, List.mem_cons_of_mem _ ha, hR⟩

/-! ### One round of the loop -/

/-- The outcomes of one round: the tuple is refused, or it is inserted and then
fails to be sent, needs no sending, or is attached to the event. -/
inductive TupleStep (coder : ButtonCoder ButtonsType) (tuple : ButtonsFrameTuple ButtonsType)
    (event : OutgoingEventPB) (handler : EventStreamHandler ButtonsType) :
    PutButtonsStatus × OutgoingEventPB × EventStreamHandler ButtonsType → Prop
  | noSuchPort (hqueue : handler.inputQueues[tuple.port]? = none) :
      TupleStep coder tuple event handler (.noSuchPort, event, handler)
  | rejected {queue : InputQueue ButtonsType}
      (hqueue : handler.inputQueues[tuple.port]? = some queue)
      (hrefuses : ¬ queue.Accepts tuple.frame) :
      TupleStep coder tuple event handler (.rejectedByQueue, event, handler)
  | internalError (haccepts : QueueMap.Accepts handler.inputQueues tuple.port tuple.frame)
      (hlocal : tuple.port ∈ handler.localPorts)
      (hdelay : handler.delayFramesForPort tuple.port < 0) :
      TupleStep coder tuple event handler (.internalError, event, handler.insertTuple tuple)
  | failedToEncode (haccepts : QueueMap.Accepts handler.inputQueues tuple.port tuple.frame)
      (hlocal : tuple.port ∈ handler.localPorts)
      (hencode : coder.encodeButtons tuple.buttons (handler.keyHeader tuple) = none) :
      TupleStep coder tuple event handler (.failedToEncode, event, handler.insertTuple tuple)
  | remote (haccepts : QueueMap.Accepts handler.inputQueues tuple.port tuple.frame)
      (hremote : tuple.port ∉ handler.localPorts) :
      TupleStep coder tuple event handler (.success, event, handler.insertTuple tuple)
  | sent {key : KeyStatePB}
      (haccepts : QueueMap.Accepts handler.inputQueues tuple.port tuple.frame)
      (hlocal : tuple.port ∈ handler.localPorts) (hencodes : Encodes coder handler tuple key) :
      TupleStep coder tuple event handler
        (.success, { event with keyPress := event.keyPress ++ [key] },
          handler.insertTuple tuple)

theorem putTuple_step (coder : ButtonCoder ButtonsType) (tuple : ButtonsFrameTuple ButtonsType)
    (event : OutgoingEventPB) (handler : EventStreamHandler ButtonsType) :
    TupleStep coder tuple event handler (putTuple coder tuple event handler) := by
  unfold putTuple getQueue
  cases hqueue : handler.inputQueues[tuple.port]? with
  | none => exact .noSuchPort hqueue
  | some queue =>
      simp only
      by_cases hacc : queue.Accepts tuple.frame
      · have haccepts : QueueMap.Accepts handler.inputQueues tuple.port tuple.frame :=
          ⟨queue, hqueue, hacc⟩
        rw [InputQueue.putButtons_of_accepts hacc]
        simp only [setQueue_insertButtons hqueue, Bool.true_eq_false, if_false,
          delayFramesForPort_insertTuple]
        by_cases hlocal : tuple.port ∈ handler.localPorts
        -- the delay is looked up in the queues that already hold the tuple
        · have hlocal' : tuple.port ∈ (handler.insertTuple tuple).localPorts := hlocal
          rw [if_pos hlocal']
          by_cases hdelay : handler.delayFramesForPort tuple.port < 0
          · rw [if_pos hdelay]
            exact .internalError haccepts hlocal hdelay
          · rw [if_neg hdelay]
            cases hencode : coder.encodeButtons tuple.buttons (handler.keyHeader tuple) with
            | none =>
                have hencode' := hencode
                unfold keyHeader at hencode'
                simp only [show (handler.insertTuple tuple).consoleId = handler.consoleId from rfl,
                  hencode']
                exact .failedToEncode haccepts hlocal hencode
            | some key =>
                have hencode' := hencode
                unfold keyHeader at hencode'
                simp only [show (handler.insertTuple tuple).consoleId = handler.consoleId from rfl,
                  hencode']
                exact .sent haccepts hlocal ⟨by omega, hencode⟩
        · have hlocal' : tuple.port ∉ (handler.insertTuple tuple).localPorts := hlocal
          rw [if_neg hlocal']
          exact .remote haccepts hlocal
      · rw [InputQueue.putButtons_of_not_accepts hacc]
        simp only [setQueue_self hqueue, if_true]
        exact .rejected hqueue hacc

/-! ### The loop -/

/-- The tuples that a call gets into the queues. -/
def takenTuples (coder : ButtonCoder ButtonsType) :
    List (ButtonsFrameTuple ButtonsType) → EventStreamHandler ButtonsType →
      List (ButtonsFrameTuple ButtonsType)
  | [], _ => []
  | tuple :: tuples, handler =>
      match putTuple coder tuple {} handler with
      | (.success, _, handler) => tuple :: takenTuples coder tuples handler
      | (.noSuchPort, _, _) => []
      | (.rejectedByQueue, _, _) => []
      -- the queue had accepted this tuple before the loop gave up
      | _ => [tuple]

/-- The message built so far has no influence on a round. -/
theorem putTuple_event (coder : ButtonCoder ButtonsType) (tuple : ButtonsFrameTuple ButtonsType)
    (event event' : OutgoingEventPB) (handler : EventStreamHandler ButtonsType) :
    (putTuple coder tuple event handler).1 = (putTuple coder tuple event' handler).1 ∧
      (putTuple coder tuple event handler).2.2 = (putTuple coder tuple event' handler).2.2 := by
  unfold putTuple
  cases handler.getQueue tuple.port with
  | none => exact ⟨rfl, rfl⟩
  | some queue =>
      simp only
      split_ifs
      · exact ⟨rfl, rfl⟩
      · exact ⟨rfl, rfl⟩
      · split
        · exact ⟨rfl, rfl⟩
        · exact ⟨rfl, rfl⟩
      · exact ⟨rfl, rfl⟩

theorem takenTuples_cons (coder : ButtonCoder ButtonsType)
    (tuple : ButtonsFrameTuple ButtonsType) (tuples : List (ButtonsFrameTuple ButtonsType))
    (event : OutgoingEventPB) (handler : EventStreamHandler ButtonsType) :
    takenTuples coder (tuple :: tuples) handler =
      match putTuple coder tuple event handler with
      | (.success, _, handler) => tuple :: takenTuples coder tuples handler
      | (.noSuchPort, _, _) => []
      | (.rejectedByQueue, _, _) => []
      | _ => [tuple] := by
  obtain ⟨hstatus, hhandler⟩ := putTuple_event coder tuple {} event handler
  rw [takenTuples]
  cases hput : putTuple coder tuple {} handler with
  | mk status rest =>
      cases hput' : putTuple coder tuple event handler with
      | mk status' rest' =>
          rw [hput, hput'] at hstatus hhandler
          cases hstatus
          cases status with
          | success => exact congrArg (fun h => tuple :: takenTuples coder tuples h) hhandler
          | noSuchPort => rfl
          | rejectedByQueue => rfl
          | failedToTransmitRemote => rfl
          | failedToEncode => rfl
          | internalError => rfl

/-- Why a call ends with a status, when it has taken some tuples and is left with
the rest. -/
inductive StoppedBy (coder : ButtonCoder ButtonsType) (handler : EventStreamHandler ButtonsType) :
    List (ButtonsFrameTuple ButtonsType) → List (ButtonsFrameTuple ButtonsType) →
      PutButtonsStatus → Prop
  | done {taken : List (ButtonsFrameTuple ButtonsType)} :
      StoppedBy coder handler taken [] .success
  | noSuchPort {taken rest : List (ButtonsFrameTuple ButtonsType)}
      {tuple : ButtonsFrameTuple ButtonsType}
      (hqueue : handler.inputQueues[tuple.port]? = none) :
      StoppedBy coder handler taken (tuple :: rest) .noSuchPort
  | rejected {taken rest : List (ButtonsFrameTuple ButtonsType)}
      {tuple : ButtonsFrameTuple ButtonsType} {queue : InputQueue ButtonsType}
      (hqueue : (QueueMap.insertTuples handler.inputQueues taken)[tuple.port]? = some queue)
      (hrefuses : ¬ queue.Accepts tuple.frame) :
      StoppedBy coder handler taken (tuple :: rest) .rejectedByQueue
  | internalError {taken rest : List (ButtonsFrameTuple ButtonsType)}
      {tuple : ButtonsFrameTuple ButtonsType} (hlocal : tuple.port ∈ handler.localPorts)
      (hdelay : handler.delayFramesForPort tuple.port < 0) :
      StoppedBy coder handler (taken ++ [tuple]) rest .internalError
  | failedToEncode {taken rest : List (ButtonsFrameTuple ButtonsType)}
      {tuple : ButtonsFrameTuple ButtonsType} (hlocal : tuple.port ∈ handler.localPorts)
      (hencode : coder.encodeButtons tuple.buttons (handler.keyHeader tuple) = none) :
      StoppedBy coder handler (taken ++ [tuple]) rest .failedToEncode
  | failedToTransmit {taken : List (ButtonsFrameTuple ButtonsType)}
      (hlocal : handler.localTuples taken ≠ []) :
      StoppedBy coder handler taken [] .failedToTransmitRemote

/-- The reason stays the same seen from one tuple earlier. -/
theorem StoppedBy.cons {coder : ButtonCoder ButtonsType}
    {handler : EventStreamHandler ButtonsType} {tuple : ButtonsFrameTuple ButtonsType}
    {taken rest : List (ButtonsFrameTuple ButtonsType)} {status : PutButtonsStatus}
    (h : StoppedBy coder (handler.insertTuple tuple) taken rest status) :
    StoppedBy coder handler (tuple :: taken) rest status := by
  cases h with
  | done => exact .done
  | noSuchPort hqueue =>
      exact .noSuchPort (((QueueMap.evolves_insertTuple _ _).none_iff _).mp hqueue)
  | rejected hqueue hrefuses => exact .rejected hqueue hrefuses
  | internalError hlocal hdelay =>
      rw [delayFramesForPort_insertTuple] at hdelay
      exact @StoppedBy.internalError _ coder handler (tuple :: _) _ _ hlocal hdelay
  | failedToEncode hlocal hencode =>
      rw [keyHeader_insertTuple] at hencode
      exact @StoppedBy.failedToEncode _ coder handler (tuple :: _) _ _ hlocal hencode
  | failedToTransmit hlocal =>
      refine .failedToTransmit fun hnil => hlocal ?_
      rw [localTuples, List.filter_eq_nil_iff] at hnil ⊢
      exact fun t ht => hnil t (List.mem_cons_of_mem _ ht)

theorem StoppedBy.rest_eq_nil {coder : ButtonCoder ButtonsType}
    {handler : EventStreamHandler ButtonsType}
    {taken rest : List (ButtonsFrameTuple ButtonsType)} {status : PutButtonsStatus}
    (h : StoppedBy coder handler taken rest status) (hsuccess : status = .success) :
    rest = [] := by
  cases h with
  | done => rfl
  | noSuchPort => cases hsuccess
  | rejected => cases hsuccess
  | internalError => cases hsuccess
  | failedToEncode => cases hsuccess
  | failedToTransmit => cases hsuccess

/-- What a result of the loop says about the tuples taken. -/
structure PutSpec (coder : ButtonCoder ButtonsType) (handler : EventStreamHandler ButtonsType)
    (tuples taken : List (ButtonsFrameTuple ButtonsType)) (event : OutgoingEventPB)
    (result : PutButtonsStatus × OutgoingEventPB × EventStreamHandler ButtonsType) : Prop where
  inTurn : QueueMap.InTurn handler.inputQueues taken
  handler_eq : result.2.2 = handler.insertTuples taken
  stopped : ∃ rest, tuples = taken ++ rest ∧ StoppedBy coder handler taken rest result.1
  not_transmit : result.1 ≠ .failedToTransmitRemote
  sent : result.1 = .success → ∃ keys,
    result.2.1 = { event with keyPress := event.keyPress ++ keys } ∧
      List.Forall₂ (Encodes coder handler) (handler.localTuples taken) keys

/-- A tuple that needs no sending, before what the rest of the loop did. -/
theorem PutSpec.remote {coder : ButtonCoder ButtonsType} {handler : EventStreamHandler ButtonsType}
    {tuple : ButtonsFrameTuple ButtonsType} {tuples taken : List (ButtonsFrameTuple ButtonsType)}
    {event : OutgoingEventPB}
    {result : PutButtonsStatus × OutgoingEventPB × EventStreamHandler ButtonsType}
    (haccepts : QueueMap.Accepts handler.inputQueues tuple.port tuple.frame)
    (hremote : tuple.port ∉ handler.localPorts)
    (h : PutSpec coder (handler.insertTuple tuple) tuples taken event result) :
    PutSpec coder handler (tuple :: tuples) (tuple :: taken) event result := by
  obtain ⟨hturn, hhandler, ⟨rest, hrest, hstopped⟩, htransmit, hsent⟩ := h
  refine ⟨⟨haccepts, hturn⟩, hhandler, ⟨rest, ?_, hstopped.cons⟩, htransmit, ?_⟩
  · rw [hrest, List.cons_append]
  · intro hsuccess
    obtain ⟨keys, hkeys, hencodes⟩ := hsent hsuccess
    refine ⟨keys, hkeys, ?_⟩
    rw [localTuples, List.filter_cons_of_neg (by simpa using hremote)]
    exact encodes_insertTuple hencodes

/-- A tuple whose key press was attached, before what the rest of the loop did. -/
theorem PutSpec.sentKey {coder : ButtonCoder ButtonsType}
    {handler : EventStreamHandler ButtonsType} {tuple : ButtonsFrameTuple ButtonsType}
    {tuples taken : List (ButtonsFrameTuple ButtonsType)} {event : OutgoingEventPB}
    {key : KeyStatePB}
    {result : PutButtonsStatus × OutgoingEventPB × EventStreamHandler ButtonsType}
    (haccepts : QueueMap.Accepts handler.inputQueues tuple.port tuple.frame)
    (hlocal : tuple.port ∈ handler.localPorts) (hencodes : Encodes coder handler tuple key)
    (h : PutSpec coder (handler.insertTuple tuple) tuples taken
      { event with keyPress := event.keyPress ++ [key] } result) :
    PutSpec coder handler (tuple :: tuples) (tuple :: taken) event result := by
  obtain ⟨hturn, hhandler, ⟨rest, hrest, hstopped⟩, htransmit, hsent⟩ := h
  refine ⟨⟨haccepts, hturn⟩, hhandler, ⟨rest, ?_, hstopped.cons⟩, htransmit, ?_⟩
  · rw [hrest, List.cons_append]
  · intro hsuccess
    obtain ⟨keys, hkeys, hrestEncodes⟩ := hsent hsuccess
    refine ⟨key :: keys, ?_, ?_⟩
    · rw [hkeys, List.append_assoc]
      rfl
    · rw [localTuples, List.filter_cons_of_pos (by simpa using hlocal)]
      exact .cons hencodes (encodes_insertTuple hrestEncodes)

theorem putTuples_spec (coder : ButtonCoder ButtonsType)
    (tuples : List (ButtonsFrameTuple ButtonsType)) (event : OutgoingEventPB)
    (handler : EventStreamHandler ButtonsType) :
    PutSpec coder handler tuples (takenTuples coder tuples handler) event
      (putTuples coder tuples event handler) := by
  induction tuples generalizing event handler with
  | nil =>
      refine ⟨trivial, rfl, ⟨[], rfl, .done⟩, nofun, fun _ => ⟨[], ?_, .nil⟩⟩
      simp [putTuples]
  | cons tuple tuples ih =>
      rw [takenTuples_cons coder tuple tuples event handler, putTuples]
      have hstep := putTuple_step coder tuple event handler
      generalize putTuple coder tuple event handler = result at hstep
      -- the first two rounds take nothing, the next two take the tuple and stop
      cases hstep with
      | noSuchPort hqueue =>
          exact ⟨trivial, rfl, ⟨tuple :: tuples, rfl, .noSuchPort hqueue⟩, nofun, nofun⟩
      | rejected hqueue hrefuses =>
          exact ⟨trivial, rfl, ⟨tuple :: tuples, rfl, .rejected hqueue hrefuses⟩, nofun, nofun⟩
      | internalError haccepts hlocal hdelay =>
          have hstopped := @StoppedBy.internalError _ coder handler [] tuples tuple hlocal hdelay
          exact ⟨⟨haccepts, trivial⟩, rfl, ⟨tuples, rfl, hstopped⟩, nofun, nofun⟩
      | failedToEncode haccepts hlocal hencode =>
          have hstopped := @StoppedBy.failedToEncode _ coder handler [] tuples tuple hlocal hencode
          exact ⟨⟨haccepts, trivial⟩, rfl, ⟨tuples, rfl, hstopped⟩, nofun, nofun⟩
      | remote haccepts hremote =>
          exact (ih event (handler.insertTuple tuple)).remote haccepts hremote
      | sent haccepts hlocal hencodes =>
          exact (ih _ (handler.insertTuple tuple)).sentKey haccepts hlocal hencodes

/-! ### The call -/

/-- The events that carry some key presses: one, or none for no key presses. -/
def keyPressEvents (keys : List KeyStatePB) : List OutgoingEventPB :=
  if keys.isEmpty then [] else [{ keyPress := keys }]

/-- What a call of `PutButtons` did, in terms of the tuples it took. -/
structure PutButtonsSpec (coder : ButtonCoder ButtonsType)
    (handler : EventStreamHandler ButtonsType) (writeOk : Bool)
    (tuples taken : List (ButtonsFrameTuple ButtonsType))
    (result : PutButtonsResult ButtonsType) : Prop where
  inTurn : QueueMap.InTurn handler.inputQueues taken
  handler_eq : result.handler =
    { handler.insertTuples taken with timings := result.handler.timings }
  stopped : ∃ rest, tuples = taken ++ rest ∧ StoppedBy coder handler taken rest result.status
  transmit_failed : result.status = .failedToTransmitRemote → writeOk = false
  not_written : result.status ≠ .success → result.status ≠ .failedToTransmitRemote →
    result.written = [] ∧ result.handler = handler.insertTuples taken
  written : result.status = .success ∨ result.status = .failedToTransmitRemote →
    taken = tuples ∧ ∃ keys, result.written = keyPressEvents keys ∧
      List.Forall₂ (Encodes coder handler) (handler.localTuples tuples) keys

theorem putButtons_spec (coder : ButtonCoder ButtonsType)
    (tuples : List (ButtonsFrameTuple ButtonsType)) (writeOk : Bool)
    (handler : EventStreamHandler ButtonsType) :
    PutButtonsSpec coder handler writeOk tuples (takenTuples coder tuples handler)
      (handler.putButtons coder tuples writeOk) := by
  obtain ⟨hturn, hhandler, ⟨rest, hrest, hstopped⟩, htransmit, hsent⟩ :=
    putTuples_spec coder tuples {} handler
  unfold putButtons
  generalize putTuples coder tuples {} handler = result at hhandler hstopped htransmit hsent
  obtain ⟨status, event, handler'⟩ := result
  cases hhandler
  by_cases hsuccess : status = .success
  · subst hsuccess
    obtain ⟨keys, rfl, hencodes⟩ := hsent rfl
    obtain rfl := hstopped.rest_eq_nil rfl
    rw [List.append_nil] at hrest
    rw [← hrest] at hencodes hturn ⊢
    simp only [List.nil_append]
    cases hempty : keys.isEmpty with
    | true =>
        refine ⟨hturn, rfl, ⟨[], by simp, .done⟩, nofun, fun h => absurd rfl h,
          fun _ => ⟨rfl, keys, ?_, hencodes⟩⟩
        simp [keyPressEvents, hempty]
    | false =>
        have hwritten : [({ keyPress := keys } : OutgoingEventPB)] = keyPressEvents keys := by
          simp [keyPressEvents, hempty]
        -- a call without local tuples has nothing to write, so this one has some
        have hlocal : handler.localTuples tuples ≠ [] := by
          intro hnil
          rw [hnil] at hencodes
          cases hencodes
          cases hempty
        cases writeOk with
        | true =>
            exact ⟨hturn, rfl, ⟨[], by simp, .done⟩, nofun, fun h => absurd rfl h,
              fun _ => ⟨rfl, keys, hwritten, hencodes⟩⟩
        | false =>
            exact ⟨hturn, rfl, ⟨[], by simp, .failedToTransmit hlocal⟩, fun _ => rfl,
              fun _ h => absurd rfl h, fun _ => ⟨rfl, keys, hwritten, hencodes⟩⟩
  -- a failure of the loop is returned as it is, and nothing is written
  · cases status with
    | success => exact absurd rfl hsuccess
    | failedToTransmitRemote => exact absurd rfl htransmit
    | noSuchPort =>
        exact ⟨hturn, rfl, ⟨rest, hrest, hstopped⟩, nofun, fun _ _ => ⟨rfl, rfl⟩, by simp⟩
    | rejectedByQueue =>
        exact ⟨hturn, rfl, ⟨rest, hrest, hstopped⟩, nofun, fun _ _ => ⟨rfl, rfl⟩, by simp⟩
    | failedToEncode =>
        exact ⟨hturn, rfl, ⟨rest, hrest, hstopped⟩, nofun, fun _ _ => ⟨rfl, rfl⟩, by simp⟩
    | internalError =>
        exact ⟨hturn, rfl, ⟨rest, hrest, hstopped⟩, nofun, fun _ _ => ⟨rfl, rfl⟩, by simp⟩

/-- The queues after a call: those before it, with what it took inserted. -/
theorem putButtons_inputQueues (coder : ButtonCoder ButtonsType)
    (tuples : List (ButtonsFrameTuple ButtonsType)) (writeOk : Bool)
    (handler : EventStreamHandler ButtonsType) :
    (handler.putButtons coder tuples writeOk).handler.inputQueues =
      QueueMap.insertTuples handler.inputQueues (takenTuples coder tuples handler) := by
  rw [(putButtons_spec coder tuples writeOk handler).handler_eq]
  rfl

/-- A call whose tuples the queues accept in turn succeeds, given that they encode
and that the write goes through. -/
theorem putButtons_of_inTurn {coder : ButtonCoder ButtonsType} (htotal : coder.Total)
    {tuples : List (ButtonsFrameTuple ButtonsType)} {handler : EventStreamHandler ButtonsType}
    (hturn : QueueMap.InTurn handler.inputQueues tuples)
    (hdelay : ∀ port ∈ handler.localPorts, 0 ≤ handler.delayFramesForPort port) :
    takenTuples coder tuples handler = tuples ∧
      (handler.putButtons coder tuples true).status = .success := by
  have hspec := putButtons_spec coder tuples true handler
  obtain ⟨rest, hrest, hstopped⟩ := hspec.stopped
  have hwrite := hspec.transmit_failed
  generalize (handler.putButtons coder tuples true).status = status at hstopped hwrite ⊢
  generalize takenTuples coder tuples handler = taken at hrest hstopped ⊢
  rw [hrest] at hturn
  -- every way to stop early is excluded by one of the assumptions
  cases hstopped with
  | done => exact ⟨by rw [hrest, List.append_nil], rfl⟩
  | noSuchPort hqueue =>
      have haccepts := hturn.accepts _ (List.mem_append_right _ List.mem_cons_self)
      exact absurd haccepts (QueueMap.not_accepts_of_none hqueue)
  | rejected hqueue hrefuses =>
      have haccepts := (QueueMap.inTurn_append.mp hturn).2.1
      exact absurd ((QueueMap.accepts_iff hqueue).mp haccepts) hrefuses
  | internalError hlocal hnegative => exact absurd (hdelay _ hlocal) (by omega)
  | @failedToEncode _ _ tuple hlocal hencode =>
      have hencodes := htotal tuple.buttons (handler.keyHeader tuple)
      rw [hencode] at hencodes
      cases hencodes
  | failedToTransmit _ => exact absurd (hwrite rfl) (by simp)

/-! ### Failed calls -/

/-- A refused first tuple ends the call before anything happened. -/
theorem putButtons_of_not_accepts (coder : ButtonCoder ButtonsType)
    {tuple : ButtonsFrameTuple ButtonsType} (tuples : List (ButtonsFrameTuple ButtonsType))
    (writeOk : Bool) {handler : EventStreamHandler ButtonsType}
    (hrefused : ¬ QueueMap.Accepts handler.inputQueues tuple.port tuple.frame) :
    takenTuples coder (tuple :: tuples) handler = [] ∧
      handler.putButtons coder (tuple :: tuples) writeOk =
        ⟨if tuple.port ∈ handler.inputQueues then .rejectedByQueue else .noSuchPort,
          [], handler⟩ := by
  have hstep := putTuple_step coder tuple {} handler
  unfold putButtons
  rw [takenTuples, putTuples]
  generalize putTuple coder tuple {} handler = result at hstep
  cases hstep with
  | noSuchPort hqueue =>
      refine ⟨rfl, ?_⟩
      rw [if_neg (by simp [Std.ExtTreeMap.mem_iff_isSome_getElem?, hqueue])]
  | rejected hqueue _ =>
      refine ⟨rfl, ?_⟩
      rw [if_pos (by simp [Std.ExtTreeMap.mem_iff_isSome_getElem?, hqueue])]
  | internalError haccepts _ _ => exact absurd haccepts hrefused
  | failedToEncode haccepts _ _ => exact absurd haccepts hrefused
  | remote haccepts _ => exact absurd haccepts hrefused
  | sent haccepts _ _ => exact absurd haccepts hrefused

/-- An accepted first tuple is taken, whatever becomes of the call. -/
theorem takenTuples_of_accepts (coder : ButtonCoder ButtonsType)
    {tuple : ButtonsFrameTuple ButtonsType} (tuples : List (ButtonsFrameTuple ButtonsType))
    {handler : EventStreamHandler ButtonsType}
    (haccepts : QueueMap.Accepts handler.inputQueues tuple.port tuple.frame) :
    ∃ taken, takenTuples coder (tuple :: tuples) handler = tuple :: taken := by
  have hstep := putTuple_step coder tuple {} handler
  rw [takenTuples]
  generalize putTuple coder tuple {} handler = result at hstep
  cases hstep with
  | noSuchPort hqueue => exact absurd haccepts (QueueMap.not_accepts_of_none hqueue)
  | rejected hqueue hrefuses =>
      exact absurd ((QueueMap.accepts_iff hqueue).mp haccepts) hrefuses
  | internalError _ _ _ => exact ⟨[], rfl⟩
  | failedToEncode _ _ _ => exact ⟨[], rfl⟩
  | remote _ _ => exact ⟨_, rfl⟩
  | sent _ _ _ => exact ⟨_, rfl⟩

/-- Submitting the tuples of a call again, when the first attempt took some. -/
theorem putButtons_again (coder : ButtonCoder ButtonsType)
    (tuples : List (ButtonsFrameTuple ButtonsType)) (writeOk writeOk' : Bool)
    (handler : EventStreamHandler ButtonsType) (htaken : takenTuples coder tuples handler ≠ []) :
    (handler.putButtons coder tuples writeOk).handler.putButtons coder tuples writeOk' =
      ⟨.rejectedByQueue, [], (handler.putButtons coder tuples writeOk).handler⟩ := by
  have hspec := putButtons_spec coder tuples writeOk handler
  obtain ⟨rest, hrest, -⟩ := hspec.stopped
  cases htuples : takenTuples coder tuples handler with
  | nil => exact absurd htuples htaken
  | cons tuple taken =>
      rw [htuples] at hspec hrest
      -- the first tuple was taken, so it is refused from now on
      have haccepts := hspec.inTurn.1
      have hevolves : QueueMap.Evolves (QueueMap.insertTuple handler.inputQueues tuple)
          (handler.putButtons coder tuples writeOk).handler.inputQueues := by
        rw [putButtons_inputQueues, htuples]
        exact QueueMap.evolves_insertTuples _ taken
      have hrefused := QueueMap.not_accepts_of_evolves haccepts hevolves
      obtain ⟨queue, hqueue, -⟩ := haccepts
      obtain ⟨queue', hqueue', -⟩ := QueueMap.seen_insertTuple hqueue hevolves
      generalize (handler.putButtons coder tuples writeOk).handler = handler' at *
      rw [hrest, List.cons_append, (putButtons_of_not_accepts coder _ writeOk' hrefused).2,
        if_pos (by simp [Std.ExtTreeMap.mem_iff_isSome_getElem?, hqueue'])]

/-- **A failed call keeps what it took.**  The queues are those before the call
with the taken tuples inserted, a prefix of the argument that ends where the
status says.  They are unchanged exactly when the first tuple was refused;
otherwise the same tuples cannot be submitted again. -/
theorem putButtons_failed (coder : ButtonCoder ButtonsType)
    (tuples : List (ButtonsFrameTuple ButtonsType)) (writeOk : Bool)
    (handler : EventStreamHandler ButtonsType)
    (hfailed : (handler.putButtons coder tuples writeOk).status ≠ .success) :
    (∃ rest, tuples = takenTuples coder tuples handler ++ rest ∧
        StoppedBy coder handler (takenTuples coder tuples handler) rest
          (handler.putButtons coder tuples writeOk).status) ∧
      QueueMap.InTurn handler.inputQueues (takenTuples coder tuples handler) ∧
      (handler.putButtons coder tuples writeOk).handler.inputQueues =
        QueueMap.insertTuples handler.inputQueues (takenTuples coder tuples handler) ∧
      ((handler.putButtons coder tuples writeOk).handler.inputQueues = handler.inputQueues ↔
        ∃ tuple rest, tuples = tuple :: rest ∧
          ¬ QueueMap.Accepts handler.inputQueues tuple.port tuple.frame) ∧
      ((handler.putButtons coder tuples writeOk).handler.inputQueues ≠ handler.inputQueues →
        ∀ writeOk',
          (handler.putButtons coder tuples writeOk).handler.putButtons coder tuples writeOk' =
            ⟨.rejectedByQueue, [], (handler.putButtons coder tuples writeOk).handler⟩) := by
  have hspec := putButtons_spec coder tuples writeOk handler
  have hqueues := putButtons_inputQueues coder tuples writeOk handler
  have htaken : (handler.putButtons coder tuples writeOk).handler.inputQueues =
      handler.inputQueues ↔ takenTuples coder tuples handler = [] := by
    rw [hqueues]
    cases htuples : takenTuples coder tuples handler with
    | nil => simp
    | cons tuple taken =>
        have hturn := hspec.inTurn
        rw [htuples] at hturn
        simp [QueueMap.insertTuples_ne hturn, -QueueMap.insertTuples_cons]
  refine ⟨hspec.stopped, hspec.inTurn, hqueues, ?_, ?_⟩
  · rw [htaken]
    cases tuples with
    | nil => exact absurd rfl hfailed
    | cons tuple rest =>
        by_cases haccepts : QueueMap.Accepts handler.inputQueues tuple.port tuple.frame
        · obtain ⟨taken, heq⟩ := takenTuples_of_accepts coder rest haccepts
          simp [heq, haccepts]
        · simp [(putButtons_of_not_accepts coder rest writeOk haccepts).1, haccepts]
  · intro hne writeOk'
    exact putButtons_again coder tuples writeOk writeOk' handler fun hnil => hne (htaken.mpr hnil)

/-- Two tuples for one frame: the second is refused and the first stays. -/
def sameFrameTwice : List (ButtonsFrameTuple Int) := [⟨1, 0, 7⟩, ⟨1, 0, 8⟩]

theorem putButtons_failed_sameFrameTwice :
    ((player 1).putButtons integerCoder sameFrameTwice true).status ≠ .success ∧
      ∀ writeOk',
        ((player 1).putButtons integerCoder sameFrameTwice true).handler.putButtons
            integerCoder sameFrameTwice writeOk' =
          ⟨.rejectedByQueue, [],
            ((player 1).putButtons integerCoder sameFrameTwice true).handler⟩ :=
  ⟨by decide,
    (putButtons_failed integerCoder sameFrameTwice true (player 1) (by decide)).2.2.2.2
      (by decide)⟩

/-- `PutButtons` of a started handler is not all-or-nothing. -/
theorem putButtons_not_allOrNothing :
    ¬ ∀ (ports : PortEnum) (connectedPorts : List ConnectedPortPB)
      (handler : EventStreamHandler Int), StartedBy ports connectedPorts handler →
      ∀ (coder : ButtonCoder Int) (tuples : List (ButtonsFrameTuple Int)) (writeOk : Bool),
        (handler.putButtons coder tuples writeOk).status ≠ .success →
        (handler.putButtons coder tuples writeOk).handler.inputQueues = handler.inputQueues := by
  intro h
  have hsame := h portNumbers twoPorts (player 1) (player_startedBy (Or.inl rfl)) integerCoder
    sameFrameTwice true (by decide)
  have hchanged : ((player 1).putButtons integerCoder sameFrameTwice true).handler.inputQueues ≠
      (player 1).inputQueues := by
    decide
  exact hchanged hsame

end EventStreamHandler

end Client
end Netplay
