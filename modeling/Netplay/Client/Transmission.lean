import Netplay.Client.CallRun

/-!
# Transmission is exact and at most once

Nothing in the transmit code keeps a frame from being sent twice.  That it is
not follows from the queues: a key press is written for an accepted tuple only,
an accepted tuple fills its slot, and a filled slot stays filled over every run
(`QueueMap.InTurn.slots`, `Evolves`).
-/

namespace Netplay
namespace Client
namespace EventStreamHandler

variable {ButtonsType : Type*}

/-- `key` is the transmission of the tuple by this client. -/
structure Transmits (coder : ButtonCoder ButtonsType) (handler : EventStreamHandler ButtonsType)
    (tuple : ButtonsFrameTuple ButtonsType) (key : KeyStatePB) : Prop where
  consoleId : key.consoleId = handler.consoleId
  port : key.port = tuple.port
  frameNumber : key.frameNumber = tuple.frame + handler.delayFramesForPort tuple.port
  encoded : coder.encodeButtons tuple.buttons (handler.keyHeader tuple) = some key

/-- The slot that a key press fills at its receivers. -/
def slotOfKey (key : KeyStatePB) : Port × Int := (key.port, key.frameNumber)

/-- The tuples of a call that are to be transmitted. -/
def Call.localTuples (handler : EventStreamHandler ButtonsType) :
    Call ButtonsType → List (ButtonsFrameTuple ButtonsType)
  | .putButtons tuples _ => handler.localTuples tuples
  | .getButtons _ _ _ => []

/-- A call that writes one event with a key press for each local tuple, in order,
and no event if it has no local tuple. -/
def SentExactly (coder : ButtonCoder ButtonsType) (handler : EventStreamHandler ButtonsType) :
    Call ButtonsType → Outcome ButtonsType → Prop
  | .putButtons tuples _, .put _ written =>
      if handler.localTuples tuples = [] then written = []
      else ∃ event, written = [event] ∧
        List.Forall₂ (Transmits coder handler) (handler.localTuples tuples) event.keyPress
  | .getButtons _ _ _, .get _ _ => True
  | _, _ => False

/-- The key presses of a run, in the order they were handed to `Write`. -/
def writtenKeys (outcomes : List (Outcome ButtonsType)) : List KeyStatePB :=
  outcomes.flatMap Outcome.writtenKeys

theorem Encodes.transmits {coder : ButtonCoder ButtonsType} (hheader : coder.KeepsHeader)
    {handler : EventStreamHandler ButtonsType} {tuple : ButtonsFrameTuple ButtonsType}
    {key : KeyStatePB} (h : Encodes coder handler tuple key) :
    Transmits coder handler tuple key := by
  obtain ⟨hconsole, hframe, hport⟩ := hheader h.2
  exact ⟨hconsole, hport, hframe, h.2⟩

theorem Transmits.of_evolves {coder : ButtonCoder ButtonsType}
    {handler handler' : EventStreamHandler ButtonsType} (hevolves : Evolves handler handler')
    {tuple : ButtonsFrameTuple ButtonsType} {key : KeyStatePB}
    (h : Transmits coder handler' tuple key) : Transmits coder handler tuple key := by
  have hheader : handler'.keyHeader tuple = handler.keyHeader tuple := by
    simp only [keyHeader, hevolves.consoleId, hevolves.delayFramesForPort]
  refine ⟨?_, h.port, ?_, ?_⟩
  · rw [h.consoleId, hevolves.consoleId]
  · rw [h.frameNumber, hevolves.delayFramesForPort]
  · rw [← hheader]
    exact h.encoded

theorem SentExactly.of_evolves {coder : ButtonCoder ButtonsType}
    {handler handler' : EventStreamHandler ButtonsType} (hevolves : Evolves handler handler')
    {call : Call ButtonsType} {outcome : Outcome ButtonsType}
    (h : SentExactly coder handler' call outcome) : SentExactly coder handler call outcome := by
  cases call with
  | getButtons port frame buttons =>
      cases outcome with
      | get status buttons => exact trivial
      | put status written => exact h
  | putButtons tuples writeOk =>
      cases outcome with
      | get status buttons => exact h
      | put status written =>
          have hlocal : handler'.localTuples tuples = handler.localTuples tuples := by
            simp only [localTuples, hevolves.localPorts]
          simp only [SentExactly, hlocal] at h ⊢
          split_ifs at h ⊢ with hnil
          · exact h
          · obtain ⟨event, hwritten, htransmits⟩ := h
            exact ⟨event, hwritten, htransmits.imp fun _ _ h => h.of_evolves hevolves⟩

/-! ### One call -/

/-- The slot of a transmission is the one its tuple fills. -/
theorem map_slotOfKey {coder : ButtonCoder ButtonsType} {handler : EventStreamHandler ButtonsType}
    {tuples : List (ButtonsFrameTuple ButtonsType)} {keys : List KeyStatePB}
    (h : List.Forall₂ (Transmits coder handler) tuples keys) :
    keys.map slotOfKey = tuples.map (QueueMap.slotOf handler.delayFramesForPort) := by
  induction h with
  | nil => rfl
  | cons htransmits _ ih =>
      rw [List.map_cons, List.map_cons, ih, slotOfKey, htransmits.port, htransmits.frameNumber]
      rfl

theorem flatMap_keyPressEvents (keys : List KeyStatePB) :
    (keyPressEvents keys).flatMap OutgoingEventPB.keyPress = keys := by
  unfold keyPressEvents
  cases keys with
  | nil => rfl
  | cons key keys => simp

/-- What a call writes: transmissions of tuples for local ports that its queues
took. -/
theorem putButtons_transmits {coder : ButtonCoder ButtonsType} (hheader : coder.KeepsHeader)
    (tuples : List (ButtonsFrameTuple ButtonsType)) (writeOk : Bool)
    (handler : EventStreamHandler ButtonsType) :
    ∃ sent, sent.Sublist (handler.localTuples (takenTuples coder tuples handler)) ∧
      List.Forall₂ (fun tuple key => Transmits coder handler tuple key ∧
          0 ≤ handler.delayFramesForPort tuple.port) sent
        ((handler.putButtons coder tuples writeOk).written.flatMap OutgoingEventPB.keyPress) := by
  have hspec := putButtons_spec coder tuples writeOk handler
  by_cases hended : (handler.putButtons coder tuples writeOk).status = .success ∨
      (handler.putButtons coder tuples writeOk).status = .failedToTransmitRemote
  · obtain ⟨htaken, keys, hkeys, hencodes⟩ := hspec.written hended
    refine ⟨handler.localTuples tuples, by rw [htaken], ?_⟩
    rw [hkeys, flatMap_keyPressEvents]
    exact hencodes.imp fun _ _ h => ⟨h.transmits hheader, h.1⟩
  -- a call that stops earlier does not get to `Write`
  · rw [not_or] at hended
    rw [(hspec.not_written hended.1 hended.2).1]
    exact ⟨[], List.nil_sublist _, .nil⟩

theorem putButtons_sentExactly {coder : ButtonCoder ButtonsType} (hheader : coder.KeepsHeader)
    (tuples : List (ButtonsFrameTuple ButtonsType)) (writeOk : Bool)
    (handler : EventStreamHandler ButtonsType)
    (hsuccess : (handler.putButtons coder tuples writeOk).status = .success) :
    SentExactly coder handler (.putButtons tuples writeOk)
      (.put (handler.putButtons coder tuples writeOk).status
        (handler.putButtons coder tuples writeOk).written) := by
  obtain ⟨-, keys, hkeys, hencodes⟩ :=
    (putButtons_spec coder tuples writeOk handler).written (Or.inl hsuccess)
  have htransmits := hencodes.imp fun _ _ h => Encodes.transmits hheader h
  show if handler.localTuples tuples = [] then _ else _
  rw [hkeys]
  cases hlocal : handler.localTuples tuples with
  | nil =>
      rw [hlocal] at htransmits
      cases htransmits
      rfl
  | cons tuple rest =>
      rw [hlocal] at htransmits
      rw [if_neg (List.cons_ne_nil tuple rest)]
      cases htransmits with
      | cons hfirst hrest => exact ⟨_, rfl, .cons hfirst hrest⟩

variable [Inhabited ButtonsType]

/-- The slots of the key presses that one call writes: distinct, not filled
before the call, and filled after it. -/
theorem runCall_slots {coder : ButtonCoder ButtonsType} (hheader : coder.KeepsHeader)
    (call : Call ButtonsType) (incoming : List (Option IncomingEventPB))
    (handler : EventStreamHandler ButtonsType) :
    ((runCall coder call incoming handler).1.writtenKeys.map slotOfKey).Nodup ∧
      (∀ key ∈ (runCall coder call incoming handler).1.writtenKeys,
        ¬ QueueMap.SeenAt handler.inputQueues (slotOfKey key)) ∧
      (∀ key ∈ (runCall coder call incoming handler).1.writtenKeys,
        QueueMap.SeenAt (runCall coder call incoming handler).2.2.inputQueues
          (slotOfKey key)) := by
  cases call with
  | getButtons port frame buttons =>
      exact ⟨.nil, fun _ hkey => absurd hkey List.not_mem_nil,
        fun _ hkey => absurd hkey List.not_mem_nil⟩
  | putButtons tuples writeOk =>
      obtain ⟨sent, hsub, htransmits⟩ := putButtons_transmits hheader tuples writeOk handler
      have hspec := putButtons_spec coder tuples writeOk handler
      obtain ⟨hnodup, hnew, hfilled⟩ := hspec.inTurn.slots handler.hasDelays
      have hslots := map_slotOfKey (htransmits.imp fun _ _ h => h.1)
      have hsub' : sent.Sublist (takenTuples coder tuples handler) :=
        hsub.trans List.filter_sublist
      have hslot : ∀ key ∈ (runCall coder (.putButtons tuples writeOk) incoming
          handler).1.writtenKeys, ∃ tuple ∈ takenTuples coder tuples handler,
            QueueMap.slotOf handler.delayFramesForPort tuple = slotOfKey key := by
        intro key hkey
        have hmem := List.mem_map_of_mem (f := slotOfKey) hkey
        rw [show (runCall coder (.putButtons tuples writeOk) incoming handler).1.writtenKeys =
          (handler.putButtons coder tuples writeOk).written.flatMap OutgoingEventPB.keyPress
            from rfl, hslots] at hmem
        obtain ⟨tuple, htuple, hslot⟩ := List.mem_map.mp hmem
        exact ⟨tuple, hsub'.subset htuple, hslot⟩
      refine ⟨?_, ?_, ?_⟩
      · show ((handler.putButtons coder tuples writeOk).written.flatMap
          OutgoingEventPB.keyPress |>.map slotOfKey).Nodup
        rw [hslots]
        exact hnodup.sublist (hsub'.map _)
      · intro key hkey
        obtain ⟨tuple, htuple, hslot⟩ := hslot key hkey
        rw [← hslot]
        exact hnew tuple htuple
      · intro key hkey
        obtain ⟨tuple, htuple, hslot⟩ := hslot key hkey
        rw [← hslot]
        show QueueMap.SeenAt (handler.putButtons coder tuples writeOk).handler.inputQueues _
        rw [putButtons_inputQueues]
        exact hfilled tuple htuple

/-! ### Runs -/

/-- Over a whole run no slot is written twice, and none that was filled before. -/
theorem runCalls_slots {coder : ButtonCoder ButtonsType} (hheader : coder.KeepsHeader)
    (calls : List (Call ButtonsType)) (incoming : List (Option IncomingEventPB))
    {handler : EventStreamHandler ButtonsType} (hvalid : QueueMap.Valid handler.inputQueues) :
    ((writtenKeys (runCalls coder calls incoming handler)).map slotOfKey).Nodup ∧
      ∀ key ∈ writtenKeys (runCalls coder calls incoming handler),
        ¬ QueueMap.SeenAt handler.inputQueues (slotOfKey key) := by
  induction calls generalizing incoming handler with
  | nil => exact ⟨.nil, fun _ hkey => absurd hkey List.not_mem_nil⟩
  | cons call calls ih =>
      have hevolves := runCall_evolves coder call incoming hvalid
      obtain ⟨hnodup, hnew, hfilled⟩ := runCall_slots hheader call incoming handler
      obtain ⟨hnodupRest, hnewRest⟩ :=
        ih (runCall coder call incoming handler).2.1 (hevolves.valid hvalid)
      rw [runCalls]
      simp only [writtenKeys, List.flatMap_cons, List.map_append] at hnodupRest hnewRest ⊢
      -- what this call filled, no later call writes again
      refine ⟨List.nodup_append.mpr ⟨hnodup, hnodupRest, ?_⟩, ?_⟩
      · rintro slot hslot slot' hslot' rfl
        obtain ⟨key, hkey, rfl⟩ := List.mem_map.mp hslot
        obtain ⟨key', hkey', hsame⟩ := List.mem_map.mp hslot'
        apply hnewRest key' hkey'
        rw [hsame]
        exact hfilled key hkey
      · intro key hkey
        rcases List.mem_append.mp hkey with hkey | hkey
        · exact hnew key hkey
        · exact fun hseen => hnewRest key hkey (hevolves.queues.seenAt hseen)

/-- Every key press of a run transmits a tuple for a local port that its queue
accepted. -/
theorem runCalls_transmits {coder : ButtonCoder ButtonsType} (hheader : coder.KeepsHeader)
    (calls : List (Call ButtonsType)) (incoming : List (Option IncomingEventPB))
    {handler : EventStreamHandler ButtonsType} (hvalid : QueueMap.Valid handler.inputQueues) :
    ∀ key ∈ writtenKeys (runCalls coder calls incoming handler),
      ∃ tuple, tuple.port ∈ handler.localPorts ∧ Transmits coder handler tuple key ∧
        0 ≤ tuple.frame ∧ 0 ≤ handler.delayFramesForPort tuple.port := by
  induction calls generalizing incoming handler with
  | nil => exact fun _ hkey => absurd hkey List.not_mem_nil
  | cons call calls ih =>
      have hevolves := runCall_evolves coder call incoming hvalid
      intro key hkey
      rw [runCalls, writtenKeys, List.flatMap_cons] at hkey
      rcases List.mem_append.mp hkey with hkey | hkey
      · cases call with
        | getButtons port frame buttons => exact absurd hkey List.not_mem_nil
        | putButtons tuples writeOk =>
            obtain ⟨sent, hsub, htransmits⟩ := putButtons_transmits hheader tuples writeOk handler
            have hspec := putButtons_spec coder tuples writeOk handler
            obtain ⟨tuple, htuple, htransmit⟩ := forall₂_mem_right htransmits hkey
            obtain ⟨htaken, hlocal⟩ := List.mem_filter.mp (hsub.subset htuple)
            exact ⟨tuple, by simpa using hlocal, htransmit.1,
              (hspec.inTurn.accepts tuple htaken).frame_nonneg, htransmit.2⟩
      · obtain ⟨tuple, hlocal, htransmits, hframe, hdelay⟩ :=
          ih _ (hevolves.valid hvalid) key hkey
        rw [hevolves.localPorts] at hlocal
        rw [hevolves.delayFramesForPort] at hdelay
        exact ⟨tuple, hlocal, htransmits.of_evolves hevolves, hframe, hdelay⟩

/-- In a run of successful calls every call writes exactly its local tuples. -/
theorem runCalls_sentExactly {coder : ButtonCoder ButtonsType} (hheader : coder.KeepsHeader)
    (calls : List (Call ButtonsType)) (incoming : List (Option IncomingEventPB))
    {handler : EventStreamHandler ButtonsType} (hvalid : QueueMap.Valid handler.inputQueues)
    (hsuccess : ∀ outcome ∈ (runCalls coder calls incoming handler), outcome.PutSucceeded) :
    List.Forall₂ (SentExactly coder handler) calls (runCalls coder calls incoming handler) := by
  induction calls generalizing incoming handler with
  | nil => exact .nil
  | cons call calls ih =>
      have hevolves := runCall_evolves coder call incoming hvalid
      rw [runCalls] at hsuccess ⊢
      refine .cons ?_ ?_
      · cases call with
        | getButtons port frame buttons => exact trivial
        | putButtons tuples writeOk =>
            exact putButtons_sentExactly hheader tuples writeOk handler
              (hsuccess _ List.mem_cons_self)
      · have hrest := ih _ (hevolves.valid hvalid) fun outcome hmem =>
          hsuccess outcome (List.mem_cons_of_mem _ hmem)
        exact hrest.imp fun _ _ h => h.of_evolves hevolves

omit [Inhabited ButtonsType] in
theorem SentExactly.transmits {coder : ButtonCoder ButtonsType}
    {handler : EventStreamHandler ButtonsType} {call : Call ButtonsType}
    {outcome : Outcome ButtonsType} (h : SentExactly coder handler call outcome) :
    List.Forall₂ (Transmits coder handler) (call.localTuples handler) outcome.writtenKeys := by
  cases call with
  | getButtons port frame buttons =>
      cases outcome with
      | get status buttons => exact .nil
      | put status written => exact h.elim
  | putButtons tuples writeOk =>
      cases outcome with
      | get status buttons => exact h.elim
      | put status written =>
          simp only [SentExactly] at h
          show List.Forall₂ (Transmits coder handler) (handler.localTuples tuples)
            (written.flatMap OutgoingEventPB.keyPress)
          split_ifs at h with hnil
          · rw [hnil, h]
            exact .nil
          · obtain ⟨event, hwritten, htransmits⟩ := h
            rw [hwritten, List.flatMap_singleton]
            exact htransmits

/-- **Transmission is exact and at most once.**  In every run of a started
handler each key press names a local port and this console, and no slot is
written twice.  If no `PutButtons` fails, the key presses are the local tuples in
call and tuple order, one event for each call that has any, and a fresh remote
queue accepts each of them. -/
theorem transmission_exact {coder : ButtonCoder ButtonsType} (hheader : coder.KeepsHeader)
    {ports : PortEnum} {connectedPorts : List ConnectedPortPB}
    {handler : EventStreamHandler ButtonsType} (hstart : StartedBy ports connectedPorts handler)
    (calls : List (Call ButtonsType)) (incoming : List (Option IncomingEventPB)) :
    (∀ key ∈ writtenKeys (runCalls coder calls incoming handler),
        key.port ∈ handler.localPorts ∧ key.consoleId = handler.consoleId) ∧
      ((writtenKeys (runCalls coder calls incoming handler)).map slotOfKey).Nodup ∧
      ((∀ outcome ∈ (runCalls coder calls incoming handler), outcome.PutSucceeded) →
        List.Forall₂ (SentExactly coder handler) calls (runCalls coder calls incoming handler) ∧
          List.Forall₂ (Transmits coder handler)
            (calls.flatMap (Call.localTuples handler))
            (writtenKeys (runCalls coder calls incoming handler)) ∧
          ∀ key ∈ writtenKeys (runCalls coder calls incoming handler),
            ∀ connectedPort ∈ connectedPorts, connectedPort.port = key.port →
              ∀ buttons : ButtonsType,
                ((InputQueue.makeRemoteQueue connectedPort.delayFrames).putButtons
                  key.frameNumber buttons).1 = true) := by
  have hplaying := hstart.started.playing
  have htransmits := runCalls_transmits hheader calls incoming hplaying.valid
  refine ⟨?_, (runCalls_slots hheader calls incoming hplaying.valid).1, fun hsuccess => ?_⟩
  · intro key hkey
    obtain ⟨tuple, hlocal, htransmit, -⟩ := htransmits key hkey
    rw [htransmit.port]
    exact ⟨hlocal, htransmit.consoleId⟩
  · have hsent := runCalls_sentExactly hheader calls incoming hplaying.valid hsuccess
    refine ⟨hsent, List.rel_flatMap hsent fun _ _ h => h.transmits, ?_⟩
    intro key hkey connectedPort hconnected hport buttons
    obtain ⟨tuple, hlocal, htransmit, hframe, hdelay⟩ := htransmits key hkey
    rw [htransmit.port] at hport
    rw [← hport, hplaying.delayFramesForPort hconnected, hport, if_pos hlocal] at hdelay
    have hnumber : key.frameNumber = tuple.frame + connectedPort.delayFrames := by
      rw [htransmit.frameNumber, ← hport, hplaying.delayFramesForPort hconnected, hport,
        if_pos hlocal]
    -- the peer's initial delay is the very delay that was added here
    have haccepts : (InputQueue.makeRemoteQueue connectedPort.delayFrames :
        InputQueue ButtonsType).Accepts key.frameNumber := by
      simp only [InputQueue.Accepts, InputQueue.makeRemoteQueue, InputQueue.make,
        InputQueue.delayedFrame, InputQueue.Seen, hnumber]
      refine ⟨by omega, by omega, ?_⟩
      rintro (h | h)
      · omega
      · simp at h
    rw [InputQueue.putButtons_of_accepts haccepts]

/-- Two calls of the player on port 1: the second also feeds the remote port. -/
def twoPuts : List (Call Int) :=
  [.putButtons [⟨1, 0, 7⟩] true, .putButtons [⟨2, 5, 1⟩, ⟨1, 1, 8⟩] true,
    .putButtons [⟨2, 6, 2⟩] true]

theorem transmission_exact_twoPuts :
    List.Forall₂ (SentExactly integerCoder (player 1)) twoPuts
        (runCalls integerCoder twoPuts [] (player 1)) ∧
      (writtenKeys (runCalls integerCoder twoPuts [] (player 1))).map slotOfKey =
        [(1, 1), (1, 2)] :=
  ⟨((transmission_exact integerCoder_keepsHeader (player_startedBy (Or.inl rfl)) twoPuts
      []).2.2 (by decide)).1, by decide⟩

end EventStreamHandler

end Client
end Netplay
