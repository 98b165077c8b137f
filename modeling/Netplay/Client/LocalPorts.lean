import Netplay.Client.CallRun

/-!
# What incoming key presses do to local ports

`PutButtons` and `GetButtons` ask whether a port is local before they choose what
to do with it.  The key press loop of `ReadUntilButtons` does not ask: it puts a
key press for a local port into that port's queue, which delays it once more and
refuses the player's own buttons for the frame from then on.

* `LocalView` is what a run shows of the local ports, and `LocalEq` relates two
  handlers that show the same.
* `KeepsToRemote` says that no queue of a local port takes a key press during a
  run.  Two such runs of the same calls show the same (`localViews_eq`), and any
  other run can be told from a run without events (`localViews_ne`).
-/

namespace Netplay
namespace Client
namespace EventStreamHandler

variable {ButtonsType : Type*}

/-! ### Handlers that agree on the local ports -/

/-- Same client, and the same queues for its local ports. -/
structure LocalEq (handler handler' : EventStreamHandler ButtonsType) : Prop where
  consoleId : handler'.consoleId = handler.consoleId
  localPorts : handler'.localPorts = handler.localPorts
  queue_eq : ∀ port ∈ handler.localPorts, handler'.inputQueues[port]? = handler.inputQueues[port]?

theorem LocalEq.refl (handler : EventStreamHandler ButtonsType) : LocalEq handler handler :=
  ⟨rfl, rfl, fun _ _ => rfl⟩

theorem LocalEq.symm {handler handler' : EventStreamHandler ButtonsType}
    (h : LocalEq handler handler') : LocalEq handler' handler := by
  refine ⟨h.consoleId.symm, h.localPorts.symm, fun port hport => ?_⟩
  rw [h.localPorts] at hport
  exact (h.queue_eq port hport).symm

theorem LocalEq.trans {handler₁ handler₂ handler₃ : EventStreamHandler ButtonsType}
    (h : LocalEq handler₁ handler₂) (h' : LocalEq handler₂ handler₃) :
    LocalEq handler₁ handler₃ := by
  refine ⟨h'.consoleId.trans h.consoleId, h'.localPorts.trans h.localPorts, fun port hport => ?_⟩
  rw [h'.queue_eq port (by rw [h.localPorts]; exact hport), h.queue_eq port hport]

theorem LocalEq.accepts_iff {handler handler' : EventStreamHandler ButtonsType}
    (h : LocalEq handler handler') {port : Port} (hport : port ∈ handler.localPorts)
    (frame : Int) : QueueMap.Accepts handler'.inputQueues port frame ↔
      QueueMap.Accepts handler.inputQueues port frame := by
  unfold QueueMap.Accepts
  rw [h.queue_eq port hport]

theorem LocalEq.setQueue {handler handler' : EventStreamHandler ButtonsType}
    (h : LocalEq handler handler') (port : Port) (queue : InputQueue ButtonsType) :
    LocalEq (handler.setQueue port queue) (handler'.setQueue port queue) := by
  refine ⟨h.consoleId, h.localPorts, fun k hk => ?_⟩
  show (handler'.inputQueues.insert port queue)[k]? = (handler.inputQueues.insert port queue)[k]?
  rw [Std.ExtTreeMap.getElem?_insert, Std.ExtTreeMap.getElem?_insert, h.queue_eq k hk]

/-- One round of `PutButtons` for a local port: same status, same message, and
the handlers still agree. -/
theorem LocalEq.putTuple {handler handler' : EventStreamHandler ButtonsType}
    (h : LocalEq handler handler') (coder : ButtonCoder ButtonsType)
    {tuple : ButtonsFrameTuple ButtonsType} (hlocal : tuple.port ∈ handler.localPorts)
    (event : OutgoingEventPB) :
    (EventStreamHandler.putTuple coder tuple event handler').1 =
        (EventStreamHandler.putTuple coder tuple event handler).1 ∧
      (EventStreamHandler.putTuple coder tuple event handler').2.1 =
        (EventStreamHandler.putTuple coder tuple event handler).2.1 ∧
      LocalEq (EventStreamHandler.putTuple coder tuple event handler).2.2
        (EventStreamHandler.putTuple coder tuple event handler').2.2 := by
  unfold EventStreamHandler.putTuple getQueue
  rw [h.queue_eq tuple.port hlocal]
  cases hqueue : handler.inputQueues[tuple.port]? with
  | none => exact ⟨rfl, rfl, h⟩
  | some queue =>
      have hset := h.setQueue tuple.port (queue.putButtons tuple.frame tuple.buttons).2
      have hdelay : ∀ handler₁ : EventStreamHandler ButtonsType,
          (handler₁.setQueue tuple.port
            (queue.putButtons tuple.frame tuple.buttons).2).delayFramesForPort tuple.port =
            (queue.putButtons tuple.frame tuple.buttons).2.delayFrames := by
        intro handler₁
        simp [delayFramesForPort, EventStreamHandler.setQueue]
      have hmem : tuple.port ∈ (handler.setQueue tuple.port
          (queue.putButtons tuple.frame tuple.buttons).2).localPorts := hlocal
      have hmem' : tuple.port ∈ (handler'.setQueue tuple.port
          (queue.putButtons tuple.frame tuple.buttons).2).localPorts := by
        rw [hset.localPorts]
        exact hmem
      simp only [hdelay, hset.consoleId, if_pos hmem, if_pos hmem']
      split_ifs
      · exact ⟨rfl, rfl, hset⟩
      · exact ⟨rfl, rfl, hset⟩
      · split
        · exact ⟨rfl, rfl, hset⟩
        · exact ⟨rfl, rfl, hset⟩

/-- The loop of `PutButtons` over tuples for local ports. -/
theorem LocalEq.putTuples {handler handler' : EventStreamHandler ButtonsType}
    (h : LocalEq handler handler') (coder : ButtonCoder ButtonsType)
    {tuples : List (ButtonsFrameTuple ButtonsType)}
    (hlocal : ∀ tuple ∈ tuples, tuple.port ∈ handler.localPorts) (event : OutgoingEventPB) :
    takenTuples coder tuples handler' = takenTuples coder tuples handler ∧
      (EventStreamHandler.putTuples coder tuples event handler').1 =
        (EventStreamHandler.putTuples coder tuples event handler).1 ∧
      (EventStreamHandler.putTuples coder tuples event handler').2.1 =
        (EventStreamHandler.putTuples coder tuples event handler).2.1 ∧
      LocalEq (EventStreamHandler.putTuples coder tuples event handler).2.2
        (EventStreamHandler.putTuples coder tuples event handler').2.2 := by
  induction tuples generalizing event handler handler' with
  | nil => exact ⟨rfl, rfl, rfl, h⟩
  | cons tuple tuples ih =>
      have hport := hlocal tuple List.mem_cons_self
      -- no round changes which ports are local
      have hkeeps : (EventStreamHandler.putTuple coder tuple event handler).2.2.localPorts =
          handler.localPorts := by
        have hstep := putTuple_step coder tuple event handler
        generalize EventStreamHandler.putTuple coder tuple event handler = result at hstep
        cases hstep with
        | noSuchPort _ => rfl
        | rejected _ _ => rfl
        | internalError _ _ _ => rfl
        | failedToEncode _ _ _ => rfl
        | remote _ _ => rfl
        | sent _ _ _ => rfl
      obtain ⟨hstatus, hevent, hnext⟩ := h.putTuple coder hport event
      rw [takenTuples_cons coder tuple tuples event handler,
        takenTuples_cons coder tuple tuples event handler', EventStreamHandler.putTuples,
        EventStreamHandler.putTuples]
      generalize EventStreamHandler.putTuple coder tuple event handler = result at *
      generalize EventStreamHandler.putTuple coder tuple event handler' = result' at *
      obtain ⟨status, event₁, handler₁⟩ := result
      obtain ⟨status', event₁', handler₁'⟩ := result'
      cases hstatus
      cases hevent
      cases status with
      | success =>
          obtain ⟨htaken, hrest⟩ := ih hnext (fun t ht => by
            rw [hkeeps]
            exact hlocal t (List.mem_cons_of_mem _ ht)) event₁
          exact ⟨congrArg (tuple :: ·) htaken, hrest⟩
      | noSuchPort => exact ⟨rfl, rfl, rfl, hnext⟩
      | rejectedByQueue => exact ⟨rfl, rfl, rfl, hnext⟩
      | failedToTransmitRemote => exact ⟨rfl, rfl, rfl, hnext⟩
      | failedToEncode => exact ⟨rfl, rfl, rfl, hnext⟩
      | internalError => exact ⟨rfl, rfl, rfl, hnext⟩

theorem LocalEq.addEvent {handler handler' : EventStreamHandler ButtonsType}
    (h : LocalEq handler handler') (event event' : TimingEvent) :
    LocalEq (handler.addEvent event) (handler'.addEvent event') :=
  ⟨h.consoleId, h.localPorts, h.queue_eq⟩

theorem LocalEq.putButtons {handler handler' : EventStreamHandler ButtonsType}
    (h : LocalEq handler handler') (coder : ButtonCoder ButtonsType)
    {tuples : List (ButtonsFrameTuple ButtonsType)}
    (hlocal : ∀ tuple ∈ tuples, tuple.port ∈ handler.localPorts) (writeOk : Bool) :
    (handler'.putButtons coder tuples writeOk).status =
        (handler.putButtons coder tuples writeOk).status ∧
      LocalEq (handler.putButtons coder tuples writeOk).handler
        (handler'.putButtons coder tuples writeOk).handler := by
  obtain ⟨-, hstatus, hevent, hnext⟩ := h.putTuples coder hlocal {}
  unfold EventStreamHandler.putButtons
  generalize EventStreamHandler.putTuples coder tuples {} handler = result at *
  generalize EventStreamHandler.putTuples coder tuples {} handler' = result' at *
  obtain ⟨status, event, handler₁⟩ := result
  obtain ⟨status', event', handler₁'⟩ := result'
  cases hstatus
  cases hevent
  cases status with
  | success =>
      simp only
      split_ifs
      · exact ⟨rfl, hnext⟩
      · exact ⟨rfl, (hnext.addEvent _ _).addEvent _ _⟩
      · exact ⟨rfl, (hnext.addEvent _ _).addEvent _ _⟩
  | noSuchPort => exact ⟨rfl, hnext⟩
  | rejectedByQueue => exact ⟨rfl, hnext⟩
  | failedToTransmitRemote => exact ⟨rfl, hnext⟩
  | failedToEncode => exact ⟨rfl, hnext⟩
  | internalError => exact ⟨rfl, hnext⟩

/-! ### Reads -/

variable [Inhabited ButtonsType]

/-- A read of a local port: same status, same value, and the handlers still
agree, whatever the streams hold. -/
theorem LocalEq.getButtons {handler handler' : EventStreamHandler ButtonsType}
    (h : LocalEq handler handler') (coder : ButtonCoder ButtonsType) {port : Port}
    (hlocal : port ∈ handler.localPorts) (frame : Int) (buttons : ButtonsType)
    (incoming incoming' : List (Option IncomingEventPB)) :
    (handler'.getButtons coder port frame buttons incoming').status =
        (handler.getButtons coder port frame buttons incoming).status ∧
      (handler'.getButtons coder port frame buttons incoming').buttons =
        (handler.getButtons coder port frame buttons incoming).buttons ∧
      LocalEq (handler.getButtons coder port frame buttons incoming).handler
        (handler'.getButtons coder port frame buttons incoming').handler := by
  have hlocal' : port ∈ handler'.localPorts := by
    rw [h.localPorts]
    exact hlocal
  unfold EventStreamHandler.getButtons getLocalButtons getQueue
  rw [if_pos hlocal, if_pos hlocal', h.queue_eq port hlocal]
  cases hqueue : handler.inputQueues[port]? with
  | none => exact ⟨rfl, rfl, h⟩
  | some queue =>
      have hset := h.setQueue port (queue.getButtons frame buttons).queue
      simp only
      cases (queue.getButtons frame buttons).status with
      | success => exact ⟨rfl, rfl, hset⟩
      | unexpectedFrame => exact ⟨rfl, rfl, hset⟩
      | timeout => exact ⟨rfl, rfl, hset⟩

/-- A read of a remote port leaves the local ports alone, as long as none of the
key presses taken on the way is for one of them. -/
theorem localEq_getButtons (coder : ButtonCoder ButtonsType) {port : Port} {frame : Int}
    (buttons : ButtonsType) (incoming : List (Option IncomingEventPB))
    {handler : EventStreamHandler ButtonsType} (hvalid : QueueMap.Valid handler.inputQueues)
    (hremote : port ∉ handler.localPorts)
    (hkeeps : ∀ tuple ∈ takenByGetButtons coder port frame incoming handler,
      tuple.port ∉ handler.localPorts) :
    LocalEq handler (handler.getButtons coder port frame buttons incoming).handler := by
  obtain ⟨-, hdelivers, -, hhandler⟩ :=
    getButtons_spec coder port frame buttons incoming hvalid
  refine ⟨?_, ?_, fun k hk => ?_⟩
  · rw [hhandler]
  · rw [hhandler]
  · have htaken : ∀ tuple ∈ takenByGetButtons coder port frame incoming handler,
        tuple.port ≠ k := by
      rintro tuple htuple rfl
      exact hkeeps tuple htuple hk
    have hne : port ≠ k := by
      rintro rfl
      exact hremote hk
    exact (hdelivers.getElem?_of_ne hne).trans (QueueMap.insertTuples_of_forall_ne htaken)

/-! ### Runs -/

/-- What a call shows of the local ports: for `PutButtons` which tuples the
queues accepted, for `GetButtons` on a local port its result, and nothing for
`GetButtons` on any other port. -/
inductive LocalView (ButtonsType : Type*)
  | put (taken : List (ButtonsFrameTuple ButtonsType)) (status : PutButtonsStatus)
  | get (status : GetButtonsStatus) (buttons : ButtonsType)
  | remote
deriving DecidableEq

def localView (coder : ButtonCoder ButtonsType) (call : Call ButtonsType)
    (incoming : List (Option IncomingEventPB)) (handler : EventStreamHandler ButtonsType) :
    LocalView ButtonsType :=
  match call with
  | .putButtons tuples writeOk =>
      .put (takenTuples coder tuples handler) (handler.putButtons coder tuples writeOk).status
  | .getButtons port frame buttons =>
      if port ∈ handler.localPorts then
        let r := handler.getButtons coder port frame buttons incoming
        .get r.status r.buttons
      else .remote

/-- What a run shows of the local ports. -/
def localViews (coder : ButtonCoder ButtonsType) :
    List (Call ButtonsType) → List (Option IncomingEventPB) → EventStreamHandler ButtonsType →
      List (LocalView ButtonsType)
  | [], _, _ => []
  | call :: calls, incoming, handler =>
      let r := runCall coder call incoming handler
      localView coder call incoming handler :: localViews coder calls r.2.1 r.2.2

/-- The calls put buttons on local ports only. -/
def PutsLocal (handler : EventStreamHandler ButtonsType) (calls : List (Call ButtonsType)) :
    Prop :=
  ∀ tuples writeOk, Call.putButtons tuples writeOk ∈ calls →
    ∀ tuple ∈ tuples, tuple.port ∈ handler.localPorts

/-- The queues take no key press for a local port during the call. -/
def CallKeepsToRemote (coder : ButtonCoder ButtonsType) (call : Call ButtonsType)
    (incoming : List (Option IncomingEventPB)) (handler : EventStreamHandler ButtonsType) : Prop :=
  match call with
  | .putButtons _ _ => True
  | .getButtons port frame _ =>
      ∀ tuple ∈ takenByGetButtons coder port frame incoming handler,
        tuple.port ∉ handler.localPorts

/-- The queues take no key press for a local port during the run. -/
def KeepsToRemote (coder : ButtonCoder ButtonsType) :
    List (Call ButtonsType) → List (Option IncomingEventPB) → EventStreamHandler ButtonsType → Prop
  | [], _, _ => True
  | call :: calls, incoming, handler =>
      CallKeepsToRemote coder call incoming handler ∧
        KeepsToRemote coder calls (runCall coder call incoming handler).2.1
          (runCall coder call incoming handler).2.2

/-- One call on two handlers that agree on the local ports. -/
theorem LocalEq.call {handler handler' : EventStreamHandler ButtonsType}
    (h : LocalEq handler handler') (coder : ButtonCoder ButtonsType) {call : Call ButtonsType}
    (hlocal : PutsLocal handler [call]) {incoming incoming' : List (Option IncomingEventPB)}
    (hvalid : QueueMap.Valid handler.inputQueues) (hvalid' : QueueMap.Valid handler'.inputQueues)
    (hkeeps : CallKeepsToRemote coder call incoming handler)
    (hkeeps' : CallKeepsToRemote coder call incoming' handler') :
    localView coder call incoming' handler' = localView coder call incoming handler ∧
      LocalEq (EventStreamHandler.runCall coder call incoming handler).2.2
        (EventStreamHandler.runCall coder call incoming' handler').2.2 := by
  cases call with
  | putButtons tuples writeOk =>
      have hports := hlocal tuples writeOk List.mem_cons_self
      obtain ⟨hstatus, hnext⟩ := h.putButtons coder hports writeOk
      obtain ⟨htaken, -⟩ := h.putTuples coder hports {}
      refine ⟨?_, hnext⟩
      simp only [localView, htaken, hstatus]
  | getButtons port frame buttons =>
      by_cases hport : port ∈ handler.localPorts
      · have hport' : port ∈ handler'.localPorts := by
          rw [h.localPorts]
          exact hport
        obtain ⟨hstatus, hvalue, hnext⟩ :=
          h.getButtons coder hport frame buttons incoming incoming'
        refine ⟨?_, hnext⟩
        simp only [localView, if_pos hport, if_pos hport', hstatus, hvalue]
      · have hport' : port ∉ handler'.localPorts := by
          rw [h.localPorts]
          exact hport
        refine ⟨by simp only [localView, if_neg hport, if_neg hport'], ?_⟩
        have hstep := localEq_getButtons coder buttons incoming hvalid hport hkeeps
        have hstep' := localEq_getButtons coder buttons incoming' hvalid' hport' hkeeps'
        exact hstep.symm.trans (h.trans hstep')

omit [Inhabited ButtonsType] in
theorem PutsLocal.head {handler : EventStreamHandler ButtonsType} {call : Call ButtonsType}
    {calls : List (Call ButtonsType)} (h : PutsLocal handler (call :: calls)) :
    PutsLocal handler [call] := by
  intro tuples writeOk hmem
  rw [List.mem_singleton] at hmem
  exact h tuples writeOk (hmem ▸ List.mem_cons_self)

omit [Inhabited ButtonsType] in
theorem PutsLocal.tail {handler handler' : EventStreamHandler ButtonsType}
    {call : Call ButtonsType} {calls : List (Call ButtonsType)}
    (h : PutsLocal handler (call :: calls)) (hlocal : handler'.localPorts = handler.localPorts) :
    PutsLocal handler' calls := by
  intro tuples writeOk hmem
  rw [hlocal]
  exact h tuples writeOk (List.mem_cons_of_mem _ hmem)

/-- Two runs of the same calls in which no local queue takes a key press show
the same of the local ports. -/
theorem LocalEq.localViews_eq {handler handler' : EventStreamHandler ButtonsType}
    (h : LocalEq handler handler') (coder : ButtonCoder ButtonsType)
    {calls : List (Call ButtonsType)} (hlocal : PutsLocal handler calls)
    {incoming incoming' : List (Option IncomingEventPB)}
    (hvalid : QueueMap.Valid handler.inputQueues) (hvalid' : QueueMap.Valid handler'.inputQueues)
    (hkeeps : KeepsToRemote coder calls incoming handler)
    (hkeeps' : KeepsToRemote coder calls incoming' handler') :
    localViews coder calls incoming' handler' = localViews coder calls incoming handler := by
  induction calls generalizing incoming incoming' handler handler' with
  | nil => rfl
  | cons call calls ih =>
      have hevolves := runCall_evolves coder call incoming hvalid
      have hevolves' := runCall_evolves coder call incoming' hvalid'
      obtain ⟨hview, hnext⟩ := h.call coder hlocal.head hvalid hvalid' hkeeps.1 hkeeps'.1
      have hrest := ih hnext (hlocal.tail hevolves.localPorts) (hevolves.valid hvalid)
        (hevolves'.valid hvalid') hkeeps.2 hkeeps'.2
      simp only [localViews, hview, hrest]

/-! ### Runs that can be told apart -/

theorem takenByGetButtons_nil (coder : ButtonCoder ButtonsType) (port : Port) (frame : Int)
    (handler : EventStreamHandler ButtonsType) :
    takenByGetButtons coder port frame [] handler = [] := by
  unfold takenByGetButtons
  split_ifs
  · rfl
  · split
    · rfl
    · split
      · rfl
      · rfl

/-- Without events there is nothing to take. -/
theorem callKeepsToRemote_nil (coder : ButtonCoder ButtonsType) (call : Call ButtonsType)
    (handler : EventStreamHandler ButtonsType) : CallKeepsToRemote coder call [] handler := by
  cases call with
  | putButtons tuples writeOk => exact trivial
  | getButtons port frame buttons =>
      intro tuple htuple
      rw [takenByGetButtons_nil] at htuple
      cases htuple

theorem runCall_nil (coder : ButtonCoder ButtonsType) (call : Call ButtonsType)
    {handler : EventStreamHandler ButtonsType} (hvalid : QueueMap.Valid handler.inputQueues) :
    (runCall coder call [] handler).2.1 = [] := by
  cases call with
  | putButtons tuples writeOk => rfl
  | getButtons port frame buttons =>
      obtain ⟨reads, presses, hreads, -⟩ :=
        (getButtons_spec coder port frame buttons [] hvalid).decodes
      exact (List.append_eq_nil_iff.mp hreads.symm).2

theorem keepsToRemote_nil (coder : ButtonCoder ButtonsType) (calls : List (Call ButtonsType))
    {handler : EventStreamHandler ButtonsType} (hvalid : QueueMap.Valid handler.inputQueues) :
    KeepsToRemote coder calls [] handler := by
  induction calls generalizing handler with
  | nil => exact trivial
  | cons call calls ih =>
      refine ⟨callKeepsToRemote_nil coder call handler, ?_⟩
      rw [runCall_nil coder call hvalid]
      exact ih ((runCall_evolves coder call [] hvalid).valid hvalid)

/-- The call that tells two handlers apart: the queue of a local port takes the
tuple in one of them and refuses it in the other. -/
theorem localView_put_ne (coder : ButtonCoder ButtonsType)
    {tuple : ButtonsFrameTuple ButtonsType} {handler handler' : EventStreamHandler ButtonsType}
    (hrefuses : ¬ QueueMap.Accepts handler.inputQueues tuple.port tuple.frame)
    (haccepts : QueueMap.Accepts handler'.inputQueues tuple.port tuple.frame)
    (incoming incoming' : List (Option IncomingEventPB)) :
    localView coder (.putButtons [tuple] true) incoming handler ≠
      localView coder (.putButtons [tuple] true) incoming' handler' := by
  obtain ⟨taken, htaken⟩ := takenTuples_of_accepts coder [] haccepts
  have hnothing := (putButtons_of_not_accepts coder [] true hrefuses).1
  -- the acceptances differ: one run shows the tuple, the other nothing
  intro hsame
  simp only [localView, htaken, hnothing, LocalView.put.injEq] at hsame
  cases hsame.1

/-- After a read that took a press for a local port, the player's own buttons for the
frame are refused, which tells it from the same read without events. -/
theorem LocalEq.read_then_put_ne {handler handler' : EventStreamHandler ButtonsType}
    (h : LocalEq handler handler') (coder : ButtonCoder ButtonsType) {port : Port} {frame : Int}
    (buttons : ButtonsType) {incoming : List (Option IncomingEventPB)}
    (hvalid : QueueMap.Valid handler.inputQueues) (hvalid' : QueueMap.Valid handler'.inputQueues)
    {tuple : ButtonsFrameTuple ButtonsType}
    (htuple : tuple ∈ takenByGetButtons coder port frame incoming handler)
    (hport : tuple.port ∈ handler.localPorts) :
    localViews coder [.getButtons port frame buttons, .putButtons [tuple] true] incoming
        handler ≠
      localViews coder [.getButtons port frame buttons, .putButtons [tuple] true] [] handler' := by
  have hevolves := runCall_evolves coder (.getButtons port frame buttons) incoming hvalid
  obtain ⟨hturn, hdelivers, -, -⟩ := getButtons_spec coder port frame buttons incoming hvalid
  -- the read that took the press is for a remote port
  have hremote : port ∉ handler.localPorts := by
    intro hin
    rw [takenByGetButtons, if_pos hin] at htuple
    cases htuple
  have haccepted := hturn.accepts tuple htuple
  have haccepts : QueueMap.Accepts
      (runCall coder (.getButtons port frame buttons) [] handler').2.2.inputQueues
      tuple.port tuple.frame := by
    have hsame := localEq_getButtons coder buttons [] hvalid'
      (by rw [h.localPorts]; exact hremote)
      (callKeepsToRemote_nil coder (.getButtons port frame buttons) handler')
    exact ((h.trans hsame).accepts_iff hport tuple.frame).mpr haccepted
  -- with the press in it, the slot of the player's own tuple is filled
  have hrefuses : ¬ QueueMap.Accepts
      (runCall coder (.getButtons port frame buttons) incoming handler).2.2.inputQueues
      tuple.port tuple.frame := by
    intro hagain
    have hseen := (hturn.slots handler.hasDelays).2.2 tuple htuple
    have hlater := hdelivers.evolves.1.seenAt hseen
    exact hagain.not_seenAt (handler.hasDelays.evolves hevolves.queues) hlater
  have hne := localView_put_ne coder hrefuses haccepts
    (runCall coder (.getButtons port frame buttons) incoming handler).2.1
    (runCall coder (.getButtons port frame buttons) [] handler').2.1
  intro hsame
  simp only [localViews, List.cons.injEq] at hsame
  exact hne hsame.2.1

/-- A run in which a local queue takes a key press can be told from the run of
the same calls without events: after the read that took it, the player's own
buttons for the frame are refused. -/
theorem LocalEq.localViews_ne {handler handler' : EventStreamHandler ButtonsType}
    (h : LocalEq handler handler') (coder : ButtonCoder ButtonsType)
    {calls : List (Call ButtonsType)} (hlocal : PutsLocal handler calls)
    {incoming : List (Option IncomingEventPB)}
    (hvalid : QueueMap.Valid handler.inputQueues) (hvalid' : QueueMap.Valid handler'.inputQueues)
    (htaken : ¬ KeepsToRemote coder calls incoming handler) :
    ∃ calls', PutsLocal handler calls' ∧
      localViews coder calls' incoming handler ≠ localViews coder calls' [] handler' := by
  induction calls generalizing incoming handler handler' with
  | nil => exact absurd trivial htaken
  | cons call calls ih =>
      have hevolves := runCall_evolves coder call incoming hvalid
      have hevolves' := runCall_evolves coder call [] hvalid'
      by_cases hkeeps : CallKeepsToRemote coder call incoming handler
      -- the press is taken by a later call, or by this one
      · have hrest : ¬ KeepsToRemote coder calls (runCall coder call incoming handler).2.1
            (runCall coder call incoming handler).2.2 := fun hrest => htaken ⟨hkeeps, hrest⟩
        obtain ⟨-, hnext⟩ := h.call coder hlocal.head hvalid hvalid' hkeeps
          (callKeepsToRemote_nil coder call handler')
        obtain ⟨calls', hlocal', hne⟩ := ih hnext (hlocal.tail hevolves.localPorts)
          (hevolves.valid hvalid) (hevolves'.valid hvalid') hrest
        refine ⟨call :: calls', ?_, fun hsame => hne ?_⟩
        · intro tuples writeOk hmem
          rcases List.mem_cons.mp hmem with rfl | hmem
          · exact hlocal tuples writeOk List.mem_cons_self
          · have hlater := hlocal' tuples writeOk hmem
            rw [hevolves.localPorts] at hlater
            exact hlater
        · simp only [localViews, runCall_nil coder call hvalid'] at hsame
          exact (List.cons.inj hsame).2
      · cases call with
        | putButtons tuples writeOk => exact absurd trivial hkeeps
        | getButtons port frame buttons =>
            simp only [CallKeepsToRemote, not_forall, not_not] at hkeeps
            obtain ⟨tuple, htuple, hport⟩ := hkeeps
            refine ⟨[.getButtons port frame buttons, .putButtons [tuple] true], ?_,
              h.read_then_put_ne coder buttons hvalid hvalid' htuple hport⟩
            intro tuples writeOk hmem
            simp only [List.mem_cons, reduceCtorEq, Call.putButtons.injEq, List.not_mem_nil,
              or_false, false_or] at hmem
            rw [hmem.1]
            simpa using hport

/-- No local queue takes a key press if no event names a local port. -/
theorem keepsToRemote_of_forall (coder : ButtonCoder ButtonsType)
    (calls : List (Call ButtonsType)) {incoming : List (Option IncomingEventPB)}
    {handler : EventStreamHandler ButtonsType} (hvalid : QueueMap.Valid handler.inputQueues)
    (hremote : ∀ read ∈ incoming, ∀ keys ∈ keyPresses read, keys.port ∉ handler.localPorts) :
    KeepsToRemote coder calls incoming handler := by
  induction calls generalizing incoming handler with
  | nil => exact trivial
  | cons call calls ih =>
      have hevolves := runCall_evolves coder call incoming hvalid
      have hcall : CallKeepsToRemote coder call incoming handler ∧
          (runCall coder call incoming handler).2.1 ⊆ incoming := by
        cases call with
        | putButtons tuples writeOk => exact ⟨trivial, List.Subset.refl _⟩
        | getButtons port frame buttons =>
            obtain ⟨reads, presses, hreads, hsub, hdecodes⟩ :=
              (getButtons_spec coder port frame buttons incoming hvalid).decodes
            refine ⟨fun tuple htuple => ?_, ?_⟩
            · obtain ⟨keys, hkeys, hdecode⟩ := forall₂_mem_right hdecodes htuple
              obtain ⟨read, hread, hkeys⟩ := List.mem_flatMap.mp (hsub.subset hkeys)
              rw [← hdecode.port]
              refine hremote read ?_ keys hkeys
              rw [hreads]
              exact List.mem_append_left _ hread
            · show (handler.getButtons coder port frame buttons incoming).incoming ⊆ incoming
              intro read hread
              rw [hreads]
              exact List.mem_append_right _ hread
      refine ⟨hcall.1, ih (hevolves.valid hvalid) fun read hread keys hkeys => ?_⟩
      rw [hevolves.localPorts]
      exact hremote read (hcall.2 hread) keys hkeys

/-- **When incoming traffic leaves the local ports alone.**  Any two runs of the
same calls in which no queue of a local port takes a key press show the same of
the local ports.  And over one stream every run shows the same as without events
exactly when in no run such a queue takes a key press. -/
theorem local_ports_unaffected {coder : ButtonCoder ButtonsType} {ports : PortEnum}
    {connectedPorts : List ConnectedPortPB} {handler : EventStreamHandler ButtonsType}
    (hreach : (callSystem coder ports connectedPorts).Reachable handler) :
    (∀ calls incoming incoming', PutsLocal handler calls →
        KeepsToRemote coder calls incoming handler →
        KeepsToRemote coder calls incoming' handler →
        localViews coder calls incoming handler = localViews coder calls incoming' handler) ∧
      ∀ incoming,
        (∀ calls, PutsLocal handler calls →
            localViews coder calls incoming handler = localViews coder calls [] handler) ↔
          ∀ calls, PutsLocal handler calls → KeepsToRemote coder calls incoming handler := by
  have hvalid := (reachable_playing hreach).valid
  refine ⟨?_, fun incoming => ⟨?_, ?_⟩⟩
  · intro calls incoming incoming' hlocal hkeeps hkeeps'
    exact (LocalEq.refl handler).localViews_eq coder hlocal hvalid hvalid hkeeps' hkeeps
  · intro hsame calls hlocal
    by_contra htaken
    obtain ⟨calls', hlocal', hne⟩ :=
      (LocalEq.refl handler).localViews_ne coder hlocal hvalid hvalid htaken
    exact hne (hsame calls' hlocal')
  · intro hkeeps calls hlocal
    exact (LocalEq.refl handler).localViews_eq coder hlocal hvalid hvalid
      (keepsToRemote_nil coder calls hvalid) (hkeeps calls hlocal)

/-- The player on port 1 reads the other port until it has to wait for an event,
and then plays its own first frame. -/
def readThenPut : List (Call Int) :=
  [.getButtons 2 0 0, .getButtons 2 1 0, .getButtons 2 2 0, .putButtons [⟨1, 0, 7⟩] true]

/-- The key press that the reads wait for. -/
def awaitedKey : KeyStatePB := { consoleId := 1, frameNumber := 2, port := 2, xAxis := 5 }

/-- A key press for the player's own port. -/
def foreignKey : KeyStatePB := { consoleId := 1, frameNumber := 0, port := 1, xAxis := 9 }

theorem readThenPut_putsLocal : PutsLocal (player 1) readThenPut := by
  intro tuples writeOk hmem tuple htuple
  simp only [readThenPut, List.mem_cons, reduceCtorEq, Call.putButtons.injEq, List.not_mem_nil,
    or_false, false_or] at hmem
  rw [hmem.1, List.mem_singleton] at htuple
  subst htuple
  decide

theorem local_ports_unaffected_awaitedKey :
    localViews integerCoder readThenPut [some { keyPress := [awaitedKey] }] (player 1) =
      localViews integerCoder readThenPut [] (player 1) := by
  have hreach : (callSystem integerCoder portNumbers twoPorts).Reachable (player 1) :=
    .init (player_startedBy (Or.inl rfl))
  have hvalid := (reachable_playing hreach).valid
  refine (local_ports_unaffected hreach).1 readThenPut _ [] readThenPut_putsLocal ?_
    (keepsToRemote_nil integerCoder readThenPut hvalid)
  refine keepsToRemote_of_forall integerCoder readThenPut hvalid ?_
  decide

/-- A key press for a local port does influence it: the player's own buttons are
refused after it. -/
theorem local_port_affected :
    ¬ ∀ (ports : PortEnum) (connectedPorts : List ConnectedPortPB)
      (handler : EventStreamHandler Int), StartedBy ports connectedPorts handler →
      ∀ (coder : ButtonCoder Int) (calls : List (Call Int))
        (incoming incoming' : List (Option IncomingEventPB)), PutsLocal handler calls →
        localViews coder calls incoming handler = localViews coder calls incoming' handler := by
  intro h
  have hsame := h portNumbers twoPorts (player 1) (player_startedBy (Or.inl rfl)) integerCoder
    readThenPut [some { keyPress := [foreignKey, awaitedKey] }]
    [some { keyPress := [awaitedKey] }] readThenPut_putsLocal
  have hdiffer : localViews integerCoder readThenPut
      [some { keyPress := [foreignKey, awaitedKey] }] (player 1) ≠
      localViews integerCoder readThenPut [some { keyPress := [awaitedKey] }] (player 1) := by
    decide
  exact hdiffer hsame

end EventStreamHandler

end Client
end Netplay
