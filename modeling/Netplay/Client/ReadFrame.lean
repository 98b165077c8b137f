import Netplay.Client.RemoteReads

/-!
# What `GetButtons` leaves alone

A call reads a queue at most twice and may put key presses for any port in between.
The laws here need no invariant: they hold of every handler, every stream and every
one of the ways in which a call fails.

* `Keeps` is what a failed call does to the queues: it takes nothing away.
* `HandsOut` is what a successful one does: one frame of one port at most is gone.
* `getButtons_frame` states both, and that a read of a local port stays with that
  port.
-/

namespace Netplay
namespace Client

namespace InputQueue

variable {ButtonsType : Type*} [Inhabited ButtonsType]

/-- The outcomes of a read of a queue, valid or not. -/
inductive ReadStep (queue : InputQueue ButtonsType) (frame : Int) (buttons : ButtonsType) :
    GetButtonsResult ButtonsType → Prop
  | failed {status : GetButtonsStatus} (hstatus : status ≠ .success) :
      ReadStep queue frame buttons ⟨status, buttons, queue⟩
  | success {value : ButtonsType} {queue' : InputQueue ButtonsType}
      (hframe : frame = queue.expectedFrame) (hlatest : queue'.latestFrameRequested = frame)
      (hbuffered : ∀ k ≠ frame, queue'.frameButtons[k]? = queue.frameButtons[k]?) :
      ReadStep queue frame buttons ⟨.success, value, queue'⟩

theorem getButtons_step (queue : InputQueue ButtonsType) (frame : Int) (buttons : ButtonsType) :
    ReadStep queue frame buttons (queue.getButtons frame buttons) := by
  unfold getButtons
  by_cases hframe : frame = queue.expectedFrame
  · rw [if_neg (not_not.mpr hframe)]
    by_cases hdelay : frame < queue.initialFrameDelay
    · rw [if_pos hdelay]
      exact .success hframe rfl fun _ _ => rfl
    · rw [if_neg hdelay, takeButtons]
      cases queue.frameButtons[frame]? with
      | none => exact .failed (by simp)
      | some value =>
          refine .success hframe rfl fun k hk => ?_
          simp [Std.ExtTreeMap.getElem?_erase, hk.symm]
  · rw [if_pos hframe]
    exact .failed (by simp)

end InputQueue

open EventStreamHandler

namespace QueueMap

variable {ButtonsType : Type*}

/-- No cursor has moved, and what was buffered still is. -/
structure Keeps (queues queues' : QueueMap ButtonsType) : Prop where
  cursor : ∀ k, cursorOf queues' k = cursorOf queues k
  holds : ∀ k frame value, Holds queues k frame value → Holds queues' k frame value

/-- The cursor of one port has moved past the frame, and nothing but that frame of that
port is gone. -/
structure HandsOut (port : Port) (frame : Int) (queues queues' : QueueMap ButtonsType) :
    Prop where
  before : cursorOf queues port = some frame
  after : cursorOf queues' port = some (frame + 1)
  cursor : ∀ k ≠ port, cursorOf queues' k = cursorOf queues k
  holds : ∀ k frame' value, Holds queues k frame' value → ¬ (k = port ∧ frame' = frame) →
    Holds queues' k frame' value

theorem Keeps.refl (queues : QueueMap ButtonsType) : Keeps queues queues :=
  ⟨fun _ => rfl, fun _ _ _ h => h⟩

theorem Keeps.trans {queues₁ queues₂ queues₃ : QueueMap ButtonsType} (h : Keeps queues₁ queues₂)
    (h' : Keeps queues₂ queues₃) : Keeps queues₁ queues₃ where
  cursor := by
    intro k
    rw [h'.cursor k, h.cursor k]
  holds := fun k frame value hholds => h'.holds k frame value (h.holds k frame value hholds)

theorem keeps_insertTuples {queues : QueueMap ButtonsType}
    {tuples : List (ButtonsFrameTuple ButtonsType)} (hturn : InTurn queues tuples) :
    Keeps queues (insertTuples queues tuples) :=
  ⟨cursorOf_insertTuples queues tuples, fun _ _ _ h => h.insertTuples hturn⟩

theorem Keeps.handsOut {port : Port} {frame : Int}
    {queues₁ queues₂ queues₃ : QueueMap ButtonsType} (h : Keeps queues₁ queues₂)
    (h' : HandsOut port frame queues₂ queues₃) : HandsOut port frame queues₁ queues₃ where
  before := by
    rw [← h.cursor]
    exact h'.before
  after := h'.after
  cursor := by
    intro k hk
    rw [h'.cursor k hk, h.cursor k]
  holds := by
    intro k frame' value hholds hother
    exact h'.holds k frame' value (h.holds k frame' value hholds) hother

theorem handsOut_insert {queues : QueueMap ButtonsType} {port : Port} {frame : Int}
    {queue queue' : InputQueue ButtonsType} (hqueue : queues[port]? = some queue)
    (hframe : frame = queue.expectedFrame) (hlatest : queue'.latestFrameRequested = frame)
    (hbuffered : ∀ k ≠ frame, queue'.frameButtons[k]? = queue.frameButtons[k]?) :
    HandsOut port frame queues (queues.insert port queue') where
  before := by rw [cursorOf_of_some hqueue, hframe]
  after := by
    rw [cursorOf_of_some Std.ExtTreeMap.getElem?_insert_self, InputQueue.expectedFrame, hlatest]
  cursor := by
    intro k hk
    rw [cursorOf, cursorOf, Std.ExtTreeMap.getElem?_insert]
    simp [hk.symm]
  holds := by
    rintro k frame' value ⟨other, hother, hvalue⟩ hne
    by_cases hk : port = k
    · subst hk
      rw [hqueue] at hother
      cases hother
      refine ⟨queue', Std.ExtTreeMap.getElem?_insert_self, ?_⟩
      rw [hbuffered frame' fun hsame => hne ⟨rfl, hsame⟩, hvalue]
    · refine ⟨other, ?_, hvalue⟩
      rw [Std.ExtTreeMap.getElem?_insert]
      simp [hk, hother]

end QueueMap

namespace EventStreamHandler

variable {ButtonsType : Type*}

/-- The law of a call, by its status. -/
inductive ReadLaw (port : Port) (frame : Int) (buttons : ButtonsType)
    (queues : QueueMap ButtonsType) :
    GetButtonsStatus → ButtonsType → QueueMap ButtonsType → Prop
  | failed {status : GetButtonsStatus} {queues' : QueueMap ButtonsType}
      (hstatus : status ≠ .success) (hkeeps : QueueMap.Keeps queues queues') :
      ReadLaw port frame buttons queues status buttons queues'
  | success {value : ButtonsType} {queues' : QueueMap ButtonsType}
      (hhandsOut : QueueMap.HandsOut port frame queues queues') :
      ReadLaw port frame buttons queues .success value queues'

theorem ReadLaw.of_keeps {port : Port} {frame : Int} {buttons value : ButtonsType}
    {queues queues' queues'' : QueueMap ButtonsType} {status : GetButtonsStatus}
    (hkeeps : QueueMap.Keeps queues queues')
    (h : ReadLaw port frame buttons queues' status value queues'') :
    ReadLaw port frame buttons queues status value queues'' := by
  cases h with
  | failed hstatus hkeeps' => exact .failed hstatus (hkeeps.trans hkeeps')
  | success hhandsOut => exact .success (hkeeps.handsOut hhandsOut)

theorem ReadLaw.keeps {port : Port} {frame : Int} {buttons value : ButtonsType}
    {queues queues' : QueueMap ButtonsType} {status : GetButtonsStatus}
    (h : ReadLaw port frame buttons queues status value queues') (hfailed : status ≠ .success) :
    value = buttons ∧ QueueMap.Keeps queues queues' := by
  cases h with
  | failed _ hkeeps => exact ⟨rfl, hkeeps⟩
  | success _ => exact absurd rfl hfailed

theorem ReadLaw.handsOut {port : Port} {frame : Int} {buttons value : ButtonsType}
    {queues queues' : QueueMap ButtonsType} {status : GetButtonsStatus}
    (h : ReadLaw port frame buttons queues status value queues') (hsuccess : status = .success) :
    QueueMap.HandsOut port frame queues queues' := by
  cases h with
  | failed hstatus _ => exact absurd hsuccess hstatus
  | success hhandsOut => exact hhandsOut

variable [Inhabited ButtonsType]

/-- A read of the queue of a port, told with a status of the handler. -/
theorem readLaw_of_read {handler : EventStreamHandler ButtonsType} {port : Port}
    {queue : InputQueue ButtonsType} (hqueue : handler.inputQueues[port]? = some queue)
    (frame : Int) (buttons : ButtonsType) {status : GetButtonsStatus}
    (hstatus : status = .success ↔ (queue.getButtons frame buttons).status = .success) :
    ReadLaw port frame buttons handler.inputQueues status
      (queue.getButtons frame buttons).buttons
      (handler.setQueue port (queue.getButtons frame buttons).queue).inputQueues := by
  have hstep := queue.getButtons_step frame buttons
  generalize queue.getButtons frame buttons = result at hstep hstatus
  cases hstep with
  | failed hfailed =>
      rw [setQueue_self hqueue]
      exact .failed (hstatus.not.mpr hfailed) (.refl _)
  | success hframe hlatest hbuffered =>
      rw [hstatus.mpr rfl]
      exact .success (QueueMap.handsOut_insert hqueue hframe hlatest hbuffered)

theorem finishRemoteButtons_readLaw (port : Port) (frame : Int) (buttons : ButtonsType)
    (status : ReadUntilButtonsStatus) (incoming : List (Option IncomingEventPB))
    (handler : EventStreamHandler ButtonsType) :
    ReadLaw port frame buttons handler.inputQueues
      (finishRemoteButtons port frame buttons status incoming handler).status
      (finishRemoteButtons port frame buttons status incoming handler).buttons
      (finishRemoteButtons port frame buttons status incoming handler).handler.inputQueues := by
  unfold finishRemoteButtons getQueue
  by_cases hstatus : status = .gotButtons
  · rw [if_neg (not_not.mpr hstatus)]
    cases hqueue : handler.inputQueues[port]? with
    | none => exact .failed nofun (.refl _)
    | some queue =>
        simp only
        cases hget : (queue.getButtons frame buttons).status with
        | success => exact readLaw_of_read hqueue frame buttons (by simp [hget])
        | unexpectedFrame => exact readLaw_of_read hqueue frame buttons (by simp [hget])
        | timeout => exact readLaw_of_read hqueue frame buttons (by simp [hget])
  · rw [if_pos hstatus]
    exact .failed nofun (.refl _)

theorem getLocalButtons_readLaw (port : Port) (frame : Int) (buttons : ButtonsType)
    (incoming : List (Option IncomingEventPB)) (handler : EventStreamHandler ButtonsType) :
    ReadLaw port frame buttons handler.inputQueues
      (getLocalButtons port frame buttons incoming handler).status
      (getLocalButtons port frame buttons incoming handler).buttons
      (getLocalButtons port frame buttons incoming handler).handler.inputQueues := by
  unfold getLocalButtons getQueue
  cases hqueue : handler.inputQueues[port]? with
  | none => exact .failed nofun (.refl _)
  | some queue =>
      simp only
      cases hget : (queue.getButtons frame buttons).status with
      | success => exact readLaw_of_read hqueue frame buttons (by simp [hget])
      | unexpectedFrame => exact readLaw_of_read hqueue frame buttons (by simp [hget])
      | timeout => exact readLaw_of_read hqueue frame buttons (by simp [hget])

theorem getRemoteButtons_readLaw (coder : ButtonCoder ButtonsType) (port : Port) (frame : Int)
    (buttons : ButtonsType) (incoming : List (Option IncomingEventPB))
    (handler : EventStreamHandler ButtonsType) :
    ReadLaw port frame buttons handler.inputQueues
      (getRemoteButtons coder port frame buttons incoming handler).status
      (getRemoteButtons coder port frame buttons incoming handler).buttons
      (getRemoteButtons coder port frame buttons incoming handler).handler.inputQueues := by
  unfold getRemoteButtons getQueue
  cases hqueue : handler.inputQueues[port]? with
  | none => exact .failed nofun (.refl _)
  | some queue =>
      simp only
      cases hget : (queue.getButtons frame buttons).status with
      | success => exact readLaw_of_read hqueue frame buttons (by simp [hget])
      | unexpectedFrame => exact readLaw_of_read hqueue frame buttons (by simp [hget])
      -- the first read changes nothing, and what is read off the stream is only added
      | timeout =>
          have hstep := queue.getButtons_step frame buttons
          generalize queue.getButtons frame buttons = result at hstep hget
          cases hstep with
          | success _ _ _ => cases hget
          | failed _ =>
              simp only [setQueue_self hqueue]
              obtain ⟨hturn, hhandler⟩ := readUntilButtons_spec coder port frame incoming handler
              refine (finishRemoteButtons_readLaw port frame buttons _ _ _).of_keeps ?_
              rw [hhandler]
              exact QueueMap.keeps_insertTuples hturn

theorem getButtons_readLaw (coder : ButtonCoder ButtonsType) (port : Port) (frame : Int)
    (buttons : ButtonsType) (incoming : List (Option IncomingEventPB))
    (handler : EventStreamHandler ButtonsType) :
    ReadLaw port frame buttons handler.inputQueues
      (handler.getButtons coder port frame buttons incoming).status
      (handler.getButtons coder port frame buttons incoming).buttons
      (handler.getButtons coder port frame buttons incoming).handler.inputQueues := by
  unfold getButtons
  split_ifs
  · exact getLocalButtons_readLaw port frame buttons incoming handler
  · exact getRemoteButtons_readLaw coder port frame buttons incoming
      (handler.addEvent .remoteKeyStateRequested)

/-- A read of a local port knows nothing of the stream, and ends with the handler as it
was but for the queue of that port. -/
structure LocalRead (port : Port) (handler : EventStreamHandler ButtonsType)
    (getButtons : List (Option IncomingEventPB) → GetButtonsResult ButtonsType) : Prop where
  incoming : ∀ incoming incoming', getButtons incoming =
    { getButtons incoming' with incoming := incoming }
  handler_eq : ∀ incoming, (getButtons incoming).handler =
    { handler with inputQueues := (getButtons incoming).handler.inputQueues }
  queue_eq : ∀ incoming, ∀ k ≠ port,
    (getButtons incoming).handler.inputQueues[k]? = handler.inputQueues[k]?

theorem getLocalButtons_localRead (port : Port) (frame : Int) (buttons : ButtonsType)
    (handler : EventStreamHandler ButtonsType) :
    LocalRead port handler fun incoming =>
      getLocalButtons port frame buttons incoming handler := by
  unfold getLocalButtons getQueue
  cases hqueue : handler.inputQueues[port]? with
  | none => exact ⟨fun _ _ => rfl, fun _ => rfl, fun _ _ _ => rfl⟩
  | some queue =>
      have hother : ∀ k ≠ port, (handler.setQueue port
          (queue.getButtons frame buttons).queue).inputQueues[k]? = handler.inputQueues[k]? := by
        intro k hk
        simp [setQueue, Std.ExtTreeMap.getElem?_insert, hk.symm]
      simp only
      cases (queue.getButtons frame buttons).status with
      | success => exact ⟨fun _ _ => rfl, fun _ => rfl, fun _ => hother⟩
      | unexpectedFrame => exact ⟨fun _ _ => rfl, fun _ => rfl, fun _ => hother⟩
      | timeout => exact ⟨fun _ _ => rfl, fun _ => rfl, fun _ => hother⟩

/-- **What a call of `GetButtons` leaves alone.**  A call that fails leaves `*buttons`,
all cursors and all buffered frames as they were; a call that succeeds moves the cursor
of its port by one frame and takes away that frame at most.  For a local port neither
looks at the stream or touches another queue. -/
theorem getButtons_frame (coder : ButtonCoder ButtonsType) (port : Port) (frame : Int)
    (buttons : ButtonsType) (incoming : List (Option IncomingEventPB))
    (handler : EventStreamHandler ButtonsType) :
    ((handler.getButtons coder port frame buttons incoming).status ≠ .success →
      (handler.getButtons coder port frame buttons incoming).buttons = buttons ∧
        QueueMap.Keeps handler.inputQueues
          (handler.getButtons coder port frame buttons incoming).handler.inputQueues) ∧
    ((handler.getButtons coder port frame buttons incoming).status = .success →
      QueueMap.HandsOut port frame handler.inputQueues
        (handler.getButtons coder port frame buttons incoming).handler.inputQueues) ∧
    (port ∈ handler.localPorts →
      LocalRead port handler fun incoming =>
        handler.getButtons coder port frame buttons incoming) := by
  have hlaw := getButtons_readLaw coder port frame buttons incoming handler
  refine ⟨fun hfailed => hlaw.keeps hfailed, fun hsuccess => hlaw.handsOut hsuccess,
    fun hlocal => ?_⟩
  unfold getButtons
  simp only [if_pos hlocal]
  exact getLocalButtons_localRead port frame buttons handler

end EventStreamHandler

end Client
end Netplay
