import Netplay.Client.InputQueueLog

/-!
# Local and remote queues are shifts of each other

The client that owns a port puts frame `f` into a local queue; every other
client receives the same press as frame `f + x` and puts it into a remote queue.
The two queues refuse early, negative, late and repeated frames through
different tests.  `unshifted` is a local queue that no longer shifts; what is put
into it a delay later has the same effect, and a read does not see the
difference.
-/

namespace Netplay
namespace Client
namespace InputQueue

variable {ButtonsType : Type*}

/-- The same buffer and cursor, without the shift. -/
def unshifted (queue : InputQueue ButtonsType) : InputQueue ButtonsType :=
  { queue with delayFrames := 0 }

/-- A queue that shifts by its initial delay, as a local queue does. -/
structure Shifting (x : Int) (queue : InputQueue ButtonsType) : Prop where
  delay_eq : queue.delayFrames = x
  initial_eq : queue.initialFrameDelay = x
  valid : queue.Valid

theorem shifting_makeLocalQueue (x : Int) :
    Shifting x (makeLocalQueue x : InputQueue ButtonsType) :=
  ⟨rfl, rfl, make_valid x x⟩

theorem Shifting.delayedFrame_eq {x : Int} {queue : InputQueue ButtonsType}
    (h : Shifting x queue) (frame : Int) :
    queue.unshifted.delayedFrame (frame + x) = queue.delayedFrame frame := by
  rw [delayedFrame, delayedFrame, h.delay_eq]
  exact Int.add_zero _

/-- The sign test and the test against the initial delay look at different
frames, and still let the same ones through. -/
theorem Shifting.accepts_iff {x : Int} {queue : InputQueue ButtonsType}
    (h : Shifting x queue) (frame : Int) :
    queue.unshifted.Accepts (frame + x) ↔ queue.Accepts frame := by
  have hdelayed : queue.delayedFrame frame = frame + x := by
    rw [delayedFrame, h.delay_eq]
  have hinitial : queue.unshifted.initialFrameDelay = x := h.initial_eq
  have hseen : ∀ k, queue.unshifted.Seen k ↔ queue.Seen k := fun _ => Iff.rfl
  have hlatest := h.valid.latest_ge
  rw [Accepts, Accepts, h.delayedFrame_eq, hinitial, h.initial_eq, hseen, hdelayed]
  constructor
  · rintro ⟨-, hlate, hnot⟩
    exact ⟨by omega, hlate, hnot⟩
  · rintro ⟨hframe, hlate, hnot⟩
    -- a frame shifted below zero lands behind the cursor, where both refuse it
    have hahead : ¬ frame + x ≤ queue.latestFrameRequested := fun hle => hnot (Or.inl hle)
    exact ⟨by omega, hlate, hnot⟩

theorem Shifting.putButtons {x : Int} {queue : InputQueue ButtonsType}
    (h : Shifting x queue) (frame : Int) (buttons : ButtonsType) :
    queue.unshifted.putButtons (frame + x) buttons =
        ((queue.putButtons frame buttons).1, (queue.putButtons frame buttons).2.unshifted) ∧
      Shifting x (queue.putButtons frame buttons).2 := by
  have haccepts := h.accepts_iff frame
  by_cases hacc : queue.Accepts frame
  · rw [putButtons_of_accepts hacc, putButtons_of_accepts (haccepts.mpr hacc), insertButtons,
      h.delayedFrame_eq]
    exact ⟨rfl, h.delay_eq, h.initial_eq, h.valid.insertButtons hacc buttons⟩
  · rw [putButtons_of_not_accepts hacc, putButtons_of_not_accepts (mt haccepts.mp hacc)]
    exact ⟨rfl, h⟩

variable [Inhabited ButtonsType]

/-- A read looks at the buffer and the cursor only. -/
theorem getButtons_unshifted (queue : InputQueue ButtonsType) (frame : Int)
    (buttons : ButtonsType) :
    queue.unshifted.getButtons frame buttons =
      { queue.getButtons frame buttons with
        queue := (queue.getButtons frame buttons).queue.unshifted } := by
  have hexpected : queue.unshifted.expectedFrame = queue.expectedFrame := rfl
  have hinitial : queue.unshifted.initialFrameDelay = queue.initialFrameDelay := rfl
  have hframes : queue.unshifted.frameButtons = queue.frameButtons := rfl
  unfold getButtons takeButtons
  rw [hexpected, hinitial, hframes]
  split_ifs
  · rfl
  · rfl
  · cases queue.frameButtons[frame]? with
    | none => rfl
    | some value => rfl

theorem Shifting.getButtons {x : Int} {queue : InputQueue ButtonsType} (h : Shifting x queue)
    (frame : Int) (buttons : ButtonsType) :
    Shifting x (queue.getButtons frame buttons).queue := by
  rw [h.valid.getButtons_eq]
  by_cases hframe : frame = queue.expectedFrame
  · rw [if_pos hframe]
    cases queue.buttonsAt frame with
    | none => exact h
    | some value => exact ⟨h.delay_eq, h.initial_eq, h.valid.advance⟩
  · rw [if_neg hframe]
    exact h

/-- The call that a remote queue sees in place of a call on the local queue. -/
def Op.shift (x : Int) : Op ButtonsType → Op ButtonsType
  | .put frame buttons => .put (frame + x) buttons
  | .get frame buttons => .get frame buttons

theorem Shifting.runOp {x : Int} {queue : InputQueue ButtonsType} (h : Shifting x queue)
    (op : Op ButtonsType) :
    queue.unshifted.runOp (op.shift x) =
        ((queue.runOp op).1, (queue.runOp op).2.unshifted) ∧
      Shifting x (queue.runOp op).2 := by
  cases op with
  | put frame buttons =>
      obtain ⟨hput, hnext⟩ := h.putButtons frame buttons
      refine ⟨?_, hnext⟩
      simp only [Op.shift, InputQueue.runOp, hput]
  | get frame buttons =>
      refine ⟨?_, h.getButtons frame buttons⟩
      simp only [Op.shift, InputQueue.runOp, getButtons_unshifted]

theorem Shifting.runOps {x : Int} {queue : InputQueue ButtonsType} (h : Shifting x queue)
    (ops : List (Op ButtonsType)) :
    queue.unshifted.runOps (ops.map (Op.shift x)) =
      ((queue.runOps ops).1, (queue.runOps ops).2.unshifted) := by
  induction ops generalizing queue with
  | nil => rfl
  | cons op ops ih =>
      obtain ⟨hop, hnext⟩ := h.runOp op
      simp only [List.map_cons, InputQueue.runOps, hop, ih hnext]

/-- **A local queue is a remote queue shifted by its delay**, whatever the sign
of the delay: the same answers to every sequence of calls, and after each of
them (so after each of its prefixes too) the same buffered frames and cursor. -/
theorem local_shift_of_remote (x : Int) (ops : List (Op ButtonsType)) :
    ((makeLocalQueue x).runOps ops).1 =
        ((makeRemoteQueue x).runOps (ops.map (Op.shift x))).1 ∧
      ((makeLocalQueue x).runOps ops).2.frameButtons =
        ((makeRemoteQueue x).runOps (ops.map (Op.shift x))).2.frameButtons ∧
      ((makeLocalQueue x).runOps ops).2.expectedFrame =
        ((makeRemoteQueue x).runOps (ops.map (Op.shift x))).2.expectedFrame := by
  have hremote : (makeRemoteQueue x : InputQueue ButtonsType) = (makeLocalQueue x).unshifted :=
    rfl
  rw [hremote, (shifting_makeLocalQueue x).runOps ops]
  exact ⟨rfl, rfl, rfl⟩

/-- With a negative delay the two refuse the same put for different reasons: the
local queue because frame 1 lands behind the cursor, the remote one because of
the sign. -/
example :
    ((makeLocalQueue (-2) : InputQueue Nat).runOps [.put 1 7, .put 2 8, .get 0 9]).1 =
        [.put false, .put true, .get .success 8] ∧
      ((makeRemoteQueue (-2) : InputQueue Nat).runOps [.put (-1) 7, .put 0 8, .get 0 9]).1 =
        [.put false, .put true, .get .success 8] := by
  decide

end InputQueue

end Client
end Netplay
