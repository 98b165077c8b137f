import Mathlib.Tactic.Common
import Mathlib.Data.Int.Interval

/-!
# `InputQueue`

The per-port buffer of `input-queue.hpp`.  Every definition here is one
critical section of the source, as the thread that holds `m_` computes it.  An
`int` is an `Int`: sums are exact, so each result speaks about the runs in which
no sum overflows.  `std::map<int, ButtonsType>` is an extensional tree map, and
`ButtonsType()` is `default`.

* `putButtons` and `getButtons` are the two operations, `takeButtons` the part
  of `GetButtons` behind the wait.
* `Seen` and `Accepts` say which frames a queue takes: a delayed frame inside
  the window that is neither buffered nor behind the read cursor.
* `Valid` is the invariant of every queue the two factories make.
-/

namespace Netplay
namespace Client

/-- Buffer of one port: buttons by frame, and the frame read last. -/
structure InputQueue (ButtonsType : Type*) where
  delayFrames : Int
  initialFrameDelay : Int
  latestFrameRequested : Int
  frameButtons : Std.ExtTreeMap Int ButtonsType
deriving DecidableEq

namespace InputQueue

variable {ButtonsType : Type*}

/-- The constructor: nothing buffered, nothing requested. -/
def make (delayFrames initialFrameDelay : Int) : InputQueue ButtonsType where
  delayFrames := delayFrames
  initialFrameDelay := initialFrameDelay
  latestFrameRequested := -1
  frameButtons := ∅

/-- Queue for a local input source: it delays everything put into it. -/
def makeLocalQueue (delayFrames : Int) : InputQueue ButtonsType :=
  make delayFrames delayFrames

/-- Queue for a remote input source: the sender has already applied the delay. -/
def makeRemoteQueue (delayFrames : Int) : InputQueue ButtonsType :=
  make 0 delayFrames

/-- The frame at which buttons put for `frame` become readable. -/
def delayedFrame (queue : InputQueue ButtonsType) (frame : Int) : Int :=
  frame + queue.delayFrames

/-- The only frame `GetButtons` serves next. -/
def expectedFrame (queue : InputQueue ButtonsType) : Int :=
  queue.latestFrameRequested + 1

/-- `InputQueue::QueueSize`. -/
def queueSize (queue : InputQueue ButtonsType) : Nat :=
  queue.frameButtons.size

/-- `InputQueue::PutButtons`: whether the buttons were inserted, and the queue
afterwards. -/
def putButtons (queue : InputQueue ButtonsType) (frame : Int) (buttons : ButtonsType) :
    Bool × InputQueue ButtonsType :=
  -- the first two tests look at constants only and are made before `m_` is taken
  if frame < 0 then
    (false, queue)
  else
    let delayedFrame := queue.delayedFrame frame
    if delayedFrame < queue.initialFrameDelay then
      (false, queue)
    -- reject frames that were already read
    else if delayedFrame ≤ queue.latestFrameRequested then
      (false, queue)
    -- reject frames that are still buffered
    else if delayedFrame ∈ queue.frameButtons then
      (false, queue)
    else
      (true, { queue with frameButtons := queue.frameButtons.insert delayedFrame buttons })

/-- `InputQueue::GetButtonsStatus`. -/
inductive GetButtonsStatus
  | success
  | unexpectedFrame
  | timeout
deriving DecidableEq

/-- Status, `*buttons` and queue after `GetButtons`. -/
structure GetButtonsResult (ButtonsType : Type*) where
  status : GetButtonsStatus
  buttons : ButtonsType
  queue : InputQueue ButtonsType
deriving DecidableEq

/-- The last lines of `GetButtons`: hand out a buffered frame and move on. -/
def takeButtons (queue : InputQueue ButtonsType) (frame : Int) :
    Option (ButtonsType × InputQueue ButtonsType) :=
  match queue.frameButtons[frame]? with
  | none => none
  | some buttons =>
      some (buttons,
        { queue with
          latestFrameRequested := frame
          frameButtons := queue.frameButtons.erase frame })

/-- `InputQueue::GetButtons` when no other thread touches the queue.  A wait
whose predicate nobody else can change ends as it began, so any finite timeout
gives this result. -/
def getButtons [Inhabited ButtonsType] (queue : InputQueue ButtonsType) (frame : Int)
    (buttons : ButtonsType) : GetButtonsResult ButtonsType :=
  -- frames come in one at a time and in order
  if frame ≠ queue.expectedFrame then
    ⟨.unexpectedFrame, buttons, queue⟩
  else if frame < queue.initialFrameDelay then
    ⟨.success, default, { queue with latestFrameRequested := frame }⟩
  else
    match queue.takeButtons frame with
    | none => ⟨.timeout, buttons, queue⟩
    | some (taken, queue') => ⟨.success, taken, queue'⟩

/-- A read times out only when its frame is absent. -/
theorem takeButtons_of_timeout [Inhabited ButtonsType] {queue : InputQueue ButtonsType}
    {frame : Int} {buttons : ButtonsType}
    (h : (queue.getButtons frame buttons).status = .timeout) : queue.takeButtons frame = none := by
  unfold getButtons at h
  split_ifs at h
  cases htake : queue.takeButtons frame with
  | none => rfl
  | some taken =>
      rw [htake] at h
      cases h

@[simp] theorem make_latestFrameRequested (d i : Int) :
    (make d i : InputQueue ButtonsType).latestFrameRequested = -1 := rfl

@[simp] theorem make_frameButtons (d i : Int) :
    (make d i : InputQueue ButtonsType).frameButtons = ∅ := rfl

/-! ### Which frames a queue accepts -/

/-- A delayed frame the queue will not take (again): it is behind the cursor or
still buffered. -/
def Seen (queue : InputQueue ButtonsType) (frame : Int) : Prop :=
  frame ≤ queue.latestFrameRequested ∨ frame ∈ queue.frameButtons

/-- The frames `PutButtons` accepts. -/
def Accepts (queue : InputQueue ButtonsType) (frame : Int) : Prop :=
  0 ≤ frame ∧ queue.initialFrameDelay ≤ queue.delayedFrame frame ∧
    ¬ queue.Seen (queue.delayedFrame frame)

instance (queue : InputQueue ButtonsType) (frame : Int) : Decidable (queue.Seen frame) :=
  inferInstanceAs (Decidable (_ ∨ _))

instance (queue : InputQueue ButtonsType) (frame : Int) : Decidable (queue.Accepts frame) :=
  inferInstanceAs (Decidable (_ ∧ _))

/-- The queue with buttons for an accepted frame added. -/
def insertButtons (queue : InputQueue ButtonsType) (frame : Int) (buttons : ButtonsType) :
    InputQueue ButtonsType :=
  { queue with frameButtons := queue.frameButtons.insert (queue.delayedFrame frame) buttons }

/-- `PutButtons` succeeds exactly on accepted frames, and changes nothing
otherwise. -/
theorem putButtons_eq (queue : InputQueue ButtonsType) (frame : Int) (buttons : ButtonsType) :
    queue.putButtons frame buttons =
      if queue.Accepts frame then (true, queue.insertButtons frame buttons)
      else (false, queue) := by
  unfold putButtons
  -- one case for each test of the source, in its order
  by_cases hneg : frame < 0
  · have hnot : ¬ queue.Accepts frame := fun h => absurd h.1 (by omega)
    rw [if_pos hneg, if_neg hnot]
  by_cases hearly : queue.delayedFrame frame < queue.initialFrameDelay
  · have hnot : ¬ queue.Accepts frame := fun h => absurd h.2.1 (by omega)
    simp [hneg, hearly, hnot]
  by_cases hread : queue.delayedFrame frame ≤ queue.latestFrameRequested
  · have hnot : ¬ queue.Accepts frame := fun h => h.2.2 (Or.inl hread)
    simp [hneg, hearly, hread, hnot]
  by_cases hdup : queue.delayedFrame frame ∈ queue.frameButtons
  · have hnot : ¬ queue.Accepts frame := fun h => h.2.2 (Or.inr hdup)
    simp [hneg, hearly, hread, hdup, hnot]
  · have hacc : queue.Accepts frame := by
      refine ⟨by omega, by omega, ?_⟩
      rintro (h | h)
      · exact hread h
      · exact hdup h
    simp [hneg, hearly, hread, hdup, hacc, insertButtons]

theorem putButtons_of_accepts {queue : InputQueue ButtonsType} {frame : Int}
    (h : queue.Accepts frame) (buttons : ButtonsType) :
    queue.putButtons frame buttons = (true, queue.insertButtons frame buttons) := by
  rw [putButtons_eq, if_pos h]

theorem putButtons_of_not_accepts {queue : InputQueue ButtonsType} {frame : Int}
    (h : ¬ queue.Accepts frame) (buttons : ButtonsType) :
    queue.putButtons frame buttons = (false, queue) := by
  rw [putButtons_eq, if_neg h]

@[simp] theorem insertButtons_delayFrames (queue : InputQueue ButtonsType) (frame : Int)
    (buttons : ButtonsType) :
    (queue.insertButtons frame buttons).delayFrames = queue.delayFrames := rfl

@[simp] theorem insertButtons_initialFrameDelay (queue : InputQueue ButtonsType) (frame : Int)
    (buttons : ButtonsType) :
    (queue.insertButtons frame buttons).initialFrameDelay = queue.initialFrameDelay := rfl

@[simp] theorem insertButtons_latestFrameRequested (queue : InputQueue ButtonsType)
    (frame : Int) (buttons : ButtonsType) :
    (queue.insertButtons frame buttons).latestFrameRequested =
      queue.latestFrameRequested := rfl

@[simp] theorem insertButtons_getElem? (queue : InputQueue ButtonsType) (frame k : Int)
    (buttons : ButtonsType) :
    (queue.insertButtons frame buttons).frameButtons[k]? =
      if queue.delayedFrame frame = k then some buttons else queue.frameButtons[k]? := by
  simp [insertButtons, Std.ExtTreeMap.getElem?_insert]

@[simp] theorem mem_insertButtons (queue : InputQueue ButtonsType) (frame k : Int)
    (buttons : ButtonsType) :
    k ∈ (queue.insertButtons frame buttons).frameButtons ↔
      queue.delayedFrame frame = k ∨ k ∈ queue.frameButtons := by
  simp [insertButtons]

/-- Once accepted, a frame is seen. -/
theorem insertButtons_seen (queue : InputQueue ButtonsType) (frame k : Int)
    (buttons : ButtonsType) :
    (queue.insertButtons frame buttons).Seen k ↔
      queue.delayedFrame frame = k ∨ queue.Seen k := by
  simp only [Seen, insertButtons_latestFrameRequested, mem_insertButtons]
  constructor
  · rintro (h | h | h)
    · exact Or.inr (Or.inl h)
    · exact Or.inl h
    · exact Or.inr (Or.inr h)
  · rintro (h | h | h)
    · exact Or.inr (Or.inl h)
    · exact Or.inl h
    · exact Or.inr (Or.inr h)

/-! ### What a read can do -/

/-- The queue after its expected frame was handed out.  Frames inside the
initial delay are never buffered, so erasing them would change nothing. -/
def advance (queue : InputQueue ButtonsType) : InputQueue ButtonsType :=
  { queue with
    latestFrameRequested := queue.expectedFrame
    frameButtons := queue.frameButtons.erase queue.expectedFrame }

/-- The value of a frame: the default inside the initial delay, else what is
buffered for it. -/
def buttonsAt [Inhabited ButtonsType] (queue : InputQueue ButtonsType) (frame : Int) :
    Option ButtonsType :=
  if frame < queue.initialFrameDelay then some default else queue.frameButtons[frame]?

/-- The invariant of a queue: the cursor never goes below `-1`, and everything
buffered is ahead of it and outside the initial delay. -/
structure Valid (queue : InputQueue ButtonsType) : Prop where
  latest_ge : -1 ≤ queue.latestFrameRequested
  latest_lt : ∀ k ∈ queue.frameButtons, queue.latestFrameRequested < k
  initial_le : ∀ k ∈ queue.frameButtons, queue.initialFrameDelay ≤ k

theorem make_valid (d i : Int) : (make d i : InputQueue ButtonsType).Valid where
  latest_ge := le_rfl
  latest_lt := by simp
  initial_le := by simp

theorem Valid.insertButtons {queue : InputQueue ButtonsType} (hvalid : queue.Valid)
    {frame : Int} (haccepts : queue.Accepts frame) (buttons : ButtonsType) :
    (queue.insertButtons frame buttons).Valid where
  latest_ge := hvalid.latest_ge
  latest_lt := by
    intro k hk
    rcases (mem_insertButtons _ _ _ _).mp hk with rfl | hk
    · have hnotSeen := haccepts.2.2
      simp only [Seen, not_or, not_le] at hnotSeen
      exact hnotSeen.1
    · exact hvalid.latest_lt k hk
  initial_le := by
    intro k hk
    rcases (mem_insertButtons _ _ _ _).mp hk with rfl | hk
    · exact haccepts.2.1
    · exact hvalid.initial_le k hk

@[simp] theorem advance_delayFrames (queue : InputQueue ButtonsType) :
    queue.advance.delayFrames = queue.delayFrames := rfl

@[simp] theorem advance_initialFrameDelay (queue : InputQueue ButtonsType) :
    queue.advance.initialFrameDelay = queue.initialFrameDelay := rfl

@[simp] theorem advance_latestFrameRequested (queue : InputQueue ButtonsType) :
    queue.advance.latestFrameRequested = queue.latestFrameRequested + 1 := rfl

@[simp] theorem mem_advance (queue : InputQueue ButtonsType) (k : Int) :
    k ∈ queue.advance.frameButtons ↔ k ≠ queue.expectedFrame ∧ k ∈ queue.frameButtons := by
  simp [advance, @eq_comm _ k]

@[simp] theorem advance_getElem? (queue : InputQueue ButtonsType) (k : Int) :
    queue.advance.frameButtons[k]? =
      if queue.expectedFrame = k then none else queue.frameButtons[k]? := by
  simp [advance, Std.ExtTreeMap.getElem?_erase]

theorem Valid.advance {queue : InputQueue ButtonsType} (hvalid : queue.Valid) :
    queue.advance.Valid where
  latest_ge := by
    have := hvalid.latest_ge
    simp only [advance_latestFrameRequested]
    omega
  latest_lt := by
    intro k hk
    obtain ⟨hne, hk⟩ := (mem_advance _ _).mp hk
    have hlt := hvalid.latest_lt k hk
    simp only [expectedFrame] at hne
    simp only [advance_latestFrameRequested]
    omega
  initial_le := by
    intro k hk
    exact hvalid.initial_le k ((mem_advance _ _).mp hk).2

/-- In a valid queue the reads that skip over the initial delay have nothing to
erase. -/
theorem Valid.advance_of_lt {queue : InputQueue ButtonsType} (hvalid : queue.Valid)
    (hlt : queue.expectedFrame < queue.initialFrameDelay) :
    queue.advance = { queue with latestFrameRequested := queue.expectedFrame } := by
  have habsent : queue.expectedFrame ∉ queue.frameButtons := by
    intro hmem
    have := hvalid.initial_le _ hmem
    omega
  have herase : queue.frameButtons.erase queue.expectedFrame = queue.frameButtons := by
    apply Std.ExtTreeMap.ext_getElem?
    intro k
    rw [Std.ExtTreeMap.getElem?_erase]
    by_cases hk : queue.expectedFrame = k
    · subst hk
      simp [Std.ExtTreeMap.getElem?_eq_none habsent]
    · simp [hk]
  simp [InputQueue.advance, herase]

/-- A queue holds at most one entry for each frame of a window. -/
theorem queueSize_le {queue : InputQueue ButtonsType} {first stop : Int}
    (hwindow : ∀ k ∈ queue.frameButtons, first ≤ k ∧ k < stop) :
    queue.queueSize ≤ (stop - first).toNat := by
  -- the keys are distinct integers of the window
  have hsub : queue.frameButtons.keys.toFinset ⊆ Finset.Ico first stop := by
    intro k hk
    rw [List.mem_toFinset, Std.ExtTreeMap.mem_keys] at hk
    exact Finset.mem_Ico.mpr (hwindow k hk)
  calc
    queue.queueSize = queue.frameButtons.keys.toFinset.card := by
      rw [List.toFinset_card_of_nodup Std.ExtTreeMap.nodup_keys, Std.ExtTreeMap.length_keys,
        queueSize]
    _ ≤ (Finset.Ico first stop).card := Finset.card_le_card hsub
    _ = (stop - first).toNat := Int.card_Ico first stop

/-- A read advances the cursor in no case but the right frame with a value. -/
theorem Valid.getButtons_eq [Inhabited ButtonsType] {queue : InputQueue ButtonsType}
    (hvalid : queue.Valid) (frame : Int) (buttons : ButtonsType) :
    queue.getButtons frame buttons =
      if frame = queue.expectedFrame then
        match queue.buttonsAt frame with
        | some value => ⟨.success, value, queue.advance⟩
        | none => ⟨.timeout, buttons, queue⟩
      else ⟨.unexpectedFrame, buttons, queue⟩ := by
  by_cases hframe : frame = queue.expectedFrame
  · subst hframe
    by_cases hdelay : queue.expectedFrame < queue.initialFrameDelay
    -- inside the initial delay the source erases nothing
    · simp [getButtons, buttonsAt, hdelay, hvalid.advance_of_lt hdelay]
    · cases hget : queue.frameButtons[queue.expectedFrame]? with
      | none => simp [getButtons, buttonsAt, takeButtons, hdelay, hget]
      | some value =>
          simp [getButtons, buttonsAt, takeButtons, hdelay, hget, InputQueue.advance]
  · simp [getButtons, hframe]

end InputQueue

end Client
end Netplay
