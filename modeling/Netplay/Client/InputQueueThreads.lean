import Mathlib.Logic.Function.Basic
import Netplay.Client.InputQueue
import Netplay.Foundations.TransitionSystem

/-!
# Threads on one input queue

Any number of threads call `PutButtons` and `GetButtons` on one queue.  What a
thread does while it holds `m_` is one step; between its steps the others run.
A `GetButtons` whose frame is missing parks in `cv_.wait` or `cv_.wait_for`,
which releases `m_`; it comes back by a notification, spuriously or by its
timeout and looks for its frame again, *but not at the cursor*.  `PutButtons`
calls `cv_.notify_all` after it has released `m_`, so the notification is a step
of its own.

* `step_cases` says once what a step can do.
* `Inv` is the invariant behind `exactly_once`: frames are handed out once and
  in order, and no wakeup is lost.
-/

namespace Netplay
namespace Client

/-- Where a thread stands. -/
inductive Thread
  | idle
  /-- has inserted buttons and released `m_`, but not called `notify_all` yet -/
  | notifying
  /-- parked in `GetButtons`; `timed` unless the call blocks forever, `notified`
  once a wakeup is pending -/
  | waiting (frame : Int) (timed notified : Bool)
deriving DecidableEq

/-- A queue, its threads, and the two histories its properties speak of:
what was handed out and what was accepted (by delayed frame), oldest first. -/
structure QueueThreads (τ ButtonsType : Type*) where
  queue : InputQueue ButtonsType
  thread : τ → Thread
  returned : List (Int × ButtonsType)
  accepted : List (Int × ButtonsType)

namespace QueueThreads

variable {τ ButtonsType : Type*}

/-- The steps of a thread. -/
inductive Action (τ ButtonsType : Type*)
  | put (t : τ) (frame : Int) (buttons : ButtonsType)
  | notifyAll (t : τ)
  | get (t : τ) (frame : Int) (timed : Bool)
  /-- the wait ends by a notification or spuriously -/
  | resume (t : τ)
  /-- the wait ends by its timeout -/
  | timeout (t : τ)

/-- A pending wakeup for a parked thread. -/
def notify : Thread → Thread
  | .waiting frame timed _ => .waiting frame timed true
  | thread => thread

def enabled (s : QueueThreads τ ButtonsType) : Action τ ButtonsType → Prop
  | .put t _ _ => s.thread t = .idle
  | .notifyAll t => s.thread t = .notifying
  | .get t _ _ => s.thread t = .idle
  | .resume t => ∃ frame timed notified, s.thread t = .waiting frame timed notified
  | .timeout t => ∃ frame notified, s.thread t = .waiting frame true notified

variable [DecidableEq τ]

def setThread (s : QueueThreads τ ButtonsType) (t : τ) (thread : Thread) :
    QueueThreads τ ButtonsType :=
  { s with thread := Function.update s.thread t thread }

/-- The lines behind the wait: look for the frame once more, hand it out or do
`otherwise`. -/
def wakeUp (s : QueueThreads τ ButtonsType) (t : τ) (frame : Int) (otherwise : Thread) :
    QueueThreads τ ButtonsType :=
  match s.queue.takeButtons frame with
  | some (buttons, queue) =>
      { s with
        queue := queue
        thread := Function.update s.thread t .idle
        returned := s.returned ++ [(frame, buttons)] }
  | none => s.setThread t otherwise

def next [Inhabited ButtonsType] (s : QueueThreads τ ButtonsType) :
    Action τ ButtonsType → QueueThreads τ ButtonsType
  | .put t frame buttons =>
      match s.queue.putButtons frame buttons with
      | (false, _) => s
      | (true, queue) =>
          -- `m_` is released here, and the notification is still to come
          { s with
            queue := queue
            thread := Function.update s.thread t .notifying
            accepted := s.accepted ++ [(s.queue.delayedFrame frame, buttons)] }
  | .notifyAll t =>
      { s with thread := Function.update (fun u => notify (s.thread u)) t .idle }
  | .get t frame timed =>
      let r := s.queue.getButtons frame default
      match r.status with
      | .unexpectedFrame => s
      | .success => { s with queue := r.queue, returned := s.returned ++ [(frame, r.buttons)] }
      -- the predicate is false: `wait` parks the thread and releases `m_`
      | .timeout => s.setThread t (.waiting frame timed false)
  | .resume t =>
      match s.thread t with
      | .waiting frame timed _ => s.wakeUp t frame (.waiting frame timed false)
      | _ => s
  | .timeout t =>
      match s.thread t with
      | .waiting frame _ _ => s.wakeUp t frame .idle
      | _ => s

/-- The step relation, starting from a queue of either factory with all threads
idle. -/
def system (τ ButtonsType : Type*) [DecidableEq τ] [Inhabited ButtonsType] :
    TransitionSystem (QueueThreads τ ButtonsType) (Action τ ButtonsType) where
  init := fun s =>
    (∃ x, s.queue = InputQueue.makeLocalQueue x ∨ s.queue = InputQueue.makeRemoteQueue x) ∧
      (∀ t, s.thread t = .idle) ∧ s.returned = [] ∧ s.accepted = []
  enabled := enabled
  next := next

/-- A timed call that parks and times out with nothing in between changes nothing,
as the sequential `getButtons` says. -/
theorem get_then_timeout [Inhabited ButtonsType] (s : QueueThreads τ ButtonsType) (t : τ)
    (frame : Int) (hidle : s.thread t = .idle)
    (htimeout : (s.queue.getButtons frame default).status = .timeout) :
    (s.next (.get t frame true)).next (.timeout t) = s := by
  have habsent := InputQueue.takeButtons_of_timeout htimeout
  have hget : s.next (.get t frame true) = s.setThread t (.waiting frame true false) := by
    simp [next, htimeout]
  rw [hget]
  simp only [next, setThread, Function.update_self, wakeUp, habsent, Function.update_idem]
  rw [← hidle, Function.update_eq_self]

/-! ### What a step can do -/

/-- A consumer may be handed `value` for the frame at the cursor. -/
def Offers [Inhabited ButtonsType] (s : QueueThreads τ ButtonsType) (value : ButtonsType) :
    Prop :=
  s.queue.buttonsAt s.queue.expectedFrame = some value

/-- The thread that moves. -/
def Action.actor : Action τ ButtonsType → τ
  | .put t _ _ => t
  | .notifyAll t => t
  | .get t _ _ => t
  | .resume t => t
  | .timeout t => t

/-- The step ends a `GetButtons` with a frame: the frame asked for is at the
cursor and available, or the frame waited for has arrived. -/
def HandsOver [Inhabited ButtonsType] (s : QueueThreads τ ButtonsType) :
    Action τ ButtonsType → Prop
  | .get _ frame _ => frame = s.queue.expectedFrame ∧ (s.queue.buttonsAt frame).isSome
  | .resume t => ∃ frame timed notified,
      s.thread t = .waiting frame timed notified ∧ frame ∈ s.queue.frameButtons
  | .timeout t => ∃ frame timed notified,
      s.thread t = .waiting frame timed notified ∧ frame ∈ s.queue.frameButtons
  | _ => False

/-- The state after the frame at the cursor was handed to `t`. -/
def handOut (s : QueueThreads τ ButtonsType) (t : τ) (value : ButtonsType) :
    QueueThreads τ ButtonsType :=
  { s with
    queue := s.queue.advance
    thread := Function.update s.thread t .idle
    returned := s.returned ++ [(s.queue.expectedFrame, value)] }

/-- The state after `t` inserted buttons. -/
def insert (s : QueueThreads τ ButtonsType) (t : τ) (frame : Int) (buttons : ButtonsType) :
    QueueThreads τ ButtonsType :=
  { s with
    queue := s.queue.insertButtons frame buttons
    thread := Function.update s.thread t .notifying
    accepted := s.accepted ++ [(s.queue.delayedFrame frame, buttons)] }

/-- The queue is valid and nobody waits for a frame ahead of the cursor or
inside the initial delay. -/
structure WaitInv (s : QueueThreads τ ButtonsType) : Prop where
  valid : s.queue.Valid
  waiting_le : ∀ t frame timed notified, s.thread t = .waiting frame timed notified →
    frame ≤ s.queue.expectedFrame
  waiting_ge : ∀ t frame timed notified, s.thread t = .waiting frame timed notified →
    s.queue.initialFrameDelay ≤ frame

/-- A parked consumer that finds its frame takes the frame at the cursor: what
is buffered is ahead of the cursor, what is waited for is not. -/
theorem WaitInv.wakeUp_cases [Inhabited ButtonsType] {s : QueueThreads τ ButtonsType}
    (h : s.WaitInv) {t : τ} {frame : Int} {timed notified : Bool} (otherwise : Thread)
    (hthread : s.thread t = .waiting frame timed notified) :
    (∃ value, frame ∈ s.queue.frameButtons ∧ s.Offers value ∧
        s.wakeUp t frame otherwise = s.handOut t value) ∨
      (frame ∉ s.queue.frameButtons ∧ s.wakeUp t frame otherwise = s.setThread t otherwise) := by
  have hle := h.waiting_le t frame timed notified hthread
  have hge := h.waiting_ge t frame timed notified hthread
  cases hget : s.queue.frameButtons[frame]? with
  | none =>
      refine Or.inr ⟨?_, by simp [wakeUp, InputQueue.takeButtons, hget]⟩
      intro hmem
      rw [Std.ExtTreeMap.mem_iff_isSome_getElem?, hget] at hmem
      cases hmem
  | some value =>
      have hmem : frame ∈ s.queue.frameButtons := by
        rw [Std.ExtTreeMap.mem_iff_isSome_getElem?, hget]
        rfl
      -- no test after the wait says so, only the two bounds on what is parked
      have hlt := h.valid.latest_lt frame hmem
      have hframe : frame = s.queue.expectedFrame := by
        simp only [InputQueue.expectedFrame] at hle ⊢
        omega
      refine Or.inl ⟨value, hmem, ?_, ?_⟩
      · unfold Offers
        rw [← hframe]
        simp [InputQueue.buttonsAt, hget, not_lt.mpr hge]
      · simp only [wakeUp, InputQueue.takeButtons, hget, handOut, InputQueue.advance, ← hframe]

omit [DecidableEq τ] in
/-- A consumer whose frame is absent is handed nothing, notified or timed out. -/
theorem not_handsOver_of_not_mem [Inhabited ButtonsType] {s : QueueThreads τ ButtonsType} {t : τ}
    {frame : Int} {timed notified : Bool} (hthread : s.thread t = .waiting frame timed notified)
    (habsent : frame ∉ s.queue.frameButtons) :
    ¬ s.HandsOver (.resume t) ∧ ¬ s.HandsOver (.timeout t) := by
  have hnever : ¬ ∃ frame timed notified,
      s.thread t = .waiting frame timed notified ∧ frame ∈ s.queue.frameButtons := by
    rintro ⟨frame', timed', notified', hthread', hmem⟩
    rw [hthread] at hthread'
    cases hthread'
    exact habsent hmem
  exact ⟨hnever, hnever⟩

/-- **What a step can do.**  It hands the frame at the cursor to its thread, or
it leaves the cursor alone: nothing happens, buttons are inserted, everyone
parked is notified, a consumer parks (for the frame at the cursor, or again for
the frame it has waited for), or a wait times out. -/
theorem WaitInv.step_cases [Inhabited ButtonsType] {s : QueueThreads τ ButtonsType}
    (h : s.WaitInv) {a : Action τ ButtonsType} (henabled : s.enabled a) :
    (s.HandsOver a ∧ s.thread a.actor ≠ .notifying ∧
      ∃ value, s.Offers value ∧ s.next a = s.handOut a.actor value) ∨
    (¬ s.HandsOver a ∧
      (s.next a = s ∨
      (∃ t frame buttons, s.queue.Accepts frame ∧ s.next a = s.insert t frame buttons) ∨
      (∃ t, s.next a =
        { s with thread := Function.update (fun u => notify (s.thread u)) t .idle }) ∨
      (∃ t frame timed, s.thread t ≠ .notifying ∧ frame ∉ s.queue.frameButtons ∧
        s.queue.initialFrameDelay ≤ frame ∧
        (frame = s.queue.expectedFrame ∨
          ∃ timed' notified, s.thread t = .waiting frame timed' notified) ∧
        s.next a = s.setThread t (.waiting frame timed false)) ∨
      (∃ t, s.thread t ≠ .notifying ∧ s.next a = s.setThread t .idle))) := by
  cases a with
  | put t frame buttons =>
      refine Or.inr ⟨fun hover => hover, ?_⟩
      by_cases hacc : s.queue.Accepts frame
      · refine Or.inr (Or.inl ⟨t, frame, buttons, hacc, ?_⟩)
        simp only [next, InputQueue.putButtons_of_accepts hacc]
        rfl
      · exact Or.inl (by simp only [next, InputQueue.putButtons_of_not_accepts hacc])
  | notifyAll t => exact Or.inr ⟨fun hover => hover, Or.inr (Or.inr (Or.inl ⟨t, rfl⟩))⟩
  | get t frame timed =>
      have hidle : s.thread t = .idle := henabled
      have hne : s.thread t ≠ .notifying := by simp [hidle]
      by_cases hframe : frame = s.queue.expectedFrame
      · subst hframe
        cases hvalue : s.queue.buttonsAt s.queue.expectedFrame with
        | some value =>
            refine Or.inl ⟨⟨rfl, by simp [hvalue]⟩, hne, value, hvalue, ?_⟩
            simp only [next, h.valid.getButtons_eq, if_true, hvalue, handOut, Action.actor]
            rw [← hidle, Function.update_eq_self]
        -- the frame is outside the initial delay and absent: the call parks
        | none =>
            have hdelay : ¬ s.queue.expectedFrame < s.queue.initialFrameDelay := by
              intro hlt
              simp [InputQueue.buttonsAt, hlt] at hvalue
            have habsent : s.queue.expectedFrame ∉ s.queue.frameButtons := by
              have hget := hvalue
              simp only [InputQueue.buttonsAt, hdelay, if_false] at hget
              rw [Std.ExtTreeMap.mem_iff_isSome_getElem?, hget]
              simp
            refine Or.inr ⟨fun hover => ?_, Or.inr (Or.inr (Or.inr (Or.inl
              ⟨t, _, timed, hne, habsent, by omega, Or.inl rfl, ?_⟩)))⟩
            · have hsome := hover.2
              rw [hvalue] at hsome
              cases hsome
            · simp only [next, h.valid.getButtons_eq, if_true, hvalue]
      · exact Or.inr ⟨fun hover => hframe hover.1,
          Or.inl (by simp only [next, h.valid.getButtons_eq, hframe, if_false])⟩
  | resume t =>
      obtain ⟨frame, timed, notified, hthread⟩ := henabled
      have hne : s.thread t ≠ .notifying := by simp [hthread]
      have hnext : s.next (.resume t) = s.wakeUp t frame (.waiting frame timed false) := by
        simp only [next, hthread]
      rw [hnext]
      rcases h.wakeUp_cases (.waiting frame timed false) hthread with
        ⟨value, hmem, hvalue, hwake⟩ | ⟨habsent, hwake⟩
      · exact Or.inl ⟨⟨frame, timed, notified, hthread, hmem⟩, hne, value, hvalue, hwake⟩
      · refine Or.inr ⟨(not_handsOver_of_not_mem hthread habsent).1, ?_⟩
        exact Or.inr (Or.inr (Or.inr (Or.inl ⟨t, frame, timed, hne, habsent,
          h.waiting_ge t _ _ _ hthread, Or.inr ⟨timed, notified, hthread⟩, hwake⟩)))
  | timeout t =>
      obtain ⟨frame, notified, hthread⟩ := henabled
      have hne : s.thread t ≠ .notifying := by simp [hthread]
      have hnext : s.next (.timeout t) = s.wakeUp t frame .idle := by
        simp only [next, hthread]
      rw [hnext]
      rcases h.wakeUp_cases .idle hthread with ⟨value, hmem, hvalue, hwake⟩ | ⟨habsent, hwake⟩
      · exact Or.inl ⟨⟨frame, true, notified, hthread, hmem⟩, hne, value, hvalue, hwake⟩
      · refine Or.inr ⟨(not_handsOver_of_not_mem hthread habsent).2, ?_⟩
        exact Or.inr (Or.inr (Or.inr (Or.inr ⟨t, hne, hwake⟩)))

/-! ### The invariant -/

/-- Only a thread that was waiting before, or `t` itself, is waiting after `t`
moved. -/
theorem update_waiting {f : τ → Thread} {t u : τ} {thread : Thread} {frame : Int}
    {timed notified : Bool}
    (h : Function.update f t thread u = .waiting frame timed notified) :
    thread = .waiting frame timed notified ∨ f u = .waiting frame timed notified := by
  by_cases hu : u = t
  · subst hu
    rw [Function.update_self] at h
    exact Or.inl h
  · rw [Function.update_of_ne hu] at h
    exact Or.inr h

/-- A thread that moved to anything but a wait was not the one waiting. -/
theorem waiting_of_update {f : τ → Thread} {t u : τ} {thread : Thread} {frame : Int}
    {timed notified : Bool} (h : Function.update f t thread u = .waiting frame timed notified)
    (hthread : thread ≠ .waiting frame timed notified) :
    f u = .waiting frame timed notified :=
  (update_waiting h).resolve_left fun hself => hthread hself

/-- A notification changes nothing but the pending wakeup. -/
theorem waiting_of_notify {thread : Thread} {frame : Int} {timed notified : Bool}
    (h : notify thread = .waiting frame timed notified) :
    notified = true ∧ ∃ before, thread = .waiting frame timed before := by
  cases thread with
  | idle => cases h
  | notifying => cases h
  | waiting k timed' before =>
      cases h
      exact ⟨rfl, before, rfl⟩

/-- The producer whose notification is outstanding is still there after another
thread moved. -/
theorem notifying_of_update {s : QueueThreads τ ButtonsType} {t : τ}
    (hne : s.thread t ≠ .notifying) (thread : Thread)
    (h : ∃ u, s.thread u = .notifying) :
    ∃ u, Function.update s.thread t thread u = .notifying := by
  obtain ⟨u, hu⟩ := h
  have hut : u ≠ t := by
    rintro rfl
    exact hne hu
  exact ⟨u, by rw [Function.update_of_ne hut, hu]⟩

/-- Everything `exactly_once` needs: what was returned is the prefix of frames
below the cursor, what was accepted is seen and never accepted again, what is
buffered was accepted, and every unnoticed insertion has its notification
outstanding. -/
structure Inv [Inhabited ButtonsType] (s : QueueThreads τ ButtonsType) : Prop
    extends WaitInv s where
  shift : s.queue.delayFrames = s.queue.initialFrameDelay ∨ s.queue.delayFrames = 0
  cursor_eq : s.queue.expectedFrame = s.returned.length
  returned_frames : s.returned.map Prod.fst = (List.range s.returned.length).map Nat.cast
  returned_default : ∀ frame value, (frame, value) ∈ s.returned →
    frame < s.queue.initialFrameDelay → value = default
  returned_accepted : ∀ frame value, (frame, value) ∈ s.returned →
    s.queue.initialFrameDelay ≤ frame → (frame, value) ∈ s.accepted
  accepted_nodup : (s.accepted.map Prod.fst).Nodup
  accepted_seen : ∀ frame value, (frame, value) ∈ s.accepted → s.queue.Seen frame
  buffered_accepted : ∀ frame value, s.queue.frameButtons[frame]? = some value →
    (frame, value) ∈ s.accepted
  no_lost_wakeup : ∀ t frame timed, s.thread t = .waiting frame timed false →
    frame ∈ s.queue.frameButtons → ∃ u, s.thread u = .notifying

variable [Inhabited ButtonsType]

theorem Inv.of_init {s : QueueThreads τ ButtonsType}
    (hinit : (system τ ButtonsType).init s) : s.Inv := by
  obtain ⟨⟨x, hqueue⟩, hidle, hreturned, haccepted⟩ := hinit
  obtain ⟨d, hshift, hmake⟩ : ∃ d, (d = x ∨ d = 0) ∧ s.queue = InputQueue.make d x := by
    rcases hqueue with h | h
    · exact ⟨x, Or.inl rfl, h⟩
    · exact ⟨0, Or.inr rfl, h⟩
  refine ⟨⟨?_, ?_, ?_⟩, ?_, ?_, ?_, ?_, ?_, ?_, ?_, ?_, ?_⟩
  · rw [hmake]
    exact InputQueue.make_valid d x
  rotate_left 2
  · rw [hmake]
    exact hshift
  all_goals simp [hidle, hreturned, haccepted, hmake, InputQueue.expectedFrame]

theorem Inv.insert {s : QueueThreads τ ButtonsType} (h : s.Inv) {t : τ} {frame : Int}
    {buttons : ButtonsType} (haccepts : s.queue.Accepts frame) :
    (s.insert t frame buttons).Inv := by
  refine ⟨⟨h.valid.insertButtons haccepts buttons, ?_, ?_⟩, h.shift, h.cursor_eq,
    h.returned_frames, h.returned_default, ?_, ?_, ?_, ?_, ?_⟩
  · intro u k timed notified hu
    exact h.waiting_le u k timed notified (waiting_of_update hu (by simp))
  · intro u k timed notified hu
    exact h.waiting_ge u k timed notified (waiting_of_update hu (by simp))
  · intro k value hk hge
    exact List.mem_append_left _ (h.returned_accepted k value hk hge)
  · -- a frame accepted before is seen, and a seen frame is not accepted again
    have hfresh : s.queue.delayedFrame frame ∉ s.accepted.map Prod.fst := by
      intro hmem
      obtain ⟨⟨k, value⟩, hk, hkey⟩ := List.mem_map.mp hmem
      have hseen := h.accepted_seen k value hk
      change k = s.queue.delayedFrame frame at hkey
      rw [hkey] at hseen
      exact haccepts.2.2 hseen
    change ((s.accepted ++ [(s.queue.delayedFrame frame, buttons)]).map Prod.fst).Nodup
    rw [List.map_append, List.nodup_append]
    refine ⟨h.accepted_nodup, by simp, ?_⟩
    intro k hk j hj
    simp only [List.map_cons, List.map_nil, List.mem_singleton] at hj
    subst hj
    intro hkj
    exact hfresh (hkj ▸ hk)
  · intro k value hk
    change (s.queue.insertButtons frame buttons).Seen k
    rw [InputQueue.insertButtons_seen]
    rcases List.mem_append.mp hk with hk | hk
    · exact Or.inr (h.accepted_seen k value hk)
    · simp only [List.mem_singleton, Prod.mk.injEq] at hk
      exact Or.inl hk.1.symm
  · intro k value hk
    change (s.queue.insertButtons frame buttons).frameButtons[k]? = some value at hk
    rw [InputQueue.insertButtons_getElem?] at hk
    by_cases hkey : s.queue.delayedFrame frame = k
    · rw [if_pos hkey] at hk
      cases hk
      exact List.mem_append_right _ (by simp [hkey])
    · rw [if_neg hkey] at hk
      exact List.mem_append_left _ (h.buffered_accepted k value hk)
  · -- whoever has not noticed the new frame will be notified by `t` itself
    intro u k timed _ _
    exact ⟨t, Function.update_self _ _ _⟩

theorem Inv.notifyAll {s : QueueThreads τ ButtonsType} (h : s.Inv) (t : τ) :
    ({ s with thread := Function.update (fun u => notify (s.thread u)) t .idle } :
      QueueThreads τ ButtonsType).Inv := by
  have hwaiting : ∀ u k timed notified,
      Function.update (fun u => notify (s.thread u)) t .idle u = .waiting k timed notified →
      notified = true ∧ ∃ before, s.thread u = .waiting k timed before := by
    intro u k timed notified hu
    have hbefore := waiting_of_update hu (by simp)
    exact waiting_of_notify hbefore
  refine ⟨⟨h.valid, ?_, ?_⟩, h.shift, h.cursor_eq, h.returned_frames, h.returned_default,
    h.returned_accepted, h.accepted_nodup, h.accepted_seen, h.buffered_accepted, ?_⟩
  · intro u k timed notified hu
    obtain ⟨-, before, hbefore⟩ := hwaiting u k timed notified hu
    exact h.waiting_le u k timed before hbefore
  · intro u k timed notified hu
    obtain ⟨-, before, hbefore⟩ := hwaiting u k timed notified hu
    exact h.waiting_ge u k timed before hbefore
  · -- nobody is parked without a wakeup any more
    intro u k timed hu
    exact absurd (hwaiting u k timed false hu).1 Bool.false_ne_true

theorem Inv.handOut {s : QueueThreads τ ButtonsType} (h : s.Inv) {t : τ}
    {value : ButtonsType} (hne : s.thread t ≠ .notifying) (hvalue : s.Offers value) :
    (s.handOut t value).Inv := by
  have hcursor := h.cursor_eq
  have hnew : ∀ k v, (k, v) ∈ (s.handOut t value).returned →
      (k, v) ∈ s.returned ∨ (k = s.queue.expectedFrame ∧ v = value) := by
    intro k v hk
    rcases List.mem_append.mp hk with hk | hk
    · exact Or.inl hk
    · simpa using Or.inr hk
  refine ⟨⟨h.valid.advance, ?_, ?_⟩, h.shift, ?_, ?_, ?_, ?_, h.accepted_nodup, ?_, ?_, ?_⟩
  · intro u k timed notified hu
    have hle := h.waiting_le u k timed notified (waiting_of_update hu (by simp))
    change k ≤ s.queue.advance.latestFrameRequested + 1
    rw [InputQueue.advance_latestFrameRequested]
    simp only [InputQueue.expectedFrame] at hle
    omega
  · intro u k timed notified hu
    exact h.waiting_ge u k timed notified (waiting_of_update hu (by simp))
  · change s.queue.advance.latestFrameRequested + 1 =
      ((s.returned ++ [(s.queue.expectedFrame, value)]).length : Int)
    simp only [InputQueue.expectedFrame] at hcursor
    simp only [InputQueue.advance_latestFrameRequested, List.length_append,
      List.length_singleton, Nat.cast_add, Nat.cast_one]
    omega
  · change (s.returned ++ [(s.queue.expectedFrame, value)]).map Prod.fst =
      (List.range (s.returned ++ [(s.queue.expectedFrame, value)]).length).map Nat.cast
    rw [List.length_append, List.length_singleton, List.range_succ]
    simp [h.returned_frames, hcursor]
  · intro k v hk hlt
    rcases hnew k v hk with hk | ⟨rfl, rfl⟩
    · exact h.returned_default k v hk hlt
    · change s.queue.expectedFrame < s.queue.initialFrameDelay at hlt
      unfold Offers at hvalue
      simp only [InputQueue.buttonsAt, hlt, if_true, Option.some.injEq] at hvalue
      exact hvalue.symm
  · intro k v hk hge
    rcases hnew k v hk with hk | ⟨rfl, rfl⟩
    · exact h.returned_accepted k v hk hge
    · change s.queue.initialFrameDelay ≤ s.queue.expectedFrame at hge
      unfold Offers at hvalue
      simp only [InputQueue.buttonsAt, not_lt.mpr hge, if_false] at hvalue
      exact h.buffered_accepted _ _ hvalue
  · intro k v hk
    have hseen := h.accepted_seen k v hk
    change k ≤ s.queue.advance.latestFrameRequested ∨ k ∈ s.queue.advance.frameButtons
    rw [InputQueue.advance_latestFrameRequested, InputQueue.mem_advance]
    simp only [InputQueue.expectedFrame]
    by_cases hkey : k = s.queue.latestFrameRequested + 1
    · exact Or.inl hkey.le
    · rcases hseen with hle | hmem
      · exact Or.inl (by omega)
      · exact Or.inr ⟨hkey, hmem⟩
  · intro k v hk
    change s.queue.advance.frameButtons[k]? = some v at hk
    rw [InputQueue.advance_getElem?] at hk
    split at hk
    · cases hk
    · exact h.buffered_accepted k v hk
  · intro u k timed hu hmem
    obtain ⟨-, hmem⟩ := (InputQueue.mem_advance _ _).mp hmem
    exact notifying_of_update hne _
      (h.no_lost_wakeup u k timed (waiting_of_update hu (by simp)) hmem)

theorem Inv.park {s : QueueThreads τ ButtonsType} (h : s.Inv) {t : τ} {frame : Int}
    (timed : Bool) (hne : s.thread t ≠ .notifying) (habsent : frame ∉ s.queue.frameButtons)
    (hle : frame ≤ s.queue.expectedFrame) (hge : s.queue.initialFrameDelay ≤ frame) :
    (s.setThread t (.waiting frame timed false)).Inv := by
  refine ⟨⟨h.valid, ?_, ?_⟩, h.shift, h.cursor_eq, h.returned_frames, h.returned_default,
    h.returned_accepted, h.accepted_nodup, h.accepted_seen, h.buffered_accepted, ?_⟩
  · intro u k timed' notified hu
    rcases update_waiting hu with hself | hu
    · cases hself
      exact hle
    · exact h.waiting_le u k timed' notified hu
  · intro u k timed' notified hu
    rcases update_waiting hu with hself | hu
    · cases hself
      exact hge
    · exact h.waiting_ge u k timed' notified hu
  · intro u k timed' hu hmem
    rcases update_waiting hu with hself | hu
    · cases hself
      exact absurd hmem habsent
    · exact notifying_of_update hne _ (h.no_lost_wakeup u k timed' hu hmem)

theorem Inv.giveUp {s : QueueThreads τ ButtonsType} (h : s.Inv) {t : τ}
    (hne : s.thread t ≠ .notifying) : (s.setThread t .idle).Inv := by
  refine ⟨⟨h.valid, ?_, ?_⟩, h.shift, h.cursor_eq, h.returned_frames, h.returned_default,
    h.returned_accepted, h.accepted_nodup, h.accepted_seen, h.buffered_accepted, ?_⟩
  · intro u k timed notified hu
    exact h.waiting_le u k timed notified (waiting_of_update hu (by simp))
  · intro u k timed notified hu
    exact h.waiting_ge u k timed notified (waiting_of_update hu (by simp))
  · intro u k timed hu hmem
    exact notifying_of_update hne _
      (h.no_lost_wakeup u k timed (waiting_of_update hu (by simp)) hmem)

/-- **The invariant is preserved by every step.** -/
theorem Inv.next {s : QueueThreads τ ButtonsType} (h : s.Inv) {a : Action τ ButtonsType}
    (henabled : s.enabled a) : (s.next a).Inv := by
  rcases h.toWaitInv.step_cases henabled with ⟨-, hne, value, hvalue, hnext⟩ |
    ⟨-, hnext | ⟨t, frame, buttons, hacc, hnext⟩ | ⟨t, hnext⟩ |
      ⟨t, frame, timed, hne, habsent, hge, hframe, hnext⟩ | ⟨t, hne, hnext⟩⟩
  -- one lemma for each thing a step can do
  all_goals rw [hnext]
  · exact h.handOut hne hvalue
  · exact h
  · exact h.insert hacc
  · exact h.notifyAll t
  · have hle : frame ≤ s.queue.expectedFrame := by
      rcases hframe with rfl | ⟨timed', notified, hthread⟩
      · exact le_rfl
      · exact h.waiting_le t frame timed' notified hthread
    exact h.park timed hne habsent hle hge
  · exact h.giveUp hne

theorem reachable_inv {s : QueueThreads τ ButtonsType}
    (hreach : (system τ ButtonsType).Reachable s) : s.Inv :=
  hreach.invariant (fun _ => Inv.of_init) (fun _ _ h henabled => h.next henabled)

/-- **Exactly-once delivery, no lost wakeup.**  In every interleaving the frames
handed out are `0, 1, 2, ...` in this order, with the default inside the initial
delay and the value of the one accepted put behind it; the cursor moves by one
and stays below what is buffered; and a parked consumer that has not noticed its
frame has a notification coming. -/
theorem exactly_once {s : QueueThreads τ ButtonsType}
    (hreach : (system τ ButtonsType).Reachable s) :
    s.returned.map Prod.fst = (List.range s.returned.length).map Nat.cast ∧
      (∀ frame value, (frame, value) ∈ s.returned →
        (frame < s.queue.initialFrameDelay → value = default) ∧
          (s.queue.initialFrameDelay ≤ frame → (frame, value) ∈ s.accepted)) ∧
      (s.accepted.map Prod.fst).Nodup ∧
      (∀ frame ∈ s.queue.frameButtons, s.queue.latestFrameRequested < frame) ∧
      (∀ a, s.enabled a →
        (s.next a).queue.latestFrameRequested = s.queue.latestFrameRequested ∨
          (s.next a).queue.latestFrameRequested = s.queue.latestFrameRequested + 1) ∧
      (∀ t frame timed, s.thread t = .waiting frame timed false →
        frame ∈ s.queue.frameButtons → ∃ u, s.thread u = .notifying) := by
  have h := reachable_inv hreach
  refine ⟨h.returned_frames,
    fun frame value hmem => ⟨h.returned_default frame value hmem,
      h.returned_accepted frame value hmem⟩,
    h.accepted_nodup, h.valid.latest_lt, ?_, h.no_lost_wakeup⟩
  intro a henabled
  rcases h.toWaitInv.step_cases henabled with ⟨-, -, value, -, hnext⟩ |
    ⟨-, hnext | ⟨t, frame, buttons, -, hnext⟩ | ⟨t, hnext⟩ |
      ⟨t, frame, timed, -, -, -, -, hnext⟩ | ⟨t, -, hnext⟩⟩
  all_goals rw [hnext]
  · exact Or.inr rfl
  · exact Or.inl rfl
  · exact Or.inl rfl
  · exact Or.inl rfl
  · exact Or.inl rfl
  · exact Or.inl rfl

/-- Two threads that get buttons and one that puts them. -/
inductive Worker
  | consumer
  | rival
  | producer
deriving DecidableEq

/-- A remote queue with one frame of initial delay, no thread inside it yet. -/
def freshThreads : QueueThreads Worker Nat where
  queue := InputQueue.makeRemoteQueue 1
  thread := fun _ => .idle
  returned := []
  accepted := []

theorem freshThreads_reachable : (system Worker Nat).Reachable freshThreads :=
  .init ⟨⟨1, Or.inr rfl⟩, fun _ => rfl, rfl, rfl⟩

/-- A consumer skips the delay frame and parks for frame 1; a producer inserts
it and has released `m_`. -/
def parkedSchedule : List (Action Worker Nat) :=
  [.get .consumer 0 false, .get .consumer 1 false, .put .producer 1 7]

theorem parkedSchedule_schedule : (system Worker Nat).Schedule freshThreads parkedSchedule :=
  ⟨rfl, rfl, rfl, trivial⟩

/-- At the moment the producer has inserted and not yet notified, the parked
consumer is the one `exactly_once` promises a notification. -/
theorem exactly_once_parked :
    ∃ u, (parkedSchedule.foldl next freshThreads).thread u = .notifying :=
  (exactly_once (freshThreads_reachable.foldl parkedSchedule_schedule)).2.2.2.2.2
    .consumer 1 false (by decide) (by decide)

end QueueThreads

end Client
end Netplay
