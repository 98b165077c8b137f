import Netplay.Client.InputQueueThreads

/-!
# Stranded waiters

`GetButtons` checks its frame against the cursor before it waits, and never
again.  So two consumers can wait for one frame, and the slower one is left
behind for good (`stranded_waiter`).  `no_stranded_waiter` gives the runs in which
this does not happen: those in which no frame is handed out while another
consumer is parked.
-/

namespace Netplay
namespace Client
namespace QueueThreads

variable {τ ButtonsType : Type*} [DecidableEq τ] [Inhabited ButtonsType]

/-- Every parked consumer waits for the frame at the cursor. -/
def NoStrandedWaiter (s : QueueThreads τ ButtonsType) : Prop :=
  ∀ t frame timed notified, s.thread t = .waiting frame timed notified →
    frame = s.queue.expectedFrame

/-- A frame is handed over only while no other consumer is parked. -/
def LoneConsumer (s : QueueThreads τ ButtonsType) (a : Action τ ButtonsType) : Prop :=
  s.HandsOver a → ∀ u, u ≠ a.actor → ∀ frame timed notified,
    s.thread u ≠ .waiting frame timed notified

/-- A step that hands nothing over keeps every parked consumer at the cursor. -/
theorem NoStrandedWaiter.next_of_not_handsOver {s : QueueThreads τ ButtonsType}
    (h : s.WaitInv) (hnone : s.NoStrandedWaiter) {a : Action τ ButtonsType}
    (henabled : s.enabled a) (hover : ¬ s.HandsOver a) : (s.next a).NoStrandedWaiter := by
  rcases h.step_cases henabled with ⟨habs, -⟩ |
    ⟨-, hnext | ⟨t, frame, buttons, -, hnext⟩ | ⟨t, hnext⟩ |
      ⟨t, frame, timed, -, -, -, hframe, hnext⟩ | ⟨t, -, hnext⟩⟩
  · exact absurd habs hover
  all_goals rw [hnext]
  · exact hnone
  · intro u k timed notified hu
    exact hnone u k timed notified (waiting_of_update hu (by simp))
  · intro u k timed notified hu
    change Function.update (fun u => notify (s.thread u)) t .idle u = _ at hu
    have hnotified := waiting_of_update hu (by simp)
    obtain ⟨-, before, hbefore⟩ := waiting_of_notify hnotified
    exact hnone u k timed before hbefore
  · -- a consumer parks for the frame at the cursor, or again for its old frame
    intro u k timed' notified hu
    rcases update_waiting hu with hself | hu
    · cases hself
      rcases hframe with hframe | ⟨timed', notified, hthread⟩
      · exact hframe
      · exact hnone t frame timed' notified hthread
    · exact hnone u k timed' notified hu
  · intro u k timed notified hu
    exact hnone u k timed notified (waiting_of_update hu (by simp))

omit [Inhabited ButtonsType] in
/-- A step that hands a frame over strands exactly the other parked consumers:
they waited for this very frame. -/
theorem noStrandedWaiter_handOut_iff {s : QueueThreads τ ButtonsType}
    (hnone : s.NoStrandedWaiter) (t : τ) (value : ButtonsType) :
    (s.handOut t value).NoStrandedWaiter ↔
      ∀ u, u ≠ t → ∀ frame timed notified, s.thread u ≠ .waiting frame timed notified := by
  constructor
  · intro hafter u hu frame timed notified hthread
    have hthread' : (s.handOut t value).thread u = .waiting frame timed notified := by
      change Function.update s.thread t .idle u = _
      rw [Function.update_of_ne hu, hthread]
    have hbefore := hnone u frame timed notified hthread
    -- the cursor has moved on, the consumer has not
    have hmoved := hafter u frame timed notified hthread'
    change frame = s.queue.expectedFrame + 1 at hmoved
    omega
  · intro hlone u frame timed notified hu
    change Function.update s.thread t .idle u = _ at hu
    by_cases hut : u = t
    · subst hut
      rw [Function.update_self] at hu
      cases hu
    · rw [Function.update_of_ne hut] at hu
      exact absurd hu (hlone u hut frame timed notified)

/-- The step lemma in both directions: from a state without stranded waiters, a
step leads to one exactly when it keeps to `LoneConsumer`. -/
theorem noStrandedWaiter_next_iff {s : QueueThreads τ ButtonsType} (h : s.WaitInv)
    (hnone : s.NoStrandedWaiter) {a : Action τ ButtonsType} (henabled : s.enabled a) :
    (s.next a).NoStrandedWaiter ↔ s.LoneConsumer a := by
  by_cases hover : s.HandsOver a
  · rcases h.step_cases henabled with ⟨-, -, value, -, hnext⟩ | ⟨habs, -⟩
    · rw [hnext, noStrandedWaiter_handOut_iff hnone]
      exact ⟨fun hlone _ => hlone, fun hlone => hlone hover⟩
    · exact absurd hover habs
  · exact ⟨fun _ habs => absurd habs hover,
      fun _ => hnone.next_of_not_handsOver h henabled hover⟩

omit [DecidableEq τ] in
/-- A consumer parked at the cursor can still be served: its frame is there, or
a put of it is still accepted. -/
theorem Inv.waiting_served {s : QueueThreads τ ButtonsType} (h : s.Inv)
    (hnone : s.NoStrandedWaiter) {t : τ} {frame : Int} {timed notified : Bool}
    (hthread : s.thread t = .waiting frame timed notified) :
    frame ∈ s.queue.frameButtons ∨ s.queue.Accepts (frame - s.queue.delayFrames) := by
  by_cases hmem : frame ∈ s.queue.frameButtons
  · exact Or.inl hmem
  · have hge := h.waiting_ge t frame timed notified hthread
    have hcursor := hnone t frame timed notified hthread
    have hlatest := h.valid.latest_ge
    have hdelayed : s.queue.delayedFrame (frame - s.queue.delayFrames) = frame := by
      simp [InputQueue.delayedFrame]
    have hunseen : ¬ s.queue.Seen frame := by
      rintro (hle | habs)
      · simp only [InputQueue.expectedFrame] at hcursor
        omega
      · exact hmem habs
    refine Or.inr ⟨?_, by rw [hdelayed]; exact hge, by rw [hdelayed]; exact hunseen⟩
    -- a local queue shifts by its initial delay, a remote queue does not shift
    simp only [InputQueue.expectedFrame] at hcursor
    rcases h.shift with hshift | hshift
    · omega
    · omega

omit [DecidableEq τ] in
/-- The frame at the cursor has not been handed to anybody. -/
theorem Inv.not_returned {s : QueueThreads τ ButtonsType} (h : s.Inv) (value : ButtonsType) :
    (s.queue.expectedFrame, value) ∉ s.returned := by
  intro hmem
  have hframe := List.mem_map_of_mem (f := Prod.fst) hmem
  rw [h.returned_frames, h.cursor_eq] at hframe
  simp at hframe

/-- **No stranded waiter while consumers do not compete.**  In every run that
hands a frame over only while no other consumer is parked, every parked consumer
waits for the frame at the cursor, which nobody else was handed, and it can still
be served; and in these runs a step keeps it so exactly when it meets the
condition. -/
theorem no_stranded_waiter {s : QueueThreads τ ButtonsType}
    (hreach : ((system τ ButtonsType).restrict LoneConsumer).Reachable s) :
    s.NoStrandedWaiter ∧
      (∀ t frame timed notified, s.thread t = .waiting frame timed notified →
        (∀ value, (frame, value) ∉ s.returned) ∧
          (frame ∈ s.queue.frameButtons ∨ s.queue.Accepts (frame - s.queue.delayFrames))) ∧
      (∀ a, s.enabled a → ((s.next a).NoStrandedWaiter ↔ s.LoneConsumer a)) := by
  have hnone : s.NoStrandedWaiter := by
    refine hreach.invariant_of (fun s hs => (reachable_inv hs.of_restrict).toWaitInv) ?_ ?_
    · intro s hinit t frame timed notified hthread
      rw [hinit.2.1 t] at hthread
      cases hthread
    · intro s a h hnone henabled
      exact (noStrandedWaiter_next_iff h hnone henabled.1).mpr henabled.2
  have h := reachable_inv hreach.of_restrict
  refine ⟨hnone, fun t frame timed notified hthread => ⟨fun value => ?_, ?_⟩, ?_⟩
  · rw [hnone t frame timed notified hthread]
    exact h.not_returned value
  · exact h.waiting_served hnone hthread
  · exact fun _ henabled => noStrandedWaiter_next_iff h.toWaitInv hnone henabled

/-- One consumer alone parks for its frame; the frame arrives and it stays at
the cursor. -/
theorem no_stranded_waiter_parked :
    (parkedSchedule.foldl next freshThreads).NoStrandedWaiter := by
  have hinit : ((system Worker Nat).restrict LoneConsumer).Reachable freshThreads :=
    .init ⟨⟨1, Or.inr rfl⟩, fun _ => rfl, rfl, rfl⟩
  have hlone : ((system Worker Nat).restrict LoneConsumer).Schedule freshThreads
      parkedSchedule := by
    refine ⟨⟨rfl, ?_⟩, ⟨rfl, ?_⟩, ⟨rfl, ?_⟩, trivial⟩
    · intro _ u _ frame timed notified hthread
      cases hthread
    · intro _ u _ frame timed notified hthread
      cases hthread
    · intro habs
      exact habs.elim
  exact (no_stranded_waiter (hinit.foldl hlone)).1

/-- Two consumers are admitted for frame 1 and park; the frame arrives and the
faster one takes it. -/
def strandedSchedule : List (Action Worker Nat) :=
  [.get .consumer 0 false, .get .consumer 1 false, .get .rival 1 false, .put .producer 1 7,
    .notifyAll .producer, .resume .consumer, .resume .rival]

/-- The slower consumer is parked for good, in a call that blocks forever: its
frame was handed to the other one, and no put of it is accepted again. -/
theorem stranded_waiter :
    ∃ s, (system Worker Nat).Reachable s ∧ s.thread .rival = .waiting 1 false false ∧
      (1, 7) ∈ s.returned ∧ ¬ s.queue.Accepts 1 ∧ ¬ s.NoStrandedWaiter := by
  have hschedule : (system Worker Nat).Schedule freshThreads strandedSchedule :=
    ⟨rfl, rfl, rfl, rfl, rfl, ⟨1, false, true, rfl⟩, ⟨1, false, true, rfl⟩, trivial⟩
  refine ⟨_, freshThreads_reachable.foldl hschedule, rfl, ?_, ?_, ?_⟩
  · decide
  · decide
  · intro hnone
    have := hnone .rival 1 false false rfl
    revert this
    decide

end QueueThreads

end Client
end Netplay
