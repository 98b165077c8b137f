import Netplay.Client.InputQueueLog
import Netplay.Client.InputQueueThreads
import Netplay.Foundations.Linearizability

/-!
# The input queue is linearizable

The calls that threads make on one queue overlap: a consumer may be parked for as long as it
likes, and a producer has not returned before it has notified.  `RecordedThreads` writes down
each call with its result and its two ends.

A put takes effect when it inserts, a get when it takes its frame; and a get that is going
to time out took effect when it parked.  Nobody knows yet which of the parked calls these
are, so `Explains` keeps all of them in the order, as if they had timed out, and takes a
call out again that finds its frame after all.

* `explains_next`: the order after a step.
* `calls_linearizable`: the calls have the results that `FrameLog` gives one after another.
-/

namespace Netplay
namespace Client

open InputQueue Linearizability

variable {τ ButtonsType : Type*}

/-- A call on a queue. -/
abbrev QueueCall (τ ButtonsType : Type*) := TimedCall τ (Op ButtonsType) (Outcome ButtonsType)

/-- A queue with its threads; the number of steps up to now; when the call began that a
thread is in; and the calls that have taken effect for good. -/
structure RecordedThreads (τ ButtonsType : Type*) where
  threads : QueueThreads τ ButtonsType
  time : ℕ
  invoked : τ → ℕ
  calls : List (QueueCall τ ButtonsType)

namespace RecordedThreads

variable [Inhabited ButtonsType]

/-- The calls whose result a step decides.  A put that inserts has yet to notify. -/
def decided (r : RecordedThreads τ ButtonsType) :
    QueueThreads.Action τ ButtonsType → List (QueueCall τ ButtonsType)
  | .put t frame buttons =>
      let accepted := (r.threads.queue.putButtons frame buttons).1
      [⟨t, .put frame buttons, .put accepted, r.time, if accepted then none else some r.time⟩]
  | .notifyAll _ => []
  | .get t frame _ =>
      let got := r.threads.queue.getButtons frame default
      match got.status with
      | .timeout => []
      | status => [⟨t, .get frame default, .get status got.buttons, r.time, some r.time⟩]
  | .resume t =>
      match r.threads.thread t with
      | .waiting frame _ _ =>
          match r.threads.queue.takeButtons frame with
          | some (buttons, _) =>
              [⟨t, .get frame default, .get .success buttons, r.invoked t, some r.time⟩]
          | none => []
      | _ => []
  | .timeout t =>
      match r.threads.thread t with
      | .waiting frame _ _ =>
          match r.threads.queue.takeButtons frame with
          | some (buttons, _) =>
              [⟨t, .get frame default, .get .success buttons, r.invoked t, some r.time⟩]
          | none => [⟨t, .get frame default, .get .timeout default, r.invoked t, some r.time⟩]
      | _ => []

variable [DecidableEq τ]

/-- When the calls began after a step. -/
def invokedAfter (r : RecordedThreads τ ButtonsType) :
    QueueThreads.Action τ ButtonsType → τ → ℕ
  | .put t _ _ => Function.update r.invoked t r.time
  | .get t _ _ => Function.update r.invoked t r.time
  | _ => r.invoked

/-- The calls recorded before, after a step: the producer that notifies returns. -/
def callsAfter (r : RecordedThreads τ ButtonsType) :
    QueueThreads.Action τ ButtonsType → List (QueueCall τ ButtonsType)
  | .notifyAll t => r.calls.map fun call =>
      if call.caller = t ∧ call.returned = none then call.close r.time else call
  | _ => r.calls

def next (r : RecordedThreads τ ButtonsType) (a : QueueThreads.Action τ ButtonsType) :
    RecordedThreads τ ButtonsType where
  threads := r.threads.next a
  time := r.time + 1
  invoked := r.invokedAfter a
  calls := r.callsAfter a ++ r.decided a

/-- The threads of `QueueThreads`, with their calls recorded. -/
def system (τ ButtonsType : Type*) [DecidableEq τ] [Inhabited ButtonsType] :
    TransitionSystem (RecordedThreads τ ButtonsType) (QueueThreads.Action τ ButtonsType) where
  init := fun r => (QueueThreads.system τ ButtonsType).init r.threads ∧ r.calls = [] ∧
    ∀ t, r.invoked t ≤ r.time
  enabled := fun r => r.threads.enabled
  next := next

theorem reachable_threads {r : RecordedThreads τ ButtonsType}
    (hreach : (system τ ButtonsType).Reachable r) :
    (QueueThreads.system τ ButtonsType).Reachable r.threads := by
  refine (hreach.map RecordedThreads.threads (J := fun _ => True) ?_ ?_).1
  · exact fun r hinit => ⟨hinit.1, trivial⟩
  · exact fun r a _ _ henabled => ⟨⟨a, henabled, rfl⟩, trivial⟩

/-! ### The order -/

/-- The thread is parked. -/
def Waits (r : RecordedThreads τ ButtonsType) (t : τ) : Prop :=
  ∃ frame timed notified, r.threads.thread t = .waiting frame timed notified

/-- The frame that a parked thread waits for. -/
def frameOf : Thread → Int
  | .waiting frame _ _ => frame
  | _ => 0

/-- The call of a parked thread, as if it timed out. -/
def parkedCall (r : RecordedThreads τ ButtonsType) (t : τ) : QueueCall τ ButtonsType :=
  ⟨t, .get (frameOf (r.threads.thread t)) default, .get .timeout default, r.invoked t, none⟩

/-- The order explains the recorded calls and those that are parked, and the queue is where
the log has got to in it. -/
structure Explains (r : RecordedThreads τ ButtonsType) (start log : FrameLog ButtonsType)
    (order : List (QueueCall τ ButtonsType)) (waiters : List τ) : Prop where
  linearizes : Linearizes FrameLog.runOp start log r.time order
  refines : Refines r.threads.queue log
  perm : order.Perm (r.calls ++ waiters.map r.parkedCall)
  nodup : waiters.Nodup
  mem_waiters : ∀ t, t ∈ waiters ↔ r.Waits t
  invoked_le : ∀ t, r.invoked t ≤ r.time

section Steps

variable {r r' : RecordedThreads τ ButtonsType} {start log : FrameLog ButtonsType}
  {order : List (QueueCall τ ButtonsType)} {waiters : List τ} {t : τ} {frame : Int}

/-- Nothing happens to the calls of the other threads. -/
structure Elsewhere (r r' : RecordedThreads τ ButtonsType) (t : τ) : Prop where
  frameOf_eq : ∀ u, u ≠ t → frameOf (r'.threads.thread u) = frameOf (r.threads.thread u)
  waits_iff : ∀ u, u ≠ t → (r'.Waits u ↔ r.Waits u)
  invoked_eq : ∀ u, u ≠ t → r'.invoked u = r.invoked u

omit [DecidableEq τ] in
theorem Elsewhere.map_parkedCall (h : Elsewhere r r' t) (hne : ∀ u ∈ waiters, u ≠ t) :
    waiters.map r'.parkedCall = waiters.map r.parkedCall := by
  refine List.map_congr_left fun u hu => ?_
  rw [parkedCall, parkedCall, h.frameOf_eq u (hne u hu), h.invoked_eq u (hne u hu)]

omit [Inhabited ButtonsType] in
theorem thread_wakeUp_of_ne {s : QueueThreads τ ButtonsType} {otherwise : Thread} {u : τ}
    (hu : u ≠ t) : (s.wakeUp t frame otherwise).thread u = s.thread u := by
  unfold QueueThreads.wakeUp
  cases s.queue.takeButtons frame with
  | none => exact Function.update_of_ne hu ..
  | some taken => exact Function.update_of_ne hu ..

/-- A step leaves the other threads alone, but for their notification. -/
theorem thread_next_of_ne (s : QueueThreads τ ButtonsType)
    (a : QueueThreads.Action τ ButtonsType) {u : τ} (hu : u ≠ a.actor) :
    (s.next a).thread u = s.thread u ∨
      (s.next a).thread u = QueueThreads.notify (s.thread u) := by
  cases a with
  | put t frame buttons =>
      left
      simp only [QueueThreads.next]
      split
      · rfl
      · exact Function.update_of_ne hu ..
  | notifyAll t =>
      right
      simp only [QueueThreads.next]
      exact Function.update_of_ne hu ..
  | get t frame timed =>
      left
      simp only [QueueThreads.next]
      split
      · rfl
      · rfl
      · exact Function.update_of_ne hu ..
  | resume t =>
      left
      simp only [QueueThreads.next]
      split
      · exact thread_wakeUp_of_ne hu
      · rfl
  | timeout t =>
      left
      simp only [QueueThreads.next]
      split
      · exact thread_wakeUp_of_ne hu
      · rfl

theorem elsewhere_next (r : RecordedThreads τ ButtonsType)
    (a : QueueThreads.Action τ ButtonsType) : Elsewhere r (r.next a) a.actor where
  frameOf_eq := by
    intro u hu
    rcases thread_next_of_ne r.threads a hu with hsame | hnotified
    · exact congrArg frameOf hsame
    · refine (congrArg frameOf hnotified).trans ?_
      cases r.threads.thread u <;> rfl
  waits_iff := by
    intro u hu
    unfold Waits
    rcases thread_next_of_ne r.threads a hu with hsame | hnotified
    · rw [show (r.next a).threads.thread u = r.threads.thread u from hsame]
    · rw [show (r.next a).threads.thread u = QueueThreads.notify (r.threads.thread u)
        from hnotified]
      cases r.threads.thread u with
      | idle => exact Iff.rfl
      | notifying => exact Iff.rfl
      | waiting frame timed notified =>
          exact ⟨fun _ => ⟨_, _, _, rfl⟩, fun _ => ⟨_, _, _, rfl⟩⟩
  invoked_eq := by
    intro u hu
    cases a with
    | put t frame buttons => exact Function.update_of_ne hu ..
    | notifyAll t => rfl
    | get t frame timed => exact Function.update_of_ne hu ..
    | resume t => rfl
    | timeout t => rfl

theorem invoked_next_le (h : ∀ t, r.invoked t ≤ r.time)
    (a : QueueThreads.Action τ ButtonsType) (t : τ) :
    (r.next a).invoked t ≤ (r.next a).time := by
  have hold := Nat.le_succ_of_le (h t)
  have hbegins : ∀ actor, Function.update r.invoked actor r.time t ≤ r.time + 1 := by
    intro actor
    rw [Function.update_apply]
    split_ifs
    · exact Nat.le_succ _
    · exact hold
  cases a with
  | put actor frame buttons => exact hbegins actor
  | notifyAll actor => exact hold
  | get actor frame timed => exact hbegins actor
  | resume actor => exact hold
  | timeout actor => exact hold

omit [DecidableEq τ] in
/-- A call takes effect on the queue and on the log. -/
theorem Explains.effect (h : Explains r start log order waiters)
    (call : QueueCall τ ButtonsType) (hinvoked : call.invoked ≤ r.time)
    (hreturned : ∀ time, call.returned = some time → r.time ≤ time)
    {queue : InputQueue ButtonsType} (hop : r.threads.queue.runOp call.op = (call.result, queue)) :
    ∃ log', Linearizes FrameLog.runOp start log' r.time (order ++ [call]) ∧
      Refines queue log' := by
  obtain ⟨houtcome, hrefines⟩ := refines_runOp h.refines call.op
  rw [hop] at houtcome hrefines
  exact ⟨_, h.linearizes.append call hinvoked hreturned (Prod.ext houtcome.symm rfl), hrefines⟩

omit [DecidableEq τ] in
/-- A parked thread is among the waiters, with its call in the order. -/
theorem Explains.split (h : Explains r start log order waiters) (hwaits : r.Waits t) :
    ∃ before after waiters₁ waiters₂, order = before ++ r.parkedCall t :: after ∧
      waiters = waiters₁ ++ t :: waiters₂ ∧
      (before ++ after).Perm (r.calls ++ (waiters₁ ++ waiters₂).map r.parkedCall) := by
  obtain ⟨waiters₁, waiters₂, rfl⟩ := List.append_of_mem ((h.mem_waiters t).mpr hwaits)
  have hperm := h.perm
  rw [List.map_append, List.map_cons, ← List.append_assoc] at hperm
  obtain ⟨before, after, rfl⟩ := List.append_of_mem
    (hperm.mem_iff.mpr (List.mem_append_right _ List.mem_cons_self))
  refine ⟨before, after, waiters₁, waiters₂, rfl, rfl, ?_⟩
  rw [List.map_append, ← List.append_assoc]
  exact (List.perm_middle.symm.trans (hperm.trans List.perm_middle)).cons_inv

/-- The waiters when a thread that does not wait has moved without parking. -/
theorem Explains.mem_waiters_of_not (h : Explains r start log order waiters)
    (helse : Elsewhere r r' t) (hnot : ¬ r.Waits t) (hnot' : ¬ r'.Waits t) (u : τ) :
    u ∈ waiters ↔ r'.Waits u := by
  by_cases hu : u = t
  · subst hu
    exact iff_of_false (mt (h.mem_waiters u).mp hnot) hnot'
  · rw [h.mem_waiters, helse.waits_iff u hu]

/-- The waiters when a parked thread has returned. -/
theorem Explains.mem_waiters_of_split {waiters₁ waiters₂ : List τ}
    (h : Explains r start log order (waiters₁ ++ t :: waiters₂)) (helse : Elsewhere r r' t)
    (hnot' : ¬ r'.Waits t) (u : τ) : u ∈ waiters₁ ++ waiters₂ ↔ r'.Waits u := by
  have hnodup := List.nodup_middle.mp h.nodup
  by_cases hu : u = t
  · subst hu
    exact iff_of_false (List.nodup_cons.mp hnodup).1 hnot'
  · rw [helse.waits_iff u hu, ← h.mem_waiters]
    simp [hu]

/-! ### The steps -/

omit [DecidableEq τ] in
/-- A parked consumer that finds its frame has made a get that succeeds now. -/
theorem runOp_of_takeButtons {s : QueueThreads τ ButtonsType} (hinv : s.WaitInv)
    {timed notified : Bool} (hthread : s.thread t = .waiting frame timed notified)
    {buttons : ButtonsType} {queue : InputQueue ButtonsType}
    (htake : s.queue.takeButtons frame = some (buttons, queue)) (prior : ButtonsType) :
    s.queue.runOp (.get frame prior) = (.get .success buttons, queue) := by
  have hge := hinv.waiting_ge t frame timed notified hthread
  have hle := hinv.waiting_le t frame timed notified hthread
  have hframe : frame = s.queue.expectedFrame := by
    have hmem : frame ∈ s.queue.frameButtons := by
      rw [Std.ExtTreeMap.mem_iff_isSome_getElem?]
      unfold InputQueue.takeButtons at htake
      cases hget : s.queue.frameButtons[frame]? with
      | none =>
          rw [hget] at htake
          cases htake
      | some value => rfl
    have hlt := hinv.valid.latest_lt frame hmem
    rw [InputQueue.expectedFrame] at hle ⊢
    omega
  simp only [InputQueue.runOp, InputQueue.getButtons, ← hframe, ne_eq, not_true_eq_false, if_false,
    not_lt.mpr hge, htake]

omit [Inhabited ButtonsType] [DecidableEq τ] in
/-- A call that takes effect is recorded. -/
theorem perm_record {calls parked : List (QueueCall τ ButtonsType)}
    (hperm : order.Perm (calls ++ parked)) (call : QueueCall τ ButtonsType) :
    (order ++ [call]).Perm ((calls ++ [call]) ++ parked) := by
  refine (hperm.append_right _).trans ?_
  rw [List.append_assoc, List.append_assoc]
  exact List.perm_append_comm.append_left _

/-- There is an order after the step. -/
def Explained (r : RecordedThreads τ ButtonsType) (start : FrameLog ButtonsType) : Prop :=
  ∃ log order waiters, Explains r start log order waiters

omit [Inhabited ButtonsType] [DecidableEq τ] in
theorem not_waits_of_idle (hidle : r.threads.thread t = .idle) : ¬ r.Waits t := by
  rintro ⟨_, _, _, hthread⟩
  cases hidle.symm.trans hthread

/-- A call that takes effect in its first step, by a thread that does not park in it. -/
theorem explains_atOnce (h : Explains r start log order waiters)
    {a : QueueThreads.Action τ ButtonsType} (hactor : a.actor = t) (hnot : ¬ r.Waits t)
    (hnot' : ¬ (r.next a).Waits t) (call : QueueCall τ ButtonsType)
    (hinvoked : call.invoked ≤ r.time)
    (hreturned : ∀ time, call.returned = some time → r.time ≤ time)
    (hop : r.threads.queue.runOp call.op = (call.result, (r.threads.next a).queue))
    (hcalls : (r.next a).calls = r.calls ++ [call]) : Explained (r.next a) start := by
  have helse := elsewhere_next r a
  rw [hactor] at helse
  obtain ⟨log', hlinearizes, hrefines⟩ := h.effect call hinvoked hreturned hop
  refine ⟨log', _, waiters, hlinearizes.mono (Nat.le_succ _), hrefines, ?_, h.nodup,
    h.mem_waiters_of_not helse hnot hnot', invoked_next_le h.invoked_le _⟩
  rw [hcalls, helse.map_parkedCall fun u hu => ?_]
  · exact perm_record h.perm _
  · rintro rfl
    exact hnot ((h.mem_waiters _).mp hu)

theorem explains_put (h : Explains r start log order waiters)
    (hidle : r.threads.thread t = .idle) (frame : Int) (buttons : ButtonsType) :
    Explained (r.next (.put t frame buttons)) start := by
  have hmoved : (r.threads.next (.put t frame buttons)).queue =
      (r.threads.queue.putButtons frame buttons).2 ∧
        ¬ (r.next (.put t frame buttons)).Waits t := by
    unfold Waits
    simp only [next, QueueThreads.next]
    cases hput : r.threads.queue.putButtons frame buttons with
    | mk accepted queue =>
        cases accepted with
        | false =>
            have hsame := putButtons_refused (congrArg Prod.fst hput)
            rw [hput] at hsame
            exact ⟨hsame.symm, not_waits_of_idle hidle⟩
        | true =>
            refine ⟨rfl, ?_⟩
            rintro ⟨_, _, _, hthread⟩
            simp only [Function.update_self] at hthread
            cases hthread
  refine explains_atOnce h rfl (not_waits_of_idle hidle) hmoved.2 ⟨t, .put frame buttons,
    .put (r.threads.queue.putButtons frame buttons).1, r.time,
    if (r.threads.queue.putButtons frame buttons).1 then none else some r.time⟩ (le_refl _) ?_ ?_
    rfl
  · intro time htime
    split_ifs at htime
    exact (Option.some.inj htime).le
  · rw [hmoved.1]
    rfl

/-- The notification ends the call of its producer. -/
theorem explains_notifyAll (h : Explains r start log order waiters)
    (hnotifying : r.threads.thread t = .notifying) : Explained (r.next (.notifyAll t)) start := by
  have helse := elsewhere_next r (.notifyAll t)
  have hnot : ¬ r.Waits t := by
    rintro ⟨_, _, _, hthread⟩
    cases hnotifying.symm.trans hthread
  have hnot' : ¬ (r.next (.notifyAll t)).Waits t := by
    rintro ⟨_, _, _, hthread⟩
    simp only [next, QueueThreads.next, Function.update_self] at hthread
    cases hthread
  have hne : ∀ u ∈ waiters, u ≠ t := by
    rintro u hu rfl
    exact hnot ((h.mem_waiters u).mp hu)
  have hlinearizes := h.linearizes.map_close fun call => call.caller = t ∧ call.returned = none
  refine ⟨log, _, waiters, hlinearizes.mono (Nat.le_succ _), h.refines, ?_, h.nodup,
    h.mem_waiters_of_not helse hnot hnot', invoked_next_le h.invoked_le _⟩
  rw [helse.map_parkedCall hne]
  have hclosed := h.perm.map fun call : QueueCall τ ButtonsType =>
    if call.caller = t ∧ call.returned = none then call.close r.time else call
  rw [List.map_append, List.map_map] at hclosed
  have hparked : (waiters.map ((fun call : QueueCall τ ButtonsType =>
      if call.caller = t ∧ call.returned = none then call.close r.time else call) ∘
        r.parkedCall)) = waiters.map r.parkedCall := by
    refine List.map_congr_left fun u hu => ?_
    exact if_neg fun hcaller => hne u hu hcaller.1
  rw [hparked] at hclosed
  show List.Perm _ ((_ ++ []) ++ _)
  rw [List.append_nil]
  exact hclosed

/-- A get that returns at once. -/
theorem explains_get_returns (h : Explains r start log order waiters) (hinv : r.threads.WaitInv)
    (hidle : r.threads.thread t = .idle) (timed : Bool)
    (hreturns : (r.threads.queue.getButtons frame default).status ≠ .timeout) :
    Explained (r.next (.get t frame timed)) start := by
  have hmoved : (r.threads.next (.get t frame timed)).queue =
      (r.threads.queue.getButtons frame default).queue ∧
        (r.threads.next (.get t frame timed)).thread = r.threads.thread ∧
        r.decided (.get t frame timed) = [⟨t, .get frame default,
          .get (r.threads.queue.getButtons frame default).status
            (r.threads.queue.getButtons frame default).buttons, r.time, some r.time⟩] := by
    cases hstatus : (r.threads.queue.getButtons frame default).status with
    | success =>
        refine ⟨?_, ?_, ?_⟩
        all_goals simp only [QueueThreads.next, decided, hstatus]
    | unexpectedFrame =>
        have hfailed : (r.threads.queue.getButtons frame default).status ≠ .success := by
          rw [hstatus]
          decide
        refine ⟨?_, ?_, ?_⟩
        · simp only [QueueThreads.next, hstatus]
          exact (hinv.valid.getButtons_failed hfailed).2.symm
        · simp only [QueueThreads.next, hstatus]
        · simp only [decided, hstatus]
    | timeout => exact absurd hstatus hreturns
  obtain ⟨hqueue, hthread, hdecided⟩ := hmoved
  have hidle' : (r.next (.get t frame timed)).threads.thread t = .idle := by
    rw [show (r.next (.get t frame timed)).threads.thread = _ from hthread]
    exact hidle
  refine explains_atOnce h rfl (not_waits_of_idle hidle) (not_waits_of_idle hidle')
    ⟨t, .get frame default, .get (r.threads.queue.getButtons frame default).status
      (r.threads.queue.getButtons frame default).buttons, r.time, some r.time⟩ (le_refl _)
    (fun time htime => (Option.some.inj htime).le) ?_ ?_
  · rw [hqueue]
    rfl
  · show r.calls ++ r.decided (.get t frame timed) = _
    rw [hdecided]

/-- A get that parks takes its place in the order, as a call that times out. -/
theorem explains_get_parks (h : Explains r start log order waiters) (hinv : r.threads.WaitInv)
    (hidle : r.threads.thread t = .idle) (timed : Bool)
    (hparks : (r.threads.queue.getButtons frame default).status = .timeout) :
    Explained (r.next (.get t frame timed)) start := by
  have helse := elsewhere_next r (.get t frame timed)
  have hnext : r.threads.next (.get t frame timed) =
      r.threads.setThread t (.waiting frame timed false) := by
    simp only [QueueThreads.next, hparks]
  have hnot := not_waits_of_idle hidle
  have hthread : (r.next (.get t frame timed)).threads.thread t = .waiting frame timed false := by
    rw [show (r.next (.get t frame timed)).threads = _ from hnext]
    exact Function.update_self ..
  have hparked : (r.next (.get t frame timed)).parkedCall t =
      ⟨t, .get frame default, .get .timeout default, r.time, none⟩ := by
    rw [parkedCall, hthread]
    simp only [next, invokedAfter, Function.update_self, frameOf]
  have hfailed : (r.threads.queue.getButtons frame default).status ≠ .success := by
    rw [hparks]
    decide
  obtain ⟨hbuttons, hsame⟩ := hinv.valid.getButtons_failed hfailed
  have hop : r.threads.queue.runOp (.get frame default) =
      (.get .timeout default, r.threads.queue) := by
    simp only [InputQueue.runOp, hparks, hbuttons, hsame]
  obtain ⟨log', hlinearizes, hrefines⟩ := h.effect ⟨t, .get frame default,
    .get .timeout default, r.time, none⟩ (le_refl _) (fun _ htime => by cases htime) hop
  refine ⟨log', _, t :: waiters, hlinearizes.mono (Nat.le_succ _), ?_, ?_, ?_, ?_,
    invoked_next_le h.invoked_le _⟩
  · rw [show (r.next (.get t frame timed)).threads = _ from hnext]
    exact hrefines
  · rw [List.map_cons, hparked, helse.map_parkedCall fun u hu => ?_]
    · show List.Perm _ ((r.calls ++ r.decided (.get t frame timed)) ++ _)
      have hdecided : r.decided (.get t frame timed) = [] := by
        simp only [decided, hparks]
      rw [hdecided, List.append_nil]
      exact (List.perm_append_singleton _ _).trans ((h.perm.cons _).trans List.perm_middle.symm)
    · rintro rfl
      exact hnot ((h.mem_waiters _).mp hu)
  · exact List.nodup_cons.mpr ⟨mt (h.mem_waiters t).mp hnot, h.nodup⟩
  · intro u
    by_cases hu : u = t
    · subst hu
      exact iff_of_true List.mem_cons_self ⟨_, _, _, hthread⟩
    · rw [helse.waits_iff u hu, ← h.mem_waiters, List.mem_cons, or_iff_right hu]

omit [DecidableEq τ] in
/-- A get that times out does nothing to the log. -/
theorem timedOut_idle (state : FrameLog ButtonsType) (frame : Int)
    (hresult : (state.runOp (.get frame default)).1 = .get .timeout default) :
    (state.runOp (.get frame default)).2 = state := by
  simp only [FrameLog.runOp, FrameLog.get] at hresult ⊢
  split_ifs at hresult ⊢
  · rfl
  · cases hresult
  · cases hentry : state.history.entry frame with
    | none => rfl
    | some value =>
        rw [hentry] at hresult
        cases hresult

/-- A parked get that finds its frame leaves its place, and takes effect now. -/
theorem explains_found (h : Explains r start log order waiters) (hinv : r.threads.WaitInv)
    {timed notified : Bool} (hthread : r.threads.thread t = .waiting frame timed notified)
    {buttons : ButtonsType} {queue : InputQueue ButtonsType}
    (htake : r.threads.queue.takeButtons frame = some (buttons, queue))
    {a : QueueThreads.Action τ ButtonsType} (hactor : a.actor = t) {otherwise : Thread}
    (hnext : r.threads.next a = r.threads.wakeUp t frame otherwise)
    (hcalls : (r.next a).calls = r.calls ++
      [⟨t, .get frame default, .get .success buttons, r.invoked t, some r.time⟩]) :
    Explained (r.next a) start := by
  have helse := elsewhere_next r a
  rw [hactor] at helse
  have hqueue : (r.next a).threads.queue = queue := by
    rw [show (r.next a).threads = _ from hnext]
    simp only [QueueThreads.wakeUp, htake]
  have hidle : (r.next a).threads.thread t = .idle := by
    rw [show (r.next a).threads = _ from hnext]
    simp only [QueueThreads.wakeUp, htake, Function.update_self]
  have hnot' := not_waits_of_idle hidle
  obtain ⟨before, after, waiters₁, waiters₂, rfl, rfl, hperm⟩ :=
    h.split ⟨frame, timed, notified, hthread⟩
  have hremoved := h.linearizes.remove fun state => timedOut_idle state _
  obtain ⟨houtcome, hrefines⟩ := refines_runOp h.refines (.get frame default)
  rw [runOp_of_takeButtons hinv hthread htake] at houtcome hrefines
  refine ⟨_, _, waiters₁ ++ waiters₂, (hremoved.append
    ⟨t, .get frame default, .get .success buttons, r.invoked t, some r.time⟩ (h.invoked_le t)
    (fun time htime => (Option.some.inj htime).le)
    (Prod.ext houtcome.symm rfl)).mono (Nat.le_succ _), ?_, ?_,
    (List.nodup_cons.mp (List.nodup_middle.mp h.nodup)).2, h.mem_waiters_of_split helse hnot',
    invoked_next_le h.invoked_le a⟩
  · rw [hqueue]
    exact hrefines
  · rw [hcalls, helse.map_parkedCall fun u hu => ?_]
    · exact perm_record hperm _
    · rintro rfl
      exact (List.nodup_cons.mp (List.nodup_middle.mp h.nodup)).1 hu

/-- A parked get that does not find its frame stays, or has timed out where it stands. -/
theorem explains_timedOut (h : Explains r start log order waiters)
    {timed notified : Bool} (hthread : r.threads.thread t = .waiting frame timed notified)
    (htake : r.threads.queue.takeButtons frame = none) :
    Explained (r.next (.timeout t)) start := by
  have helse := elsewhere_next r (.timeout t)
  have hnext : r.threads.next (.timeout t) = r.threads.setThread t .idle := by
    simp only [QueueThreads.next, hthread, QueueThreads.wakeUp, htake]
  have hnot' : ¬ (r.next (.timeout t)).Waits t := by
    rintro ⟨_, _, _, hwaits⟩
    rw [show (r.next (.timeout t)).threads = _ from hnext] at hwaits
    simp only [QueueThreads.setThread, Function.update_self] at hwaits
    cases hwaits
  obtain ⟨before, after, waiters₁, waiters₂, rfl, rfl, hperm⟩ :=
    h.split ⟨frame, timed, notified, hthread⟩
  refine ⟨log, _, waiters₁ ++ waiters₂, h.linearizes.close.mono (Nat.le_succ _), ?_, ?_,
    (List.nodup_cons.mp (List.nodup_middle.mp h.nodup)).2, h.mem_waiters_of_split helse hnot',
    invoked_next_le h.invoked_le _⟩
  · rw [show (r.next (.timeout t)).threads = _ from hnext]
    exact h.refines
  · have hdecided : r.decided (.timeout t) = [(r.parkedCall t).close r.time] := by
      simp only [decided, parkedCall, hthread, htake, frameOf, TimedCall.close]
    rw [helse.map_parkedCall fun u hu => ?_]
    · show List.Perm _ ((r.calls ++ r.decided (.timeout t)) ++ _)
      rw [hdecided]
      exact (List.perm_middle.trans ((List.perm_append_singleton _ _).symm)).trans
        (perm_record hperm _)
    · rintro rfl
      exact (List.nodup_cons.mp (List.nodup_middle.mp h.nodup)).1 hu

theorem explains_waitsOn (h : Explains r start log order waiters)
    {timed notified : Bool} (hthread : r.threads.thread t = .waiting frame timed notified)
    (htake : r.threads.queue.takeButtons frame = none) :
    Explained (r.next (.resume t)) start := by
  have helse := elsewhere_next r (.resume t)
  have hnext : r.threads.next (.resume t) = r.threads.setThread t (.waiting frame timed false) := by
    simp only [QueueThreads.next, hthread, QueueThreads.wakeUp, htake]
  have hthread' : (r.next (.resume t)).threads.thread t = .waiting frame timed false := by
    rw [show (r.next (.resume t)).threads = _ from hnext]
    exact Function.update_self ..
  have hparked : waiters.map (r.next (.resume t)).parkedCall = waiters.map r.parkedCall := by
    refine List.map_congr_left fun u hu => ?_
    by_cases hself : u = t
    · subst hself
      rw [parkedCall, parkedCall, hthread, hthread']
      rfl
    · rw [parkedCall, parkedCall, helse.frameOf_eq u hself, helse.invoked_eq u hself]
  refine ⟨log, order, waiters, h.linearizes.mono (Nat.le_succ _), ?_, ?_, h.nodup, ?_,
    invoked_next_le h.invoked_le _⟩
  · rw [show (r.next (.resume t)).threads = _ from hnext]
    exact h.refines
  · have hdecided : r.decided (.resume t) = [] := by
      simp only [decided, hthread, htake]
    show List.Perm _ ((r.calls ++ r.decided (.resume t)) ++ _)
    rw [hdecided, List.append_nil, hparked]
    exact h.perm
  · intro u
    by_cases hself : u = t
    · subst hself
      exact iff_of_true ((h.mem_waiters u).mpr ⟨_, _, _, hthread⟩) ⟨_, _, _, hthread'⟩
    · rw [h.mem_waiters, helse.waits_iff u hself]

theorem explains_next (h : Explained r start) (hinv : r.threads.WaitInv)
    {a : QueueThreads.Action τ ButtonsType} (henabled : r.threads.enabled a) :
    Explained (r.next a) start := by
  obtain ⟨log, order, waiters, h⟩ := h
  cases a with
  | put t frame buttons => exact explains_put h henabled frame buttons
  | notifyAll t => exact explains_notifyAll h henabled
  | get t frame timed =>
      by_cases hparks : (r.threads.queue.getButtons frame default).status = .timeout
      · exact explains_get_parks h hinv henabled timed hparks
      · exact explains_get_returns h hinv henabled timed hparks
  | resume t =>
      obtain ⟨frame, timed, notified, hthread⟩ := henabled
      cases htake : r.threads.queue.takeButtons frame with
      | none => exact explains_waitsOn h hthread htake
      | some taken =>
          have hnext : r.threads.next (.resume t) =
              r.threads.wakeUp t frame (.waiting frame timed false) := by
            simp only [QueueThreads.next, hthread]
          refine explains_found h hinv hthread htake rfl hnext ?_
          simp only [next, callsAfter, decided, hthread, htake]
  | timeout t =>
      obtain ⟨frame, notified, hthread⟩ := henabled
      cases htake : r.threads.queue.takeButtons frame with
      | none => exact explains_timedOut h hthread htake
      | some taken =>
          have hnext : r.threads.next (.timeout t) = r.threads.wakeUp t frame .idle := by
            simp only [QueueThreads.next, hthread]
          refine explains_found h hinv hthread htake rfl hnext ?_
          simp only [next, callsAfter, decided, hthread, htake]

/-! ### Every run -/

theorem explained_init (hinit : (system τ ButtonsType).init r) :
    ∃ delay initial, Explained r (.empty delay initial) := by
  obtain ⟨⟨⟨x, hqueue⟩, hidle, -, -⟩, hcalls, hinvoked⟩ := hinit
  obtain ⟨delay, hmake⟩ : ∃ delay, r.threads.queue = InputQueue.make delay x := by
    rcases hqueue with hlocal | hremote
    · exact ⟨x, hlocal⟩
    · exact ⟨0, hremote⟩
  refine ⟨delay, x, _, [], [], .nil _ _ _, ?_, ?_, .nil, fun t => ?_, hinvoked⟩
  · rw [hmake]
    exact refines_make delay x
  · rw [hcalls]
    exact .nil
  · refine iff_of_false List.not_mem_nil ?_
    rintro ⟨_, _, _, hthread⟩
    cases (hidle t).symm.trans hthread

theorem reachable_explained (hreach : (system τ ButtonsType).Reachable r) :
    ∃ delay initial, Explained r (.empty delay initial) := by
  refine hreach.invariant_of (J := fun r => r.threads.WaitInv) (fun r hs =>
    (QueueThreads.reachable_inv (reachable_threads hs)).toWaitInv) (fun _ => explained_init) ?_
  rintro r a hinv ⟨delay, initial, h⟩ henabled
  exact ⟨delay, initial, explains_next h hinv henabled⟩

omit [DecidableEq τ] in
/-- Calls do not change the two constants of the log. -/
theorem runOp_constants (log : FrameLog ButtonsType) (op : Op ButtonsType) :
    (log.runOp op).2.delay = log.delay ∧ (log.runOp op).2.initial = log.initial := by
  cases op with
  | put frame buttons =>
      simp only [FrameLog.runOp, FrameLog.put]
      split_ifs
      · exact ⟨rfl, rfl⟩
      · exact ⟨rfl, rfl⟩
  | get frame buttons =>
      simp only [FrameLog.runOp, FrameLog.get]
      split_ifs
      · exact ⟨rfl, rfl⟩
      · exact ⟨rfl, rfl⟩
      · cases log.history.entry frame with
        | none => exact ⟨rfl, rfl⟩
        | some value => exact ⟨rfl, rfl⟩

/-- **Linearizability.**  However the calls of any number of threads overlap, they can be
put in one order, in which no call stands before one that had returned when it was invoked,
such that a write-once log with a read cursor gives one after another the results that the
threads got, and the queue then holds what the log has left to read. -/
theorem calls_linearizable (hreach : (system τ ButtonsType).Reachable r) :
    ∃ (order : List (QueueCall τ ButtonsType)) (log : FrameLog ButtonsType),
      order.Perm r.calls ∧ InRealTime order ∧
        Replays FrameLog.runOp
          (.empty r.threads.queue.delayFrames r.threads.queue.initialFrameDelay) order log ∧
        Refines r.threads.queue log := by
  obtain ⟨delay, initial, log, order, waiters, h⟩ := reachable_explained hreach
  obtain ⟨order', hperm, hlinearizes⟩ := h.linearizes.remove_all h.perm
    (List.forall_mem_map.mpr fun t _ state => timedOut_idle state _)
  obtain ⟨hdelay, hinitial⟩ := hlinearizes.replays.invariant
    (P := fun log => log.delay = delay ∧ log.initial = initial)
    (fun log op hlog => ⟨(runOp_constants log op).1.trans hlog.1,
      (runOp_constants log op).2.trans hlog.2⟩) ⟨rfl, rfl⟩
  rw [h.refines.delay_eq, h.refines.initial_eq, hdelay, hinitial]
  exact ⟨order', log, hperm, hlinearizes.inRealTime, hlinearizes.replays, h.refines⟩

end Steps

/-- A consumer parks, a producer inserts, and both return. -/
def parkedReturns : List (QueueThreads.Action QueueThreads.Worker Nat) :=
  QueueThreads.parkedSchedule ++ [.resume .consumer, .notifyAll .producer]

def freshCalls : RecordedThreads QueueThreads.Worker Nat where
  threads := QueueThreads.freshThreads
  time := 0
  invoked := fun _ => 0
  calls := []

theorem calls_linearizable_parked :
    ∃ (order : List (QueueCall QueueThreads.Worker Nat)) (log : FrameLog Nat),
      order.Perm (parkedReturns.foldl next freshCalls).calls ∧ InRealTime order ∧
        Replays FrameLog.runOp (.empty 0 1) order log := by
  have hinit : (system QueueThreads.Worker Nat).init freshCalls :=
    ⟨⟨⟨1, Or.inr rfl⟩, fun _ => rfl, rfl, rfl⟩, rfl, fun _ => Nat.le_refl 0⟩
  have hschedule : (system QueueThreads.Worker Nat).Schedule freshCalls parkedReturns :=
    ⟨rfl, rfl, rfl, ⟨_, _, _, rfl⟩, rfl, trivial⟩
  have hreach : (system QueueThreads.Worker Nat).Reachable (parkedReturns.foldl next freshCalls) :=
    TransitionSystem.Reachable.foldl (.init hinit) hschedule
  obtain ⟨order, log, hperm, hreal, hreplays, -⟩ := calls_linearizable hreach
  exact ⟨order, log, hperm, hreal, hreplays⟩

end RecordedThreads

end Client
end Netplay
