import Netplay.Client.InputQueue
import Netplay.Foundations.WriteOnceLog

/-!
# The input queue as a write-once log with a read cursor

`FrameLog` says what an input queue is for: frames are written once, never
forgotten, and read in order by one cursor.  The queue of the source keeps much
less (it drops what was read) and decides by two different tests which frames it
has already had.  `Refines` relates the two; `refines_putButtons` and
`refines_getButtons` are the simulation steps, and `refines_runOps` carries them
over every sequence of calls.
-/

namespace Netplay
namespace Client

/-- The reference: shift `delay`, initial delay `initial`, the history of all
accepted frames, and the next frame to read. -/
structure FrameLog (ButtonsType : Type*) where
  delay : Int
  initial : Int
  history : WriteOnceLog Int ButtonsType
  cursor : Int

namespace FrameLog

variable {ButtonsType : Type*}

/-- No frame written, none read. -/
def empty (delay initial : Int) : FrameLog ButtonsType where
  delay := delay
  initial := initial
  history := ⊥
  cursor := 0

/-- A put records a frame that is outside the initial delay and not recorded yet. -/
def put (log : FrameLog ButtonsType) (frame : Int) (buttons : ButtonsType) :
    Bool × FrameLog ButtonsType :=
  if 0 ≤ frame ∧ max log.initial 0 ≤ frame + log.delay ∧
      (log.history.entry (frame + log.delay)).isNone then
    (true, { log with history := log.history.write (frame + log.delay) buttons })
  else
    (false, log)

/-- A get serves the cursor's frame and no other. -/
def get [Inhabited ButtonsType] (log : FrameLog ButtonsType) (frame : Int)
    (buttons : ButtonsType) :
    InputQueue.GetButtonsStatus × ButtonsType × FrameLog ButtonsType :=
  if frame ≠ log.cursor then
    (.unexpectedFrame, buttons, log)
  else if frame < log.initial then
    (.success, default, { log with cursor := log.cursor + 1 })
  else
    match log.history.entry frame with
    | some value => (.success, value, { log with cursor := log.cursor + 1 })
    | none => (.timeout, buttons, log)

/-- The reference erases nothing. -/
theorem history_le_put (log : FrameLog ButtonsType) (frame : Int) (buttons : ButtonsType) :
    log.history ≤ (log.put frame buttons).2.history := by
  unfold put
  split
  · rename_i h
    exact WriteOnceLog.le_write (Option.isNone_iff_eq_none.mp h.2.2) buttons
  · exact le_rfl

end FrameLog

namespace InputQueue

variable {ButtonsType : Type*}

/-- The simulation relation: the queue holds the part of the history that is
still to be read, and everything behind the cursor has been in the history. -/
structure Refines (queue : InputQueue ButtonsType) (log : FrameLog ButtonsType) : Prop where
  delay_eq : queue.delayFrames = log.delay
  initial_eq : queue.initialFrameDelay = log.initial
  cursor_eq : queue.latestFrameRequested + 1 = log.cursor
  cursor_nonneg : 0 ≤ log.cursor
  recorded_ge : ∀ k value, log.history.entry k = some value → max log.initial 0 ≤ k
  delivered : ∀ k, max log.initial 0 ≤ k → k < log.cursor → (log.history.entry k).isSome
  buffered : ∀ k, queue.frameButtons[k]? = if log.cursor ≤ k then log.history.entry k else none

/-- A put that is refused leaves no trace. -/
theorem putButtons_refused {queue : InputQueue ButtonsType} {frame : Int}
    {buttons : ButtonsType} (hfail : (queue.putButtons frame buttons).1 = false) :
    (queue.putButtons frame buttons).2 = queue := by
  rw [putButtons_eq] at hfail ⊢
  split at hfail
  · cases hfail
  · rename_i hnot
    rw [if_neg hnot]

theorem refines_make (d i : Int) :
    Refines (make d i : InputQueue ButtonsType) (FrameLog.empty d i) where
  delay_eq := rfl
  initial_eq := rfl
  cursor_eq := rfl
  cursor_nonneg := le_rfl
  recorded_ge := by
    intro k value h
    simp [FrameLog.empty] at h
  delivered := by
    intro k hk hlt
    simp only [FrameLog.empty] at hk hlt
    omega
  buffered := by
    intro k
    simp only [make_frameButtons, Std.ExtTreeMap.getElem?_empty]
    split
    · rfl
    · rfl

/-- The two tests of the queue ("still buffered", "already requested") together
say that the frame is in the history. -/
theorem Refines.seen_iff {queue : InputQueue ButtonsType} {log : FrameLog ButtonsType}
    (h : Refines queue log) {k : Int} (hk : max log.initial 0 ≤ k) :
    queue.Seen k ↔ (log.history.entry k).isSome := by
  have hcursor := h.cursor_eq
  have hbuffered := h.buffered k
  unfold Seen
  rw [Std.ExtTreeMap.mem_iff_isSome_getElem?, hbuffered]
  -- behind the cursor everything has been in the history, ahead of it the map
  -- holds the history itself
  by_cases hread : k < log.cursor
  · have hdelivered := h.delivered k hk hread
    constructor
    · intro _
      exact hdelivered
    · intro _
      exact Or.inl (by omega)
  · have hle : log.cursor ≤ k := by omega
    rw [if_pos hle]
    constructor
    · rintro (hlatest | hsome)
      · omega
      · exact hsome
    · exact Or.inr

/-- The queue accepts exactly the frames the reference records. -/
theorem Refines.accepts_iff {queue : InputQueue ButtonsType} {log : FrameLog ButtonsType}
    (h : Refines queue log) (frame : Int) :
    queue.Accepts frame ↔
      0 ≤ frame ∧ max log.initial 0 ≤ frame + log.delay ∧
        (log.history.entry (frame + log.delay)).isNone := by
  have hdelayed : queue.delayedFrame frame = frame + log.delay := by
    rw [delayedFrame, h.delay_eq]
  have hcursor := h.cursor_eq
  have hnonneg := h.cursor_nonneg
  unfold Accepts
  rw [hdelayed, h.initial_eq]
  constructor
  · rintro ⟨hframe, hinitial, hseen⟩
    -- a negative delayed frame is behind the cursor from the start
    have hge : max log.initial 0 ≤ frame + log.delay := by
      have : ¬ frame + log.delay ≤ queue.latestFrameRequested := fun hle => hseen (Or.inl hle)
      omega
    refine ⟨hframe, hge, ?_⟩
    rw [h.seen_iff hge] at hseen
    simpa using hseen
  · rintro ⟨hframe, hge, hnone⟩
    refine ⟨hframe, by omega, ?_⟩
    rw [h.seen_iff hge]
    simpa using hnone

/-- Simulation step for `PutButtons`: same answer, related states. -/
theorem refines_putButtons {queue : InputQueue ButtonsType} {log : FrameLog ButtonsType}
    (h : Refines queue log) (frame : Int) (buttons : ButtonsType) :
    (queue.putButtons frame buttons).1 = (log.put frame buttons).1 ∧
      Refines (queue.putButtons frame buttons).2 (log.put frame buttons).2 := by
  by_cases hacc : queue.Accepts frame
  · have hlog := (h.accepts_iff frame).mp hacc
    rw [putButtons_of_accepts hacc, FrameLog.put, if_pos hlog]
    obtain ⟨-, hge, hnone⟩ := hlog
    have habsent : log.history.entry (frame + log.delay) = none := by simpa using hnone
    have hle := WriteOnceLog.le_write habsent buttons
    -- an absent frame outside the initial delay cannot lie behind the cursor
    have hahead : log.cursor ≤ frame + log.delay := by
      by_contra hlt
      have := h.delivered _ hge (by omega)
      simp [habsent] at this
    refine ⟨rfl, ⟨h.delay_eq, h.initial_eq, h.cursor_eq, h.cursor_nonneg, ?_, ?_, ?_⟩⟩
    · intro k value hk
      -- the new entry is outside the initial delay, the old ones were
      by_cases hkey : k = frame + log.delay
      · rw [hkey]
        exact hge
      · rw [WriteOnceLog.write_entry_of_ne _ _ hkey] at hk
        exact h.recorded_ge k value hk
    · intro k hk hlt
      obtain ⟨value, hvalue⟩ := Option.isSome_iff_exists.mp (h.delivered k hk hlt)
      rw [WriteOnceLog.entry_of_le hle hvalue]
      rfl
    · intro k
      simp only [insertButtons_getElem?, delayedFrame, h.delay_eq, WriteOnceLog.write_entry,
        h.buffered k]
      by_cases hkey : frame + log.delay = k
      · subst hkey
        simp [hahead]
      · simp [hkey, Ne.symm hkey]
  · have hlog : ¬ _ := fun hyes => hacc ((h.accepts_iff frame).mpr hyes)
    rw [putButtons_of_not_accepts hacc, FrameLog.put, if_neg hlog]
    exact ⟨rfl, h⟩

/-- A queue that refines a log is valid. -/
theorem Refines.valid {queue : InputQueue ButtonsType} {log : FrameLog ButtonsType}
    (h : Refines queue log) : queue.Valid := by
  have hkey : ∀ k ∈ queue.frameButtons, log.cursor ≤ k ∧ (log.history.entry k).isSome := by
    intro k hk
    rw [Std.ExtTreeMap.mem_iff_isSome_getElem?, h.buffered k] at hk
    by_cases hle : log.cursor ≤ k
    · rw [if_pos hle] at hk
      exact ⟨hle, hk⟩
    · rw [if_neg hle] at hk
      simp at hk
  have hcursor := h.cursor_eq
  have hnonneg := h.cursor_nonneg
  constructor
  · omega
  · intro k hk
    have := (hkey k hk).1
    omega
  · intro k hk
    obtain ⟨value, hvalue⟩ := Option.isSome_iff_exists.mp (hkey k hk).2
    have := h.recorded_ge k value hvalue
    rw [h.initial_eq]
    omega

/-- Moving both cursors past a frame that has a value keeps the relation. -/
theorem Refines.advance {queue : InputQueue ButtonsType} {log : FrameLog ButtonsType}
    (h : Refines queue log)
    (hvalue : max log.initial 0 ≤ log.cursor → (log.history.entry log.cursor).isSome) :
    Refines queue.advance { log with cursor := log.cursor + 1 } := by
  have hcursor := h.cursor_eq
  have hnonneg := h.cursor_nonneg
  refine ⟨h.delay_eq, h.initial_eq, ?_, ?_, h.recorded_ge, ?_, ?_⟩
  · simpa using hcursor
  · change 0 ≤ log.cursor + 1
    omega
  · intro k hk hlt
    -- the one frame newly behind the cursor is the one just read
    by_cases hlast : k = log.cursor
    · subst hlast
      exact hvalue hk
    · change k < log.cursor + 1 at hlt
      exact h.delivered k hk (by omega)
  · intro k
    simp only [advance_getElem?, expectedFrame, hcursor, h.buffered k]
    by_cases hlast : log.cursor = k
    · subst hlast
      simp
    · by_cases hle : log.cursor ≤ k
      · have hle' : log.cursor + 1 ≤ k := by omega
        simp [hlast, hle, hle']
      · have hle' : ¬ log.cursor + 1 ≤ k := by omega
        simp [hlast, hle, hle']

/-- Simulation step for `GetButtons`: same status, same `*buttons`, related
states. -/
theorem refines_getButtons [Inhabited ButtonsType] {queue : InputQueue ButtonsType}
    {log : FrameLog ButtonsType} (h : Refines queue log) (frame : Int)
    (buttons : ButtonsType) :
    (queue.getButtons frame buttons).status = (log.get frame buttons).1 ∧
      (queue.getButtons frame buttons).buttons = (log.get frame buttons).2.1 ∧
      Refines (queue.getButtons frame buttons).queue (log.get frame buttons).2.2 := by
  have hexpected : queue.expectedFrame = log.cursor := h.cursor_eq
  rw [h.valid.getButtons_eq, hexpected, FrameLog.get]
  by_cases hframe : frame = log.cursor
  · subst hframe
    by_cases hinitial : log.cursor < log.initial
    -- a read inside the initial delay needs nothing of the history
    · have hskip := h.advance (fun hge => absurd hge (by omega))
      simpa [buttonsAt, h.initial_eq, hinitial] using hskip
    · have hbuffered := h.buffered log.cursor
      rw [if_pos le_rfl] at hbuffered
      cases hentry : log.history.entry log.cursor with
      | none => simpa [buttonsAt, h.initial_eq, hinitial, hbuffered, hentry] using h
      | some value =>
          have htake := h.advance (fun _ => by simp [hentry])
          simpa [buttonsAt, h.initial_eq, hinitial, hbuffered, hentry] using htake
  · simpa [hframe] using h

/-! ### Sequences of calls -/

/-- One call on a queue; `get` carries the prior contents of `*buttons`. -/
inductive Op (ButtonsType : Type*)
  | put (frame : Int) (buttons : ButtonsType)
  | get (frame : Int) (buttons : ButtonsType)

/-- What a call returns: the result of a put, or the status and `*buttons` of a
get. -/
inductive Outcome (ButtonsType : Type*)
  | put (accepted : Bool)
  | get (status : GetButtonsStatus) (buttons : ButtonsType)
deriving DecidableEq

/-- One call on the queue of the source. -/
def runOp [Inhabited ButtonsType] (queue : InputQueue ButtonsType) :
    Op ButtonsType → Outcome ButtonsType × InputQueue ButtonsType
  | .put frame buttons =>
      let r := queue.putButtons frame buttons
      (.put r.1, r.2)
  | .get frame buttons =>
      let r := queue.getButtons frame buttons
      (.get r.status r.buttons, r.queue)

/-- A sequence of calls on the queue. -/
def runOps [Inhabited ButtonsType] (queue : InputQueue ButtonsType) :
    List (Op ButtonsType) → List (Outcome ButtonsType) × InputQueue ButtonsType
  | [] => ([], queue)
  | op :: ops =>
      let r := queue.runOp op
      let rest := r.2.runOps ops
      (r.1 :: rest.1, rest.2)

end InputQueue

namespace FrameLog

variable {ButtonsType : Type*} [Inhabited ButtonsType]

/-- One call on the reference. -/
def runOp (log : FrameLog ButtonsType) :
    InputQueue.Op ButtonsType → InputQueue.Outcome ButtonsType × FrameLog ButtonsType
  | .put frame buttons =>
      let r := log.put frame buttons
      (.put r.1, r.2)
  | .get frame buttons =>
      let r := log.get frame buttons
      (.get r.1 r.2.1, r.2.2)

/-- A sequence of calls on the reference. -/
def runOps (log : FrameLog ButtonsType) :
    List (InputQueue.Op ButtonsType) →
      List (InputQueue.Outcome ButtonsType) × FrameLog ButtonsType
  | [] => ([], log)
  | op :: ops =>
      let r := log.runOp op
      let rest := r.2.runOps ops
      (r.1 :: rest.1, rest.2)

end FrameLog

namespace InputQueue

variable {ButtonsType : Type*} [Inhabited ButtonsType]

/-- One call of either kind: same outcome, related states. -/
theorem refines_runOp {queue : InputQueue ButtonsType} {log : FrameLog ButtonsType}
    (h : Refines queue log) (op : Op ButtonsType) :
    (queue.runOp op).1 = (log.runOp op).1 ∧ Refines (queue.runOp op).2 (log.runOp op).2 := by
  cases op with
  | put frame buttons =>
      obtain ⟨hresult, hrefines⟩ := refines_putButtons h frame buttons
      exact ⟨congrArg Outcome.put hresult, hrefines⟩
  | get frame buttons =>
      obtain ⟨hstatus, hbuttons, hrefines⟩ := refines_getButtons h frame buttons
      exact ⟨congrArg₂ Outcome.get hstatus hbuttons, hrefines⟩

/-- The simulation over a whole sequence of calls. -/
theorem refines_runOps {queue : InputQueue ButtonsType} {log : FrameLog ButtonsType}
    (h : Refines queue log) (ops : List (Op ButtonsType)) :
    (queue.runOps ops).1 = (log.runOps ops).1 ∧
      Refines (queue.runOps ops).2 (log.runOps ops).2 := by
  induction ops generalizing queue log with
  | nil => exact ⟨rfl, h⟩
  | cons op ops ih =>
      obtain ⟨houtcome, hrefines⟩ := refines_runOp h op
      obtain ⟨hrest, hfinal⟩ := ih hrefines
      refine ⟨?_, hfinal⟩
      simp only [runOps, FrameLog.runOps]
      rw [houtcome, hrest]

/-- A get that does not succeed leaves the queue and `*buttons` alone. -/
theorem Valid.getButtons_failed {queue : InputQueue ButtonsType} (hvalid : queue.Valid)
    {frame : Int} {buttons : ButtonsType}
    (hfail : (queue.getButtons frame buttons).status ≠ .success) :
    (queue.getButtons frame buttons).buttons = buttons ∧
      (queue.getButtons frame buttons).queue = queue := by
  rw [hvalid.getButtons_eq] at hfail ⊢
  split
  · rename_i hframe
    rw [if_pos hframe] at hfail
    cases hvalue : queue.buttonsAt frame with
    | none => exact ⟨rfl, rfl⟩
    | some value =>
        rw [hvalue] at hfail
        exact absurd rfl hfail
  · exact ⟨rfl, rfl⟩

/-- The queue answers every sequence of calls as the reference does; after it
the map holds exactly the recorded frames from the cursor on, and whatever call
comes next changes nothing unless it succeeds. -/
def BehavesAs (queue : InputQueue ButtonsType) (log : FrameLog ButtonsType) : Prop :=
  ∀ ops : List (Op ButtonsType),
    (queue.runOps ops).1 = (log.runOps ops).1 ∧
      (queue.runOps ops).2.expectedFrame = (log.runOps ops).2.cursor ∧
      (∀ (k : Int) (value : ButtonsType),
        (queue.runOps ops).2.frameButtons[k]? = some value ↔
          (log.runOps ops).2.cursor ≤ k ∧ (log.runOps ops).2.history.entry k = some value) ∧
      (∀ frame buttons, ((queue.runOps ops).2.putButtons frame buttons).1 = false →
        ((queue.runOps ops).2.putButtons frame buttons).2 = (queue.runOps ops).2) ∧
      (∀ frame buttons, ((queue.runOps ops).2.getButtons frame buttons).status ≠ .success →
        ((queue.runOps ops).2.getButtons frame buttons).buttons = buttons ∧
          ((queue.runOps ops).2.getButtons frame buttons).queue = (queue.runOps ops).2)

theorem Refines.behavesAs {queue : InputQueue ButtonsType} {log : FrameLog ButtonsType}
    (h : Refines queue log) : BehavesAs queue log := by
  intro ops
  obtain ⟨houtcomes, hfinal⟩ := refines_runOps h ops
  refine ⟨houtcomes, hfinal.cursor_eq, ?_, fun _ _ => putButtons_refused,
    fun _ _ => hfinal.valid.getButtons_failed⟩
  intro k value
  rw [hfinal.buffered k]
  by_cases hle : (log.runOps ops).2.cursor ≤ k
  · simp [hle]
  · simp [hle]

/-- **Both factories make a write-once log with a read cursor**, for every
delay: a local queue shifts by its delay, a remote queue does not shift. -/
theorem factories_behaveAs_frameLog (x : Int) :
    BehavesAs (makeLocalQueue x : InputQueue ButtonsType) (FrameLog.empty x x) ∧
      BehavesAs (makeRemoteQueue x : InputQueue ButtonsType) (FrameLog.empty 0 x) :=
  ⟨(refines_make x x).behavesAs, (refines_make 0 x).behavesAs⟩

/-- With a negative delay a put can be early enough to be refused, and the same
frame stays refused after a read has passed over it. -/
example :
    ((makeLocalQueue (-2) : InputQueue Nat).runOps
      [.put 1 7, .put 2 8, .get 0 9, .put 2 8, .get 1 9]).1 =
      [.put false, .put true, .get .success 8, .put false, .get .timeout 9] := by
  decide

end InputQueue

end Client
end Netplay
