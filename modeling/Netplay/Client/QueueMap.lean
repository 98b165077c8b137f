import Netplay.Client.EventStreamHandler

/-!
# The queues of a handler

Whatever a handler does to its queues is a sequence of two moves: buttons are
inserted into a queue that accepts them, and a queue advances past the frame it
hands out.  Tuples of `PutButtons` and decoded key presses off the stream are
inserted alike, so both loops are described by the list of tuples the queues
accepted, in turn (`InTurn`).

* `InTurn.invariant`: an invariant of the queues needs one step lemma for each
  of the two moves.
* `Evolves` is what every sequence of moves keeps: ports, delays, and every
  frame a queue has seen.
-/

namespace Netplay
namespace Client

namespace InputQueue

variable {ButtonsType : Type*}

/-- What both moves keep of one queue: its delays, and that seen frames stay
seen. -/
structure Evolves (queue queue' : InputQueue ButtonsType) : Prop where
  delayFrames : queue'.delayFrames = queue.delayFrames
  initialFrameDelay : queue'.initialFrameDelay = queue.initialFrameDelay
  latest_le : queue.latestFrameRequested ≤ queue'.latestFrameRequested
  seen : ∀ k, queue.Seen k → queue'.Seen k

theorem Evolves.refl (queue : InputQueue ButtonsType) : queue.Evolves queue :=
  ⟨rfl, rfl, le_rfl, fun _ h => h⟩

theorem Evolves.trans {queue₁ queue₂ queue₃ : InputQueue ButtonsType}
    (h : queue₁.Evolves queue₂) (h' : queue₂.Evolves queue₃) : queue₁.Evolves queue₃ where
  delayFrames := h'.delayFrames.trans h.delayFrames
  initialFrameDelay := h'.initialFrameDelay.trans h.initialFrameDelay
  latest_le := h.latest_le.trans h'.latest_le
  seen := fun k hk => h'.seen k (h.seen k hk)

theorem evolves_insertButtons (queue : InputQueue ButtonsType) (frame : Int)
    (buttons : ButtonsType) : queue.Evolves (queue.insertButtons frame buttons) where
  delayFrames := rfl
  initialFrameDelay := rfl
  latest_le := le_rfl
  seen := by
    intro k hk
    rw [insertButtons_seen]
    exact Or.inr hk

theorem evolves_advance (queue : InputQueue ButtonsType) : queue.Evolves queue.advance where
  delayFrames := rfl
  initialFrameDelay := rfl
  latest_le := by
    rw [advance_latestFrameRequested]
    omega
  seen := by
    intro k hk
    simp only [Seen, advance_latestFrameRequested, mem_advance, expectedFrame]
    rcases hk with hk | hk
    · left
      omega
    -- the frame that leaves the map is now behind the cursor
    · by_cases hnext : k = queue.latestFrameRequested + 1
      · left
        omega
      · exact Or.inr ⟨hnext, hk⟩

end InputQueue

open EventStreamHandler

/-- `input_queues_`. -/
abbrev QueueMap (ButtonsType : Type*) := Std.ExtTreeMap Port (InputQueue ButtonsType)

namespace QueueMap

variable {ButtonsType : Type*}

/-- The port is connected and its queue accepts the frame. -/
def Accepts (queues : QueueMap ButtonsType) (port : Port) (frame : Int) : Prop :=
  ∃ queue, queues[port]? = some queue ∧ queue.Accepts frame

instance (queues : QueueMap ButtonsType) (port : Port) (frame : Int) :
    Decidable (Accepts queues port frame) :=
  match h : queues[port]? with
  | none => isFalse fun ⟨_, hqueue, _⟩ => by simp [h] at hqueue
  | some queue =>
      decidable_of_iff (queue.Accepts frame)
        ⟨fun hacc => ⟨queue, h, hacc⟩, fun ⟨_, hqueue, hacc⟩ => by
          rw [h] at hqueue
          cases hqueue
          exact hacc⟩

theorem Accepts.frame_nonneg {queues : QueueMap ButtonsType} {port : Port} {frame : Int}
    (h : Accepts queues port frame) : 0 ≤ frame := by
  obtain ⟨queue, -, hacc⟩ := h
  exact hacc.1

/-- What acceptance says once the queue of the port is known. -/
theorem accepts_iff {queues : QueueMap ButtonsType} {port : Port} {frame : Int}
    {queue : InputQueue ButtonsType} (hqueue : queues[port]? = some queue) :
    Accepts queues port frame ↔ queue.Accepts frame := by
  simp [Accepts, hqueue]

theorem not_accepts_of_none {queues : QueueMap ButtonsType} {port : Port} {frame : Int}
    (hnone : queues[port]? = none) : ¬ Accepts queues port frame := by
  simp [Accepts, hnone]

/-- The queues with one accepted tuple added. -/
def insertTuple (queues : QueueMap ButtonsType) (tuple : ButtonsFrameTuple ButtonsType) :
    QueueMap ButtonsType :=
  queues.modify tuple.port fun queue => queue.insertButtons tuple.frame tuple.buttons

/-- The queues with several tuples added. -/
def insertTuples (queues : QueueMap ButtonsType)
    (tuples : List (ButtonsFrameTuple ButtonsType)) : QueueMap ButtonsType :=
  tuples.foldl insertTuple queues

/-- The queues after the expected frame of a port was handed out. -/
def advance (queues : QueueMap ButtonsType) (port : Port) : QueueMap ButtonsType :=
  queues.modify port InputQueue.advance

/-- Each tuple is accepted when those before it have been inserted. -/
def InTurn : QueueMap ButtonsType → List (ButtonsFrameTuple ButtonsType) → Prop
  | _, [] => True
  | queues, tuple :: tuples =>
      Accepts queues tuple.port tuple.frame ∧ InTurn (insertTuple queues tuple) tuples

@[simp] theorem insertTuples_nil (queues : QueueMap ButtonsType) :
    insertTuples queues [] = queues := rfl

@[simp] theorem insertTuples_cons (queues : QueueMap ButtonsType)
    (tuple : ButtonsFrameTuple ButtonsType) (tuples : List (ButtonsFrameTuple ButtonsType)) :
    insertTuples queues (tuple :: tuples) = insertTuples (insertTuple queues tuple) tuples :=
  rfl

theorem insertTuples_append (queues : QueueMap ButtonsType)
    (tuples tuples' : List (ButtonsFrameTuple ButtonsType)) :
    insertTuples queues (tuples ++ tuples') = insertTuples (insertTuples queues tuples) tuples' :=
  List.foldl_append

theorem inTurn_append {queues : QueueMap ButtonsType}
    {tuples tuples' : List (ButtonsFrameTuple ButtonsType)} :
    InTurn queues (tuples ++ tuples') ↔
      InTurn queues tuples ∧ InTurn (insertTuples queues tuples) tuples' := by
  induction tuples generalizing queues with
  | nil => exact ⟨fun h => ⟨trivial, h⟩, fun h => h.2⟩
  | cons tuple tuples ih =>
      rw [List.cons_append, insertTuples_cons]
      constructor
      · rintro ⟨hfirst, hrest⟩
        exact ⟨⟨hfirst, (ih.mp hrest).1⟩, (ih.mp hrest).2⟩
      · rintro ⟨⟨hfirst, hrest⟩, hlast⟩
        exact ⟨hfirst, ih.mpr ⟨hrest, hlast⟩⟩

/-! ### The queue of a port after a move -/

theorem getElem?_modify (queues : QueueMap ButtonsType) (port k : Port)
    (f : InputQueue ButtonsType → InputQueue ButtonsType) :
    (queues.modify port f)[k]? = if port = k then (queues[k]?).map f else queues[k]? := by
  by_cases hk : port = k
  · subst hk
    simp
  · simp [Std.ExtTreeMap.getElem?_modify, hk]

theorem getElem?_insertTuple (queues : QueueMap ButtonsType)
    (tuple : ButtonsFrameTuple ButtonsType) (k : Port) :
    (insertTuple queues tuple)[k]? =
      if tuple.port = k then
        (queues[k]?).map fun queue => queue.insertButtons tuple.frame tuple.buttons
      else queues[k]? :=
  getElem?_modify queues tuple.port k _

theorem getElem?_advance (queues : QueueMap ButtonsType) (port k : Port) :
    (advance queues port)[k]? =
      if port = k then (queues[k]?).map InputQueue.advance else queues[k]? :=
  getElem?_modify queues port k _

theorem insertTuple_self {queues : QueueMap ButtonsType}
    {tuple : ButtonsFrameTuple ButtonsType} {queue : InputQueue ButtonsType}
    (hqueue : queues[tuple.port]? = some queue) :
    (insertTuple queues tuple)[tuple.port]? =
      some (queue.insertButtons tuple.frame tuple.buttons) := by
  rw [getElem?_insertTuple, if_pos rfl, hqueue]
  rfl

/-- Storing back what a method made of the queue it found. -/
theorem insert_eq_modify {queues : QueueMap ButtonsType} {port : Port}
    {queue : InputQueue ButtonsType} (h : queues[port]? = some queue)
    (f : InputQueue ButtonsType → InputQueue ButtonsType) :
    queues.insert port (f queue) = queues.modify port f := by
  apply Std.ExtTreeMap.ext_getElem?
  intro k
  rw [getElem?_modify, Std.ExtTreeMap.getElem?_insert]
  by_cases hk : port = k
  · subst hk
    simp [h]
  · simp [hk]

/-- Storing back the queue a method left alone. -/
theorem insert_self {queues : QueueMap ButtonsType} {port : Port}
    {queue : InputQueue ButtonsType} (h : queues[port]? = some queue) :
    queues.insert port queue = queues := by
  -- leaving a queue alone is a move as well
  rw [show queue = id queue from rfl, insert_eq_modify h id]
  apply Std.ExtTreeMap.ext_getElem?
  intro k
  rw [getElem?_modify]
  simp

/-- A queue found after a move of port `port`: moved, or of another port. -/
theorem modify_some {queues : QueueMap ButtonsType} {port k : Port}
    {f : InputQueue ButtonsType → InputQueue ButtonsType} {queue' : InputQueue ButtonsType}
    (h : (queues.modify port f)[k]? = some queue') :
    (port = k ∧ ∃ queue, queues[k]? = some queue ∧ queue' = f queue) ∨
      (port ≠ k ∧ queues[k]? = some queue') := by
  rw [getElem?_modify] at h
  by_cases hk : port = k
  · rw [if_pos hk, Option.map_eq_some_iff] at h
    obtain ⟨queue, hqueue, hf⟩ := h
    exact Or.inl ⟨hk, queue, hqueue, hf.symm⟩
  · rw [if_neg hk] at h
    exact Or.inr ⟨hk, h⟩

theorem insertTuple_some {queues : QueueMap ButtonsType}
    {tuple : ButtonsFrameTuple ButtonsType} {k : Port} {queue' : InputQueue ButtonsType}
    (h : (insertTuple queues tuple)[k]? = some queue') :
    (tuple.port = k ∧ ∃ queue, queues[k]? = some queue ∧
        queue' = queue.insertButtons tuple.frame tuple.buttons) ∨
      (tuple.port ≠ k ∧ queues[k]? = some queue') :=
  modify_some h

theorem advance_some {queues : QueueMap ButtonsType} {port k : Port}
    {queue' : InputQueue ButtonsType} (h : (advance queues port)[k]? = some queue') :
    (port = k ∧ ∃ queue, queues[k]? = some queue ∧ queue' = queue.advance) ∨
      (port ≠ k ∧ queues[k]? = some queue') :=
  modify_some h

/-- Ports without a tuple keep their queue. -/
theorem insertTuples_of_forall_ne {queues : QueueMap ButtonsType}
    {tuples : List (ButtonsFrameTuple ButtonsType)} {k : Port}
    (h : ∀ tuple ∈ tuples, tuple.port ≠ k) : (insertTuples queues tuples)[k]? = queues[k]? := by
  induction tuples generalizing queues with
  | nil => rfl
  | cons tuple tuples ih =>
      rw [insertTuples_cons, ih (fun t ht => h t (List.mem_cons_of_mem _ ht)),
        getElem?_insertTuple, if_neg (h tuple List.mem_cons_self)]

/-! ### Cursors -/

/-- The next frame of a port. -/
def cursorOf (queues : QueueMap ButtonsType) (port : Port) : Option Int :=
  (queues[port]?).map InputQueue.expectedFrame

theorem cursorOf_of_some {queues : QueueMap ButtonsType} {port : Port}
    {queue : InputQueue ButtonsType} (hqueue : queues[port]? = some queue) :
    cursorOf queues port = some queue.expectedFrame := by
  rw [cursorOf, hqueue]
  rfl

theorem cursorOf_insertTuples (queues : QueueMap ButtonsType)
    (tuples : List (ButtonsFrameTuple ButtonsType)) (port : Port) :
    cursorOf (insertTuples queues tuples) port = cursorOf queues port := by
  unfold cursorOf
  induction tuples generalizing queues with
  | nil => rfl
  | cons tuple tuples ih =>
      rw [insertTuples_cons, ih, getElem?_insertTuple]
      by_cases hport : tuple.port = port
      · rw [if_pos hport, Option.map_map]
        rfl
      · rw [if_neg hport]

/-- Inserting tuples leaves the cursors alone. -/
theorem insertTuples_expectedFrame {queues : QueueMap ButtonsType}
    (tuples : List (ButtonsFrameTuple ButtonsType)) {k : Port} {queue : InputQueue ButtonsType}
    (h : queues[k]? = some queue) :
    ∃ queue', (insertTuples queues tuples)[k]? = some queue' ∧
      queue'.expectedFrame = queue.expectedFrame := by
  have hcursor := cursorOf_insertTuples queues tuples k
  unfold cursorOf at hcursor
  rw [h] at hcursor
  exact Option.map_eq_some_iff.mp hcursor

theorem cursorOf_advance {queues : QueueMap ButtonsType} {port : Port} {frame : Int}
    (hcursor : cursorOf queues port = some frame) (k : Port) :
    cursorOf (advance queues port) k =
      if port = k then some (frame + 1) else cursorOf queues k := by
  unfold cursorOf at hcursor ⊢
  rw [getElem?_advance]
  by_cases hk : port = k
  · subst hk
    obtain ⟨queue, hqueue, hframe⟩ := Option.map_eq_some_iff.mp hcursor
    rw [if_pos rfl, if_pos rfl, hqueue, ← hframe]
    rfl
  · rw [if_neg hk, if_neg hk]

/-! ### Invariants -/

/-- The induction over accepted tuples: an invariant that every accepted tuple
keeps survives a whole list of them. -/
theorem InTurn.invariant {I : QueueMap ButtonsType → Prop}
    {P : ButtonsFrameTuple ButtonsType → Prop}
    (hstep : ∀ queues tuple, I queues → P tuple → Accepts queues tuple.port tuple.frame →
      I (insertTuple queues tuple))
    {queues : QueueMap ButtonsType} {tuples : List (ButtonsFrameTuple ButtonsType)}
    (hturn : InTurn queues tuples) (htuples : ∀ tuple ∈ tuples, P tuple) (h : I queues) :
    I (insertTuples queues tuples) := by
  induction tuples generalizing queues with
  | nil => exact h
  | cons tuple tuples ih =>
      have htuple := htuples tuple List.mem_cons_self
      exact ih hturn.2 (fun t ht => htuples t (List.mem_cons_of_mem _ ht))
        (hstep queues tuple h htuple hturn.1)

/-- Every queue is valid. -/
def Valid (queues : QueueMap ButtonsType) : Prop :=
  ∀ (port : Port) (queue : InputQueue ButtonsType), queues[port]? = some queue → queue.Valid

theorem Valid.insertTuple {queues : QueueMap ButtonsType} (hvalid : Valid queues)
    {tuple : ButtonsFrameTuple ButtonsType} (haccepts : Accepts queues tuple.port tuple.frame) :
    Valid (insertTuple queues tuple) := by
  intro port queue' hqueue'
  rcases insertTuple_some hqueue' with ⟨rfl, queue, hqueue, rfl⟩ | ⟨-, hqueue⟩
  · have hacc := (accepts_iff hqueue).mp haccepts
    exact (hvalid tuple.port queue hqueue).insertButtons hacc tuple.buttons
  · exact hvalid port queue' hqueue

theorem Valid.insertTuples {queues : QueueMap ButtonsType} (hvalid : Valid queues)
    {tuples : List (ButtonsFrameTuple ButtonsType)} (hturn : InTurn queues tuples) :
    Valid (insertTuples queues tuples) :=
  hturn.invariant (P := fun _ => True) (fun _ _ h _ hacc => h.insertTuple hacc)
    (fun _ _ => trivial) hvalid

theorem Valid.advance {queues : QueueMap ButtonsType} (hvalid : Valid queues) (port : Port) :
    Valid (advance queues port) := by
  intro k queue' hqueue'
  rcases advance_some hqueue' with ⟨rfl, queue, hqueue, rfl⟩ | ⟨-, hqueue⟩
  · exact (hvalid port queue hqueue).advance
  · exact hvalid k queue' hqueue

/-- Everything buffered satisfies `P`. -/
def Buffered (queues : QueueMap ButtonsType) (P : Port → Int → ButtonsType → Prop) : Prop :=
  ∀ (port : Port) (queue : InputQueue ButtonsType), queues[port]? = some queue →
    ∀ frame value, queue.frameButtons[frame]? = some value → P port frame value

theorem Buffered.mono {queues : QueueMap ButtonsType} {P Q : Port → Int → ButtonsType → Prop}
    (h : Buffered queues P) (hPQ : ∀ port frame value, P port frame value → Q port frame value) :
    Buffered queues Q :=
  fun port queue hqueue frame value hvalue => hPQ _ _ _ (h port queue hqueue frame value hvalue)

theorem Buffered.insertTuple {queues : QueueMap ButtonsType}
    {P : Port → Int → ButtonsType → Prop} (h : Buffered queues P)
    {tuple : ButtonsFrameTuple ButtonsType}
    (htuple : ∀ queue, queues[tuple.port]? = some queue →
      P tuple.port (queue.delayedFrame tuple.frame) tuple.buttons) :
    Buffered (insertTuple queues tuple) P := by
  intro port queue' hqueue' frame value hvalue
  rcases insertTuple_some hqueue' with ⟨rfl, queue, hqueue, rfl⟩ | ⟨-, hqueue⟩
  · rw [InputQueue.insertButtons_getElem?] at hvalue
    split_ifs at hvalue with hframe
    · cases hvalue
      rw [← hframe]
      exact htuple queue hqueue
    · exact h tuple.port queue hqueue frame value hvalue
  · exact h port queue' hqueue frame value hvalue

theorem Buffered.advance {queues : QueueMap ButtonsType} {P : Port → Int → ButtonsType → Prop}
    (h : Buffered queues P) (port : Port) : Buffered (advance queues port) P := by
  intro k queue' hqueue' frame value hvalue
  rcases advance_some hqueue' with ⟨rfl, queue, hqueue, rfl⟩ | ⟨-, hqueue⟩
  · rw [InputQueue.advance_getElem?] at hvalue
    split_ifs at hvalue
    exact h port queue hqueue frame value hvalue
  · exact h k queue' hqueue frame value hvalue

/-! ### What the moves keep -/

/-- The same ports are connected, and each queue has evolved. -/
def Evolves (queues queues' : QueueMap ButtonsType) : Prop :=
  ∀ k : Port, (queues[k]? = none ∧ queues'[k]? = none) ∨
    ∃ queue queue', queues[k]? = some queue ∧ queues'[k]? = some queue' ∧ queue.Evolves queue'

theorem Evolves.refl (queues : QueueMap ButtonsType) : Evolves queues queues := by
  intro k
  cases hqueue : queues[k]? with
  | none => exact Or.inl ⟨rfl, rfl⟩
  | some queue => exact Or.inr ⟨queue, queue, rfl, rfl, .refl queue⟩

theorem Evolves.trans {queues₁ queues₂ queues₃ : QueueMap ButtonsType}
    (h : Evolves queues₁ queues₂) (h' : Evolves queues₂ queues₃) : Evolves queues₁ queues₃ := by
  intro k
  rcases h k with ⟨h₁, h₂⟩ | ⟨queue₁, queue₂, h₁, h₂, hevolves⟩
  · rcases h' k with ⟨-, h₃⟩ | ⟨queue, -, hqueue, -⟩
    · exact Or.inl ⟨h₁, h₃⟩
    · rw [h₂] at hqueue
      cases hqueue
  · rcases h' k with ⟨hnone, -⟩ | ⟨queue, queue₃, hqueue, h₃, hevolves'⟩
    · rw [h₂] at hnone
      cases hnone
    · rw [h₂] at hqueue
      cases hqueue
      exact Or.inr ⟨queue₁, queue₃, h₁, h₃, hevolves.trans hevolves'⟩

theorem evolves_modify (queues : QueueMap ButtonsType) (port : Port)
    {f : InputQueue ButtonsType → InputQueue ButtonsType}
    (hf : ∀ queue : InputQueue ButtonsType, queue.Evolves (f queue)) :
    Evolves queues (queues.modify port f) := by
  intro k
  cases hqueue : queues[k]? with
  | none =>
      refine Or.inl ⟨rfl, ?_⟩
      rw [getElem?_modify, hqueue]
      simp
  | some queue =>
      by_cases hk : port = k
      · refine Or.inr ⟨queue, f queue, rfl, ?_, hf queue⟩
        rw [getElem?_modify, if_pos hk, hqueue]
        rfl
      · refine Or.inr ⟨queue, queue, rfl, ?_, .refl queue⟩
        rw [getElem?_modify, if_neg hk, hqueue]

theorem evolves_insertTuple (queues : QueueMap ButtonsType)
    (tuple : ButtonsFrameTuple ButtonsType) : Evolves queues (insertTuple queues tuple) :=
  evolves_modify queues tuple.port fun queue =>
    queue.evolves_insertButtons tuple.frame tuple.buttons

theorem evolves_insertTuples (queues : QueueMap ButtonsType)
    (tuples : List (ButtonsFrameTuple ButtonsType)) :
    Evolves queues (insertTuples queues tuples) := by
  induction tuples generalizing queues with
  | nil => exact .refl queues
  | cons tuple tuples ih => exact (evolves_insertTuple queues tuple).trans (ih _)

theorem evolves_advance (queues : QueueMap ButtonsType) (port : Port) :
    Evolves queues (advance queues port) :=
  evolves_modify queues port InputQueue.evolves_advance

theorem Evolves.none_iff {queues queues' : QueueMap ButtonsType} (h : Evolves queues queues')
    (k : Port) : queues'[k]? = none ↔ queues[k]? = none := by
  rcases h k with ⟨h₁, h₂⟩ | ⟨queue, queue', h₁, h₂, -⟩
  · simp [h₁, h₂]
  · simp [h₁, h₂]

theorem Evolves.of_some {queues queues' : QueueMap ButtonsType} (h : Evolves queues queues')
    {k : Port} {queue : InputQueue ButtonsType} (hqueue : queues[k]? = some queue) :
    ∃ queue', queues'[k]? = some queue' ∧ queue.Evolves queue' := by
  rcases h k with ⟨hnone, -⟩ | ⟨queue₁, queue', h₁, h₂, hevolves⟩
  · rw [hqueue] at hnone
    cases hnone
  · rw [hqueue] at h₁
    cases h₁
    exact ⟨queue', h₂, hevolves⟩

/-- The frame of an accepted tuple is seen from then on. -/
theorem seen_insertTuple {queues queues' : QueueMap ButtonsType}
    {tuple : ButtonsFrameTuple ButtonsType} {queue : InputQueue ButtonsType}
    (hqueue : queues[tuple.port]? = some queue)
    (hevolves : Evolves (insertTuple queues tuple) queues') :
    ∃ queue', queues'[tuple.port]? = some queue' ∧
      queue'.Seen (queue.delayedFrame tuple.frame) := by
  obtain ⟨queue', hqueue', hevolves⟩ := hevolves.of_some (insertTuple_self hqueue)
  refine ⟨queue', hqueue', hevolves.seen _ ?_⟩
  rw [InputQueue.insertButtons_seen]
  exact Or.inl rfl

/-- A queue that accepts a frame accepted it at every earlier time. -/
theorem Evolves.accepts {queues queues' : QueueMap ButtonsType} (h : Evolves queues queues')
    {port : Port} {frame : Int} (haccepts : Accepts queues' port frame) :
    Accepts queues port frame := by
  rcases h port with ⟨-, hnone⟩ | ⟨queue, queue', hqueue, hqueue', hsame⟩
  · exact absurd haccepts (not_accepts_of_none hnone)
  · obtain ⟨hframe, hinitial, hnotSeen⟩ := (accepts_iff hqueue').mp haccepts
    have hdelayed : queue'.delayedFrame frame = queue.delayedFrame frame := by
      rw [InputQueue.delayedFrame, InputQueue.delayedFrame, hsame.delayFrames]
    rw [hdelayed, hsame.initialFrameDelay] at hinitial
    rw [hdelayed] at hnotSeen
    exact ⟨queue, hqueue, hframe, hinitial, fun hseen => hnotSeen (hsame.seen _ hseen)⟩

/-- An accepted tuple is not accepted a second time. -/
theorem not_accepts_of_evolves {queues queues' : QueueMap ButtonsType}
    {tuple : ButtonsFrameTuple ButtonsType}
    (haccepts : Accepts queues tuple.port tuple.frame)
    (hevolves : Evolves (insertTuple queues tuple) queues') :
    ¬ Accepts queues' tuple.port tuple.frame := by
  intro hagain
  obtain ⟨queue, hqueue, -⟩ := haccepts
  -- it would have been accepted right after it was inserted
  have hacc := (accepts_iff (insertTuple_self hqueue)).mp (hevolves.accepts hagain)
  apply hacc.2.2
  rw [InputQueue.insertButtons_seen]
  exact Or.inl rfl

/-! ### Slots

A slot is a port together with a delayed frame.  Every slot is filled at most
once in the life of a handler. -/

/-- A slot whose frame the queue of the port has seen. -/
def SeenAt (queues : QueueMap ButtonsType) (slot : Port × Int) : Prop :=
  ∃ queue, queues[slot.1]? = some queue ∧ queue.Seen slot.2

theorem seenAt_iff {queues : QueueMap ButtonsType} {port : Port} {frame : Int}
    {queue : InputQueue ButtonsType} (hqueue : queues[port]? = some queue) :
    SeenAt queues (port, frame) ↔ queue.Seen frame := by
  simp [SeenAt, hqueue]

theorem Evolves.seenAt {queues queues' : QueueMap ButtonsType} (h : Evolves queues queues')
    {slot : Port × Int} (hseen : SeenAt queues slot) : SeenAt queues' slot := by
  obtain ⟨queue, hqueue, hseen⟩ := hseen
  obtain ⟨queue', hqueue', hevolves⟩ := h.of_some hqueue
  exact ⟨queue', hqueue', hevolves.seen _ hseen⟩

/-- The slot that a tuple fills, given the delays of the ports. -/
def slotOf (delay : Port → Int) (tuple : ButtonsFrameTuple ButtonsType) : Port × Int :=
  (tuple.port, tuple.frame + delay tuple.port)

/-- The delays of the queues. -/
def HasDelays (queues : QueueMap ButtonsType) (delay : Port → Int) : Prop :=
  ∀ (port : Port) (queue : InputQueue ButtonsType), queues[port]? = some queue →
    queue.delayFrames = delay port

theorem HasDelays.evolves {queues queues' : QueueMap ButtonsType} {delay : Port → Int}
    (h : HasDelays queues delay) (hevolves : Evolves queues queues') :
    HasDelays queues' delay := by
  intro port queue' hqueue'
  rcases hevolves port with ⟨-, hnone⟩ | ⟨queue, queue₁, hqueue, hqueue₁, hsame⟩
  · rw [hqueue'] at hnone
    cases hnone
  · rw [hqueue'] at hqueue₁
    cases hqueue₁
    rw [hsame.delayFrames]
    exact h port queue hqueue

theorem Buffered.insertTuples {queues : QueueMap ButtonsType} {delay : Port → Int}
    (hdelays : HasDelays queues delay) {P : Port → Int → ButtonsType → Prop}
    (h : Buffered queues P) {tuples : List (ButtonsFrameTuple ButtonsType)}
    (htuples : ∀ tuple ∈ tuples, P tuple.port (tuple.frame + delay tuple.port) tuple.buttons) :
    Buffered (insertTuples queues tuples) P := by
  induction tuples generalizing queues with
  | nil => exact h
  | cons tuple tuples ih =>
      refine ih (hdelays.evolves (evolves_insertTuple queues tuple)) (h.insertTuple ?_)
        fun other hother => htuples other (List.mem_cons_of_mem _ hother)
      intro queue hqueue
      rw [InputQueue.delayedFrame, hdelays tuple.port queue hqueue]
      exact htuples tuple List.mem_cons_self

/-- An accepted tuple fills a slot that was not filled before. -/
theorem Accepts.not_seenAt {queues : QueueMap ButtonsType} {delay : Port → Int}
    (hdelays : HasDelays queues delay) {tuple : ButtonsFrameTuple ButtonsType}
    (h : Accepts queues tuple.port tuple.frame) : ¬ SeenAt queues (slotOf delay tuple) := by
  obtain ⟨queue, hqueue, hacc⟩ := h
  unfold slotOf
  rw [seenAt_iff hqueue, ← hdelays tuple.port queue hqueue]
  exact hacc.2.2

theorem Accepts.seenAt_insertTuple {queues queues' : QueueMap ButtonsType} {delay : Port → Int}
    (hdelays : HasDelays queues delay) {tuple : ButtonsFrameTuple ButtonsType}
    (h : Accepts queues tuple.port tuple.frame)
    (hevolves : Evolves (insertTuple queues tuple) queues') :
    SeenAt queues' (slotOf delay tuple) := by
  obtain ⟨queue, hqueue, -⟩ := h
  obtain ⟨queue', hqueue', hseen⟩ := seen_insertTuple hqueue hevolves
  refine ⟨queue', hqueue', ?_⟩
  rw [InputQueue.delayedFrame, hdelays tuple.port queue hqueue] at hseen
  exact hseen

/-- Only the slots of the inserted tuples are new. -/
theorem seenAt_of_insertTuples {queues : QueueMap ButtonsType} {delay : Port → Int}
    (hdelays : HasDelays queues delay) {tuples : List (ButtonsFrameTuple ButtonsType)}
    {slot : Port × Int} (h : SeenAt (insertTuples queues tuples) slot) :
    SeenAt queues slot ∨ ∃ tuple ∈ tuples, slotOf delay tuple = slot := by
  induction tuples generalizing queues with
  | nil => exact Or.inl h
  | cons tuple tuples ih =>
      have hdelays' := hdelays.evolves (evolves_insertTuple queues tuple)
      rcases ih hdelays' h with hseen | ⟨other, hother, hslot⟩
      · obtain ⟨queue', hqueue', hseen⟩ := hseen
        rcases insertTuple_some hqueue' with ⟨hport, queue, hqueue, rfl⟩ | ⟨-, hqueue⟩
        · rw [InputQueue.insertButtons_seen] at hseen
          rcases hseen with hframe | hseen
          · refine Or.inr ⟨tuple, List.mem_cons_self, Prod.ext hport ?_⟩
            rw [← hframe, InputQueue.delayedFrame, hdelays slot.1 queue hqueue, ← hport]
            rfl
          · exact Or.inl ⟨queue, hqueue, hseen⟩
        · exact Or.inl ⟨queue', hqueue, hseen⟩
      · exact Or.inr ⟨other, List.mem_cons_of_mem _ hother, hslot⟩

/-- Tuples accepted in turn fill distinct slots, none of them filled before and
all of them afterwards. -/
theorem InTurn.slots {queues : QueueMap ButtonsType} {delay : Port → Int}
    (hdelays : HasDelays queues delay) {tuples : List (ButtonsFrameTuple ButtonsType)}
    (hturn : InTurn queues tuples) :
    (tuples.map (slotOf delay)).Nodup ∧
      (∀ tuple ∈ tuples, ¬ SeenAt queues (slotOf delay tuple)) ∧
      (∀ tuple ∈ tuples, SeenAt (insertTuples queues tuples) (slotOf delay tuple)) := by
  induction tuples generalizing queues with
  | nil => simp
  | cons tuple tuples ih =>
      have hevolves := evolves_insertTuple queues tuple
      obtain ⟨hnodup, hnew, hfilled⟩ := ih (hdelays.evolves hevolves) hturn.2
      have hfirst := hturn.1.seenAt_insertTuple hdelays (.refl _)
      refine ⟨?_, ?_, ?_⟩
      -- a later tuple for the same slot would have been refused
      · refine List.nodup_cons.mpr ⟨fun hmem => ?_, hnodup⟩
        obtain ⟨other, hother, hslot⟩ := List.mem_map.mp hmem
        apply hnew other hother
        rw [hslot]
        exact hfirst
      · refine List.forall_mem_cons.mpr ⟨hturn.1.not_seenAt hdelays, fun other hother hseen => ?_⟩
        exact hnew other hother (hevolves.seenAt hseen)
      · refine List.forall_mem_cons.mpr ⟨?_, hfilled⟩
        exact (evolves_insertTuples _ tuples).seenAt hfirst

/-- A tuple of a list accepted in turn was accepted before the list. -/
theorem InTurn.accepts {queues : QueueMap ButtonsType}
    {tuples : List (ButtonsFrameTuple ButtonsType)} (h : InTurn queues tuples) :
    ∀ tuple ∈ tuples, Accepts queues tuple.port tuple.frame := by
  induction tuples generalizing queues with
  | nil => simp
  | cons tuple tuples ih =>
      refine List.forall_mem_cons.mpr ⟨h.1, fun other hother => ?_⟩
      exact (evolves_insertTuple queues tuple).accepts (ih h.2 other hother)

/-- Inserting accepted tuples changes the queues, unless there are none. -/
theorem insertTuples_ne {queues : QueueMap ButtonsType} {tuple : ButtonsFrameTuple ButtonsType}
    {tuples : List (ButtonsFrameTuple ButtonsType)}
    (hturn : InTurn queues (tuple :: tuples)) :
    insertTuples queues (tuple :: tuples) ≠ queues := by
  intro hsame
  have hevolves := evolves_insertTuples (insertTuple queues tuple) tuples
  have hnot := not_accepts_of_evolves hturn.1 hevolves
  rw [← insertTuples_cons, hsame] at hnot
  exact hnot hturn.1

/-- A tuple stays acceptable when another slot is filled. -/
theorem Accepts.insertTuple {queues : QueueMap ButtonsType} {delay : Port → Int}
    (hdelays : HasDelays queues delay) {tuple other : ButtonsFrameTuple ButtonsType}
    (h : Accepts queues other.port other.frame)
    (hslot : slotOf delay tuple ≠ slotOf delay other) :
    Accepts (insertTuple queues tuple) other.port other.frame := by
  obtain ⟨queue, hqueue, hacc⟩ := h
  by_cases hport : tuple.port = other.port
  · refine ⟨queue.insertButtons tuple.frame tuple.buttons, ?_, hacc.1, hacc.2.1, ?_⟩
    · rw [getElem?_insertTuple, if_pos hport, hqueue]
      rfl
    · rw [InputQueue.insertButtons_seen]
      rintro (hframe | hseen)
      -- one port and one delayed frame: that would be the same slot
      · apply hslot
        have hdelay := hdelays other.port queue hqueue
        simp only [InputQueue.delayedFrame, InputQueue.insertButtons_delayFrames] at hframe
        simp only [slotOf, hport, ← hdelay, hframe]
      · exact hacc.2.2 hseen
  · refine ⟨queue, ?_, hacc⟩
    rw [getElem?_insertTuple, if_neg hport, hqueue]

theorem Accepts.insertTuples {queues : QueueMap ButtonsType} {delay : Port → Int}
    (hdelays : HasDelays queues delay) {tuples : List (ButtonsFrameTuple ButtonsType)}
    {other : ButtonsFrameTuple ButtonsType} (h : Accepts queues other.port other.frame)
    (hslots : ∀ tuple ∈ tuples, slotOf delay tuple ≠ slotOf delay other) :
    Accepts (insertTuples queues tuples) other.port other.frame := by
  induction tuples generalizing queues with
  | nil => exact h
  | cons tuple tuples ih =>
      refine ih (hdelays.evolves (evolves_insertTuple queues tuple))
        (h.insertTuple hdelays (hslots tuple List.mem_cons_self)) fun other hother => ?_
      exact hslots other (List.mem_cons_of_mem _ hother)

/-- Tuples are accepted in turn when each is acceptable and they fill distinct
slots; so their order does not matter. -/
theorem inTurn_iff {queues : QueueMap ButtonsType} {delay : Port → Int}
    (hdelays : HasDelays queues delay) {tuples : List (ButtonsFrameTuple ButtonsType)} :
    InTurn queues tuples ↔
      (∀ tuple ∈ tuples, Accepts queues tuple.port tuple.frame) ∧
        (tuples.map (slotOf delay)).Nodup := by
  constructor
  · intro h
    exact ⟨h.accepts, (h.slots hdelays).1⟩
  · rintro ⟨haccepts, hnodup⟩
    induction tuples generalizing queues with
    | nil => exact trivial
    | cons tuple tuples ih =>
        obtain ⟨hnew, hrest⟩ := List.nodup_cons.mp hnodup
        refine ⟨haccepts tuple List.mem_cons_self,
          ih (hdelays.evolves (evolves_insertTuple queues tuple)) ?_ hrest⟩
        intro other hother
        refine (haccepts other (List.mem_cons_of_mem _ hother)).insertTuple hdelays fun hsame => ?_
        apply hnew
        rw [hsame]
        exact List.mem_map_of_mem hother

/-- A tuple stays acceptable when a port hands out a frame that is there. -/
theorem Accepts.advance {queues : QueueMap ButtonsType} {port k : Port} {frame : Int}
    (h : Accepts queues k frame)
    (hthere : ∀ queue, queues[port]? = some queue →
      queue.expectedFrame < queue.initialFrameDelay ∨ queue.expectedFrame ∈ queue.frameButtons) :
    Accepts (advance queues port) k frame := by
  obtain ⟨queue, hqueue, hframe, hinitial, hnew⟩ := h
  by_cases hport : port = k
  · subst hport
    refine ⟨queue.advance, ?_, hframe, hinitial, ?_⟩
    · rw [getElem?_advance, if_pos rfl, hqueue]
      rfl
    -- the frame handed out was there, and what is there is not acceptable
    · have hne : queue.delayedFrame frame ≠ queue.expectedFrame := by
        intro hsame
        rcases hthere queue hqueue with hearly | hbuffered
        · omega
        · rw [← hsame] at hbuffered
          exact hnew (Or.inr hbuffered)
      have hdelayed : queue.advance.delayedFrame frame = queue.delayedFrame frame := rfl
      rw [hdelayed]
      rintro (hread | hbuffered)
      · rw [InputQueue.advance_latestFrameRequested] at hread
        unfold InputQueue.expectedFrame at hne
        exact hnew (Or.inl (by omega))
      · exact hnew (Or.inr ((InputQueue.mem_advance _ _).mp hbuffered).2)
  · refine ⟨queue, ?_, hframe, hinitial, hnew⟩
    rw [getElem?_advance, if_neg hport, hqueue]

/-! ### What is buffered -/

/-- The value is buffered for the frame of the port. -/
def Holds (queues : QueueMap ButtonsType) (port : Port) (frame : Int) (value : ButtonsType) :
    Prop :=
  ∃ queue, queues[port]? = some queue ∧ queue.frameButtons[frame]? = some value

/-- An accepted tuple overwrites nothing. -/
theorem Holds.insertTuple {queues : QueueMap ButtonsType} {port : Port} {frame : Int}
    {value : ButtonsType} (h : Holds queues port frame value)
    {tuple : ButtonsFrameTuple ButtonsType} (haccepts : Accepts queues tuple.port tuple.frame) :
    Holds (QueueMap.insertTuple queues tuple) port frame value := by
  obtain ⟨queue, hqueue, hvalue⟩ := h
  by_cases hport : tuple.port = port
  · subst hport
    refine ⟨_, insertTuple_self hqueue, ?_⟩
    have hne : queue.delayedFrame tuple.frame ≠ frame := by
      rintro rfl
      apply ((accepts_iff hqueue).mp haccepts).2.2
      rw [InputQueue.Seen, Std.ExtTreeMap.mem_iff_isSome_getElem?, hvalue]
      exact Or.inr rfl
    rw [InputQueue.insertButtons_getElem?, if_neg hne, hvalue]
  · refine ⟨queue, ?_, hvalue⟩
    rw [getElem?_insertTuple, if_neg hport, hqueue]

theorem Holds.insertTuples {queues : QueueMap ButtonsType} {port : Port} {frame : Int}
    {value : ButtonsType} (h : Holds queues port frame value)
    {tuples : List (ButtonsFrameTuple ButtonsType)} (hturn : InTurn queues tuples) :
    Holds (QueueMap.insertTuples queues tuples) port frame value :=
  hturn.invariant (I := fun queues => Holds queues port frame value) (P := fun _ => True)
    (fun _ _ hholds _ haccepts => hholds.insertTuple haccepts) (fun _ _ => trivial) h

/-- Tuples that are accepted in turn are all buffered. -/
theorem InTurn.holds {queues : QueueMap ButtonsType} {delay : Port → Int}
    (hdelays : HasDelays queues delay) {tuples : List (ButtonsFrameTuple ButtonsType)}
    (hturn : InTurn queues tuples) : ∀ tuple ∈ tuples,
      Holds (QueueMap.insertTuples queues tuples) tuple.port (tuple.frame + delay tuple.port)
        tuple.buttons := by
  induction tuples generalizing queues with
  | nil => simp
  | cons tuple tuples ih =>
      refine List.forall_mem_cons.mpr
        ⟨?_, ih (hdelays.evolves (evolves_insertTuple queues tuple)) hturn.2⟩
      obtain ⟨queue, hqueue, -⟩ := hturn.1
      have hfirst : Holds (QueueMap.insertTuple queues tuple) tuple.port
          (tuple.frame + delay tuple.port) tuple.buttons := by
        refine ⟨_, insertTuple_self hqueue, ?_⟩
        rw [InputQueue.insertButtons_getElem?, InputQueue.delayedFrame,
          hdelays tuple.port queue hqueue, if_pos rfl]
      exact hfirst.insertTuples hturn.2

/-- Handing out a frame takes no other frame away. -/
theorem Holds.advance {queues : QueueMap ButtonsType} {k : Port} {frame : Int}
    {value : ButtonsType} (h : Holds queues k frame value) {port : Port}
    (hother : ¬ (port = k ∧ cursorOf queues k = some frame)) :
    Holds (QueueMap.advance queues port) k frame value := by
  obtain ⟨queue, hqueue, hvalue⟩ := h
  by_cases hport : port = k
  · subst hport
    refine ⟨queue.advance, ?_, ?_⟩
    · rw [getElem?_advance, if_pos rfl, hqueue]
      rfl
    · have hne : queue.expectedFrame ≠ frame := by
        rintro rfl
        exact hother ⟨rfl, cursorOf_of_some hqueue⟩
      rw [InputQueue.advance_getElem?, if_neg hne, hvalue]
  · refine ⟨queue, ?_, hvalue⟩
    rw [getElem?_advance, if_neg hport, hqueue]

end QueueMap

end Client
end Netplay
