import Mathlib.Data.List.Basic
import Netplay.Foundations.WriteOnceLog

/-!
# Machines that read the same streams

A stream has for each position an element that may not be known yet.  A machine takes a
step with the elements that several channels have at one position, so it can be run as far
as its streams are known.

* `Begins.prefix_or`: of two beginnings of one stream, one is a prefix of the other, as two
  parts of one write-once log agree.
* `stateAfter_mono`: a machine that knows less of the same streams is in a state that the
  machine which knows more was in.
* `stateAfter_isSome`: it gets as far as all its channels are known.
* `ClosedLoop.Answers.stateAfter_eq`: if the channels answer, some positions later, to the
  states that the machine has been in, then nobody has a choice.
-/

namespace ReplicatedMachine

variable {α κ σ : Type*}

/-! ### Beginnings of a stream -/

/-- The list is what the stream has at its first positions. -/
def Begins (read : List α) (stream : ℕ → Option α) : Prop :=
  ∀ position element, read[position]? = some element → stream position = some element

/-- What was read, by position. -/
def readLog (read : List α) : WriteOnceLog ℕ α := ⟨fun position => read[position]?⟩

/-- A beginning is a part of the stream. -/
theorem Begins.readLog_le {read : List α} {stream : ℕ → Option α} (h : Begins read stream) :
    readLog read ≤ ⟨stream⟩ := h

theorem Begins.prefix_of_le {read read' : List α} {stream : ℕ → Option α}
    (h : Begins read stream) (h' : Begins read' stream) (hle : read.length ≤ read'.length) :
    read <+: read' := by
  rw [List.prefix_iff_getElem?]
  intro position hposition
  have hposition' : position < read'.length := by omega
  have hsame : read[position] = read'[position] :=
    WriteOnceLog.entry_eq_of_le_of_le h.readLog_le h'.readLog_le
      (List.getElem?_eq_getElem hposition) (List.getElem?_eq_getElem hposition')
  rw [List.getElem?_eq_getElem hposition', hsame]

/-- Two beginnings of one stream: the shorter one begins the longer one. -/
theorem Begins.prefix_or {read read' : List α} {stream : ℕ → Option α} (h : Begins read stream)
    (h' : Begins read' stream) : read <+: read' ∨ read' <+: read := by
  rcases Nat.le_total read.length read'.length with hle | hle
  · exact Or.inl (h.prefix_of_le h' hle)
  · exact Or.inr (h'.prefix_of_le h hle)

/-! ### Running a machine -/

/-- What the channels have at one position, if all of it is known. -/
def inputsAt (input : κ → ℕ → Option α) (position : ℕ) : List κ → Option (List α)
  | [] => some []
  | channel :: channels =>
      match input channel position with
      | none => none
      | some element => (inputsAt input position channels).map (element :: ·)

/-- The state after the first `steps` positions, if everything up to there is known. -/
def stateAfter (step : σ → List α → σ) (start : σ) (channels : List κ)
    (input : κ → ℕ → Option α) : ℕ → Option σ
  | 0 => some start
  | steps + 1 =>
      match stateAfter step start channels input steps with
      | none => none
      | some state => (inputsAt input steps channels).map (step state)

theorem inputsAt_mono {input input' : κ → ℕ → Option α} {position : ℕ} {channels : List κ}
    (hmono : ∀ channel ∈ channels, ∀ element, input channel position = some element →
      input' channel position = some element) {elements : List α}
    (h : inputsAt input position channels = some elements) :
    inputsAt input' position channels = some elements := by
  induction channels generalizing elements with
  | nil => exact h
  | cons channel channels ih =>
      obtain ⟨hfirst, hrest⟩ := List.forall_mem_cons.mp hmono
      rw [inputsAt] at h ⊢
      cases helement : input channel position with
      | none =>
          rw [helement] at h
          cases h
      | some element =>
          rw [helement] at h
          rw [hfirst element helement]
          obtain ⟨others, hothers, hcons⟩ := Option.map_eq_some_iff.mp h
          exact Option.map_eq_some_iff.mpr ⟨others, ih hrest hothers, hcons⟩

/-- What the channels have at a position, if each of them has this there. -/
theorem inputsAt_eq_map {input : κ → ℕ → Option α} {position : ℕ} {channels : List κ}
    {carried : κ → α}
    (h : ∀ channel ∈ channels, ∀ element, input channel position = some element →
      element = carried channel) {elements : List α}
    (helements : inputsAt input position channels = some elements) :
    elements = channels.map carried := by
  induction channels generalizing elements with
  | nil => exact (Option.some.inj helements).symm
  | cons channel channels ih =>
      obtain ⟨hfirst, hrest⟩ := List.forall_mem_cons.mp h
      rw [inputsAt] at helements
      cases helement : input channel position with
      | none =>
          rw [helement] at helements
          cases helements
      | some element =>
          rw [helement] at helements
          obtain ⟨others, hothers, rfl⟩ := Option.map_eq_some_iff.mp helements
          rw [List.map_cons, ← hfirst element helement, ← ih hrest hothers]

theorem inputsAt_isSome {input : κ → ℕ → Option α} {position : ℕ} {channels : List κ}
    (h : ∀ channel ∈ channels, (input channel position).isSome = true) :
    (inputsAt input position channels).isSome = true := by
  induction channels with
  | nil => rfl
  | cons channel channels ih =>
      obtain ⟨hfirst, hrest⟩ := List.forall_mem_cons.mp h
      obtain ⟨element, helement⟩ := Option.isSome_iff_exists.mp hfirst
      simp only [inputsAt, helement, Option.isSome_map]
      exact ih hrest

/-- A machine that knows more of the streams has been where one that knows less is. -/
theorem stateAfter_mono {step : σ → List α → σ} {start : σ} {channels : List κ}
    {input input' : κ → ℕ → Option α}
    (hmono : ∀ channel ∈ channels, ∀ position element,
      input channel position = some element → input' channel position = some element)
    {steps : ℕ} {state : σ} (h : stateAfter step start channels input steps = some state) :
    stateAfter step start channels input' steps = some state := by
  induction steps generalizing state with
  | zero => exact h
  | succ steps ih =>
      rw [stateAfter] at h ⊢
      cases hbefore : stateAfter step start channels input steps with
      | none =>
          rw [hbefore] at h
          cases h
      | some before =>
          rw [hbefore] at h
          rw [ih hbefore]
          obtain ⟨elements, helements, hstep⟩ := Option.map_eq_some_iff.mp h
          refine Option.map_eq_some_iff.mpr ⟨elements, ?_, hstep⟩
          exact inputsAt_mono (fun channel hchannel => hmono channel hchannel steps) helements

/-- A machine runs as far as all its channels are known. -/
theorem stateAfter_isSome {step : σ → List α → σ} {start : σ} {channels : List κ}
    {input : κ → ℕ → Option α} {steps : ℕ}
    (h : ∀ channel ∈ channels, ∀ position < steps, (input channel position).isSome = true) :
    (stateAfter step start channels input steps).isSome = true := by
  induction steps with
  | zero => rfl
  | succ steps ih =>
      obtain ⟨state, hstate⟩ := Option.isSome_iff_exists.mp
        (ih fun channel hchannel position hposition =>
          h channel hchannel position (Nat.lt_succ_of_lt hposition))
      simp only [stateAfter, hstate, Option.isSome_map]
      exact inputsAt_isSome fun channel hchannel =>
        h channel hchannel steps (Nat.lt_succ_self steps)

/-! ### Machines that hear themselves -/

/-- A machine whose channels answer to its states.  A channel is idle for as many positions
as its delay is, and then carries the reaction to the state of so many steps before. -/
structure ClosedLoop (α κ σ : Type*) where
  step : σ → List α → σ
  start : σ
  channels : List κ
  delay : κ → ℕ
  idle : α
  react : κ → ℕ → σ → α

namespace ClosedLoop

variable (loop : ClosedLoop α κ σ)

/-- What a channel carries at a position. -/
def input (states : ℕ → σ) (channel : κ) (position : ℕ) : α :=
  if position < loop.delay channel then loop.idle
  else loop.react channel (position - loop.delay channel)
    (states (position - loop.delay channel))

/-- The states after so many steps, with the last of them repeated. -/
def history : ℕ → ℕ → σ
  | 0, _ => loop.start
  | steps + 1, position =>
      if position ≤ steps then history steps position
      else loop.step (history steps steps)
        (loop.channels.map fun channel => loop.input (history steps) channel steps)

/-- The state after so many steps. -/
def state (steps : ℕ) : σ := loop.history steps steps

theorem history_of_le {steps position : ℕ} (hle : position ≤ steps) :
    loop.history steps position = loop.state position := by
  induction steps with
  | zero =>
      obtain rfl : position = 0 := by omega
      rfl
  | succ steps ih =>
      rcases Nat.lt_or_ge steps position with hlast | hbefore
      · obtain rfl : position = steps + 1 := by omega
        rfl
      · rw [history, if_pos hbefore]
        exact ih hbefore

theorem state_succ (steps : ℕ) :
    loop.state (steps + 1) = loop.step (loop.state steps)
      (loop.channels.map fun channel => loop.input loop.state channel steps) := by
  have hlast : ¬ steps + 1 ≤ steps := by omega
  rw [state, history, if_neg hlast]
  congr 1
  refine List.map_congr_left fun channel _ => ?_
  unfold input
  rw [loop.history_of_le (Nat.sub_le _ _)]

/-- What is known of the channels: the idle element inside the delay, and after it the
reaction to a state that a machine on these very channels is in. -/
def Answers (input : κ → ℕ → Option α) : Prop :=
  ∀ channel ∈ loop.channels, ∀ position element, input channel position = some element →
    if position < loop.delay channel then element = loop.idle
    else ∃ state,
      stateAfter loop.step loop.start loop.channels input (position - loop.delay channel) =
          some state ∧
        element = loop.react channel (position - loop.delay channel) state

variable {loop} {input : κ → ℕ → Option α}

/-- A machine on channels that answer to it has no choice. -/
theorem Answers.stateAfter_eq (h : loop.Answers input) {steps : ℕ} {state : σ}
    (hstate : stateAfter loop.step loop.start loop.channels input steps = some state) :
    state = loop.state steps := by
  induction steps using Nat.strongRecOn generalizing state with
  | ind steps ih =>
      cases steps with
      | zero => exact (Option.some.inj hstate).symm
      | succ steps =>
          rw [stateAfter] at hstate
          cases hbefore : stateAfter loop.step loop.start loop.channels input steps with
          | none =>
              rw [hbefore] at hstate
              cases hstate
          | some before =>
              rw [hbefore] at hstate
              obtain ⟨elements, helements, rfl⟩ := Option.map_eq_some_iff.mp hstate
              have hheard : ∀ channel ∈ loop.channels, ∀ element,
                  input channel steps = some element →
                    element = loop.input loop.state channel steps := by
                intro channel hchannel element helement
                have hanswer := h channel hchannel steps element helement
                unfold ClosedLoop.input
                split_ifs at hanswer ⊢
                · exact hanswer
                · obtain ⟨shown, hshown, hreact⟩ := hanswer
                  rw [hreact, ih _ (by omega) hshown]
              rw [loop.state_succ, ih steps (Nat.lt_succ_self steps) hbefore,
                inputsAt_eq_map hheard helements]

end ClosedLoop

end ReplicatedMachine
