import Mathlib.Data.List.Perm.Basic
import Mathlib.Tactic.Common

/-!
# Linearizability

Calls on a shared object overlap: each is invoked at one time and returns at a later one.
They are linearizable if they can be put in one order, in which a call that returned before
another was invoked comes first, and in which the sequential object gives each call the
result that it got.

An order is built while the system runs.  `Linearizes` is kept by what a step can do to it:

* `Linearizes.append`: a call takes effect now.
* `Linearizes.close`: a call that took effect before returns.
* `Linearizes.remove`: a call that has no effect is taken out again.
-/

namespace Linearizability

variable {τ ρ ν σ : Type*}

/-- A call by some caller: the operation, its result, when it was invoked, and when it
returned, if it has. -/
structure TimedCall (τ ρ ν : Type*) where
  caller : τ
  op : ρ
  result : ν
  invoked : ℕ
  returned : Option ℕ
deriving DecidableEq

/-- The call had returned when the other was invoked. -/
def TimedCall.Precedes (call other : TimedCall τ ρ ν) : Prop :=
  ∃ time, call.returned = some time ∧ time < other.invoked

/-- The call returns at the time. -/
def TimedCall.close (time : ℕ) (call : TimedCall τ ρ ν) : TimedCall τ ρ ν :=
  { call with returned := some time }

/-- The sequential object gives the calls their results and ends in this state. -/
def Replays (step : σ → ρ → ν × σ) : σ → List (TimedCall τ ρ ν) → σ → Prop
  | state, [], last => state = last
  | state, call :: rest, last =>
      (step state call.op).1 = call.result ∧ Replays step (step state call.op).2 rest last

/-- No call stands before one that had returned when it was invoked. -/
def InRealTime (order : List (TimedCall τ ρ ν)) : Prop :=
  order.Pairwise fun call later => ¬ later.Precedes call

section Replays

variable {step : σ → ρ → ν × σ} {start last : σ} {order later : List (TimedCall τ ρ ν)}
  {call : TimedCall τ ρ ν}

theorem replays_append :
    Replays step start (order ++ later) last ↔
      ∃ state, Replays step start order state ∧ Replays step state later last := by
  induction order generalizing start with
  | nil => exact ⟨fun h => ⟨start, rfl, h⟩, fun ⟨_, hsame, h⟩ => hsame ▸ h⟩
  | cons first rest ih =>
      simp only [List.cons_append, Replays, ih]
      constructor
      · rintro ⟨hresult, state, hrest, hlater⟩
        exact ⟨state, ⟨hresult, hrest⟩, hlater⟩
      · rintro ⟨state, ⟨hresult, hrest⟩, hlater⟩
        exact ⟨hresult, state, hrest, hlater⟩

/-- What every operation keeps is kept. -/
theorem Replays.invariant {P : σ → Prop} (hkeeps : ∀ state op, P state → P (step state op).2)
    (h : Replays step start order last) (hstart : P start) : P last := by
  induction order generalizing start with
  | nil => exact h ▸ hstart
  | cons first rest ih => exact ih h.2 (hkeeps start first.op hstart)

/-- Results do not depend on when a call returned. -/
theorem replays_map_iff {f : TimedCall τ ρ ν → TimedCall τ ρ ν}
    (hop : ∀ call, (f call).op = call.op) (hresult : ∀ call, (f call).result = call.result) :
    Replays step start (order.map f) last ↔ Replays step start order last := by
  induction order generalizing start with
  | nil => rfl
  | cons first rest ih => simp only [List.map_cons, Replays, ih, hop, hresult]

end Replays

/-- The order explains the calls up to now: the object runs through it to its last state,
it is in real time, and every call of it has been invoked. -/
structure Linearizes (step : σ → ρ → ν × σ) (start last : σ) (now : ℕ)
    (order : List (TimedCall τ ρ ν)) : Prop where
  replays : Replays step start order last
  inRealTime : InRealTime order
  invoked_le : ∀ call ∈ order, call.invoked ≤ now

namespace Linearizes

variable {step : σ → ρ → ν × σ} {start last last' : σ} {now now' : ℕ}
  {order before after : List (TimedCall τ ρ ν)} {call : TimedCall τ ρ ν}

theorem nil (step : σ → ρ → ν × σ) (start : σ) (now : ℕ) :
    Linearizes step start start now ([] : List (TimedCall τ ρ ν)) where
  replays := rfl
  inRealTime := .nil
  invoked_le := List.forall_mem_nil _

theorem mono (h : Linearizes step start last now order) (hle : now ≤ now') :
    Linearizes step start last now' order :=
  ⟨h.replays, h.inRealTime, fun call hcall => Nat.le_trans (h.invoked_le call hcall) hle⟩

/-- A call takes effect now, and returns now or later. -/
theorem append (h : Linearizes step start last now order) (call : TimedCall τ ρ ν)
    (hinvoked : call.invoked ≤ now) (hreturned : ∀ time, call.returned = some time → now ≤ time)
    (hstep : step last call.op = (call.result, last')) :
    Linearizes step start last' now (order ++ [call]) where
  replays := by
    refine replays_append.mpr ⟨last, h.replays, ?_⟩
    simp only [Replays, hstep, and_self]
  inRealTime := by
    refine List.pairwise_append.mpr ⟨h.inRealTime, List.pairwise_singleton _ _, ?_⟩
    rintro earlier hearlier _ hcall ⟨time, htime, hlt⟩
    cases List.mem_singleton.mp hcall
    have hnow := hreturned time htime
    have hle := h.invoked_le earlier hearlier
    omega
  invoked_le := by
    intro other hother
    rcases List.mem_append.mp hother with hold | hnew
    · exact h.invoked_le other hold
    · cases List.mem_singleton.mp hnew
      exact hinvoked

/-- Calls that took effect before return now. -/
theorem map_close (h : Linearizes step start last now order)
    (closes : TimedCall τ ρ ν → Prop) [DecidablePred closes] :
    Linearizes step start last now
      (order.map fun call => if closes call then call.close now else call) where
  replays := by
    refine (replays_map_iff ?_ ?_).mpr h.replays
    · intro call
      split_ifs <;> rfl
    · intro call
      split_ifs <;> rfl
  inRealTime := by
    refine List.pairwise_map.mpr (h.inRealTime.imp_of_mem fun {earlier later} hearlier _ hnot => ?_)
    have hinvoked : ∀ call : TimedCall τ ρ ν,
        (if closes call then call.close now else call).invoked = call.invoked := by
      intro call
      split_ifs <;> rfl
    rintro ⟨time, htime, hlt⟩
    rw [hinvoked] at hlt
    split_ifs at htime with hcloses
    · cases htime
      exact absurd hlt (Nat.not_lt.mpr (h.invoked_le earlier hearlier))
    · exact hnot ⟨time, htime, hlt⟩
  invoked_le := by
    rw [List.forall_mem_map]
    intro call hcall
    have hle := h.invoked_le call hcall
    split_ifs
    · exact hle
    · exact hle

/-- One call that took effect before returns now. -/
theorem close (h : Linearizes step start last now (before ++ call :: after)) :
    Linearizes step start last now (before ++ call.close now :: after) where
  replays := by
    obtain ⟨state, hbefore, hresult, hafter⟩ := replays_append.mp h.replays
    exact replays_append.mpr ⟨state, hbefore, hresult, hafter⟩
  inRealTime := by
    obtain ⟨hbefore, hafter, hacross⟩ := List.pairwise_append.mp h.inRealTime
    obtain ⟨hcall, hrest⟩ := List.pairwise_cons.mp hafter
    refine List.pairwise_append.mpr ⟨hbefore, List.pairwise_cons.mpr ⟨hcall, hrest⟩, ?_⟩
    intro earlier hearlier later hlater
    rcases List.mem_cons.mp hlater with rfl | hlater
    · rintro ⟨time, htime, hlt⟩
      cases htime
      exact absurd hlt (Nat.not_lt.mpr (h.invoked_le earlier (List.mem_append_left _ hearlier)))
    · exact hacross earlier hearlier later (List.mem_cons_of_mem _ hlater)
  invoked_le := by
    intro other hother
    rcases List.mem_append.mp hother with hbefore | hrest
    · exact h.invoked_le other (List.mem_append_left _ hbefore)
    · rcases List.mem_cons.mp hrest with rfl | hafter
      · exact h.invoked_le call (List.mem_append_right _ List.mem_cons_self)
      · exact h.invoked_le other (List.mem_append_right _ (List.mem_cons_of_mem _ hafter))

/-- A call that has no effect where it stands is taken out. -/
theorem remove (h : Linearizes step start last now (before ++ call :: after))
    (hidle : ∀ state, (step state call.op).1 = call.result → (step state call.op).2 = state) :
    Linearizes step start last now (before ++ after) where
  replays := by
    obtain ⟨state, hbefore, hresult, hafter⟩ := replays_append.mp h.replays
    rw [hidle state hresult] at hafter
    exact replays_append.mpr ⟨state, hbefore, hafter⟩
  inRealTime := h.inRealTime.sublist
    ((List.sublist_cons_self call after).append_left before)
  invoked_le := fun other hother => h.invoked_le other
    (((List.sublist_cons_self call after).append_left before).subset hother)

/-- Calls without effect are taken out. -/
theorem remove_all (h : Linearizes step start last now order)
    {calls idle : List (TimedCall τ ρ ν)} (hperm : order.Perm (calls ++ idle))
    (hidle : ∀ call ∈ idle, ∀ state, (step state call.op).1 = call.result →
      (step state call.op).2 = state) :
    ∃ order' : List (TimedCall τ ρ ν), order'.Perm calls ∧
      Linearizes step start last now order' := by
  induction idle generalizing order with
  | nil =>
      rw [List.append_nil] at hperm
      exact ⟨order, hperm, h⟩
  | cons call rest ih =>
      obtain ⟨hcall, hrest⟩ := List.forall_mem_cons.mp hidle
      have hmem : call ∈ order :=
        hperm.mem_iff.mpr (List.mem_append_right _ List.mem_cons_self)
      obtain ⟨before, after, rfl⟩ := List.append_of_mem hmem
      refine ih (h.remove hcall) ?_ hrest
      exact (List.perm_middle.symm.trans (hperm.trans List.perm_middle)).cons_inv

end Linearizes

end Linearizability
