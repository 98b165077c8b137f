import Mathlib.Order.BoundedOrder.Basic
import Mathlib.Tactic.Common

/-!
# Write-once logs

A log assigns at most one entry to each key and never forgets or changes an
entry.  Logs are ordered by extension: `log ≤ log'` says that every entry of
`log` is an entry of `log'`.  Several readers that each hold only a part of one
log agree on every key they both know (`entry_eq_of_le_of_le`), whatever order
the parts arrived in; this is the shape of every agreement result over a
replicated log.
-/

/-- At most one entry for each key. -/
@[ext]
structure WriteOnceLog (κ α : Type*) where
  entry : κ → Option α

namespace WriteOnceLog

variable {κ α : Type*}

/-- Extension order: everything the smaller log records, the larger one records
with the same value. -/
instance : PartialOrder (WriteOnceLog κ α) where
  le log log' := ∀ k a, log.entry k = some a → log'.entry k = some a
  le_refl _ _ _ h := h
  le_trans _ _ _ h h' k a hk := h' k a (h k a hk)
  le_antisymm log log' h h' := by
    ext k a
    exact ⟨h k a, h' k a⟩

/-- The log without entries. -/
instance : OrderBot (WriteOnceLog κ α) where
  bot := ⟨fun _ => none⟩
  bot_le _ _ _ h := by cases h

@[simp] theorem bot_entry (k : κ) : (⊥ : WriteOnceLog κ α).entry k = none := rfl

theorem entry_of_le {log log' : WriteOnceLog κ α} (hle : log ≤ log') {k : κ} {a : α}
    (h : log.entry k = some a) : log'.entry k = some a :=
  hle k a h

/-- Two parts of one log agree on the keys they share. -/
theorem entry_eq_of_le_of_le {log₁ log₂ log : WriteOnceLog κ α}
    (hle₁ : log₁ ≤ log) (hle₂ : log₂ ≤ log) {k : κ} {a b : α}
    (ha : log₁.entry k = some a) (hb : log₂.entry k = some b) : a = b := by
  have hsame : some a = some b := (hle₁ k a ha).symm.trans (hle₂ k b hb)
  exact Option.some.inj hsame

section Write

variable [DecidableEq κ]

/-- Record an entry.  The operations of a log only ever write absent keys. -/
def write (log : WriteOnceLog κ α) (k : κ) (a : α) : WriteOnceLog κ α :=
  ⟨fun j => if j = k then some a else log.entry j⟩

@[simp] theorem write_entry (log : WriteOnceLog κ α) (k j : κ) (a : α) :
    (log.write k a).entry j = if j = k then some a else log.entry j := rfl

theorem write_entry_of_ne (log : WriteOnceLog κ α) {k j : κ} (a : α) (h : j ≠ k) :
    (log.write k a).entry j = log.entry j := by
  simp [h]

/-- Writing an absent key extends the log. -/
theorem le_write {log : WriteOnceLog κ α} {k : κ} (habsent : log.entry k = none) (a : α) :
    log ≤ log.write k a := by
  intro j b hj
  -- an entry that is there is not the one being written
  have hne : j ≠ k := by
    rintro rfl
    rw [habsent] at hj
    cases hj
  rw [write_entry_of_ne log a hne]
  exact hj

end Write

end WriteOnceLog
