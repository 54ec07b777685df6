import Mathlib.Tactic.Linarith

/- One-shot timers of an event loop. A wait is pending until the timer expires or
   is cancelled; then its handler is queued with or without an error, and a handler
   that is queued can no longer be revoked. -/
namespace LaluneServer.DeadlineTimer

structure Timer where
  pending : Nat := 0
  expired : Nat := 0
  aborted : Nat := 0
  deriving DecidableEq, Repr

namespace Timer

variable (t : Timer)

def waits : Nat := t.pending + t.expired + t.aborted

def live : Nat := t.pending + t.expired

def cancel : Timer := { t with pending := 0, aborted := t.aborted + t.pending }

/-- Setting a new expiry time cancels the pending waits; then one wait begins. -/
def expiresFromNow : Timer := { t.cancel with pending := 1 }

def expire : Option Timer :=
  if t.pending = 0 then none else some { t with pending := 0, expired := t.expired + t.pending }

def takeExpired : Option Timer :=
  if t.expired = 0 then none else some { t with expired := t.expired - 1 }

def takeAborted : Option Timer :=
  if t.aborted = 0 then none else some { t with aborted := t.aborted - 1 }

@[simp] theorem cancel_waits : t.cancel.waits = t.waits := by
  simp only [waits, cancel]
  omega

@[simp] theorem cancel_live : t.cancel.live = t.expired := by
  simp only [live, cancel]
  omega

@[simp] theorem expiresFromNow_waits : t.expiresFromNow.waits = t.waits + 1 := by
  simp only [waits, expiresFromNow, cancel]
  omega

@[simp] theorem expiresFromNow_live : t.expiresFromNow.live = t.expired + 1 := by
  simp only [live, expiresFromNow, cancel]
  omega

variable {t} {u : Timer}

theorem expire_spec (fired : t.expire = some u) :
    u.waits = t.waits ∧ u.live = t.live ∧ u.pending = 0 ∧ 0 < t.pending := by
  unfold expire at fired
  split at fired
  · contradiction
  · rename_i some_wait
    cases fired
    refine ⟨?_, ?_, rfl, by omega⟩ <;> simp only [waits, live] <;> omega

theorem takeExpired_spec (taken : t.takeExpired = some u) :
    u.waits + 1 = t.waits ∧ u.live + 1 = t.live ∧ u.expired + 1 = t.expired ∧
      u.pending = t.pending := by
  unfold takeExpired at taken
  split at taken
  · contradiction
  · rename_i some_handler
    cases taken
    refine ⟨?_, ?_, ?_, rfl⟩ <;> simp only [waits, live] <;> omega

theorem takeAborted_spec (taken : t.takeAborted = some u) :
    u.waits + 1 = t.waits ∧ u.live = t.live ∧ u.expired = t.expired ∧ u.pending = t.pending := by
  unfold takeAborted at taken
  split at taken
  · contradiction
  · rename_i some_handler
    cases taken
    refine ⟨?_, rfl, rfl, rfl⟩
    simp only [waits]
    omega

end Timer

end LaluneServer.DeadlineTimer
