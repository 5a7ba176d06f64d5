import GestureMode.Time.Span

/-!
# Debouncing

One deadline, set a fixed delay ahead.  Scheduling again replaces the deadline
that is pending, so a burst of requests ends in a single firing, one delay after
its last request.
-/

set_option autoImplicit false

namespace GestureMode

inductive Fault where
  | deadlineOverflow
  deriving DecidableEq, Repr

def Fault.message : Fault → String
  | .deadlineOverflow => "overflow when adding duration to instant"

structure Debounce where
  delay : Span
  deadline : Option Instant
  deriving DecidableEq, Repr

namespace Debounce

def defaultDelay : Span := Span.ofMillis 500

def idle (delay : Span) : Debounce :=
  ⟨delay, none⟩

/-- A deadline past the last second of the clock is a fault. -/
def schedule (d : Debounce) (now : Instant) : Except Fault Debounce :=
  match now.plus? d.delay with
  | some deadline => .ok { d with deadline := some deadline }
  | none => .error .deadlineOverflow

def cancel (d : Debounce) : Debounce :=
  { d with deadline := none }

def isPending (d : Debounce) : Bool :=
  d.deadline.isSome

def isDue (d : Debounce) (now : Instant) : Bool :=
  d.deadline.any (·.reached now)

/-- Answers once, at or after the deadline, and clears it. -/
def fire (d : Debounce) (now : Instant) : Debounce × Bool :=
  if d.isDue now then (d.cancel, true) else (d, false)

@[simp]
theorem deadline_cancel (d : Debounce) : d.cancel.deadline = none := rfl

theorem fire_of_isDue (d : Debounce) (now : Instant) (h : d.isDue now = true) :
    d.fire now = (d.cancel, true) := by
  simp [fire, h]

theorem fire_of_not_isDue (d : Debounce) (now : Instant) (h : d.isDue now = false) :
    d.fire now = (d, false) := by
  simp [fire, h]

theorem isDue_iff (d : Debounce) (now : Instant) :
    d.isDue now = true ↔
      ∃ deadline : Instant, d.deadline = some deadline ∧ deadline.total ≤ now.total := by
  simp only [isDue, Option.any_eq_true, Instant.reached_iff_total]

theorem isDue_fire (d : Debounce) (now : Instant) : (d.fire now).1.isDue now = false := by
  cases due : d.isDue now with
  | true =>
    rw [fire_of_isDue d now due]
    rfl
  | false => rw [fire_of_not_isDue d now due, due]

theorem delay_of_schedule (d d' : Debounce) (now : Instant) (h : d.schedule now = .ok d') :
    d'.delay = d.delay := by
  unfold schedule at h
  split at h
  · injection h with h
    subst h
    rfl
  · contradiction

end Debounce

end GestureMode
