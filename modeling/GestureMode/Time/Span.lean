/-!
# Spans of time

A span is a count of whole seconds and a count of nanoseconds below one second.  A
point in time is such a span too, but one that may begin before the start.  Sums carry
from the nanoseconds into the seconds; `total` is the exact number of nanoseconds and
says what the sums and comparisons mean.
-/

set_option autoImplicit false

namespace GestureMode

@[ext]
structure Span where
  seconds : Nat
  nanos : Nat
  nanos_lt : nanos < 1000000000
  deriving DecidableEq, Repr

namespace Span

def zero : Span := ⟨0, 0, by decide⟩

instance : Inhabited Span := ⟨zero⟩

def ofMillis (ms : Nat) : Span :=
  ⟨ms / 1000, ms % 1000 * 1000000, by omega⟩

def ofNanos (ns : Nat) : Span :=
  ⟨ns / 1000000000, ns % 1000000000, Nat.mod_lt _ (by decide)⟩

def total (d : Span) : Nat :=
  d.seconds * 1000000000 + d.nanos

@[simp]
theorem total_ofMillis (ms : Nat) : (ofMillis ms).total = ms * 1000000 := by
  simp only [total, ofMillis]
  omega

@[simp]
theorem total_ofNanos (ns : Nat) : (ofNanos ns).total = ns := by
  simp only [total, ofNanos]
  omega

/-! ## Text

A span is written in the largest of the units s, ms, µs and ns of which it has at
least one; the fraction has no trailing zeros, and the empty span is `0ns`. -/

def fractionDigits (places value : Nat) : List Char :=
  let digits := Nat.toDigits 10 value
  let padded := List.replicate (places - digits.length) '0' ++ digits
  (padded.reverse.dropWhile (· == '0')).reverse

def amount (whole places fraction : Nat) : String :=
  if fraction = 0 then toString whole
  else toString whole ++ "." ++ String.ofList (fractionDigits places fraction)

def text (d : Span) : String :=
  if 0 < d.seconds then amount d.seconds 9 d.nanos ++ "s"
  else if 1000000 ≤ d.nanos then amount (d.nanos / 1000000) 6 (d.nanos % 1000000) ++ "ms"
  else if 1000 ≤ d.nanos then amount (d.nanos / 1000) 3 (d.nanos % 1000) ++ "µs"
  else amount d.nanos 0 0 ++ "ns"

end Span

/-! ## Points in time -/

/-- A span that may begin before the start: whole seconds of either sign, and
nanoseconds that count on from them. -/
@[ext]
structure SignedSpan where
  seconds : Int
  nanos : Nat
  nanos_lt : nanos < 1000000000
  deriving DecidableEq, Repr

namespace SignedSpan

def ofSpan (d : Span) : SignedSpan := ⟨d.seconds, d.nanos, d.nanos_lt⟩

instance : Coe Span SignedSpan := ⟨ofSpan⟩

instance : Inhabited SignedSpan := ⟨Span.zero⟩

def total (a : SignedSpan) : Int :=
  a.seconds * 1000000000 + a.nanos

/-- What lies a span later, with a carry when the nanoseconds fill a second. -/
def add (a : SignedSpan) (d : Span) : SignedSpan :=
  if h : a.nanos + d.nanos < 1000000000 then
    ⟨a.seconds + d.seconds, a.nanos + d.nanos, h⟩
  else
    ⟨a.seconds + d.seconds + 1, a.nanos + d.nanos - 1000000000, by
      have := a.nanos_lt
      have := d.nanos_lt
      omega⟩

/-- Seconds decide, and equal seconds leave it to the nanoseconds. -/
def le (a b : SignedSpan) : Bool :=
  a.seconds < b.seconds || (a.seconds == b.seconds && a.nanos ≤ b.nanos)

@[simp]
theorem total_ofSpan (d : Span) : (ofSpan d).total = d.total := by
  simp only [total, ofSpan, Span.total]
  omega

@[simp]
theorem total_add (a : SignedSpan) (d : Span) : (a.add d).total = a.total + d.total := by
  unfold add
  split <;> simp only [total, Span.total] <;> omega

theorem le_iff_total (a b : SignedSpan) : a.le b = true ↔ a.total ≤ b.total := by
  have := a.nanos_lt
  have := b.nanos_lt
  simp only [le, total, Bool.or_eq_true, decide_eq_true_eq, Bool.and_eq_true, beq_iff_eq]
  omega

theorem seconds_le_iff_total (a : SignedSpan) (bound : Int) :
    a.seconds ≤ bound ↔ a.total < (bound + 1) * 1000000000 := by
  have := a.nanos_lt
  simp only [total]
  omega

end SignedSpan

/-- A point in time, as the signed span since an arbitrary start. -/
@[ext]
structure Instant where
  sinceStart : SignedSpan
  deriving DecidableEq, Repr, Inhabited

namespace Instant

def start : Instant := ⟨Span.zero⟩

def lastSecond : Nat := 9223372036854775807

/-- The point a span later; `none` when no clock can show it. -/
def plus? (t : Instant) (d : Span) : Option Instant :=
  let later := t.sinceStart.add d
  if later.seconds ≤ lastSecond then some ⟨later⟩ else none

def advance (t : Instant) (d : Span) : Instant :=
  ⟨t.sinceStart.add d⟩

def total (t : Instant) : Int :=
  t.sinceStart.total

def reached (deadline now : Instant) : Bool :=
  deadline.sinceStart.le now.sinceStart

theorem reached_iff_total (deadline now : Instant) :
    deadline.reached now = true ↔ deadline.total ≤ now.total :=
  SignedSpan.le_iff_total deadline.sinceStart now.sinceStart

end Instant

end GestureMode
