import GestureMode.Proofs.Latest
import GestureMode.Proofs.Requests

/-!
# Deadlines over a history

Requests, cancellations and questions whether to fire may come in any order and at any times,
also times that go back.  The debouncer keeps one deadline only, and it is that of the
outstanding request: the latest that was scheduled, when nothing was cancelled and nothing
has fired since.  A request whose deadline no clock can show leaves the debouncer as it was.
-/

set_option autoImplicit false

namespace GestureMode

inductive DebounceOperation where
  | schedule (now : Instant)
  | cancel
  | fire (now : Instant)

namespace Debounce

/-- The debouncer after an operation; a request without a deadline changes nothing. -/
def perform (d : Debounce) : DebounceOperation → Debounce
  | .schedule now =>
    match d.schedule now with
    | .ok asked => asked
    | .error _ => d
  | .cancel => d.cancel
  | .fire now => (d.fire now).1

def run (d : Debounce) (history : List DebounceOperation) : Debounce :=
  history.foldl perform d

/-- Whether an operation replaces the deadline, if only by none: a request that has a
deadline, a cancellation, or a firing. -/
def Resets (d : Debounce) : DebounceOperation → Prop
  | .schedule now => ∃ asked : Debounce, d.schedule now = .ok asked
  | .cancel => True
  | .fire now => (d.fire now).2 = true

/-- The request made at `asked` has a deadline, and nothing has replaced it since. -/
def Outstanding (delay : Span) (history : List DebounceOperation) (asked : Instant) : Prop :=
  ∃ before after : List DebounceOperation,
    history = before ++ .schedule asked :: after ∧
      ((idle delay).run before).Resets (.schedule asked) ∧
      Undecided perform Resets (((idle delay).run before).perform (.schedule asked)) after

theorem perform_of_schedule_error (d : Debounce) (now : Instant) (fault : Fault)
    (overflows : d.schedule now = .error fault) : d.perform (.schedule now) = d := by
  rw [perform, overflows]

theorem delay_perform (d : Debounce) (operation : DebounceOperation) :
    (d.perform operation).delay = d.delay := by
  cases operation with
  | schedule now =>
    rw [perform]
    cases scheduled : d.schedule now with
    | ok asked => exact delay_of_schedule d asked now scheduled
    | error fault => rfl
  | cancel => rfl
  | fire now => exact delay_fire d now

theorem delay_run (d : Debounce) (history : List DebounceOperation) :
    (d.run history).delay = d.delay := by
  induction history generalizing d with
  | nil => rfl
  | cons operation rest ih => exact (ih (d.perform operation)).trans (d.delay_perform operation)

theorem fire_snd (d : Debounce) (now : Instant) : (d.fire now).2 = d.isDue now := by
  cases due : d.isDue now with
  | true => rw [fire_of_isDue d now due]
  | false => rw [fire_of_not_isDue d now due]

def deadlineAfter (d : Debounce) : DebounceOperation → Option Instant
  | .schedule now => now.plus? d.delay
  | .cancel | .fire _ => none

theorem decides_deadline : Decides perform Debounce.deadline Resets deadlineAfter where
  decided := by
    intro d operation resets
    cases operation with
    | schedule now =>
      obtain ⟨asked, scheduled⟩ := resets
      obtain ⟨deadline, shown, rfl⟩ := schedule_eq_ok d asked now scheduled
      rw [perform, scheduled, deadlineAfter, shown]
    | cancel => rfl
    | fire now =>
      have due : d.isDue now = true := (d.fire_snd now).symm.trans resets
      rw [perform, fire_of_isDue d now due, deadline_cancel, deadlineAfter]
  kept := by
    intro d operation idles
    cases operation with
    | schedule now =>
      cases scheduled : d.schedule now with
      | ok asked => exact absurd ⟨asked, scheduled⟩ idles
      | error fault => rw [d.perform_of_schedule_error now fault scheduled]
    | cancel => exact absurd trivial idles
    | fire now =>
      have early : d.isDue now = false := by
        rw [← Bool.not_eq_true, ← d.fire_snd now]
        exact idles
      rw [perform, fire_of_not_isDue d now early]

/-! ## The outstanding request -/

theorem deadlineAfter_run (delay : Span) (before : List DebounceOperation) (asked : Instant) :
    ((idle delay).run before).deadlineAfter (.schedule asked) = asked.plus? delay := by
  rw [deadlineAfter, delay_run, idle]

/-- The deadline is that of the outstanding request. -/
theorem deadline_run_eq_some_iff (delay : Span) (history : List DebounceOperation)
    (deadline : Instant) :
    ((idle delay).run history).deadline = some deadline ↔
      ∃ asked : Instant, Outstanding delay history asked ∧ asked.plus? delay = some deadline := by
  constructor
  · intro pending
    rcases Undecided.or_exists_latest perform Resets (idle delay) history with
      undecided | ⟨before, after, operation, split, resets, latest⟩
    · have idled := decides_deadline.view_of_undecided (idle delay) history undecided
      rw [run, idled] at pending
      cases pending
    · have decided :=
        decides_deadline.view_of_latest (idle delay) before after operation resets latest
      rw [split, run, decided] at pending
      cases operation with
      | schedule asked =>
        have shown := (deadlineAfter_run delay before asked).symm.trans pending
        exact ⟨asked, ⟨before, after, split, resets, latest⟩, shown⟩
      | cancel | fire now => cases pending
  · rintro ⟨asked, ⟨before, after, split, resets, latest⟩, shown⟩
    have decided := decides_deadline.view_of_latest (idle delay) before after (.schedule asked)
      resets latest
    rw [split, run, decided, ← shown]
    exact deadlineAfter_run delay before asked

theorem Outstanding.exists_deadline {delay : Span} {history : List DebounceOperation}
    {asked : Instant} (outstanding : Outstanding delay history asked) :
    ∃ deadline : Instant, asked.plus? delay = some deadline := by
  obtain ⟨before, after, -, ⟨scheduled, accepted⟩, -⟩ := outstanding
  obtain ⟨deadline, shown, -⟩ := schedule_eq_ok _ scheduled asked accepted
  rw [delay_run] at shown
  exact ⟨deadline, shown⟩

/-- What is outstanding was requested no earlier than anything that replaced the deadline. -/
theorem Outstanding.mem_of_resets {delay : Span} {history before after : List DebounceOperation}
    {asked : Instant} {operation : DebounceOperation}
    (outstanding : Outstanding delay history asked) (split : history = before ++ operation :: after)
    (resets : ((idle delay).run before).Resets operation) :
    .schedule asked ∈ operation :: after := by
  obtain ⟨first, second, splitAsked, -, latest⟩ := outstanding
  rw [split] at splitAsked
  rcases List.append_eq_append_iff.mp splitAsked with
    ⟨between, firstEq, restEq⟩ | ⟨between, beforeEq, restEq⟩
  · rw [restEq]
    exact List.mem_append_right between List.mem_cons_self
  · cases between with
    | nil =>
      injection restEq with same
      rw [same]
      exact List.mem_cons_self
    | cons head between =>
      injection restEq with same rest
      subst same
      rw [beforeEq, run, List.foldl_append] at resets
      exact absurd resets (latest between after operation rest)

theorem fire_run_iff (delay : Span) (history : List DebounceOperation) (now : Instant) :
    (((idle delay).run history).fire now).2 = true ↔
      ∃ asked : Instant, Outstanding delay history asked ∧
        asked.total + delay.total ≤ now.total := by
  rw [fire_snd, isDue_iff]
  constructor
  · rintro ⟨deadline, pending, passed⟩
    obtain ⟨asked, outstanding, shown⟩ :=
      (deadline_run_eq_some_iff delay history deadline).mp pending
    rw [Instant.total_of_plus? asked deadline delay shown] at passed
    exact ⟨asked, outstanding, passed⟩
  · rintro ⟨asked, outstanding, passed⟩
    obtain ⟨deadline, shown⟩ := outstanding.exists_deadline
    refine ⟨deadline, (deadline_run_eq_some_iff delay history deadline).mpr
      ⟨asked, outstanding, shown⟩, ?_⟩
    rw [Instant.total_of_plus? asked deadline delay shown]
    exact passed

theorem isPending_run_iff (delay : Span) (history : List DebounceOperation) :
    ((idle delay).run history).isPending = true ↔
      ∃ asked : Instant, Outstanding delay history asked := by
  rw [isPending, Option.isSome_iff_exists]
  constructor
  · rintro ⟨deadline, pending⟩
    obtain ⟨asked, outstanding, -⟩ := (deadline_run_eq_some_iff delay history deadline).mp pending
    exact ⟨asked, outstanding⟩
  · rintro ⟨asked, outstanding⟩
    obtain ⟨deadline, shown⟩ := outstanding.exists_deadline
    exact ⟨deadline, (deadline_run_eq_some_iff delay history deadline).mpr
      ⟨asked, outstanding, shown⟩⟩

def Showable (seconds : Int) : Prop :=
  -9223372036854775808 ≤ seconds ∧ seconds ≤ 9223372036854775807

/-- A request fails when the exact sum has more whole seconds than a clock can show. -/
theorem schedule_fails_iff (d : Debounce) (now : Instant)
    (showable : Showable now.sinceStart.seconds) :
    d.schedule now = .error .deadlineOverflow ↔
      ¬ Showable ((now.total + d.delay.total) / 1000000000) := by
  have early : -9223372036854775808 ≤ (now.total + d.delay.total) / 1000000000 := by
    have lower := showable.1
    simp only [Instant.total, SignedSpan.total]
    omega
  have fits : now.total + d.delay.total < (Instant.lastSecond + 1) * 1000000000 ↔
      (now.total + d.delay.total) / 1000000000 ≤ 9223372036854775807 := by
    rw [Instant.lastSecond]
    omega
  rw [schedule_eq_error_iff, ← Option.not_isSome_iff_eq_none, Option.isSome_iff_exists,
    Instant.exists_plus?_iff, fits, Showable, and_iff_right early]

/-! ## The whole history -/

/-- However requests, cancellations and questions follow each other: the debouncer fires
exactly when a request is outstanding whose delay has passed, and it is pending exactly when
one is outstanding.  A request overflows exactly when the exact sum of its time and the delay
has more whole seconds than a clock can show, and leaves the deadline as it was.  What fires
was requested since whatever replaced the deadline before, so a request fires once at most,
and not at all when there is a later one. -/
theorem fires_iff_outstanding_passed (delay : Span) (history : List DebounceOperation) :
    let debounce := (idle delay).run history
    (∀ now : Instant, (debounce.fire now).2 = true ↔
        ∃ asked : Instant, Outstanding delay history asked ∧
          asked.total + delay.total ≤ now.total) ∧
      (debounce.isPending = true ↔ ∃ asked : Instant, Outstanding delay history asked) ∧
      (∀ now : Instant, Showable now.sinceStart.seconds →
        (debounce.schedule now = .error .deadlineOverflow ↔
          ¬ Showable ((now.total + delay.total) / 1000000000))) ∧
      (∀ (now : Instant) (fault : Fault), debounce.schedule now = .error fault →
        ((idle delay).run (history ++ [.schedule now])).deadline = debounce.deadline) ∧
      ∀ (before after : List DebounceOperation) (operation : DebounceOperation),
        history = before ++ operation :: after →
          ((idle delay).run before).Resets operation →
            ∀ now : Instant, (debounce.fire now).2 = true →
              ∃ asked : Instant, .schedule asked ∈ operation :: after ∧
                asked.total + delay.total ≤ now.total := by
  intro debounce
  refine ⟨fire_run_iff delay history, isPending_run_iff delay history, ?_, ?_, ?_⟩
  · intro now showable
    have fails := debounce.schedule_fails_iff now showable
    rw [delay_run (idle delay) history] at fails
    exact fails
  · intro now fault overflows
    rw [run, List.foldl_append]
    exact congrArg Debounce.deadline (debounce.perform_of_schedule_error now fault overflows)
  · intro before after operation split resets now fires
    obtain ⟨asked, outstanding, passed⟩ := (fire_run_iff delay history now).mp fires
    exact ⟨asked, outstanding.mem_of_resets split resets, passed⟩

def lastMoments (tenth : Nat) (small : tenth < 10) : Instant :=
  ⟨⟨9223372036854775807, tenth * 100000000, by omega⟩⟩

def lateRequests : List DebounceOperation :=
  [.schedule (lastMoments 4 (by decide)), .schedule (lastMoments 6 (by decide)),
    .fire (lastMoments 8 (by decide))]

/-- The first request is still outstanding, and fires half a second after it was made. -/
theorem fires_iff_outstanding_passed_lateRequests :
    let debounce := (idle (Span.ofMillis 500)).run lateRequests
    debounce.isPending = true ∧ (debounce.fire (lastMoments 9 (by decide))).2 = true ∧
      debounce.schedule (lastMoments 6 (by decide)) = .error .deadlineOverflow ∧
      ((idle (Span.ofMillis 500)).run
          (lateRequests ++ [.schedule (lastMoments 6 (by decide))])).deadline =
        debounce.deadline := by
  intro debounce
  obtain ⟨fires, pending, overflows, kept, -⟩ :=
    fires_iff_outstanding_passed (Span.ofMillis 500) lateRequests
  have outstanding :
      Outstanding (Span.ofMillis 500) lateRequests (lastMoments 4 (by decide)) := by
    refine ⟨[], lateRequests.tail, rfl, ⟨_, rfl⟩, ?_⟩
    refine (Undecided.cons_iff _ _ _).mpr ⟨?_, (Undecided.cons_iff _ _ _).mpr ⟨?_, .nil _⟩⟩
    · rintro ⟨asked, scheduled⟩
      cases scheduled
    · change ¬ (Debounce.fire _ _).2 = true
      decide
  have stopped : debounce.schedule (lastMoments 6 (by decide)) = .error .deadlineOverflow :=
    (overflows _ ⟨by decide, by decide⟩).mpr (by unfold Showable; decide)
  exact ⟨pending.mpr ⟨_, outstanding⟩, (fires _).mpr ⟨_, outstanding, by decide⟩, stopped,
    kept _ _ stopped⟩

end Debounce

end GestureMode
