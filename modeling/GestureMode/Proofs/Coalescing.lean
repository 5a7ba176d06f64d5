import GestureMode.Proofs.Course
import GestureMode.Proofs.Requests

/-!
# Which ticks deliver

A tick is changing when a gesture's switch reads differently than at the tick
before, or than after the start.  The ticks of a course play the rounds of its
debouncer, and so a tick hands one line to the sink exactly when a changing tick
lies behind the last delivery, and the debounce interval has passed since the latest
one.  Nothing else about the course matters.
-/

set_option autoImplicit false

namespace GestureMode

open PreferenceStore

namespace Course

variable {P W S : Type}

section Ticks

variable [PreferenceStore P] [LineSink W] [HostSettings S]

/-- The store as it was read by the tick before, or by the start. -/
def seen (course : Course P W S) : Nat → P
  | 0 => (course.after 0).prefs
  | n + 1 => (course.opened n).prefs

/-- A gesture's switch reads differently than at the tick before. -/
def Changing (course : Course P W S) (n : Nat) : Prop :=
  GesturesDiffer (course.seen n) (course.opened n).prefs

instance decidableChanging (course : Course P W S) (n : Nat) : Decidable (course.Changing n) :=
  decidableGesturesDiffer (course.seen n) (course.opened n).prefs

def lines (course : Course P W S) (n : Nat) : List String :=
  Event.lines (course.tick n).events

/-- Tick `j` is the latest changing tick up to tick `n`, and nothing was handed over
since, tick `n` left aside. -/
structure Unwritten (course : Course P W S) (n j : Nat) : Prop where
  le : j ≤ n
  changing : course.Changing j
  latest : ∀ m, j < m → m ≤ n → ¬ course.Changing m
  unwritten : ∀ m, m < n → course.lines m ≠ [] → m < j

def rounds (course : Course P W S) : Rounds where
  debounce n := (course.after n).panel.update
  time n := (course.turn n).now
  wanted n := decide (course.Changing n)
  fired n := !(course.lines n).isEmpty

theorem fired_rounds (course : Course P W S) (n : Nat) :
    course.rounds.fired n = true ↔ course.lines n ≠ [] := by
  rw [rounds, Bool.not_eq_true', List.isEmpty_eq_false_iff]

/-- The request that is outstanding is the latest change that is not written yet. -/
theorem outstanding_rounds_iff (course : Course P W S) (n j : Nat) :
    course.rounds.Outstanding n j ↔ course.Unwritten n j := by
  constructor
  · rintro ⟨le, wanted, latest, unfired⟩
    refine ⟨le, of_decide_eq_true wanted, ?_, ?_⟩
    · intro m after upto
      exact of_decide_eq_false (latest m after upto)
    · intro m before written
      apply Classical.byContradiction
      intro late
      have silent := unfired m (by omega) before
      rw [(course.fired_rounds m).mpr written] at silent
      cases silent
  · rintro ⟨le, changing, latest, unwritten⟩
    refine ⟨le, decide_eq_true changing, ?_, ?_⟩
    · intro m after upto
      exact decide_eq_false (latest m after upto)
    · intro m upto before
      cases fired : course.rounds.fired m with
      | false => rfl
      | true =>
        have early := unwritten m before ((course.fired_rounds m).mp fired)
        omega

end Ticks

variable [LawfulPreferenceStore P] [LineSink W] [HostSettings S]

theorem reading_after (course : Course P W S) (n : Nat) (reached : course.Reaches n) :
    reading (course.after n).prefs = reading (course.seen n) := by
  cases n with
  | zero => rfl
  | succ n => exact (course.ticked n reached).gestures

theorem changing_iff (course : Course P W S) (n : Nat) (reached : course.Reaches n) :
    course.Changing n ↔ GesturesDiffer (course.after n).prefs (course.opened n).prefs := by
  rw [Changing, GesturesDiffer, GesturesDiffer, course.reading_after n reached]

/-- A completed tick is one round, with one line when the round fires. -/
theorem round_tick (course : Course P W S) (n : Nat) (reached : course.Reaches (n + 1)) :
    (∃ asked : Debounce,
      (course.rounds.debounce n).request (course.rounds.time n) (course.rounds.wanted n) =
          .ok asked ∧
        asked.fire (course.rounds.time n) =
          (course.rounds.debounce (n + 1), course.rounds.fired n)) ∧
      course.lines n =
        if course.rounds.fired n then [(Switches.load (course.opened n).prefs).encode.line]
        else [] := by
  obtain ⟨asked, requested, update, lines⟩ := (course.ticked n reached).round
  have changing := course.changing_iff n (reached.of_succ course n)
  have fired : course.rounds.fired n = (asked.fire (course.turn n).now).2 := by
    change (!(Event.lines (course.tick n).events).isEmpty) = _
    rw [lines]
    cases (asked.fire (course.turn n).now).2 with
    | true => rfl
    | false => rfl
  refine ⟨⟨asked, ?_, ?_⟩, ?_⟩
  · rw [← requested]
    change Debounce.request _ _ (decide (course.Changing n)) = _
    rw [decide_eq_decide.mpr changing]
    rfl
  · rw [fired]
    exact Prod.ext update.symm rfl
  · rw [fired]
    exact lines

theorem played (course : Course P W S) (n : Nat) (reached : course.Reaches (n + 1)) :
    course.rounds.Played course.debounce n := by
  refine ⟨course.started.idle, ?_⟩
  intro m upto
  exact (course.round_tick m (reached.mono course (m + 1) (n + 1) (by omega))).1

theorem lines_tick (course : Course P W S) (n : Nat) (reached : course.Reaches (n + 1)) :
    course.lines n =
      if course.rounds.fired n then [(Switches.load (course.opened n).prefs).encode.line]
      else [] :=
  (course.round_tick n reached).2

/-- When a tick delivers, its line is handed to the sink, and that is all the sink gets. -/
theorem sink_tick (course : Course P W S) (n : Nat) (reached : course.Reaches (n + 1)) :
    (course.after (n + 1)).keeper.sink =
      if course.rounds.fired n then
        (LineSink.deliver (course.opened n).keeper.sink
          (Switches.load (course.opened n).prefs).encode.line).1
      else (course.opened n).keeper.sink := by
  have received : (course.after (n + 1)).keeper.sink =
      LineSink.deliverAll (course.opened n).keeper.sink (course.lines n) :=
    ((course.opened n).receives_tick (course.after n).prefs _ (course.snapshot_after n)).last_eq
  rw [received, course.lines_tick n reached]
  cases course.rounds.fired n with
  | true => rfl
  | false => rfl

/-- A tick hands over one line, that of the switches as it reads them, exactly when a change
is not written yet and the debounce interval has passed since the latest change; otherwise it
hands over none.  The sink receives what is handed over, and nothing else. -/
theorem writes_once_iff_debounced (course : Course P W S) (n : Nat)
    (reached : course.Reaches (n + 1)) :
    let debounced := ∃ j, course.Unwritten n j ∧
      (course.turn j).now.total + course.debounce.total ≤ (course.turn n).now.total
    let line := (Switches.load (course.opened n).prefs).encode.line
    let sink := (course.turn n).editSink (course.after n).keeper.sink
    ((course.lines n).length = 1 ↔ debounced) ∧ (course.lines n = [] ↔ ¬ debounced) ∧
      (debounced → course.lines n = [line] ∧
        (course.after (n + 1)).keeper.sink = (LineSink.deliver sink line).1) ∧
      (¬ debounced → (course.after (n + 1)).keeper.sink = sink) := by
  intro debounced line sink
  have fired : course.rounds.fired n = true ↔ debounced := by
    have outstanding := (course.played n reached).fired_iff course.rounds course.debounce n
    simp only [outstanding_rounds_iff] at outstanding
    exact outstanding
  have received := course.sink_tick n reached
  rw [course.lines_tick n reached]
  cases written : course.rounds.fired n with
  | true =>
    have passed : debounced := fired.mp written
    rw [written] at received
    refine ⟨⟨fun _ => passed, fun _ => rfl⟩, ⟨?_, fun early => absurd passed early⟩,
      fun _ => ⟨rfl, received⟩, fun early => absurd passed early⟩
    intro empty
    cases empty
  | false =>
    have early : ¬ debounced := by
      intro passed
      rw [fired.mpr passed] at written
      cases written
    rw [written] at received
    refine ⟨⟨?_, fun passed => absurd passed early⟩, ⟨fun _ => early, fun _ => rfl⟩,
      fun passed => absurd passed early, fun _ => received⟩
    intro one
    cases one

/-- The tick at 1200 ms is the first that is 500 ms later than the change at 600 ms.  Its line
is the first that the sink takes. -/
theorem writes_once_iff_debounced_burst :
    burst.Reaches 5 ∧ (burst.lines 4).length = 1 ∧
      (burst.after 5).keeper.sink = ⟨false, ["0000000"]⟩ := by
  obtain ⟨once, -, received, -⟩ := burst.writes_once_iff_debounced 4 reaches_burst
  have debounced : ∃ j, burst.Unwritten 4 j ∧
      (burst.turn j).now.total + burst.debounce.total ≤ (burst.turn 4).now.total := by
    refine ⟨2, ⟨by decide, by decide, ?_, by decide⟩, by decide⟩
    intro m after upto
    have last : m = 3 ∨ m = 4 := by omega
    rcases last with rfl | rfl
    · decide
    · decide
  refine ⟨reaches_burst, once.mpr debounced, ?_⟩
  rw [(received debounced).2]
  decide +kernel

end Course

end GestureMode
