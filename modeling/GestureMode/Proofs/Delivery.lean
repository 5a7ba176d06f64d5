import GestureMode.Proofs.Course

/-!
# The lines of a course

Every line of a course shows the gestures' switches as the store reads at the
moment the line is handed over, whatever the sink makes of it.  The sink receives
the lines of the course, in order and each once.  While no update is pending after a
completed tick, the latest line shows the switches that the store holds by then.
-/

set_option autoImplicit false

namespace GestureMode

open PreferenceStore

namespace Course

variable {P W S : Type}

section Tracing

variable [PreferenceStore P] [LineSink W] [HostSettings S]

/-- The events of the start, and of each tick behind it. -/
def events (course : Course P W S) : Nat → List Event
  | 0 => course.start.events
  | n + 1 => (course.tick n).events

/-- The store that the start, or a tick, begins with. -/
def begins (course : Course P W S) : Nat → P
  | 0 => course.prefs
  | n + 1 => (course.opened n).prefs

def sinkAt (course : Course P W S) : Nat → W
  | 0 => course.sink
  | n + 1 => (course.opened n).keeper.sink

/-- The sink when it has received the lines of the start and of so many ticks, and what
changed outside has changed. -/
def received (course : Course P W S) : Nat → W
  | 0 => LineSink.deliverAll course.sink (Event.lines (course.events 0))
  | n + 1 =>
    LineSink.deliverAll ((course.turn n).editSink (course.received n))
      (Event.lines (course.events (n + 1)))

def trace (course : Course P W S) : Nat → List Event
  | 0 => course.events 0
  | n + 1 => course.trace n ++ course.events (n + 1)

end Tracing

variable [LawfulPreferenceStore P] [LineSink W] [HostSettings S]

theorem faithful_events (course : Course P W S) (n : Nat) (reached : course.Reaches n) :
    Faithful (course.begins n) (course.events n) := by
  cases n with
  | zero => exact course.started.faithful
  | succ n => exact (course.ticked n reached).faithful

theorem replay_events (course : Course P W S) (n : Nat) :
    replay (course.begins n) (course.events n) = (course.after n).prefs := by
  cases n with
  | zero => exact course.started.stored
  | succ n =>
    exact (course.opened n).replay_tick (course.after n).prefs _ (course.snapshot_after n)

theorem receives_events (course : Course P W S) (n : Nat) :
    LineSink.Receives (course.sinkAt n) (course.events n) (course.after n).keeper.sink := by
  cases n with
  | zero => exact Service.receives_start course.prefs course.sink course.host course.debounce
  | succ n =>
    exact (course.opened n).receives_tick (course.after n).prefs _ (course.snapshot_after n)

/-- Nothing but what changes outside and the lines of the course makes the sink another. -/
theorem sink_after (course : Course P W S) (n : Nat) :
    (course.after n).keeper.sink = course.received n := by
  induction n with
  | zero => exact (course.receives_events 0).last_eq
  | succ n ih =>
    rw [(course.receives_events (n + 1)).last_eq, received, ← ih]
    rfl

theorem getLast?_lines_trace (course : Course P W S) (n : Nat) (reached : course.Reaches n)
    (settled : (course.after n).panel.updatePending = false) :
    (Event.lines (course.trace n)).getLast? =
      some (Switches.load (course.after n).prefs).encode.line := by
  induction n with
  | zero =>
    rw [trace, events, course.started.line]
    rfl
  | succ n ih =>
    have ticked := course.ticked n reached
    obtain ⟨asked, requested, update, lines⟩ := ticked.round
    have reads : Switches.load (course.after (n + 1)).prefs =
        Switches.load (course.opened n).prefs :=
      (load_eq_iff_reading _ _).mpr ticked.gestures
    rw [trace, events, Event.lines_append, lines, reads]
    cases due : asked.isDue (course.turn n).now with
    | true =>
      rw [Debounce.fire_of_isDue asked _ due]
      simp
    | false =>
      rw [Debounce.fire_of_not_isDue asked _ due] at update ⊢
      have none : asked.deadline = none := by
        rw [Panel.updatePending, update, Debounce.isPending] at settled
        simpa using settled
      -- no deadline: the tick asked for nothing, and nothing was pending before it
      have same : ¬ GesturesDiffer (course.after n).prefs (course.opened n).prefs := by
        intro differ
        rw [decide_eq_true differ] at requested
        obtain ⟨deadline, -, pending⟩ := Debounce.schedule_eq_ok _ asked _ requested
        rw [pending] at none
        cases none
      rw [decide_eq_false same] at requested
      injection requested with kept
      have settledBefore : (course.after n).panel.updatePending = false := by
        change (course.opened n).panel.update.isPending = false
        rw [kept, Debounce.isPending, none]
        rfl
      rw [load_eq_of_not_gesturesDiffer _ _ same]
      simpa using ih (reached.of_succ course n) settledBefore

/-- The start and every tick: each of their lines shows the switches that the store
holds at that moment, the store being what the writes before the line made of it, and is
answered as the sink answers it that was handed the lines before.  The sink has received
all lines so far, each once; and if no update is pending in the end, the latest line of all
shows the switches that the store holds then. -/
theorem lines_show_switches (course : Course P W S) (n : Nat) (reached : course.Reaches n) :
    (∀ (before later : List Event) (text : String) (refusal : Option Failure),
      course.events n = before ++ .line text refusal :: later →
        Shows text (fun gesture =>
          isOn (replay (course.begins n) before) gesture.key) ∧
        refusal = (LineSink.deliver
          (LineSink.deliverAll (course.sinkAt n) (Event.lines before)) text).2) ∧
      replay (course.begins n) (course.events n) = (course.after n).prefs ∧
      (course.after n).keeper.sink = course.received n ∧
      ((course.after n).panel.updatePending = false →
        ∃ text : String, (Event.lines (course.trace n)).getLast? = some text ∧
          Shows text fun gesture => isOn (course.after n).prefs gesture.key) := by
  refine ⟨?_, course.replay_events n, course.sink_after n, ?_⟩
  · intro before later text refusal split
    exact ⟨course.faithful_events n reached before later text refusal split,
      (course.receives_events n).refusal_eq before later text refusal split⟩
  · intro settled
    refine ⟨_, course.getLast?_lines_trace n reached settled, ?_⟩
    have shows := Switches.shows_line (Switches.load (course.after n).prefs)
    rw [isOn_load] at shows
    exact shows

/-- The sink has taken the latest line, and had refused the first one. -/
theorem lines_show_switches_burst :
    burst.Reaches 5 ∧
      (burst.after 5).keeper.sink = ⟨false, ["0000000"]⟩ ∧
      ∃ text : String, (Event.lines (burst.trace 5)).getLast? = some text ∧
        Shows text fun gesture => isOn (burst.after 5).prefs gesture.key := by
  obtain ⟨-, -, sink, latest⟩ := burst.lines_show_switches 5 reaches_burst
  refine ⟨reaches_burst, ?_, latest (by decide)⟩
  rw [sink]
  decide +kernel

end Course

end GestureMode
