import GestureMode.Config
import GestureMode.Proofs.Coalescing

/-!
# Deadlines past the end of time

A tick stops for one reason only.  Some gesture's switch reads differently than it was
seen, and the deadline of the update it asks for lies past the last second that a clock
can show.  It stops then before anything outside but the log has been touched, since the
gestures come first among the watched switches.  With an interval that the properties
spell, this can happen at the very end of the clock's time only.
-/

set_option autoImplicit false

namespace GestureMode

open PreferenceStore

theorem Instant.plus?_eq_none_iff (t : Instant) (d : Span) :
    t.plus? d = none ↔ lastSecond < (t.sinceStart.add d).seconds := by
  rw [plus?]
  split
  · next shown => simpa using shown
  · next hidden => simpa using hidden

namespace Debounce

theorem request_eq_error_iff (d : Debounce) (now : Instant) (wanted : Bool) (fault : Fault) :
    d.request now wanted = .error fault ↔ wanted = true ∧ now.plus? d.delay = none := by
  cases wanted with
  | false => simp [request]
  | true => simp [request, schedule_eq_error_iff]

end Debounce

theorem Config.seconds_of_millis? (raw : String) (ms : Nat) (spelled : millis? raw = some ms) :
    (Span.ofMillis ms).seconds ≤ 18446744073709551 := by
  obtain ⟨-, bounded⟩ := Option.filter_eq_some_iff.mp spelled
  have small : ms < 18446744073709551616 := by simpa using bounded
  change ms / 1000 ≤ _
  omega

theorem Config.seconds_debounce_le (properties : Properties) :
    (ofProperties properties).debounce.seconds ≤ 18446744073709551 := by
  change (Option.getD (((properties.get? debounceProperty).bind millis?).map Span.ofMillis)
    Debounce.defaultDelay).seconds ≤ _
  cases spelled : (properties.get? debounceProperty).bind millis? with
  | none => decide
  | some ms =>
    obtain ⟨raw, -, fits⟩ := Option.bind_eq_some_iff.mp spelled
    exact seconds_of_millis? raw ms fits

namespace SignedSpan

theorem seconds_add_le (a : SignedSpan) (d : Span) :
    (a.add d).seconds ≤ a.seconds + d.seconds + 1 := by
  unfold add
  split
  · change a.seconds + d.seconds ≤ _
    omega
  · exact Int.le_refl _

end SignedSpan

/-! ## The whole tick -/

namespace Service

theorem exists_unseen_iff {P W S : Type} [PreferenceStore P] (service : Service P W S) (seen : P)
    (agreed : service.snapshot = Snapshot.take Key.watched seen) :
    (∃ gesture : Gesture, Entries.get? service.snapshot gesture.key ≠
        some (isOn service.prefs gesture.key)) ↔ GesturesDiffer seen service.prefs := by
  have held (gesture : Gesture) :
      Entries.get? service.snapshot gesture.key = some (reading seen gesture) := by
    rw [agreed]
    exact Snapshot.get?_take Key.watched seen gesture.key (Key.gesture_mem_watched gesture)
  constructor
  · rintro ⟨gesture, unseen⟩
    refine ⟨gesture, fun same => unseen ?_⟩
    rw [held gesture, ← same]
    rfl
  · rintro ⟨gesture, different⟩
    refine ⟨gesture, fun same => different ?_⟩
    rw [held gesture] at same
    injection same with same
    exact same.symm

variable {P W S : Type} [LawfulPreferenceStore P] [LineSink W] [HostSettings S]

theorem stops_iff_request_fails (service : Service P W S) (seen : P) (now : Instant)
    (agreed : service.snapshot = Snapshot.take Key.watched seen) (fault : Fault) :
    (service.tick now).value.2 = some fault ↔
      service.panel.update.request now (decide (GesturesDiffer seen service.prefs)) =
        .error fault := by
  cases requested : service.panel.update.request now
      (decide (GesturesDiffer seen service.prefs)) with
  | ok asked =>
    obtain ⟨after, events, -, ticked⟩ :=
      service.tick_of_requested seen now agreed asked requested
    simp [ticked]
  | error reason =>
    rw [service.tick_of_overflow seen now agreed reason requested]
    simp

/-- A tick that stops has noted what changed, and the keeper knows of it. -/
theorem untouched_of_stopped (service : Service P W S) (seen : P) (now : Instant)
    (agreed : service.snapshot = Snapshot.take Key.watched seen) (fault : Fault)
    (stopped : (service.tick now).value.2 = some fault) :
    (service.tick now).value.1.prefs = service.prefs ∧
      (service.tick now).value.1.panel = service.panel ∧
      (service.tick now).value.1.keeper.sink = service.keeper.sink ∧
      ∀ event ∈ (service.tick now).events, ∃ entry : Entry, event = .note entry := by
  have failed := (service.stops_iff_request_fails seen now agreed fault).mp stopped
  have noted := service.notes_of_overflow seen now agreed fault failed
  rw [service.tick_of_overflow seen now agreed fault failed] at noted ⊢
  exact ⟨rfl, rfl, rfl, noted⟩

end Service

namespace Course

variable {P W S : Type} [LawfulPreferenceStore P] [LineSink W] [HostSettings S]

theorem stops_iff (course : Course P W S) (n : Nat) (fault : Fault) :
    (course.tick n).value.2 = some fault ↔
      (∃ gesture : Gesture, Entries.get? (course.opened n).snapshot gesture.key ≠
        some (isOn (course.opened n).prefs gesture.key)) ∧
      Instant.lastSecond < ((course.turn n).now.sinceStart.add course.debounce).seconds := by
  have agreed : (course.opened n).snapshot = Snapshot.take Key.watched (course.after n).prefs :=
    course.snapshot_after n
  have delay : (course.opened n).panel.update.delay = course.debounce := course.delay_after n
  rw [tick, (course.opened n).stops_iff_request_fails _ _ agreed, Debounce.request_eq_error_iff,
    decide_eq_true_eq, (course.opened n).exists_unseen_iff _ agreed, Instant.plus?_eq_none_iff,
    delay]

/-- A course gets on as long as no changing tick asks for a deadline that no clock can show. -/
theorem reaches_iff (course : Course P W S) (n : Nat) :
    course.Reaches n ↔ ∀ m, m < n → course.Changing m →
      (course.turn m).now.total + course.debounce.total <
        (Instant.lastSecond + 1) * 1000000000 := by
  have late_iff (m : Nat) : Instant.lastSecond <
        ((course.turn m).now.sinceStart.add course.debounce).seconds ↔
      ¬ (course.turn m).now.total + course.debounce.total <
        (Instant.lastSecond + 1) * 1000000000 := by
    rw [← Instant.exists_plus?_iff, ← Instant.plus?_eq_none_iff, Option.eq_none_iff_forall_ne_some,
      not_exists]
  have unseen_iff (m : Nat) (reached : course.Reaches m) :
      (∃ gesture : Gesture, Entries.get? (course.opened m).snapshot gesture.key ≠
        some (isOn (course.opened m).prefs gesture.key)) ↔ course.Changing m := by
    rw [(course.opened m).exists_unseen_iff _ (course.snapshot_after m),
      course.changing_iff m reached]
  constructor
  · intro reached m before changing
    apply Classical.byContradiction
    intro late
    have unseen := (unseen_iff m (reached.mono course m n (by omega))).mpr changing
    have stopped := (course.stops_iff m .deadlineOverflow).mpr ⟨unseen, (late_iff m).mpr late⟩
    rw [reached m before] at stopped
    cases stopped
  · intro early
    induction n with
    | zero =>
      intro m impossible
      cases impossible
    | succ n ih =>
      have reached : course.Reaches n := ih fun m before => early m (by omega)
      intro m before
      by_cases last : m = n
      · rw [last]
        cases outcome : (course.tick n).value.2 with
        | none => rfl
        | some fault =>
          obtain ⟨unseen, late⟩ := (course.stops_iff n fault).mp outcome
          exact absurd (early n (by omega) ((unseen_iff n reached).mp unseen))
            ((late_iff n).mp late)
      · exact reached m (by omega)

/-- A tick stops exactly when some gesture's switch reads differently than in the
snapshot and the deadline that it asks for has more seconds than a clock can show.  Then
store, provider, what depends on dozing, a deadline that was pending and the sink are as
they were.  The start asks for no deadline; and when the interval comes from the properties,
a tick never stops as long as the clock has more seconds left than they can spell. -/
theorem stops_iff_deadline_overflows (course : Course P W S) (n : Nat) :
    let service := course.opened n
    let now := (course.turn n).now
    let answer := course.tick n
    (answer.value.2 = some .deadlineOverflow ↔
        (∃ gesture : Gesture, Entries.get? service.snapshot gesture.key ≠
          some (isOn service.prefs gesture.key)) ∧
        9223372036854775807 < (now.sinceStart.add course.debounce).seconds) ∧
      (answer.value.2 = some .deadlineOverflow →
        answer.value.1.prefs = service.prefs ∧
          answer.value.1.panel.host = service.panel.host ∧
          answer.value.1.panel.dependentsEnabled = service.panel.dependentsEnabled ∧
          answer.value.1.panel.update = service.panel.update ∧
          answer.value.1.keeper.sink = service.keeper.sink ∧
          ∀ event ∈ answer.events, ∃ entry : Entry, event = .note entry) ∧
      course.start.value.panel.update.deadline = none ∧
      ∀ properties : Properties, course.debounce = (Config.ofProperties properties).debounce →
        now.sinceStart.seconds ≤ 9223372036854775807 - 18446744073709552 →
          answer.value.2 = none := by
  intro service now answer
  have agreed : service.snapshot = Snapshot.take Key.watched (course.after n).prefs :=
    course.snapshot_after n
  refine ⟨course.stops_iff n .deadlineOverflow, ?_, ?_, ?_⟩
  · intro stopped
    obtain ⟨prefs, panel, sink, noted⟩ :=
      service.untouched_of_stopped _ now agreed .deadlineOverflow stopped
    refine ⟨prefs, ?_, ?_, ?_, sink, noted⟩
    · exact congrArg Panel.host panel
    · exact congrArg Panel.dependentsEnabled panel
    · exact congrArg Panel.update panel
  · rw [course.started.idle]
    rfl
  · intro properties configured early
    cases outcome : answer.value.2 with
    | none => rfl
    | some fault =>
      have overflows : 9223372036854775807 < (now.sinceStart.add course.debounce).seconds :=
        ((course.stops_iff n fault).mp outcome).2
      have carried := now.sinceStart.seconds_add_le course.debounce
      have spelled := Config.seconds_debounce_le properties
      rw [← configured] at spelled
      omega

/-- The second tick takes place half a second before the clock's last moment; gesture C
has been turned on by then. -/
def lastMoment : Course MemoryPreferences Recorder SettingsTable where
  prefs := ⟨[]⟩
  sink := ⟨false, []⟩
  host := ⟨[], .empty, .empty⟩
  debounce := (Config.ofProperties none).debounce
  turn n :=
    { editPrefs := fun prefs => prefs.insert Gesture.c.key (n == 1)
      editHost := id
      editSink := id
      now := if n = 1 then ⟨⟨9223372036854775807, 500000000, by decide⟩⟩ else .start }

/-- The nanoseconds of the deadline carry into a second that the clock does not have. -/
theorem stops_iff_deadline_overflows_lastMoment :
    (lastMoment.tick 0).value.2 = none ∧
      (lastMoment.tick 1).value.2 = some .deadlineOverflow ∧
      (lastMoment.after 2).prefs = (lastMoment.opened 1).prefs ∧
      (lastMoment.after 2).panel.host = (lastMoment.opened 1).panel.host := by
  obtain ⟨-, -, -, early⟩ := lastMoment.stops_iff_deadline_overflows 0
  obtain ⟨stops, untouched, -⟩ := lastMoment.stops_iff_deadline_overflows 1
  have stopped : (lastMoment.tick 1).value.2 = some .deadlineOverflow :=
    stops.mpr ⟨⟨.c, by decide +kernel⟩, by decide⟩
  obtain ⟨prefs, host, -⟩ := untouched stopped
  exact ⟨early none rfl (by decide), stopped, prefs, host⟩

end Course

end GestureMode
