import GestureMode.Proofs.Course

/-!
# Quiescence

A tick that completes leaves nothing behind for the next one.  Whatever the snapshot
held, it is now the one of the store: a switch that got its old value back is recorded,
and one whose old value the store refused counts as seen with the value it kept.  An
update that was due is pending no more.  So as long as nobody else changes the store,
the ticks that follow do nothing, apart from the one delivery of a pending update.
-/

set_option autoImplicit false

namespace GestureMode

namespace Service

section Quiescence

variable {P W S : Type}

def UpdateDue (service : Service P W S) (now : Instant) : Prop :=
  ∃ deadline : Instant,
    service.panel.update.deadline = some deadline ∧ deadline.total ≤ now.total

theorem not_updateDue_iff (service : Service P W S) (now : Instant) :
    ¬ service.UpdateDue now ↔ service.panel.update.isDue now = false := by
  rw [UpdateDue, ← Debounce.isDue_iff, Bool.not_eq_true]

def delivered [LineSink W] (service : Service P W S) : Service P W S :=
  let line := service.keeper.switches.encode.line
  { service with
    keeper := { service.keeper with sink := (LineSink.deliver service.keeper.sink line).1 }
    panel := { service.panel with update := service.panel.update.cancel } }

variable [PreferenceStore P] [LineSink W] [HostSettings S]

theorem tick_of_not_updateDue (service : Service P W S) (now : Instant)
    (agreed : service.snapshot = Snapshot.take Key.watched service.prefs)
    (waiting : ¬ service.UpdateDue now) : service.tick now = ⟨(service, none), []⟩ := by
  have early := (service.not_updateDue_iff now).mp waiting
  rw [service.tick_of_untouched now agreed, service.settle_of_not_isDue now early]

theorem tick_of_updateDue (service : Service P W S) (now : Instant)
    (agreed : service.snapshot = Snapshot.take Key.watched service.prefs)
    (due : service.UpdateDue now) :
    service.tick now = ⟨(service.delivered, none), service.keeper.deliver.events⟩ := by
  have fires := (Debounce.isDue_iff service.panel.update now).mpr due
  rw [service.tick_of_untouched now agreed, service.settle_of_isDue now fires,
    Keeper.value_deliver]
  rfl

/-- What a completed tick leaves pending is not due at the time of that tick. -/
theorem not_updateDue_of_completed (service : Service P W S) (now : Instant)
    (completed : (service.tick now).value.2 = none) :
    ¬ (service.tick now).value.1.UpdateDue now := by
  obtain ⟨handled, settled⟩ := service.exists_settled_of_completed now completed
  rw [not_updateDue_iff, settled, panel_settle]
  exact Debounce.isDue_fire handled.panel.update now

end Quiescence

section Lawful

variable {P W S : Type} [LawfulPreferenceStore P] [LineSink W] [HostSettings S]

/-- After a completed tick, and until the store changes outside, a tick at any time
does nothing unless a pending update is due; then it delivers one line, that of the
switches the keeper knows, and the update is pending no more.  What happens to
provider and sink in between makes no difference. -/
theorem quiescent_of_completed (service : Service P W S) (now later : Instant)
    (editHost : S → S) (editSink : W → W)
    (watched : service.snapshot.map Prod.fst = Key.watched)
    (completed : (service.tick now).value.2 = none) :
    let settled := (service.tick now).value.1
    let opened := (settled.withHost editHost).withSink editSink
    let line := opened.keeper.switches.encode.line
    let answer := LineSink.deliver opened.keeper.sink line
    (¬ opened.UpdateDue later → opened.tick later = ⟨(opened, none), []⟩) ∧
      (opened.UpdateDue later →
        opened.tick later =
          ⟨({ opened with
              keeper := { opened.keeper with sink := answer.1 }
              panel := { opened.panel with
                update := { opened.panel.update with deadline := none } } }, none),
            Keeper.modeNote opened.keeper.switches.encode :: .line line answer.2 ::
              (answer.2.map (Keeper.refusalNote line)).toList⟩) ∧
      settled.tick now = ⟨(settled, none), []⟩ := by
  intro settled opened line answer
  have seen : settled.snapshot = Snapshot.take Key.watched settled.prefs :=
    service.snapshot_tick now watched
  have openedSeen : opened.snapshot = Snapshot.take Key.watched opened.prefs := seen
  refine ⟨?_, ?_, ?_⟩
  · intro waiting
    exact opened.tick_of_not_updateDue later openedSeen waiting
  · intro due
    rw [opened.tick_of_updateDue later openedSeen due, Keeper.events_deliver]
    rfl
  · have waiting : ¬ settled.UpdateDue now := service.not_updateDue_of_completed now completed
    exact settled.tick_of_not_updateDue now seen waiting

end Lawful

/-- Gesture C and the ambient switch were turned on.  The host refuses every write and
so does the store, so the ambient switch cannot get its old value back. -/
def stubborn : Service PropertyPreferences Recorder SettingsTable where
  prefs := ⟨"switch.", some
    ⟨[("switch." ++ Gesture.c.key, Text.Utf8.encode "true"),
      ("switch." ++ Key.ambient, Text.Utf8.encode "true")], .every⟩⟩
  keeper := ⟨Switches.load (⟨[]⟩ : MemoryPreferences), ⟨true, []⟩⟩
  panel := Panel.ofHost ⟨[], .every, .empty⟩ (Span.ofMillis 500)
  snapshot := Key.watched.map fun key => (key, false)

/-- The refused restore is not tried again, and the update for gesture C is delivered
half a second later and no sooner. -/
theorem quiescent_of_completed_stubborn :
    stubborn.snapshot.map Prod.fst = Key.watched ∧
      (stubborn.tick .start).value.2 = none ∧
      Event.store Key.ambient false (some (.property ("switch." ++ Key.ambient))) ∈
        (stubborn.tick .start).events ∧
      let settled := (stubborn.tick .start).value.1
      settled.tick .start = ⟨(settled, none), []⟩ ∧
        settled.tick ⟨Span.ofMillis 499⟩ = ⟨(settled, none), []⟩ ∧
        Event.lines (settled.tick ⟨Span.ofMillis 500⟩).events = ["1000100"] := by
  have watched : stubborn.snapshot.map Prod.fst = Key.watched := by decide
  obtain ⟨completed, restoring, pending, line⟩ :
      (stubborn.tick .start).value.2 = none ∧
        Event.store Key.ambient false (some (.property ("switch." ++ Key.ambient))) ∈
          (stubborn.tick .start).events ∧
        (stubborn.tick .start).value.1.panel.update.deadline = some ⟨Span.ofMillis 500⟩ ∧
        (stubborn.tick .start).value.1.keeper.switches.encode.line = "1000100" := by
    decide +kernel
  have early := quiescent_of_completed stubborn .start ⟨Span.ofMillis 499⟩ id id watched completed
  have late := quiescent_of_completed stubborn .start ⟨Span.ofMillis 500⟩ id id watched completed
  refine ⟨watched, completed, restoring, ?_⟩
  -- what the tick left is known well enough not to be computed again
  generalize (stubborn.tick .start).value.1 = settled at early late pending line ⊢
  refine ⟨early.2.2, early.1 ?_, ?_⟩
  · rintro ⟨deadline, same, passed⟩
    cases pending.symm.trans same
    exact absurd passed (by decide)
  · have handed : settled.tick ⟨Span.ofMillis 500⟩ = _ := late.2.1 ⟨_, pending, Int.le_refl _⟩
    have lines := Keeper.lines_deliver settled.keeper
    rw [Keeper.events_deliver] at lines
    rw [handed, ← line]
    exact lines

end Service

/-! ## Courses that nobody interferes with -/

namespace Course

variable {P W S : Type} [LawfulPreferenceStore P] [LineSink W] [HostSettings S]

def Untouched (course : Course P W S) (n : Nat) : Prop :=
  ∀ m, n ≤ m → ∀ prefs, (course.turn m).editPrefs prefs = prefs

theorem snapshot_opened_of_untouched (course : Course P W S) (n m : Nat)
    (untouched : course.Untouched n) (le : n ≤ m) :
    (course.opened m).snapshot = Snapshot.take Key.watched (course.opened m).prefs := by
  have prefs : (course.opened m).prefs = (course.after m).prefs := untouched m le _
  rw [prefs]
  exact course.snapshot_after m

theorem tick_of_untouched (course : Course P W S) (n m : Nat) (untouched : course.Untouched n)
    (le : n ≤ m) :
    (¬ (course.opened m).UpdateDue (course.turn m).now ∧
        course.tick m = ⟨(course.opened m, none), []⟩) ∨
      ((course.opened m).UpdateDue (course.turn m).now ∧
        course.tick m =
          ⟨((course.opened m).delivered, none), (course.opened m).keeper.deliver.events⟩) := by
  have agreed := course.snapshot_opened_of_untouched n m untouched le
  rcases Classical.em ((course.opened m).UpdateDue (course.turn m).now) with due | waiting
  · exact .inr ⟨due, (course.opened m).tick_of_updateDue _ agreed due⟩
  · exact .inl ⟨waiting, (course.opened m).tick_of_not_updateDue _ agreed waiting⟩

theorem deadline_of_untouched (course : Course P W S) (n m k : Nat)
    (untouched : course.Untouched n) (le : n ≤ m)
    (due : (course.opened m).UpdateDue (course.turn m).now) :
    (course.after (m + 1 + k)).panel.update.deadline = none := by
  induction k with
  | zero =>
    rcases course.tick_of_untouched n m untouched le with ⟨waiting, -⟩ | ⟨-, ticked⟩
    · exact absurd due waiting
    · change (course.tick m).value.1.panel.update.deadline = none
      rw [ticked]
      rfl
  | succ k ih =>
    have idle : (course.opened (m + 1 + k)).panel.update.deadline = none := ih
    change (course.tick (m + 1 + k)).value.1.panel.update.deadline = none
    rcases course.tick_of_untouched n (m + 1 + k) untouched (by omega) with
      ⟨-, ticked⟩ | ⟨⟨deadline, pending, -⟩, -⟩
    · rw [ticked]
      exact idle
    · rw [idle] at pending
      cases pending

/-- Every tick of such a course completes and leaves the store alone, and at most one
of them has any effect that shows: after it has delivered a line nothing happens. -/
theorem quiet_of_untouched (course : Course P W S) (n : Nat) (untouched : course.Untouched n) :
    (∀ m, n ≤ m → (course.tick m).value.2 = none ∧
      (course.after (m + 1)).prefs = (course.after m).prefs ∧
      Event.dealings (course.tick m).events = []) ∧
    ∀ m k, n ≤ m → (course.tick m).events ≠ [] → (course.tick (m + 1 + k)).events = [] := by
  constructor
  · intro m le
    have prefs : (course.opened m).prefs = (course.after m).prefs := untouched m le _
    rcases course.tick_of_untouched n m untouched le with ⟨-, ticked⟩ | ⟨-, ticked⟩
    · refine ⟨by rw [ticked], ?_, by rw [ticked]; rfl⟩
      change (course.tick m).value.1.prefs = _
      rw [ticked, prefs]
    · refine ⟨by rw [ticked], ?_, by rw [ticked]; exact Keeper.dealings_deliver _⟩
      change (course.tick m).value.1.prefs = _
      rw [ticked, ← prefs]
      rfl
  · intro m k le shown
    rcases course.tick_of_untouched n m untouched le with ⟨-, ticked⟩ | ⟨due, -⟩
    · rw [ticked] at shown
      exact absurd rfl shown
    · have idle := course.deadline_of_untouched n m k untouched le due
      rcases course.tick_of_untouched n (m + 1 + k) untouched (by omega) with
        ⟨-, ticked⟩ | ⟨⟨deadline, pending, -⟩, -⟩
      · rw [ticked]
      · have same : (course.opened (m + 1 + k)).panel.update.deadline = none := idle
        rw [same] at pending
        cases pending

end Course

end GestureMode
