import GestureMode.Host.Command
import GestureMode.Proofs.Delivery

/-!
# The gestures' pipeline

What a service does for the gestures is a machine of its own.  It knows how the six
switches read when they were last looked at, the switches that the keeper holds and
the update that is asked for; its input is how the switches read now and the time.
A tick of the service is one round of this machine, also when the tick stops, so two
courses that differ in everything but the gestures' switches and the times hand over
the same lines.
-/

set_option autoImplicit false

namespace GestureMode

open PreferenceStore

@[ext]
structure Pipeline where
  seen : Gesture → Bool
  switches : Switches
  update : Debounce

namespace Pipeline

def reread (switches : Switches) (found : Gesture → Bool) (gestures : List Gesture) : Switches :=
  gestures.foldl (fun switches gesture => switches.set gesture (found gesture)) switches

def changed (pipeline : Pipeline) (found : Gesture → Bool) : List Gesture :=
  Gesture.all.filter fun gesture => found gesture != pipeline.seen gesture

/-- One round, with the lines that are handed over.  It stops at the first change when
the update has no deadline. -/
def round (pipeline : Pipeline) (found : Gesture → Bool) (now : Instant) :
    Pipeline × List String × Option Fault :=
  let changed := pipeline.changed found
  match pipeline.update.request now (!changed.isEmpty) with
  | .error fault =>
    (⟨found, reread pipeline.switches found (changed.take 1), pipeline.update⟩, [], some fault)
  | .ok asked =>
    let switches := reread pipeline.switches found changed
    let (update, due) := asked.fire now
    (⟨found, switches, update⟩, if due then [switches.encode.line] else [], none)

end Pipeline

namespace Service

section Viewing

variable {P W S : Type} [PreferenceStore P]

def pipeline (service : Service P W S) (seen : P) : Pipeline :=
  ⟨reading seen, service.keeper.switches, service.panel.update⟩

end Viewing

variable {P W S : Type} [LawfulPreferenceStore P] [LineSink W] [HostSettings S]

/-- What a tick does for the gestures is one round, however the tick ends. -/
theorem round_pipeline (service : Service P W S) (seen : P) (now : Instant)
    (agreed : service.snapshot = Snapshot.take Key.watched seen) :
    let answer := service.tick now
    (service.pipeline seen).round (reading service.prefs) now =
      (answer.value.1.pipeline answer.value.1.prefs, Event.lines answer.events,
        answer.value.2) := by
  intro answer
  have changed : (service.pipeline seen).changed (reading service.prefs) =
      differing seen service.prefs := rfl
  have wanted := isEmpty_differing seen service.prefs
  rw [Pipeline.round, changed, wanted]
  change (match service.panel.update.request now _ with | .error fault => _ | .ok asked => _) = _
  cases requested : service.panel.update.request now
      (decide (GesturesDiffer seen service.prefs)) with
  | error fault =>
    have stopped : answer = _ := tick_of_overflow service seen now agreed fault requested
    have silent : Event.lines answer.events = [] :=
      Event.lines_of_quiet _ (quiet_of_overflow service seen now agreed fault requested)
    rw [silent, stopped]
    rfl
  | ok asked =>
    obtain ⟨after, events, follows, ticked⟩ :=
      tick_of_requested service seen now agreed asked requested
    have aside := follows.aside
    have update : after.panel.update = asked := aside.update
    have silent : Event.lines (changeNotes seen service.prefs ++ events) = [] := by
      rw [Event.lines_append, Event.lines_of_quiet _ (quiet_changeNotes seen service.prefs),
        aside.silent, List.append_nil]
    have completed : answer = _ := ticked
    have lines : Event.lines answer.events =
        if (asked.fire now).2 then [after.keeper.switches.encode.line] else [] := by
      rw [completed, Event.lines_append, silent, lines_settle, update]
      rfl
    have viewed : answer.value.1.pipeline answer.value.1.prefs =
        ⟨reading service.prefs, after.keeper.switches, (asked.fire now).1⟩ := by
      rw [completed]
      dsimp only
      rw [pipeline, prefs_settle, switches_settle, panel_settle, aside.gestures, update]
      rfl
    rw [lines, viewed, aside.keeper, completed]
    rfl

end Service

/-! ## Two courses -/

namespace Course

variable {P Q V W S T : Type} [LawfulPreferenceStore P] [LawfulPreferenceStore Q] [LineSink W]
  [LineSink V] [HostSettings S] [HostSettings T]

/-- Two courses whose ticks take place at the same times and which find the gestures'
switches alike at first; what changes outside before a tick leaves them alike. -/
structure SameGestures (one : Course P W S) (other : Course Q V T) : Prop where
  debounce : one.debounce = other.debounce
  times : ∀ n, (one.turn n).now = (other.turn n).now
  initial : reading one.prefs = reading other.prefs
  edits : ∀ n, reading (one.after n).prefs = reading (other.after n).prefs →
    reading (one.opened n).prefs = reading (other.opened n).prefs

theorem reading_start (course : Course P W S) :
    reading (course.after 0).prefs = reading course.prefs := by
  obtain ⟨panel, last, failure, events, answer, resumes⟩ :=
    (Panel.ofHost course.host course.debounce).exists_resumes course.prefs
  rw [after, start, Service.start_eq _ last _ _ _ panel failure events answer]
  exact resumes.gestures

def pipeline (course : Course P W S) (n : Nat) : Pipeline :=
  (course.after n).pipeline (course.after n).prefs

theorem pipeline_start (course : Course P W S) :
    (course.pipeline 0).seen = reading course.prefs ∧
      (course.pipeline 0).switches = Switches.load course.prefs ∧
      (course.pipeline 0).update = Debounce.idle course.debounce := by
  refine ⟨course.reading_start, ?_, course.started.idle⟩
  have inStep : (course.after 0).keeper.switches = _ := course.started.inStep.switches
  exact inStep.trans ((load_eq_iff_reading _ _).mpr course.reading_start)

theorem round_pipeline (course : Course P W S) (n : Nat) :
    (course.pipeline n).round (reading (course.opened n).prefs) (course.turn n).now =
      (course.pipeline (n + 1), Event.lines (course.tick n).events, (course.tick n).value.2) :=
  Service.round_pipeline (course.opened n) (course.after n).prefs (course.turn n).now
    (course.snapshot_after n)

theorem SameGestures.pipeline {one : Course P W S} {other : Course Q V T}
    (same : one.SameGestures other) (n : Nat) : one.pipeline n = other.pipeline n := by
  induction n with
  | zero =>
    obtain ⟨seen, switches, update⟩ := one.pipeline_start
    obtain ⟨otherSeen, otherSwitches, otherUpdate⟩ := other.pipeline_start
    have loaded := (load_eq_iff_reading one.prefs other.prefs).mpr same.initial
    ext1
    · rw [seen, otherSeen, same.initial]
    · rw [switches, otherSwitches, loaded]
    · rw [update, otherUpdate, same.debounce]
  | succ n ih =>
    have found := same.edits n (congrArg Pipeline.seen ih)
    have round := one.round_pipeline n
    rw [ih, found, same.times n, other.round_pipeline n] at round
    exact (congrArg Prod.fst round).symm

theorem SameGestures.tick {one : Course P W S} {other : Course Q V T}
    (same : one.SameGestures other) (n : Nat) :
    Event.lines (one.tick n).events = Event.lines (other.tick n).events ∧
      (one.tick n).value.2 = (other.tick n).value.2 := by
  have before := same.pipeline n
  have found := same.edits n (congrArg Pipeline.seen before)
  have round := one.round_pipeline n
  rw [before, found, same.times n, other.round_pipeline n] at round
  have answers := congrArg Prod.snd round.symm
  exact ⟨congrArg Prod.fst answers, congrArg Prod.snd answers⟩

/-- The lines that are handed over, the keeper's switches, the pending deadline and
whether a tick stops depend on nothing but the gestures' switches and the times. -/
theorem gestures_decide_lines (one : Course P W S) (other : Course Q V T)
    (same : one.SameGestures other) (n : Nat) :
    Event.lines (one.trace n) = Event.lines (other.trace n) ∧
      (one.after n).keeper.switches = (other.after n).keeper.switches ∧
      (one.after n).panel.update.deadline = (other.after n).panel.update.deadline ∧
      (one.tick n).value.2 = (other.tick n).value.2 := by
  have after := same.pipeline n
  refine ⟨?_, congrArg Pipeline.switches after,
    congrArg (fun pipeline : Pipeline => pipeline.update.deadline) after, (same.tick n).2⟩
  induction n with
  | zero =>
    have switches : Switches.load (one.after 0).prefs = Switches.load (other.after 0).prefs :=
      (load_eq_iff_reading _ _).mpr (congrArg Pipeline.seen after)
    have line := one.started.line
    have otherLine := other.started.line
    change Event.lines one.start.events = [(Switches.load (one.after 0).prefs).encode.line] at line
    rw [switches] at line
    exact line.trans otherLine.symm
  | succ n ih =>
    rw [trace, trace, Event.lines_append, Event.lines_append, ih (same.pipeline n)]
    exact congrArg _ (same.tick n).1

/-! Two courses in which gesture C is on for the second tick only.  One holds its
switches in memory and lets the haptic switch follow; the other one keeps them as
properties that refuse every write, and has neither a node nor a settings command. -/

def blinking : Course MemoryPreferences Recorder SettingsTable where
  prefs := ⟨[]⟩
  sink := ⟨false, []⟩
  host := ⟨[], .empty, .empty⟩
  debounce := Span.ofMillis 500
  turn n :=
    { editPrefs := fun _ => ⟨[(Gesture.c.key, n == 1), (Key.haptic, n == 1)]⟩
      editHost := id
      editSink := id
      now := ⟨Span.ofMillis (300 * n)⟩ }

def blinkingLocked : Course PropertyPreferences DeviceNode SettingsCommand where
  prefs := ⟨"", some ⟨[], .every⟩⟩
  sink := ⟨"", ⟨[], [], none⟩⟩
  host := ⟨none, []⟩
  debounce := Span.ofMillis 500
  turn n :=
    { editPrefs := fun _ =>
        ⟨"", some ⟨[(Gesture.c.key, if n == 1 then [0x31] else [0x30])], .every⟩⟩
      editHost := id
      editSink := id
      now := ⟨Span.ofMillis (300 * n)⟩ }

theorem sameGestures_blinking : blinking.SameGestures blinkingLocked where
  debounce := rfl
  times _ := rfl
  initial := by
    funext gesture
    cases gesture <;> decide
  edits n _ := by
    change reading (⟨[(Gesture.c.key, n == 1), (Key.haptic, n == 1)]⟩ : MemoryPreferences) =
      reading (⟨"", some ⟨[(Gesture.c.key, if n == 1 then [0x31] else [0x30])], .every⟩⟩ :
        PropertyPreferences)
    funext gesture
    cases n == 1 <;> cases gesture <;> decide +kernel

theorem gestures_decide_lines_blinking :
    blinking.SameGestures blinkingLocked ∧
      Event.lines (blinking.trace 5) = Event.lines (blinkingLocked.trace 5) :=
  ⟨sameGestures_blinking,
    (gestures_decide_lines blinking blinkingLocked sameGestures_blinking 5).1⟩

end Course

end GestureMode
