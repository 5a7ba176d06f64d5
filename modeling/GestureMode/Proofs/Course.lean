import GestureMode.Host.Table
import GestureMode.Proofs.Tick

/-!
# Courses of the service

A course says what a service starts with and, for every tick, what changes outside
before it and when it takes place.  Store, provider and sink can change in any way
at all between two ticks; a tick that stops is the end of the program, and of its
course.  After the start and after every completed tick the service is in step with
its store, and every completed tick is one round of its debouncer.
-/

set_option autoImplicit false

namespace GestureMode

open PreferenceStore

/-! ## The start -/

namespace Panel

section Resuming

variable {P S : Type} [PreferenceStore P]

structure Resumed (panel : Panel S) (prefs : P) (after : Panel S) (last : P)
    (events : List Event) : Prop where
  update : after.update = panel.update
  stored : replay prefs events = last
  silent : Event.lines events = []

theorem Resumed.trans {panel middle after : Panel S} {prefs stored last : P}
    {events later : List Event} (first : panel.Resumed prefs middle stored events)
    (second : middle.Resumed stored after last later) :
    panel.Resumed prefs after last (events ++ later) where
  update := second.update.trans first.update
  stored := by rw [replay_append, first.stored, second.stored]
  silent := by rw [Event.lines_append, first.silent, second.silent, List.append_nil]

variable [HostSettings S]

theorem Mirrors.resumed {switch : HostSwitch} {panel after : Panel S} {prefs last : P}
    {failure : Option Failure} {events : List Event}
    (mirrors : Mirrors switch panel prefs after last failure events) :
    panel.Resumed prefs after last events := by
  have quiet := HostSettings.quiet_readFlag panel.host switch.setting
  have kept := replay_of_quiet _ prefs quiet
  have silent := Event.lines_of_quiet _ quiet
  cases mirrors with
  | unread => exact ⟨rfl, kept, silent⟩
  | refused =>
    refine ⟨rfl, ?_, ?_⟩
    · rw [replay_append, kept]
      rfl
    · rw [Event.lines_append, silent]
      rfl
  | mirrored value read last stored =>
    refine ⟨switch.update_adopt _ _ _, ?_, ?_⟩
    · rw [replay_append, kept]
      simp [advance, stored]
    · rw [Event.lines_append, silent]
      rfl

theorem Resumes.resumed {panel after : Panel S} {prefs last : P} {failure : Option Failure}
    {events : List Event} (resumes : Resumes panel prefs after last failure events) :
    panel.Resumed prefs after last events := by
  cases resumes with
  | stopped middle stored failure events first => exact first.resumed
  | finished middle after stored last failure events later doze haptic first second =>
    have noted : after.Resumed last after last
        (if failure.isNone then [resumeNote doze haptic] else []) := by
      cases failure <;> exact ⟨rfl, rfl, rfl⟩
    exact first.resumed.trans (second.resumed.trans noted)

end Resuming

section Lawful

variable {P S : Type} [LawfulPreferenceStore P] [HostSettings S]

theorem Mirrors.get?_of_ne {switch : HostSwitch} {panel after : Panel S} {prefs last : P}
    {failure : Option Failure} {events : List Event}
    (mirrors : Mirrors switch panel prefs after last failure events) (key : String)
    (different : key ≠ switch.key) : get? last key = get? prefs key := by
  cases mirrors with
  | unread | refused => rfl
  | mirrored value read last stored =>
    exact LawfulPreferenceStore.get?_put_of_ne prefs last switch.key key _ stored different

theorem Resumes.gestures {panel after : Panel S} {prefs last : P} {failure : Option Failure}
    {events : List Event} (resumes : Resumes panel prefs after last failure events) :
    reading last = reading prefs := by
  apply reading_congr
  intro gesture
  have notAmbient := Gesture.ne_of_ofKey?_eq_none gesture _ HostSwitch.ambient.ofKey?_key
  have notHaptic := Gesture.ne_of_ofKey?_eq_none gesture _ HostSwitch.haptic.ofKey?_key
  cases resumes with
  | stopped middle stored failure events first => exact first.get?_of_ne gesture.key notAmbient
  | finished middle after stored last failure events later doze haptic first second =>
    rw [second.get?_of_ne gesture.key notHaptic, first.get?_of_ne gesture.key notAmbient]

end Lawful

end Panel

namespace Service

variable {P W S : Type} [PreferenceStore P] [LineSink W] [HostSettings S]

structure Started (prefs : P) (debounce : Span) (answer : Traced (Service P W S)) : Prop where
  inStep : answer.value.InStep answer.value.prefs
  idle : answer.value.panel.update = Debounce.idle debounce
  line : Event.lines answer.events = [(Switches.load answer.value.prefs).encode.line]
  faithful : Faithful prefs answer.events
  stored : replay prefs answer.events = answer.value.prefs

def warning (failure : Failure) : Event :=
  let reason := failure.message
  .note ⟨.warn, s!"[Service] Could not mirror host settings: {reason}"⟩

theorem start_eq (prefs last : P) (sink : W) (host : S) (debounce : Span) (panel : Panel S)
    (failure : Option Failure) (events : List Event)
    (resumed : (Panel.ofHost host debounce).resume prefs = ⟨((panel, last), failure), events⟩) :
    let keeper : Keeper W := ⟨Switches.load last, sink⟩
    start prefs sink host debounce =
      ⟨⟨last, keeper.deliver.value.1, panel, Snapshot.take Key.watched last⟩,
        events ++ ((failure.map warning).toList ++ keeper.deliver.events)⟩ := by
  intro keeper
  rw [start, resumed]
  cases failure with
  | none =>
    change (⟨_, events ++ ([] ++ (keeper.deliver.events ++ [] ++ []))⟩ : Traced _) = _
    rw [List.append_nil, List.append_nil]
    rfl
  | some failure =>
    change (⟨_, events ++ ([_] ++ (keeper.deliver.events ++ [] ++ []))⟩ : Traced _) = _
    rw [List.append_nil, List.append_nil]
    rfl

theorem dealings_start (prefs last : P) (sink : W) (host : S) (debounce : Span) (panel : Panel S)
    (failure : Option Failure) (events : List Event)
    (resumed : (Panel.ofHost host debounce).resume prefs = ⟨((panel, last), failure), events⟩) :
    Event.dealings (start prefs sink host debounce).events = Event.dealings events := by
  have warned : Event.dealings (failure.map warning).toList = [] := by
    cases failure <;> rfl
  rw [start_eq prefs last sink host debounce panel failure events resumed, Event.dealings_append,
    Event.dealings_append, warned, Keeper.dealings_deliver, List.append_nil, List.append_nil]

/-- The first mode is the only line that the start hands to the sink. -/
theorem receives_start (prefs : P) (sink : W) (host : S) (debounce : Span) :
    LineSink.Receives sink (start prefs sink host debounce : Traced (Service P W S)).events
      (start prefs sink host debounce : Traced (Service P W S)).value.keeper.sink := by
  obtain ⟨panel, last, failure, events, answer, resumes⟩ :=
    (Panel.ofHost host debounce).exists_resumes prefs
  have warned : Event.lines (failure.map warning).toList = [] := by
    cases failure <;> rfl
  have before := LineSink.receives_of_lines_eq_nil sink events resumes.resumed.silent
  have warnings := LineSink.receives_of_lines_eq_nil sink _ warned
  rw [start_eq prefs last sink host debounce panel failure events answer]
  exact before.append (warnings.append (Keeper.receives_deliver ⟨Switches.load last, sink⟩))

theorem started (prefs : P) (sink : W) (host : S) (debounce : Span) :
    Started prefs debounce (start prefs sink host debounce) := by
  obtain ⟨panel, last, failure, events, answer, resumes⟩ :=
    (Panel.ofHost host debounce).exists_resumes prefs
  have resumed := resumes.resumed
  let keeper : Keeper W := ⟨Switches.load last, sink⟩
  let warnings : List Event := (failure.map warning).toList
  have quiet : ∀ event ∈ warnings, event.isQuiet = true := by
    cases failure <;> simp [warnings, warning, Event.isQuiet]
  have known : keeper.switches.isOn = reading last := isOn_load last
  rw [start_eq prefs last sink host debounce panel failure events answer]
  constructor
  · exact ⟨rfl, Keeper.switches_deliver keeper⟩
  · exact resumed.update
  · rw [Event.lines_append, Event.lines_append, resumed.silent, Event.lines_of_quiet _ quiet,
      Keeper.lines_deliver]
    rfl
  · apply faithful_append prefs events _ (faithful_of_lines_eq_nil prefs events resumed.silent)
    rw [resumed.stored]
    apply faithful_append last warnings _
      (faithful_of_lines_eq_nil last warnings (Event.lines_of_quiet warnings quiet))
    rw [replay_of_quiet warnings last quiet]
    exact Keeper.faithful_deliver keeper last known
  · rw [replay_append, replay_append, resumed.stored, replay_of_quiet warnings last quiet,
      Keeper.replay_deliver]

theorem sink_start (prefs : P) (sink : W) (host : S) (debounce : Span) :
    let service := (start prefs sink host debounce : Traced (Service P W S)).value
    service.keeper.sink = (LineSink.deliver sink (Switches.load service.prefs).encode.line).1 := by
  intro service
  have received := (receives_start prefs sink host debounce).last_eq
  rw [(started prefs sink host debounce).line] at received
  exact received

end Service

/-! ## Courses -/

/-- What changes outside before a tick, and when the tick takes place. -/
structure Turn (P W S : Type) where
  editPrefs : P → P
  editHost : S → S
  editSink : W → W
  now : Instant

def Turn.change {P W S : Type} (turn : Turn P W S) (service : Service P W S) : Service P W S :=
  ((service.withPrefs turn.editPrefs).withHost turn.editHost).withSink turn.editSink

theorem Service.InStep.change {P W S : Type} [PreferenceStore P] {service : Service P W S}
    {seen : P} (inStep : service.InStep seen) (turn : Turn P W S) :
    (turn.change service).InStep seen :=
  ⟨inStep.snapshot, inStep.switches⟩

structure Course (P W S : Type) where
  prefs : P
  sink : W
  host : S
  debounce : Span
  /-- The turn of each tick. -/
  turn : Nat → Turn P W S

namespace Course

variable {P W S : Type}

section Running

variable [PreferenceStore P] [LineSink W] [HostSettings S]

def start (course : Course P W S) : Traced (Service P W S) :=
  Service.start course.prefs course.sink course.host course.debounce

def after (course : Course P W S) : Nat → Service P W S
  | 0 => course.start.value
  | n + 1 => (((course.turn n).change (course.after n)).tick (course.turn n).now).value.1

/-- The service when a tick begins. -/
def opened (course : Course P W S) (n : Nat) : Service P W S :=
  (course.turn n).change (course.after n)

def tick (course : Course P W S) (n : Nat) : Traced (Service P W S × Option Fault) :=
  (course.opened n).tick (course.turn n).now

/-- The course gets to the end of its first `n` ticks: none of them stops. -/
def Reaches (course : Course P W S) (n : Nat) : Prop :=
  ∀ m, m < n → (course.tick m).value.2 = none

theorem Reaches.mono (course : Course P W S) (m n : Nat) (le : m ≤ n)
    (reached : course.Reaches n) : course.Reaches m :=
  fun k before => reached k (by omega)

theorem Reaches.of_succ (course : Course P W S) (n : Nat)
    (reached : course.Reaches (n + 1)) : course.Reaches n :=
  reached.mono course n (n + 1) (by omega)

end Running

section Invariant

variable [LawfulPreferenceStore P] [LineSink W] [HostSettings S]

theorem started (course : Course P W S) :
    Service.Started course.prefs course.debounce course.start :=
  Service.started course.prefs course.sink course.host course.debounce

/-- However the ticks end, the snapshot is the one of the store. -/
theorem snapshot_after (course : Course P W S) (n : Nat) :
    (course.after n).snapshot = Snapshot.take Key.watched (course.after n).prefs := by
  induction n with
  | zero => exact course.started.inStep.snapshot
  | succ n ih =>
    apply Service.snapshot_tick (course.opened n) (course.turn n).now
    have agreed : (course.opened n).snapshot = _ := ih
    rw [agreed, Snapshot.map_fst_take]

theorem inStep_after (course : Course P W S) (n : Nat) (reached : course.Reaches n) :
    (course.after n).InStep (course.after n).prefs := by
  induction n with
  | zero => exact course.started.inStep
  | succ n ih =>
    have before := ih (reached.of_succ course n)
    have completed : (course.tick n).value.2 = none := reached n (by omega)
    exact (Service.ticked (course.opened n) _ (course.turn n).now (before.change (course.turn n))
      completed).inStep

theorem inStep_opened (course : Course P W S) (n : Nat) (reached : course.Reaches n) :
    (course.opened n).InStep (course.after n).prefs :=
  (course.inStep_after n reached).change (course.turn n)

theorem ticked (course : Course P W S) (n : Nat) (reached : course.Reaches (n + 1)) :
    (course.opened n).Ticked (course.after n).prefs (course.turn n).now (course.after (n + 1))
      (course.tick n).events := by
  have opened := course.inStep_opened n (reached.of_succ course n)
  have completed : (course.tick n).value.2 = none := reached n (by omega)
  exact Service.ticked (course.opened n) _ (course.turn n).now opened completed

theorem delay_after (course : Course P W S) (n : Nat) :
    (course.after n).panel.update.delay = course.debounce := by
  induction n with
  | zero =>
    rw [after, course.started.idle]
    rfl
  | succ n ih =>
    have kept := (course.opened n).delay_tick (course.after n).prefs (course.turn n).now
      (course.snapshot_after n)
    exact kept.trans ih

/-- Ticks complete as long as a clock can show what lies a debounce interval ahead. -/
theorem reaches_of_plus? (course : Course P W S) (n : Nat)
    (shown : ∀ m, m < n →
      ∃ deadline : Instant, (course.turn m).now.plus? course.debounce = some deadline) :
    course.Reaches n := by
  induction n with
  | zero =>
    intro m impossible
    cases impossible
  | succ n ih =>
    have reached : course.Reaches n := ih fun m before => shown m (by omega)
    intro m before
    by_cases last : m = n
    · rw [last]
      obtain ⟨deadline, later⟩ := shown n (by omega)
      rw [← course.delay_after n] at later
      have inStep := course.inStep_opened n reached
      obtain ⟨asked, requested⟩ := Debounce.request_of_plus? (course.opened n).panel.update _
        deadline (decide (GesturesDiffer (course.after n).prefs (course.opened n).prefs)) later
      exact (Service.ticked_of_requested (course.opened n) _ _ inStep asked requested).1
    · exact reached m (by omega)

/-- After the start and after every completed tick the snapshot holds the readings of
the nine watched switches, and the keeper's switches are those of the store. -/
theorem snapshot_and_switches_agree (course : Course P W S) (n : Nat)
    (reached : course.Reaches n) :
    let service := course.after n
    service.snapshot = Key.watched.map (fun key => (key, isOn service.prefs key)) ∧
      (∀ gesture : Gesture,
        service.keeper.switches.isOn gesture = isOn service.prefs gesture.key) ∧
      service.keeper.switches = Switches.load service.prefs := by
  have inStep := course.inStep_after n reached
  refine ⟨inStep.snapshot, ?_, inStep.switches⟩
  intro gesture
  rw [inStep.switches]
  exact Switches.isOn_load _ gesture

end Invariant

/-- A tick every 300 ms.  Gesture C and the haptic switch are on for the second tick
only.  The host refuses every write, and the sink every line before the fifth tick. -/
def burst : Course MemoryPreferences Recorder SettingsTable where
  prefs := ⟨[]⟩
  sink := ⟨true, []⟩
  host := ⟨[], .every, .empty⟩
  debounce := Span.ofMillis 500
  turn n :=
    { editPrefs := fun prefs =>
        (prefs.insert Gesture.c.key (n == 1)).insert Key.haptic (n == 1)
      editHost := id
      editSink := fun sink => { sink with refuses := decide (n < 4) }
      now := ⟨Span.ofMillis (300 * n)⟩ }

theorem reaches_burst : burst.Reaches 5 := by
  apply reaches_of_plus?
  intro m before
  apply (Instant.exists_plus?_iff _ _).mpr
  have now : (burst.turn m).now.total = (300 * m * 1000000 : Nat) := by
    rw [← Span.total_ofMillis (300 * m)]
    exact SignedSpan.total_ofSpan _
  have debounce : burst.debounce.total = 500 * 1000000 := Span.total_ofMillis 500
  rw [now, debounce, Instant.lastSecond]
  omega

theorem snapshot_and_switches_agree_burst :
    burst.Reaches 5 ∧ (burst.after 5).keeper.switches = Switches.load (burst.after 5).prefs :=
  ⟨reaches_burst, (burst.snapshot_and_switches_agree 5 reaches_burst).2.2⟩

end Course

end GestureMode
