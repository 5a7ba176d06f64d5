import GestureMode.Proofs.Delivery

/-!
# Vetoed changes leave no trace

A change that the host refuses is taken back, and then it is as if it had not been
made: a tick over the store without that change does all the same but for what it
notes, what the host refuses and what is restored.  This compares two ticks, one of a
service and one of the same service over a store in which the vetoed switches still
read as they were seen.
-/

set_option autoImplicit false

namespace GestureMode

open PreferenceStore

namespace Event

/-- Whether an event is felt outside of log and store: a refused write is not. -/
def isEffect : Event → Bool
  | line _ _ | read _ _ | write _ _ none => true
  | note _ | write _ _ (some _) | store _ _ _ => false

def effects (events : List Event) : List Event :=
  events.filter isEffect

@[simp]
theorem effects_append (a b : List Event) : effects (a ++ b) = effects a ++ effects b :=
  List.filter_append a b

end Event

namespace HostSwitch

def Vetoed (switch : HostSwitch) (events : List Event) : Prop :=
  ∃ (value : Int32) (failure : Failure), .write switch.setting value (some failure) ∈ events

theorem vetoed_append (switch : HostSwitch) (a b : List Event) :
    switch.Vetoed (a ++ b) ↔ switch.Vetoed a ∨ switch.Vetoed b := by
  simp only [Vetoed, List.mem_append, exists_or]

theorem vetoed_dealings (switch : HostSwitch) (events : List Event) :
    switch.Vetoed (Event.dealings events) ↔ switch.Vetoed events := by
  constructor
  · rintro ⟨value, failure, refused⟩
    exact ⟨value, failure, (Event.mem_dealings _ _ rfl).mp refused⟩
  · rintro ⟨value, failure, refused⟩
    exact ⟨value, failure, (Event.mem_dealings _ _ rfl).mpr refused⟩

theorem vetoed_calls (switch : HostSwitch) (events : List Event) :
    switch.Vetoed (Event.calls events) ↔ switch.Vetoed events := by
  simp [Vetoed, Event.calls, Event.isCall]

end HostSwitch

/-- A store in which the vetoed changes among those found have not been made: a vetoed
switch reads as it was seen, and any other preference has the value found. -/
structure Unmade {P : Type} [PreferenceStore P] (events : List Event) (seen found prefs : P) :
    Prop where
  undone : ∀ switch : HostSwitch, switch.Vetoed events → switch.reads prefs = switch.reads seen
  kept : ∀ key : String, (∀ switch : HostSwitch, switch.Vetoed events → key ≠ switch.key) →
    get? prefs key = get? found key

section Unmade

variable {P : Type} [PreferenceStore P]

theorem Unmade.of_dealings {events dealt : List Event} {seen found prefs : P}
    (unmade : Unmade events seen found prefs)
    (same : Event.dealings dealt = Event.dealings events) : Unmade dealt seen found prefs := by
  have vetoed (switch : HostSwitch) : switch.Vetoed dealt ↔ switch.Vetoed events := by
    rw [← switch.vetoed_dealings dealt, same, switch.vetoed_dealings events]
  constructor
  · intro switch veto
    exact unmade.undone switch ((vetoed switch).mp veto)
  · intro key untouched
    apply unmade.kept key
    intro switch veto
    exact untouched switch ((vetoed switch).mpr veto)

theorem Unmade.isOn_eq {events : List Event} {seen found prefs other : P}
    (unmade : Unmade events seen found prefs) (otherUnmade : Unmade events seen found other)
    (key : String) : isOn prefs key = isOn other key := by
  by_cases vetoed : ∃ switch : HostSwitch, switch.Vetoed events ∧ key = switch.key
  · obtain ⟨switch, veto, rfl⟩ := vetoed
    exact (unmade.undone switch veto).trans (otherUnmade.undone switch veto).symm
  · have untouched : ∀ switch : HostSwitch, switch.Vetoed events → key ≠ switch.key :=
      fun switch veto same => vetoed ⟨switch, veto, same⟩
    apply isOn_congr
    rw [unmade.kept key untouched, otherUnmade.kept key untouched]

theorem Unmade.reads_of_not_vetoed {events : List Event} {seen found prefs : P}
    (unmade : Unmade events seen found prefs) (switch : HostSwitch)
    (accepted : ¬ switch.Vetoed events) : switch.reads prefs = switch.reads found := by
  have untouched : ∀ other : HostSwitch, other.Vetoed events → switch.key ≠ other.key := by
    intro other veto same
    rw [HostSwitch.key_injective switch other same] at accepted
    exact accepted veto
  exact isOn_congr prefs found switch.key (unmade.kept switch.key untouched)

theorem Unmade.gestures {events : List Event} {seen found prefs : P}
    (unmade : Unmade events seen found prefs) : reading prefs = reading found := by
  apply reading_congr
  intro gesture
  apply unmade.kept gesture.key
  intro switch _
  exact Gesture.ne_of_ofKey?_eq_none gesture switch.key switch.ofKey?_key

end Unmade

/-! ## While changed switches are handled -/

namespace Service

variable {P W S : Type} [LawfulPreferenceStore P] [LawfulHostSettings S]

theorem Follows.not_vetoed_of_ne {seen : P} {switch other : HostSwitch}
    {service after : Service P W S} {events : List Event}
    (follows : Follows seen switch service after events) (different : other ≠ switch) :
    ¬ other.Vetoed events := by
  rintro ⟨value, failure, refused⟩
  exact follows.not_written_of_ne different value (some failure) refused

theorem Follows.eq_of_unchanged {seen : P} {switch : HostSwitch} {service after : Service P W S}
    {events : List Event} (follows : Follows seen switch service after events)
    (same : switch.reads service.prefs = switch.reads seen) : after = service ∧ events = [] := by
  cases follows with
  | unchanged => exact ⟨rfl, rfl⟩
  | accepted value found before | restored value found before | stuck value found before =>
    simp [found, before] at same

theorem Follows.eq_of_taken {seen : P} {switch : HostSwitch} {service after : Service P W S}
    {events : List Event} (follows : Follows seen switch service after events) (value : Bool)
    (found : switch.reads service.prefs = value) (before : switch.reads seen = !value) (host : S)
    (taken : HostSettings.put service.panel.host switch.setting (Setting.ofBool value) =
      (host, none)) :
    after = { service with panel := switch.adopt service.panel host value } ∧
      events = [changeNote switch.key value,
        .write switch.setting (Setting.ofBool value) none] := by
  cases follows with
  | unchanged same => simp [found, before] at same
  | accepted value' found' _ host' taken' =>
    subst found
    subst found'
    rw [taken] at taken'
    cases taken'
    exact ⟨rfl, rfl⟩
  | restored value' found' _ host' failure refused | stuck value' found' _ host' failure refused =>
    subst found
    subst found'
    rw [taken] at refused
    cases refused

theorem Follows.prefs_of_not_vetoed {seen : P} {switch : HostSwitch} {service after : Service P W S}
    {events : List Event} (follows : Follows seen switch service after events)
    (accepted : ¬ switch.Vetoed events) : after.prefs = service.prefs := by
  cases follows with
  | unchanged | accepted | stuck => rfl
  | restored value found before host failure =>
    exact absurd ⟨Setting.ofBool value, failure, by simp⟩ accepted

/-- A vetoed change is taken back where the store lets it. -/
theorem Follows.undone {seen : P} {switch : HostSwitch} {service after : Service P W S}
    {events : List Event} (follows : Follows seen switch service after events)
    (vetoed : switch.Vetoed events)
    (restored : ∀ event ∈ events, event.isRefusedStore = false) :
    switch.reads after.prefs = switch.reads seen ∧ after.panel = service.panel ∧
      Event.effects events = [] := by
  obtain ⟨written, reason, vetoed⟩ := vetoed
  cases follows with
  | unchanged => cases vetoed
  | accepted => simp [changeNote] at vetoed
  | restored value found before host failure refused after stored =>
    have kept := LawfulHostSettings.put_refused _ host _ _ failure refused
    refine ⟨?_, ?_, rfl⟩
    · rw [before]
      exact isOn_put_self service.prefs after switch.key (!value) stored
    · rw [kept]
  | stuck value found before host failure refused refusal kept =>
    have taken := restored (.store switch.key (!value) (some refusal)) (by simp)
    cases taken

theorem Follows.vetoed_append_iff {seen : P} {service middle after : Service P W S}
    {first second : List Event} (ambient : Follows seen .ambient service middle first)
    (haptic : Follows seen .haptic middle after second) :
    (HostSwitch.ambient.Vetoed (first ++ second) ↔ HostSwitch.ambient.Vetoed first) ∧
      (HostSwitch.haptic.Vetoed (first ++ second) ↔ HostSwitch.haptic.Vetoed second) := by
  have ambientFirst := haptic.not_vetoed_of_ne HostSwitch.ambient_ne_haptic
  have hapticSecond := ambient.not_vetoed_of_ne HostSwitch.ambient_ne_haptic.symm
  rw [HostSwitch.vetoed_append, HostSwitch.vetoed_append]
  exact ⟨or_iff_left ambientFirst, or_iff_right hapticSecond⟩

theorem Follows.get?_of_untouched {seen : P} {switch : HostSwitch} {service after : Service P W S}
    {events : List Event} (follows : Follows seen switch service after events) (key : String)
    (untouched : switch.Vetoed events → key ≠ switch.key) :
    get? after.prefs key = get? service.prefs key := by
  by_cases vetoed : switch.Vetoed events
  · exact follows.get?_of_ne key (untouched vetoed)
  · rw [follows.prefs_of_not_vetoed vetoed]

/-- Handling the switches leaves a store without the vetoed changes. -/
theorem FollowsBoth.unmade {seen : P} {service after : Service P W S} {events : List Event}
    (follows : FollowsBoth seen service after events)
    (restored : ∀ event ∈ events, event.isRefusedStore = false) :
    Unmade events seen service.prefs after.prefs := by
  obtain ⟨middle, first, second, ambient, haptic, rfl⟩ := follows
  obtain ⟨restoredFirst, restoredSecond⟩ := List.forall_mem_append.mp restored
  obtain ⟨ambientVetoed, hapticVetoed⟩ := ambient.vetoed_append_iff haptic
  constructor
  · intro switch vetoed
    cases switch with
    | ambient =>
      rw [haptic.reads_of_ne HostSwitch.ambient_ne_haptic]
      exact (ambient.undone (ambientVetoed.mp vetoed) restoredFirst).1
    | haptic => exact (haptic.undone (hapticVetoed.mp vetoed) restoredSecond).1
  · intro key untouched
    rw [haptic.get?_of_untouched key fun vetoed => untouched .haptic (hapticVetoed.mpr vetoed),
      ambient.get?_of_untouched key fun vetoed => untouched .ambient (ambientVetoed.mpr vetoed)]

/-- A switch handled in one service, and in another one in which a vetoed change has not
been made.  There it is not handled if it is vetoed here. -/
theorem Follows.alike {seen : P} {switch : HostSwitch} {one after other later : Service P W S}
    {events fewer : List Event} (follows : Follows seen switch one after events)
    (otherFollows : Follows seen switch other later fewer) (panel : one.panel = other.panel)
    (restored : ∀ event ∈ events, event.isRefusedStore = false)
    (undone : switch.Vetoed events → switch.reads other.prefs = switch.reads seen)
    (kept : ¬ switch.Vetoed events → switch.reads other.prefs = switch.reads one.prefs) :
    after.panel = later.panel ∧ later.prefs = other.prefs ∧
      Event.effects events = Event.effects fewer := by
  -- vetoed in one service, it is not even noticed in the other; else both do the same
  by_cases vetoed : switch.Vetoed events
  · obtain ⟨rfl, rfl⟩ := otherFollows.eq_of_unchanged (undone vetoed)
    obtain ⟨-, untouched, silent⟩ := follows.undone vetoed restored
    exact ⟨untouched.trans panel, rfl, silent⟩
  · have reads := kept vetoed
    cases follows with
    | unchanged same =>
      obtain ⟨rfl, rfl⟩ := otherFollows.eq_of_unchanged (reads.trans same)
      exact ⟨panel, rfl, rfl⟩
    | accepted value found before host taken =>
      rw [panel] at taken
      obtain ⟨rfl, rfl⟩ :=
        otherFollows.eq_of_taken value (reads.trans found) before host taken
      exact ⟨by rw [panel], rfl, rfl⟩
    | restored value found before host failure | stuck value found before host failure =>
      exact absurd ⟨Setting.ofBool value, failure, by simp⟩ vetoed

theorem FollowsBoth.alike {seen : P} {one after other later : Service P W S}
    {events fewer : List Event} (follows : FollowsBoth seen one after events)
    (otherFollows : FollowsBoth seen other later fewer) (panel : one.panel = other.panel)
    (restored : ∀ event ∈ events, event.isRefusedStore = false)
    (unmade : Unmade events seen one.prefs other.prefs) :
    after.panel = later.panel ∧ later.prefs = other.prefs ∧
      Event.effects events = Event.effects fewer := by
  obtain ⟨middle, first, second, ambient, haptic, rfl⟩ := follows
  obtain ⟨between, firstFewer, secondFewer, otherAmbient, otherHaptic, rfl⟩ := otherFollows
  obtain ⟨restoredFirst, restoredSecond⟩ := List.forall_mem_append.mp restored
  obtain ⟨ambientVetoed, hapticVetoed⟩ := ambient.vetoed_append_iff haptic
  obtain ⟨middlePanel, betweenPrefs, firstEffects⟩ := ambient.alike otherAmbient panel restoredFirst
    (fun vetoed => unmade.undone .ambient (ambientVetoed.mpr vetoed))
    (fun accepted => unmade.reads_of_not_vetoed .ambient (mt ambientVetoed.mp accepted))
  obtain ⟨afterPanel, laterPrefs, secondEffects⟩ := haptic.alike otherHaptic middlePanel
    restoredSecond
    (fun vetoed => by
      rw [betweenPrefs]
      exact unmade.undone .haptic (hapticVetoed.mpr vetoed))
    (fun accepted => by
      rw [betweenPrefs, ambient.reads_of_ne HostSwitch.ambient_ne_haptic.symm]
      exact unmade.reads_of_not_vetoed .haptic (mt hapticVetoed.mp accepted))
  refine ⟨afterPanel, laterPrefs.trans betweenPrefs, ?_⟩
  rw [Event.effects_append, Event.effects_append, firstEffects, secondEffects]

theorem effects_changeNotes (seen found : P) : Event.effects (changeNotes seen found) = [] := by
  apply List.filter_eq_nil_iff.mpr
  intro event member
  obtain ⟨entry, rfl⟩ := eq_note_of_mem_changeNotes seen found event member
  exact Bool.false_ne_true

/-- A tick that vetoes changes, and one that never meets them, end alike. -/
structure Traceless (vetoed never : Traced (Service P W S × Option Fault)) : Prop where
  completed : never.value.2 = none
  reads : ∀ key : String, isOn vetoed.value.1.prefs key = isOn never.value.1.prefs key
  kept : ∀ key : String,
    (∀ switch : HostSwitch, switch.Vetoed vetoed.events → key ≠ switch.key) →
      get? vetoed.value.1.prefs key = get? never.value.1.prefs key
  snapshot : vetoed.value.1.snapshot = never.value.1.snapshot
  keeper : vetoed.value.1.keeper = never.value.1.keeper
  panel : vetoed.value.1.panel = never.value.1.panel
  effects : Event.effects vetoed.events = Event.effects never.events

theorem traceless_tick [LineSink W] (service : Service P W S) (seen other : P) (now : Instant)
    (agreed : service.snapshot = Snapshot.take Key.watched seen)
    (completed : (service.tick now).value.2 = none)
    (restored : ∀ event ∈ (service.tick now).events, event.isRefusedStore = false)
    (unmade : Unmade (service.tick now).events seen service.prefs other) :
    Traceless (service.tick now) ((service.withPrefs fun _ => other).tick now) := by
  let without : Service P W S := service.withPrefs fun _ => other
  obtain ⟨asked, requested⟩ := service.requested_of_completed seen now agreed completed
  have differ : GesturesDiffer seen other ↔ GesturesDiffer seen service.prefs := by
    rw [GesturesDiffer, GesturesDiffer, unmade.gestures]
  have requestedWithout :
      without.panel.update.request now (decide (GesturesDiffer seen other)) = .ok asked := by
    rw [decide_eq_decide.mpr differ]
    exact requested
  have keeper := service.keeper_gestured_congr seen other asked unmade.gestures
  obtain ⟨after, events, follows, ticked⟩ :=
    service.tick_of_requested seen now agreed asked requested
  obtain ⟨later, fewer, followsWithout, tickedWithout⟩ :=
    without.tick_of_requested seen now agreed asked requestedWithout
  rw [ticked] at restored unmade ⊢
  rw [tickedWithout]
  have dealings := dealings_around seen service.prefs events after now
  have restoredInside : ∀ event ∈ events, event.isRefusedStore = false := by
    intro event member
    exact restored event (List.mem_append_left _ (List.mem_append_right _ member))
  -- the store that the tick ends with is itself one without the vetoed changes
  have ended := (follows.unmade restoredInside).of_dealings dealings
  obtain ⟨panel, prefs, effects⟩ := follows.alike followsWithout rfl restoredInside
    (unmade.of_dealings dealings.symm)
  have keepers : after.keeper = later.keeper := by
    rw [follows.aside.keeper, followsWithout.aside.keeper]
    exact keeper.symm
  obtain ⟨settledKeeper, settledPanel, settledEvents⟩ := settle_congr after later now keepers panel
  have reads (key : String) : isOn after.prefs key = isOn later.prefs key := by
    rw [prefs]
    exact ended.isOn_eq unmade key
  constructor
  · rfl
  · intro key
    rw [prefs_settle, prefs_settle]
    exact reads key
  · intro key untouched
    rw [prefs_settle, prefs_settle, prefs, ended.kept key untouched]
    exact (unmade.kept key untouched).symm
  · rw [snapshot_settle, snapshot_settle, follows.aside.snapshot rfl,
      followsWithout.aside.snapshot rfl]
    apply List.map_congr_left
    intro key _
    rw [reads key]
  · exact settledKeeper
  · exact settledPanel
  · simp only [Event.effects_append, effects_changeNotes, effects, settledEvents]

end Service

/-! ## Courses -/

namespace Course

variable {P W S : Type} [LawfulPreferenceStore P] [LineSink W] [LawfulHostSettings S]

/-- A tick that completes and restores every vetoed switch ends like the tick over a store
in which the vetoed changes had not been made. -/
theorem vetoes_leave_no_trace (course : Course P W S) (n : Nat) (other : P)
    (completed : (course.tick n).value.2 = none)
    (restored : ∀ event ∈ (course.tick n).events, event.isRefusedStore = false)
    (unmade : Unmade (course.tick n).events (course.after n).prefs (course.opened n).prefs other) :
    Service.Traceless (course.tick n)
      (((course.opened n).withPrefs fun _ => other).tick (course.turn n).now) :=
  (course.opened n).traceless_tick (course.after n).prefs other (course.turn n).now
    (course.snapshot_after n) completed restored unmade

/-! The third tick of the burst, before which gesture C and the haptic switch went off. -/

def burstWithoutHaptic : MemoryPreferences :=
  (burst.opened 2).prefs.insert Key.haptic true

theorem vetoed_burst : HostSwitch.haptic.Vetoed (burst.tick 2).events :=
  ⟨0, .setting "put" Setting.haptic.key "denied", by decide +kernel⟩

theorem unmade_burst :
    Unmade (burst.tick 2).events (burst.after 2).prefs (burst.opened 2).prefs
      burstWithoutHaptic where
  undone switch _ := by cases switch <;> decide +kernel
  kept key untouched :=
    LawfulPreferenceStore.get?_put_of_ne (burst.opened 2).prefs burstWithoutHaptic Key.haptic key
      true rfl (untouched .haptic vetoed_burst)

theorem vetoes_leave_no_trace_burst :
    HostSwitch.haptic.Vetoed (burst.tick 2).events ∧
      Service.Traceless (burst.tick 2)
        (((burst.opened 2).withPrefs fun _ => burstWithoutHaptic).tick (burst.turn 2).now) :=
  ⟨vetoed_burst,
    burst.vetoes_leave_no_trace 2 burstWithoutHaptic (reaches_burst 2 (by decide))
      (by decide +kernel) unmade_burst⟩

end Course

end GestureMode
