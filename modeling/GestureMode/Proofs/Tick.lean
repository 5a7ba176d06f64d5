import GestureMode.Proofs.Handling

/-!
# What a tick does for the gestures

A service is in step with a store when its snapshot is the one of that store and
its keeper knows the switches of that store.  From such a service a completed tick
is one round of the debouncer: an update is asked for when a gesture's switch
reads differently now, and a due update delivers one line, that of the switches as
they read now.  Afterwards the service is in step with its own store.
-/

set_option autoImplicit false

namespace GestureMode

open PreferenceStore

section Differing

variable {P : Type} [PreferenceStore P]

/-- Some gesture's switch reads differently in two stores. -/
def GesturesDiffer (old new : P) : Prop :=
  ∃ gesture : Gesture, reading new gesture ≠ reading old gesture

theorem gesturesDiffer_iff_load (old new : P) :
    Switches.load new ≠ Switches.load old ↔ GesturesDiffer old new := by
  rw [ne_eq, load_eq_iff_reading, funext_iff, Classical.not_forall]
  rfl

theorem load_eq_of_not_gesturesDiffer (old new : P) (same : ¬ GesturesDiffer old new) :
    Switches.load new = Switches.load old :=
  Classical.not_not.mp (mt (gesturesDiffer_iff_load old new).mp same)

instance decidableGesturesDiffer (old new : P) : Decidable (GesturesDiffer old new) :=
  decidable_of_iff (Switches.load new ≠ Switches.load old) (gesturesDiffer_iff_load old new)

def differing (old new : P) : List Gesture :=
  Gesture.all.filter fun gesture => reading new gesture != reading old gesture

theorem mem_differing (old new : P) (gesture : Gesture) :
    gesture ∈ differing old new ↔ reading new gesture ≠ reading old gesture := by
  simp [differing, Gesture.mem_all]

theorem isEmpty_differing (old new : P) :
    (!(differing old new).isEmpty) = decide (GesturesDiffer old new) := by
  rw [Bool.eq_iff_iff, Bool.not_eq_true', List.isEmpty_eq_false_iff_exists_mem, decide_eq_true_eq]
  constructor
  · rintro ⟨gesture, member⟩
    exact ⟨gesture, (mem_differing old new gesture).mp member⟩
  · rintro ⟨gesture, different⟩
    exact ⟨gesture, (mem_differing old new gesture).mpr different⟩

theorem changed_watched (old new : P) :
    (Key.watched.filter fun key => isOn new key != isOn old key) =
      (differing old new).map Gesture.key ++
        [Key.control, Key.ambient, Key.haptic].filter fun key => isOn new key != isOn old key := by
  rw [Key.watched, List.filter_append, List.filter_map]
  rfl

theorem isOn_foldl_refresh (prefs : P) (gestures : List Gesture) (switches : Switches)
    (gesture : Gesture) :
    (gestures.foldl (fun switches gesture => switches.refresh prefs gesture) switches).isOn gesture =
      if gesture ∈ gestures then reading prefs gesture else switches.isOn gesture := by
  induction gestures generalizing switches with
  | nil => simp
  | cons head rest ih =>
    rw [List.foldl_cons, ih, Switches.refresh, Switches.isOn_set]
    by_cases inRest : gesture ∈ rest
    · rw [if_pos inRest, if_pos (List.mem_cons_of_mem head inRest)]
    · rw [if_neg inRest]
      by_cases same : gesture = head
      · subst same
        rw [if_pos rfl, if_pos List.mem_cons_self]
        rfl
      · rw [if_neg same, if_neg]
        simp [same, inRest]

theorem refresh_differing (old new : P) :
    (differing old new).foldl (fun switches gesture => switches.refresh new gesture)
      (Switches.load old) = Switches.load new := by
  apply Switches.eq_of_isOn
  intro gesture
  rw [isOn_foldl_refresh, isOn_load, isOn_load]
  by_cases different : gesture ∈ differing old new
  · rw [if_pos different]
  · rw [if_neg different]
    have same := mt (mem_differing old new gesture).mpr different
    exact (Classical.not_not.mp same).symm

end Differing

/-! ## Delivering a line -/

def Keeper.modeNote (mask : Mask) : Event :=
  let bits := mask.bits.toNat
  .note ⟨.debug, s!"[GestureSync] finished gesture mode: {bits}"⟩

def Keeper.refusalNote (line : String) (failure : Failure) : Event :=
  let reason := failure.message
  .note ⟨.error, s!"[GestureSync] Could not write gesture mode {line}: {reason}"⟩

theorem Keeper.events_deliver {W : Type} [LineSink W] (keeper : Keeper W) :
    keeper.deliver.events =
      let line := keeper.switches.encode.line
      let refusal := (LineSink.deliver keeper.sink line).2
      modeNote keeper.switches.encode :: .line line refusal ::
        (refusal.map (refusalNote line)).toList := by
  rcases taken : LineSink.deliver keeper.sink keeper.switches.encode.line with ⟨sink, _ | failure⟩
  · simp only [deliver, LineSink.hand, taken]
    rfl
  · simp only [deliver, LineSink.hand, taken]
    rfl

theorem Keeper.receives_deliver {W : Type} [LineSink W] (keeper : Keeper W) :
    LineSink.Receives keeper.sink keeper.deliver.events keeper.deliver.value.1.sink := by
  rw [events_deliver, value_deliver]
  refine .other rfl (.line rfl (LineSink.receives_of_lines_eq_nil _ _ ?_))
  cases (LineSink.deliver keeper.sink keeper.switches.encode.line).2 with
  | none => rfl
  | some failure => rfl

theorem Keeper.faithful_deliver {P W : Type} [PreferenceStore P] [LineSink W] (keeper : Keeper W)
    (prefs : P) (known : keeper.switches.isOn = reading prefs) :
    Faithful prefs keeper.deliver.events := by
  have shows := Switches.shows_line keeper.switches
  rw [known] at shows
  rw [events_deliver]
  apply faithful_cons
  · intro text refusal same
    cases same
  · apply faithful_cons
    · intro text refusal same
      cases same
      exact shows
    · apply faithful_of_lines_eq_nil
      cases (LineSink.deliver keeper.sink keeper.switches.encode.line).2 with
      | none => rfl
      | some failure => rfl

theorem Keeper.replay_deliver {P W : Type} [PreferenceStore P] [LineSink W] (keeper : Keeper W)
    (prefs : P) : replay prefs keeper.deliver.events = prefs := by
  simp only [events_deliver]
  cases (LineSink.deliver keeper.sink keeper.switches.encode.line).2 with
  | none => rfl
  | some failure => rfl

theorem Keeper.dealings_deliver {W : Type} [LineSink W] (keeper : Keeper W) :
    Event.dealings keeper.deliver.events = [] := by
  simp only [events_deliver]
  cases (LineSink.deliver keeper.sink keeper.switches.encode.line).2 with
  | none => rfl
  | some failure => rfl

namespace Service

section Settling

variable {P W S : Type} [LineSink W]

theorem settle_of_isDue (service : Service P W S) (now : Instant)
    (due : service.panel.update.isDue now = true) :
    service.settle now =
      ⟨{ service.updating service.panel.update.cancel with
          keeper := service.keeper.deliver.value.1 }, service.keeper.deliver.events⟩ := by
  rw [settle, Panel.takeUpdate, Debounce.fire_of_isDue service.panel.update now due]
  change (⟨_, service.keeper.deliver.events ++ []⟩ : Traced _) = _
  rw [List.append_nil]
  rfl

theorem settle_of_not_isDue (service : Service P W S) (now : Instant)
    (early : service.panel.update.isDue now = false) : service.settle now = ⟨service, []⟩ := by
  rw [settle, Panel.takeUpdate, Debounce.fire_of_not_isDue service.panel.update now early]
  rfl

/-- A due update hands over one line; nothing but keeper and update changes. -/
theorem settle_eq (service : Service P W S) (now : Instant) :
    service.settle now =
      ⟨{ service.updating (service.panel.update.fire now).1 with
          keeper := if (service.panel.update.fire now).2 then service.keeper.deliver.value.1
            else service.keeper },
        if (service.panel.update.fire now).2 then service.keeper.deliver.events else []⟩ := by
  cases due : service.panel.update.isDue now with
  | true =>
    rw [settle_of_isDue service now due, Debounce.fire_of_isDue _ now due]
    rfl
  | false =>
    rw [settle_of_not_isDue service now due, Debounce.fire_of_not_isDue _ now due]
    rfl

@[simp]
theorem prefs_settle (service : Service P W S) (now : Instant) :
    (service.settle now).value.prefs = service.prefs := by
  rw [settle_eq]
  rfl

@[simp]
theorem snapshot_settle (service : Service P W S) (now : Instant) :
    (service.settle now).value.snapshot = service.snapshot := by
  rw [settle_eq]
  rfl

@[simp]
theorem panel_settle (service : Service P W S) (now : Instant) :
    (service.settle now).value.panel =
      { service.panel with update := (service.panel.update.fire now).1 } := by
  rw [settle_eq]
  rfl

@[simp]
theorem switches_settle (service : Service P W S) (now : Instant) :
    (service.settle now).value.keeper.switches = service.keeper.switches := by
  rw [settle_eq]
  cases (service.panel.update.fire now).2 with
  | true => exact Keeper.switches_deliver service.keeper
  | false => rfl

theorem settle_congr (one other : Service P W S) (now : Instant)
    (keeper : one.keeper = other.keeper) (panel : one.panel = other.panel) :
    (one.settle now).value.keeper = (other.settle now).value.keeper ∧
      (one.settle now).value.panel = (other.settle now).value.panel ∧
      (one.settle now).events = (other.settle now).events := by
  rw [settle_eq, settle_eq, updating, updating, keeper, panel]
  exact ⟨rfl, rfl, rfl⟩

theorem lines_settle (service : Service P W S) (now : Instant) :
    Event.lines (service.settle now).events =
      if (service.panel.update.fire now).2 then [service.keeper.switches.encode.line] else [] := by
  rw [settle_eq]
  cases (service.panel.update.fire now).2 with
  | true => exact Keeper.lines_deliver service.keeper
  | false => rfl

theorem receives_settle (service : Service P W S) (now : Instant) :
    LineSink.Receives service.keeper.sink (service.settle now).events
      (service.settle now).value.keeper.sink := by
  rw [settle_eq]
  cases (service.panel.update.fire now).2 with
  | true => exact Keeper.receives_deliver service.keeper
  | false => exact .nil service.keeper.sink

theorem dealings_settle (service : Service P W S) (now : Instant) :
    Event.dealings (service.settle now).events = [] := by
  rw [settle_eq]
  cases (service.panel.update.fire now).2 with
  | true => exact Keeper.dealings_deliver service.keeper
  | false => rfl

theorem replay_settle [PreferenceStore P] (service : Service P W S) (now : Instant) (prefs : P) :
    replay prefs (service.settle now).events = prefs := by
  rw [settle_eq]
  cases (service.panel.update.fire now).2 with
  | true => exact Keeper.replay_deliver service.keeper prefs
  | false => rfl

theorem faithful_settle [PreferenceStore P] (service : Service P W S) (now : Instant) (prefs : P)
    (known : service.keeper.switches.isOn = reading prefs) :
    Faithful prefs (service.settle now).events := by
  rw [settle_eq]
  cases (service.panel.update.fire now).2 with
  | true => exact Keeper.faithful_deliver service.keeper prefs known
  | false => exact faithful_of_lines_eq_nil prefs [] rfl

end Settling

/-! ## The whole tick -/

section Ticking

variable {P W S : Type} [PreferenceStore P]

/-- What is noted of the changed switches that stand for no setting. -/
def changeNotes (seen found : P) : List Event :=
  ((differing seen found).map fun gesture => changeNote gesture.key (reading found gesture)) ++
    controlNotes seen found

theorem eq_changeNote_of_mem_changeNotes (seen found : P) (event : Event)
    (member : event ∈ changeNotes seen found) :
    ∃ (key : String) (value : Bool), event = changeNote key value := by
  rcases List.mem_append.mp member with gestures | control
  · obtain ⟨gesture, -, rfl⟩ := List.mem_map.mp gestures
    exact ⟨_, _, rfl⟩
  · rw [controlNotes] at control
    split at control
    · rw [List.mem_singleton.mp control]
      exact ⟨_, _, rfl⟩
    · cases control

theorem eq_note_of_mem_changeNotes (seen found : P) (event : Event)
    (member : event ∈ changeNotes seen found) : ∃ entry : Entry, event = .note entry := by
  obtain ⟨key, value, rfl⟩ := eq_changeNote_of_mem_changeNotes seen found event member
  exact ⟨_, rfl⟩

theorem quiet_changeNotes (seen found : P) :
    ∀ event ∈ changeNotes seen found, event.isQuiet = true := by
  intro event member
  obtain ⟨entry, rfl⟩ := eq_note_of_mem_changeNotes seen found event member
  rfl

theorem dealings_changeNotes (seen found : P) : Event.dealings (changeNotes seen found) = [] := by
  apply List.filter_eq_nil_iff.mpr
  intro event member
  obtain ⟨entry, rfl⟩ := eq_note_of_mem_changeNotes seen found event member
  exact Bool.false_ne_true

/-- In a tick, only the switches that stand for settings deal with provider and store. -/
theorem dealings_around [LineSink W] (seen found : P) (events : List Event)
    (after : Service P W S) (now : Instant) :
    Event.dealings (changeNotes seen found ++ events ++ (after.settle now).events) =
      Event.dealings events := by
  rw [Event.dealings_append, Event.dealings_append, dealings_changeNotes, dealings_settle,
    List.nil_append, List.append_nil]

def polled (service : Service P W S) : Service P W S :=
  { service with snapshot := Snapshot.take Key.watched service.prefs }

/-- The service when the gestures' switches that differ from the seen ones are handled. -/
def gestured (service : Service P W S) (seen : P) (asked : Debounce) : Service P W S :=
  (service.polled.noticing (differing seen service.prefs)).updating asked

theorem keeper_gestured_congr (service : Service P W S) (seen other : P) (asked : Debounce)
    (same : reading other = reading service.prefs) :
    ((service.withPrefs fun _ => other).gestured seen asked).keeper =
      (service.gestured seen asked).keeper := by
  have differ : differing seen other = differing seen service.prefs := by
    rw [differing, differing, same]
  change ({ service.keeper with
    switches := (differing seen other).foldl
      (fun switches gesture => switches.set gesture (reading other gesture))
      service.keeper.switches } : Keeper W) = _
  rw [differ, same]
  rfl

/-- The service has seen a store: its snapshot and its keeper's switches are the
readings of that store. -/
structure InStep (service : Service P W S) (seen : P) : Prop where
  snapshot : service.snapshot = Snapshot.take Key.watched seen
  switches : service.keeper.switches = Switches.load seen

/-- What a completed tick did, for a service that had seen a store before. -/
structure Ticked (service : Service P W S) (seen : P) (now : Instant)
    (after : Service P W S) (events : List Event) : Prop where
  inStep : after.InStep after.prefs
  gestures : reading after.prefs = reading service.prefs
  faithful : Faithful service.prefs events
  stored : replay service.prefs events = after.prefs
  round : ∃ asked : Debounce,
    service.panel.update.request now (decide (GesturesDiffer seen service.prefs)) = .ok asked ∧
      after.panel.update = (asked.fire now).1 ∧
      Event.lines events =
        if (asked.fire now).2 then [(Switches.load service.prefs).encode.line] else []

end Ticking

section Parts

variable {P W S : Type} [PreferenceStore P]

/-- The keys that are handled: the gestures' come first. -/
theorem poll_of_agreed (service : Service P W S) (seen : P)
    (agreed : service.snapshot = Snapshot.take Key.watched seen) :
    service.snapshot.poll service.prefs =
      (Snapshot.take Key.watched service.prefs,
        (differing seen service.prefs).map Gesture.key ++
          [Key.control, Key.ambient, Key.haptic].filter fun key =>
            isOn service.prefs key != isOn seen key) := by
  rw [Snapshot.poll, agreed, Snapshot.refresh_take, Snapshot.changed_take, changed_watched]

variable [LineSink W] [HostSettings S]

theorem tick_of_completed (service after : Service P W S) (now : Instant) (snapshot : Snapshot)
    (keys : List String) (events : List Event)
    (polled : service.snapshot.poll service.prefs = (snapshot, keys))
    (handled : handleAll now keys { service with snapshot } = ⟨(after, none), events⟩) :
    service.tick now =
      ⟨((after.settle now).value, none), events ++ (after.settle now).events⟩ := by
  rw [tick, polled]
  dsimp only
  rw [handled]
  change (⟨_, events ++ ((after.settle now).events ++ [])⟩ : Traced _) = _
  rw [List.append_nil]
  rfl

theorem tick_of_stopped (service after : Service P W S) (now : Instant) (snapshot : Snapshot)
    (keys : List String) (fault : Fault) (events : List Event)
    (polled : service.snapshot.poll service.prefs = (snapshot, keys))
    (handled : handleAll now keys { service with snapshot } = ⟨(after, some fault), events⟩) :
    service.tick now = ⟨(after, some fault), events⟩ := by
  rw [tick, polled]
  dsimp only
  rw [handled]
  exact congrArg (Traced.mk _) (List.append_nil _)

theorem exists_settled_of_completed (service : Service P W S) (now : Instant)
    (completed : (service.tick now).value.2 = none) :
    ∃ handled : Service P W S, (service.tick now).value.1 = (handled.settle now).value := by
  rcases polled : service.snapshot.poll service.prefs with ⟨snapshot, keys⟩
  rcases outcome : handleAll now keys { service with snapshot } with ⟨⟨handled, _ | fault⟩, events⟩
  · refine ⟨handled, ?_⟩
    rw [tick_of_completed service handled now snapshot keys events polled outcome]
  · rw [tick_of_stopped service handled now snapshot keys fault events polled outcome] at completed
    cases completed

theorem tick_of_untouched (service : Service P W S) (now : Instant)
    (agreed : service.snapshot = Snapshot.take Key.watched service.prefs) :
    service.tick now = ⟨((service.settle now).value, none), (service.settle now).events⟩ := by
  have polled : service.snapshot.poll service.prefs = (service.snapshot, []) := by
    rw [Snapshot.poll, agreed, Snapshot.refresh_take, Snapshot.changed_take,
      List.filter_eq_nil_iff.mpr (by simp)]
  exact tick_of_completed service service now service.snapshot [] [] polled rfl

end Parts

theorem sink_of_gestured {P W S : Type} [LawfulPreferenceStore P] [HostSettings S]
    {service after : Service P W S} {seen : P} {asked : Debounce} {events : List Event}
    (follows : FollowsBoth seen (service.gestured seen asked) after events) :
    after.keeper.sink = service.keeper.sink := by
  rw [follows.aside.keeper]
  rfl

section Ticking

variable {P W S : Type} [LawfulPreferenceStore P] [LineSink W] [HostSettings S]

/-- A tick completes when the update it asks for has a deadline that a clock can show:
the gestures come first, then the switches that stand for settings, then a line. -/
theorem tick_of_requested (service : Service P W S) (seen : P) (now : Instant)
    (agreed : service.snapshot = Snapshot.take Key.watched seen) (asked : Debounce)
    (requested : service.panel.update.request now
      (decide (GesturesDiffer seen service.prefs)) = .ok asked) :
    ∃ (after : Service P W S) (events : List Event),
      FollowsBoth seen (service.gestured seen asked) after events ∧
        service.tick now =
          ⟨((after.settle now).value, none),
            changeNotes seen service.prefs ++ events ++ (after.settle now).events⟩ := by
  rw [← isEmpty_differing] at requested
  have first := handleAll_gestures now (differing seen service.prefs) service.polled asked requested
  obtain ⟨after, events, follows, second⟩ :=
    handleAll_others now seen (service.gestured seen asked)
  let others : List String := [Key.control, Key.ambient, Key.haptic].filter fun key =>
    isOn service.prefs key != isOn seen key
  have last : handleAll now others (service.gestured seen asked) =
      ⟨(after, none), controlNotes seen service.prefs ++ events⟩ := second
  have handled := handleAll_append_completed now _ others service.polled
    (service.gestured seen asked) _ first
  rw [last, ← List.append_assoc] at handled
  exact ⟨after, events, follows, tick_of_completed service after now _ _ _
    (service.poll_of_agreed seen agreed) handled⟩

/-- Otherwise it stops at the first gesture's switch that differs. -/
theorem tick_of_overflow (service : Service P W S) (seen : P) (now : Instant)
    (agreed : service.snapshot = Snapshot.take Key.watched seen) (fault : Fault)
    (stopped : service.panel.update.request now
      (decide (GesturesDiffer seen service.prefs)) = .error fault) :
    service.tick now =
      ⟨(service.polled.noticing ((differing seen service.prefs).take 1), some fault),
        ((differing seen service.prefs).take 1).map fun gesture =>
          changeNote gesture.key (reading service.prefs gesture)⟩ := by
  rw [← isEmpty_differing] at stopped
  have first := handleAll_gestures_stopped now (differing seen service.prefs) service.polled fault
    stopped
  refine tick_of_stopped service _ now _ _ fault _ (service.poll_of_agreed seen agreed) ?_
  exact (handleAll_append_stopped now _ _ service.polled fault (by rw [first])).trans first

theorem changeNotes_of_overflow (service : Service P W S) (seen : P) (now : Instant)
    (agreed : service.snapshot = Snapshot.take Key.watched seen) (fault : Fault)
    (stopped : service.panel.update.request now
      (decide (GesturesDiffer seen service.prefs)) = .error fault) :
    ∀ event ∈ (service.tick now).events,
      ∃ (key : String) (value : Bool), event = changeNote key value := by
  rw [tick_of_overflow service seen now agreed fault stopped]
  intro event member
  obtain ⟨gesture, -, rfl⟩ := List.mem_map.mp member
  exact ⟨_, _, rfl⟩

theorem notes_of_overflow (service : Service P W S) (seen : P) (now : Instant)
    (agreed : service.snapshot = Snapshot.take Key.watched seen) (fault : Fault)
    (stopped : service.panel.update.request now
      (decide (GesturesDiffer seen service.prefs)) = .error fault) :
    ∀ event ∈ (service.tick now).events, ∃ entry : Entry, event = .note entry := by
  intro event member
  obtain ⟨key, value, rfl⟩ :=
    changeNotes_of_overflow service seen now agreed fault stopped event member
  exact ⟨_, rfl⟩

theorem quiet_of_overflow (service : Service P W S) (seen : P) (now : Instant)
    (agreed : service.snapshot = Snapshot.take Key.watched seen) (fault : Fault)
    (stopped : service.panel.update.request now
      (decide (GesturesDiffer seen service.prefs)) = .error fault) :
    ∀ event ∈ (service.tick now).events, event.isQuiet = true := by
  intro event member
  obtain ⟨entry, rfl⟩ := notes_of_overflow service seen now agreed fault stopped event member
  rfl

theorem requested_of_completed (service : Service P W S) (seen : P) (now : Instant)
    (agreed : service.snapshot = Snapshot.take Key.watched seen)
    (completed : (service.tick now).value.2 = none) :
    ∃ asked : Debounce, service.panel.update.request now
      (decide (GesturesDiffer seen service.prefs)) = .ok asked := by
  cases requested : service.panel.update.request now
      (decide (GesturesDiffer seen service.prefs)) with
  | ok asked => exact ⟨asked, rfl⟩
  | error fault =>
    rw [tick_of_overflow service seen now agreed fault requested] at completed
    cases completed

/-- However a tick ends, the snapshot is the one of the store. -/
theorem snapshot_tick (service : Service P W S) (now : Instant)
    (watched : service.snapshot.map Prod.fst = Key.watched) :
    (service.tick now).value.1.snapshot =
      Snapshot.take Key.watched (service.tick now).value.1.prefs := by
  let changed : List String := service.snapshot.changed service.prefs
  have polled : service.snapshot.poll service.prefs =
      (Snapshot.take Key.watched service.prefs, changed) := by
    rw [Snapshot.poll, Snapshot.refresh, watched]
  have agreed := snapshot_handleAll now changed service.polled rfl
  rcases handled : handleAll now changed service.polled with ⟨⟨after, _ | fault⟩, events⟩
  · rw [handled] at agreed
    rw [tick_of_completed service after now _ changed events polled handled, snapshot_settle,
      prefs_settle]
    exact agreed
  · rw [handled] at agreed
    rw [tick_of_stopped service after now _ changed fault events polled handled]
    exact agreed

/-- However a tick ends, its store is what the accepted writes made of it. -/
theorem replay_tick (service : Service P W S) (seen : P) (now : Instant)
    (agreed : service.snapshot = Snapshot.take Key.watched seen) :
    replay service.prefs (service.tick now).events = (service.tick now).value.1.prefs := by
  cases requested : service.panel.update.request now
      (decide (GesturesDiffer seen service.prefs)) with
  | ok asked =>
    obtain ⟨after, events, follows, ticked⟩ :=
      tick_of_requested service seen now agreed asked requested
    have stored : replay service.prefs events = after.prefs := follows.aside.stored
    rw [ticked, replay_append, replay_append,
      replay_of_quiet _ service.prefs (quiet_changeNotes seen service.prefs), stored,
      replay_settle, prefs_settle]
  | error fault =>
    rw [replay_of_quiet _ _ (quiet_of_overflow service seen now agreed fault requested),
      tick_of_overflow service seen now agreed fault requested]
    rfl

/-- However a tick ends, its lines are handed to its sink. -/
theorem receives_tick (service : Service P W S) (seen : P) (now : Instant)
    (agreed : service.snapshot = Snapshot.take Key.watched seen) :
    LineSink.Receives service.keeper.sink (service.tick now).events
      (service.tick now).value.1.keeper.sink := by
  cases requested : service.panel.update.request now
      (decide (GesturesDiffer seen service.prefs)) with
  | ok asked =>
    obtain ⟨after, events, follows, ticked⟩ :=
      tick_of_requested service seen now agreed asked requested
    have quiet := quiet_changeNotes seen service.prefs
    have silent : Event.lines (changeNotes seen service.prefs ++ events) = [] := by
      rw [Event.lines_append, Event.lines_of_quiet _ quiet, follows.aside.silent, List.append_nil]
    have settled := after.receives_settle now
    rw [sink_of_gestured follows] at settled
    rw [ticked]
    exact (LineSink.receives_of_lines_eq_nil _ _ silent).append settled
  | error fault =>
    have quiet := quiet_of_overflow service seen now agreed fault requested
    have kept := LineSink.receives_of_lines_eq_nil service.keeper.sink _
      (Event.lines_of_quiet _ quiet)
    rw [tick_of_overflow service seen now agreed fault requested] at kept ⊢
    exact kept

theorem delay_tick (service : Service P W S) (seen : P) (now : Instant)
    (agreed : service.snapshot = Snapshot.take Key.watched seen) :
    (service.tick now).value.1.panel.update.delay = service.panel.update.delay := by
  cases requested : service.panel.update.request now
      (decide (GesturesDiffer seen service.prefs)) with
  | ok asked =>
    obtain ⟨after, events, follows, ticked⟩ :=
      tick_of_requested service seen now agreed asked requested
    have update : after.panel.update = asked := follows.aside.update
    rw [ticked, panel_settle, update, Debounce.delay_fire,
      Debounce.delay_of_request _ asked _ _ requested]
  | error fault =>
    rw [tick_of_overflow service seen now agreed fault requested]
    rfl

theorem ticked_of_requested (service : Service P W S) (seen : P) (now : Instant)
    (inStep : service.InStep seen) (asked : Debounce)
    (requested : service.panel.update.request now
      (decide (GesturesDiffer seen service.prefs)) = .ok asked) :
    (service.tick now).value.2 = none ∧
      service.Ticked seen now (service.tick now).value.1 (service.tick now).events := by
  obtain ⟨after, events, follows, tick⟩ :=
    tick_of_requested service seen now inStep.snapshot asked requested
  have aside := follows.aside
  have knows : after.keeper.switches = Switches.load service.prefs := by
    rw [aside.keeper]
    change ((differing seen service.prefs).foldl
      (fun switches gesture => switches.refresh service.prefs gesture)
      service.keeper.switches) = _
    rw [inStep.switches, refresh_differing]
  have reads : reading after.prefs = reading service.prefs := aside.gestures
  have update : after.panel.update = asked := aside.update
  have silent : Event.lines (changeNotes seen service.prefs ++ events) = [] := by
    rw [Event.lines_append, Event.lines_of_quiet _ (quiet_changeNotes seen service.prefs),
      aside.silent, List.append_nil]
  have stored : replay service.prefs (changeNotes seen service.prefs ++ events) = after.prefs := by
    rw [replay_append, replay_of_quiet _ service.prefs (quiet_changeNotes seen service.prefs)]
    exact aside.stored
  have replayed := service.replay_tick seen now inStep.snapshot
  rw [tick] at replayed ⊢
  refine ⟨rfl, ⟨?_, ?_⟩, ?_, ?_, ?_, asked, requested, ?_, ?_⟩
  · rw [snapshot_settle, prefs_settle]
    exact aside.snapshot rfl
  · rw [switches_settle, prefs_settle, knows]
    exact (load_eq_iff_reading service.prefs after.prefs).mpr reads.symm
  · rw [prefs_settle, reads]
  · apply faithful_append service.prefs _ _ (faithful_of_lines_eq_nil service.prefs _ silent)
    rw [stored]
    apply faithful_settle
    rw [knows, isOn_load, reads]
  · exact replayed
  · rw [panel_settle, update]
  · rw [Event.lines_append, silent, lines_settle, update, knows]
    rfl

theorem ticked (service : Service P W S) (seen : P) (now : Instant) (inStep : service.InStep seen)
    (completed : (service.tick now).value.2 = none) :
    service.Ticked seen now (service.tick now).value.1 (service.tick now).events := by
  obtain ⟨asked, requested⟩ :=
    service.requested_of_completed seen now inStep.snapshot completed
  exact (ticked_of_requested service seen now inStep asked requested).2

end Ticking

end Service

end GestureMode
