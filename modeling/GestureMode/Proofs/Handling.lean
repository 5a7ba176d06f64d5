import GestureMode.Proofs.HostSwitch
import GestureMode.Proofs.Requests

/-!
# Handling changed switches

A gesture's switch changes what the keeper knows and asks for an update, and
nothing else.  Every other switch leaves both alone, and whatever becomes of it, a
snapshot that agrees with the store does so afterwards.  Since the gestures come
first in watch order, a list of changed switches splits into these two parts.
-/

set_option autoImplicit false

namespace GestureMode

open PreferenceStore

/-! ## A gesture's switch -/

theorem Gesture.ne_of_ofKey?_eq_none (gesture : Gesture) (key : String)
    (other : Gesture.ofKey? key = none) : gesture.key ≠ key := by
  intro same
  rw [← same, Gesture.ofKey?_key] at other
  cases other

theorem Keeper.announce_gesture {P W : Type} [PreferenceStore P] (keeper : Keeper W) (prefs : P)
    (gesture : Gesture) :
    keeper.announce prefs gesture.key =
      ({ keeper with switches := keeper.switches.refresh prefs gesture }, true) := by
  rw [announce, Switches.announce?, Gesture.ofKey?_key, Option.map_some]

theorem Panel.change_gesture {S : Type} [HostSettings S] (panel : Panel S) (gesture : Gesture)
    (value : Bool) (now : Instant) :
    panel.change gesture.key value now =
      pure (match panel.update.schedule now with
        | .ok update => ({ panel with update }, .accepted)
        | .error fault => (panel, .stopped fault)) := by
  have notAmbient := Gesture.ne_of_ofKey?_eq_none gesture Key.ambient Key.ofKey?_ambient
  have notHaptic := Gesture.ne_of_ofKey?_eq_none gesture Key.haptic Key.ofKey?_haptic
  rw [change, if_neg notAmbient, if_neg notHaptic, changeOther, Gesture.ofKey?_key]
  rfl

namespace Service

section Gestures

variable {P W S : Type} [PreferenceStore P] [HostSettings S]

def noticing (service : Service P W S) (gestures : List Gesture) : Service P W S :=
  { service with
    keeper := { service.keeper with
      switches := gestures.foldl (fun switches gesture => switches.refresh service.prefs gesture)
        service.keeper.switches } }

def updating (service : Service P W S) (update : Debounce) : Service P W S :=
  { service with panel := { service.panel with update } }

theorem handle_gesture_scheduled (service : Service P W S) (now : Instant) (gesture : Gesture)
    (asked : Debounce) (scheduled : service.panel.update.schedule now = .ok asked) :
    service.handle now gesture.key =
      ⟨((service.noticing [gesture]).updating asked, none),
        [changeNote gesture.key (reading service.prefs gesture)]⟩ := by
  have changed := Panel.change_gesture service.panel gesture (reading service.prefs gesture) now
  rw [scheduled] at changed
  rw [handle_of_accepted service now gesture.key _ _ changed, informed, Keeper.announce_gesture]
  rfl

theorem handle_gesture_stopped (service : Service P W S) (now : Instant) (gesture : Gesture)
    (fault : Fault) (stopped : service.panel.update.schedule now = .error fault) :
    service.handle now gesture.key =
      ⟨(service.noticing [gesture], some fault),
        [changeNote gesture.key (reading service.prefs gesture)]⟩ := by
  have changed := Panel.change_gesture service.panel gesture (reading service.prefs gesture) now
  rw [stopped] at changed
  rw [handle_of_stopped service now gesture.key _ fault _ changed, informed,
    Keeper.announce_gesture]
  rfl

theorem handleAll_cons_completed (now : Instant) (key : String) (keys : List String)
    (service after : Service P W S) (events : List Event)
    (completed : service.handle now key = ⟨(after, none), events⟩) :
    handleAll now (key :: keys) service =
      ⟨(handleAll now keys after).value, events ++ (handleAll now keys after).events⟩ := by
  rw [handleAll, completed]
  rfl

theorem handleAll_cons_stopped (now : Instant) (key : String) (keys : List String)
    (service after : Service P W S) (fault : Fault) (events : List Event)
    (stopped : service.handle now key = ⟨(after, some fault), events⟩) :
    handleAll now (key :: keys) service = ⟨(after, some fault), events⟩ := by
  rw [handleAll, stopped]
  change (⟨(after, some fault), events ++ []⟩ : Traced _) = _
  rw [List.append_nil]

theorem handleAll_append_completed (now : Instant) (first second : List String)
    (service middle : Service P W S) (events : List Event)
    (completed : handleAll now first service = ⟨(middle, none), events⟩) :
    handleAll now (first ++ second) service =
      ⟨(handleAll now second middle).value, events ++ (handleAll now second middle).events⟩ := by
  induction first generalizing service events with
  | nil =>
    cases completed
    rfl
  | cons key rest ih =>
    rcases handled : service.handle now key with ⟨⟨after, _ | fault⟩, headEvents⟩
    · rw [handleAll_cons_completed now key rest service after headEvents handled] at completed
      injection completed with value restEvents
      have tail := ih after (handleAll now rest after).events (by rw [← value])
      rw [List.cons_append,
        handleAll_cons_completed now key (rest ++ second) service after headEvents handled, tail,
        ← restEvents, List.append_assoc]
    · rw [handleAll_cons_stopped now key rest service after fault headEvents handled] at completed
      cases completed

theorem handleAll_append_stopped (now : Instant) (first second : List String)
    (service : Service P W S) (fault : Fault)
    (stopped : (handleAll now first service).value.2 = some fault) :
    handleAll now (first ++ second) service = handleAll now first service := by
  induction first generalizing service with
  | nil => cases stopped
  | cons key rest ih =>
    rcases handled : service.handle now key with ⟨⟨after, _ | stop⟩, events⟩
    · have head := handleAll_cons_completed now key rest service after events handled
      rw [head] at stopped ⊢
      rw [List.cons_append,
        handleAll_cons_completed now key (rest ++ second) service after events handled,
        ih after stopped]
    · rw [List.cons_append,
        handleAll_cons_stopped now key (rest ++ second) service after stop events handled,
        handleAll_cons_stopped now key rest service after stop events handled]

/-- The switches of gestures, all at one time: the keeper reads each of them again,
and one update is asked for when there are any. -/
theorem handleAll_gestures (now : Instant) (gestures : List Gesture) (service : Service P W S)
    (asked : Debounce)
    (requested : service.panel.update.request now (!gestures.isEmpty) = .ok asked) :
    handleAll now (gestures.map Gesture.key) service =
      ⟨((service.noticing gestures).updating asked, none),
        gestures.map fun gesture => changeNote gesture.key (reading service.prefs gesture)⟩ := by
  induction gestures generalizing service with
  | nil =>
    injection requested with same
    subst same
    rfl
  | cons gesture rest ih =>
    have scheduled : service.panel.update.schedule now = .ok asked := requested
    have head := handle_gesture_scheduled service now gesture asked scheduled
    have again := Debounce.request_of_schedule service.panel.update asked now (!rest.isEmpty)
      scheduled
    have tail := ih ((service.noticing [gesture]).updating asked) again
    rw [List.map_cons, handleAll_cons_completed now gesture.key _ service _ _ head, tail]
    rfl

/-- The first of the switches stops a tick whose update has no deadline. -/
theorem handleAll_gestures_stopped (now : Instant) (gestures : List Gesture)
    (service : Service P W S) (fault : Fault)
    (stopped : service.panel.update.request now (!gestures.isEmpty) = .error fault) :
    handleAll now (gestures.map Gesture.key) service =
      ⟨(service.noticing (gestures.take 1), some fault),
        (gestures.take 1).map fun gesture =>
          changeNote gesture.key (reading service.prefs gesture)⟩ := by
  cases gestures with
  | nil => cases stopped
  | cons gesture rest =>
    have head := handle_gesture_stopped service now gesture fault stopped
    rw [List.map_cons, handleAll_cons_stopped now gesture.key _ service _ fault _ head]
    rfl

end Gestures

/-! ## Every other switch -/

theorem handle_control {P W S : Type} [PreferenceStore P] [HostSettings S]
    (service : Service P W S) (now : Instant) :
    service.handle now Key.control =
      ⟨(service, none), [changeNote Key.control (isOn service.prefs Key.control)]⟩ := by
  have notAmbient : Key.control ≠ Key.ambient := by decide
  have notHaptic : Key.control ≠ Key.haptic := by decide
  have changed : service.panel.change Key.control (isOn service.prefs Key.control) now =
      ⟨(service.panel, .accepted), []⟩ := by
    rw [Panel.change, if_neg notAmbient, if_neg notHaptic, Panel.changeOther, Key.ofKey?_control]
    rfl
  rw [handle_of_accepted service now Key.control _ _ changed, informed,
    Keeper.announce_other _ _ _ Key.ofKey?_control]

def controlNotes {P : Type} [PreferenceStore P] (seen found : P) : List Event :=
  if isOn found Key.control != isOn seen Key.control then
    [changeNote Key.control (isOn found Key.control)]
  else []

section Others

variable {P W S : Type} [LawfulPreferenceStore P]

/-- What switches that are no gesture's leave alone while they are handled: the
keeper, the pending update, the gestures' switches, and the agreement of snapshot
and store.  No line is handed over meanwhile. -/
structure Aside (before after : Service P W S) (events : List Event) : Prop where
  keeper : after.keeper = before.keeper
  update : after.panel.update = before.panel.update
  gestures : reading after.prefs = reading before.prefs
  snapshot : before.snapshot = Snapshot.take Key.watched before.prefs →
    after.snapshot = Snapshot.take Key.watched after.prefs
  stored : replay before.prefs events = after.prefs
  silent : Event.lines events = []

theorem Aside.trans (first second third : Service P W S) (events later : List Event)
    (left : Aside first second events) (right : Aside second third later) :
    Aside first third (events ++ later) where
  keeper := right.keeper.trans left.keeper
  update := right.update.trans left.update
  gestures := right.gestures.trans left.gestures
  snapshot := fun agreed => right.snapshot (left.snapshot agreed)
  stored := by rw [replay_append, left.stored, right.stored]
  silent := by rw [Event.lines_append, left.silent, right.silent, List.append_nil]

variable [HostSettings S]

theorem Follows.get?_of_ne {seen : P} {switch : HostSwitch} {service after : Service P W S}
    {events : List Event} (follows : Follows seen switch service after events) (key : String)
    (different : key ≠ switch.key) : get? after.prefs key = get? service.prefs key := by
  cases follows with
  | unchanged | accepted | stuck => rfl
  | restored value found before host failure refused after stored =>
    exact LawfulPreferenceStore.get?_put_of_ne service.prefs after switch.key key (!value) stored
      different

theorem Follows.reads_of_ne {seen : P} {switch other : HostSwitch} {service after : Service P W S}
    {events : List Event} (follows : Follows seen switch service after events)
    (different : other ≠ switch) : other.reads after.prefs = other.reads service.prefs := by
  have key : other.key ≠ switch.key := mt (HostSwitch.key_injective other switch) different
  exact isOn_congr after.prefs service.prefs other.key (follows.get?_of_ne other.key key)

/-- A restored switch is recorded, and a refused restore leaves store and snapshot. -/
theorem Follows.aside {seen : P} {switch : HostSwitch} {service after : Service P W S}
    {events : List Event} (follows : Follows seen switch service after events) :
    Aside service after events := by
  have gestures : reading after.prefs = reading service.prefs := by
    apply reading_congr
    intro gesture
    have different := Gesture.ne_of_ofKey?_eq_none gesture switch.key switch.ofKey?_key
    exact follows.get?_of_ne gesture.key different
  cases follows with
  | unchanged => exact ⟨rfl, rfl, gestures, fun agreed => agreed, rfl, rfl⟩
  | accepted =>
    exact ⟨rfl, switch.update_adopt _ _ _, gestures, fun agreed => agreed, rfl, rfl⟩
  | stuck => exact ⟨rfl, rfl, gestures, fun agreed => agreed, rfl, rfl⟩
  | restored value found before host failure refused after stored =>
    refine ⟨rfl, rfl, gestures, ?_, ?_, rfl⟩
    · intro agreed
      change service.snapshot.record switch.key (!value) = Snapshot.take Key.watched after
      rw [agreed]
      exact Snapshot.record_take Key.watched Key.watched_nodup service.prefs after switch.key
        (!value) stored
    · simp [HostSwitch.vetoNote, changeNote, advance, stored]

/-- Both switches that stand for settings, the ambient one first. -/
def FollowsBoth (seen : P) (service after : Service P W S) (events : List Event) : Prop :=
  ∃ (middle : Service P W S) (first second : List Event),
    Follows seen .ambient service middle first ∧ Follows seen .haptic middle after second ∧
      events = first ++ second

theorem FollowsBoth.aside {seen : P} {service after : Service P W S} {events : List Event}
    (follows : FollowsBoth seen service after events) : Aside service after events := by
  obtain ⟨middle, first, second, ambient, haptic, rfl⟩ := follows
  exact Aside.trans service middle after first second ambient.aside haptic.aside

theorem handleAll_hostSwitch (now : Instant) (seen : P) (switch : HostSwitch) (rest : List String)
    (service : Service P W S) (changed : Bool)
    (exact : changed = (switch.reads service.prefs != switch.reads seen)) :
    ∃ (after : Service P W S) (events : List Event),
      Follows seen switch service after events ∧
        handleAll now (if changed then switch.key :: rest else rest) service =
          ⟨(handleAll now rest after).value, events ++ (handleAll now rest after).events⟩ := by
  cases changed with
  | false =>
    have same : switch.reads service.prefs = switch.reads seen := by simpa using exact.symm
    exact ⟨service, [], .unchanged same, rfl⟩
  | true =>
    have differs : switch.reads service.prefs ≠ switch.reads seen := by simpa using exact.symm
    obtain ⟨after, events, handled, follows⟩ :=
      exists_follows_of_changed seen switch service now differs
    exact ⟨after, events, follows,
      handleAll_cons_completed now switch.key rest service after events handled⟩

/-- Switches that are no gesture's never stop a tick. -/
theorem handleAll_others (now : Instant) (seen : P) (service : Service P W S) :
    ∃ (after : Service P W S) (events : List Event),
      FollowsBoth seen service after events ∧
        handleAll now ([Key.control, Key.ambient, Key.haptic].filter fun key =>
            isOn service.prefs key != isOn seen key) service =
          ⟨(after, none), controlNotes seen service.prefs ++ events⟩ := by
  let changed : String → Bool := fun key => isOn service.prefs key != isOn seen key
  let hapticKeys : List String := if changed Key.haptic then [Key.haptic] else []
  let ambientKeys : List String :=
    if changed Key.ambient then Key.ambient :: hapticKeys else hapticKeys
  obtain ⟨middle, first, ambient, headed⟩ :=
    handleAll_hostSwitch now seen .ambient hapticKeys service (changed Key.ambient) rfl
  have untouched : HostSwitch.haptic.reads middle.prefs = HostSwitch.haptic.reads service.prefs :=
    ambient.reads_of_ne HostSwitch.ambient_ne_haptic.symm
  obtain ⟨after, second, haptic, ended⟩ :=
    handleAll_hostSwitch now seen .haptic [] middle (changed Key.haptic)
      (by rw [untouched]; rfl)
  rw [handleAll, Traced.events_pure, List.append_nil] at ended
  have both : handleAll now ambientKeys service = ⟨(after, none), first ++ second⟩ := by
    rw [show handleAll now ambientKeys service = _ from headed,
      show handleAll now hapticKeys middle = _ from ended]
    rfl
  refine ⟨after, first ++ second, ⟨middle, first, second, ambient, haptic, rfl⟩, ?_⟩
  simp only [List.filter_cons, List.filter_nil]
  change handleAll now (if changed Key.control then Key.control :: ambientKeys else ambientKeys)
    service = _
  rw [controlNotes]
  split
  · rw [handleAll_cons_completed now Key.control _ service service _ (handle_control service now),
      both]
  · exact both

end Others

section Any

variable {P W S : Type} [LawfulPreferenceStore P]

theorem snapshot_restore (service : Service P W S) (key : String) (value : Bool)
    (agreed : service.snapshot = Snapshot.take Key.watched service.prefs) :
    (service.restore key value).value.snapshot =
      Snapshot.take Key.watched (service.restore key value).value.prefs := by
  cases written : PreferenceStore.put service.prefs key value with
  | ok after =>
    rw [restore, store_of_ok service.prefs after key value written]
    change service.snapshot.record key value = Snapshot.take Key.watched after
    rw [agreed]
    exact Snapshot.record_take Key.watched Key.watched_nodup service.prefs after key value written
  | error failure =>
    rw [restore, store_of_error service.prefs failure key value written]
    exact agreed

variable [HostSettings S]

theorem snapshot_handle (service : Service P W S) (now : Instant) (key : String)
    (agreed : service.snapshot = Snapshot.take Key.watched service.prefs) :
    (service.handle now key).value.1.snapshot =
      Snapshot.take Key.watched (service.handle now key).value.1.prefs := by
  rcases changed : service.panel.change key (isOn service.prefs key) now with
    ⟨⟨panel, verdict⟩, events⟩
  cases verdict with
  | accepted =>
    rw [handle_of_accepted service now key panel events changed]
    exact agreed
  | vetoed =>
    rw [handle_of_vetoed service now key panel events changed]
    exact snapshot_restore (service.informed key panel) key _ agreed
  | stopped fault =>
    rw [handle_of_stopped service now key panel fault events changed]
    exact agreed

theorem snapshot_handleAll (now : Instant) (keys : List String) (service : Service P W S)
    (agreed : service.snapshot = Snapshot.take Key.watched service.prefs) :
    (handleAll now keys service).value.1.snapshot =
      Snapshot.take Key.watched (handleAll now keys service).value.1.prefs := by
  induction keys generalizing service with
  | nil => exact agreed
  | cons key rest ih =>
    have head := snapshot_handle service now key agreed
    rcases handled : service.handle now key with ⟨⟨after, _ | fault⟩, events⟩
    · rw [handled] at head
      rw [handleAll_cons_completed now key rest service after events handled]
      exact ih after head
    · rw [handled] at head
      rw [handleAll_cons_stopped now key rest service after fault events handled]
      exact head

end Any

end Service

end GestureMode
