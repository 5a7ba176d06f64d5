import GestureMode.Proofs.Replay
import GestureMode.Proofs.Snapshot
import GestureMode.Service

/-!
# Switches that stand for settings

The ambient and the haptic switch each stand for a setting of the host, and a
service handles a change of either in one way.  The host is asked to take the new
value.  When it refuses, the switch gets its old value back, and when the store
refuses that as well, the new value stays.  Bringing a switch in line with its
setting, as a panel does when it resumes, is the other way round: the setting is
read and the store asked to take its value.
-/

set_option autoImplicit false

namespace GestureMode

open PreferenceStore

inductive HostSwitch where
  | ambient
  | haptic
  deriving DecidableEq

namespace HostSwitch

def key : HostSwitch → String
  | ambient => Key.ambient
  | haptic => Key.haptic

def setting : HostSwitch → Setting
  | ambient => .doze
  | haptic => .haptic

theorem key_injective (a b : HostSwitch) (same : a.key = b.key) : a = b := by
  revert same
  cases a <;> cases b <;> decide

theorem setting_injective (a b : HostSwitch) (same : a.setting = b.setting) : a = b := by
  revert same
  cases a <;> cases b <;> decide

theorem key_mem_watched (switch : HostSwitch) : switch.key ∈ Key.watched := by
  cases switch <;> decide

theorem ambient_ne_haptic : ambient ≠ haptic := by
  decide

theorem ofKey?_key (switch : HostSwitch) : Gesture.ofKey? switch.key = none := by
  cases switch with
  | ambient => exact Key.ofKey?_ambient
  | haptic => exact Key.ofKey?_haptic

def reads {P : Type} [PreferenceStore P] (switch : HostSwitch) (prefs : P) : Bool :=
  isOn prefs switch.key

def adopt {S : Type} (switch : HostSwitch) (panel : Panel S) (host : S) (value : Bool) : Panel S :=
  match switch with
  | ambient => { panel with host, dependentsEnabled := value }
  | haptic => { panel with host }

@[simp]
theorem host_adopt {S : Type} (switch : HostSwitch) (panel : Panel S) (host : S) (value : Bool) :
    (switch.adopt panel host value).host = host := by
  cases switch <;> rfl

@[simp]
theorem update_adopt {S : Type} (switch : HostSwitch) (panel : Panel S) (host : S) (value : Bool) :
    (switch.adopt panel host value).update = panel.update := by
  cases switch <;> rfl

def vetoNote (switch : HostSwitch) (value : Bool) (failure : Failure) : Event :=
  let reason := failure.message
  .note ⟨.error,
    match switch with
    | ambient => s!"[Panel] Could not set doze to {value}: {reason}"
    | haptic => s!"[Panel] Could not set haptic feedback to {value}: {reason}"⟩

end HostSwitch

/-! ## A changed switch -/

theorem Traced.mk_bind {α β : Type} (value : α) (events : List Event) (f : α → Traced β) :
    ((⟨value, events⟩ : Traced α) >>= f) = ⟨(f value).value, events ++ (f value).events⟩ :=
  rfl

theorem PreferenceStore.store_of_ok {P : Type} [PreferenceStore P] (prefs after : P) (key : String)
    (value : Bool) (stored : put prefs key value = .ok after) :
    store prefs key value = ⟨(after, none), [.store key value none]⟩ := by
  rw [store, stored]

theorem PreferenceStore.store_of_error {P : Type} [PreferenceStore P] (prefs : P)
    (failure : Failure) (key : String) (value : Bool)
    (refused : put prefs key value = .error failure) :
    store prefs key value = ⟨(prefs, some failure), [.store key value (some failure)]⟩ := by
  rw [store, refused]

theorem Panel.change_accepted {S : Type} [HostSettings S] (panel : Panel S) (switch : HostSwitch)
    (value : Bool) (now : Instant) (host : S)
    (taken : HostSettings.put panel.host switch.setting (Setting.ofBool value) = (host, none)) :
    panel.change switch.key value now =
      ⟨(switch.adopt panel host value, .accepted),
        [.write switch.setting (Setting.ofBool value) none]⟩ := by
  cases switch with
  | ambient =>
    change panel.changeAmbient value = _
    rw [changeAmbient, HostSettings.writeFlag, HostSettings.write]
    rw [HostSwitch.setting] at taken
    rw [taken]
    rfl
  | haptic =>
    change panel.changeHaptic value = _
    rw [changeHaptic, HostSettings.writeFlag, HostSettings.write]
    rw [HostSwitch.setting] at taken
    rw [taken]
    rfl

theorem Panel.change_vetoed {S : Type} [HostSettings S] (panel : Panel S) (switch : HostSwitch)
    (value : Bool) (now : Instant) (host : S) (failure : Failure)
    (refused : HostSettings.put panel.host switch.setting (Setting.ofBool value) =
      (host, some failure)) :
    panel.change switch.key value now =
      ⟨({ panel with host }, .vetoed),
        [.write switch.setting (Setting.ofBool value) (some failure),
          switch.vetoNote value failure]⟩ := by
  cases switch with
  | ambient =>
    change panel.changeAmbient value = _
    rw [changeAmbient, HostSettings.writeFlag, HostSettings.write]
    rw [HostSwitch.setting] at refused
    rw [refused]
    rfl
  | haptic =>
    change panel.changeHaptic value = _
    rw [changeHaptic, HostSettings.writeFlag, HostSettings.write]
    rw [HostSwitch.setting] at refused
    rw [refused]
    rfl

theorem Keeper.announce_other {P W : Type} [PreferenceStore P] (keeper : Keeper W) (prefs : P)
    (key : String) (other : Gesture.ofKey? key = none) :
    keeper.announce prefs key = (keeper, false) := by
  rw [announce, Switches.announce?, other, Option.map_none]

namespace Service

variable {P W S : Type} [PreferenceStore P] [HostSettings S]

def changeNote (key : String) (value : Bool) : Event :=
  .note ⟨.debug, s!"[Service] {key} changed to {value}"⟩

def restoreNote (key : String) (failure : Failure) : Event :=
  let reason := failure.message
  .note ⟨.error, s!"[Service] Could not restore {key}: {reason}"⟩

/-- The service when keeper and panel have dealt with a changed switch. -/
def informed (service : Service P W S) (key : String) (panel : Panel S) : Service P W S :=
  { service with keeper := (service.keeper.announce service.prefs key).1, panel }

theorem handle_of_accepted (service : Service P W S) (now : Instant) (key : String)
    (panel : Panel S) (events : List Event)
    (changed : service.panel.change key (isOn service.prefs key) now =
      ⟨(panel, .accepted), events⟩) :
    service.handle now key =
      ⟨(service.informed key panel, none),
        changeNote key (isOn service.prefs key) :: events⟩ := by
  rw [handle, changed]
  change (⟨_, _ :: (events ++ [])⟩ : Traced _) = _
  rw [List.append_nil]
  rfl

theorem handle_of_stopped (service : Service P W S) (now : Instant) (key : String)
    (panel : Panel S) (fault : Fault) (events : List Event)
    (changed : service.panel.change key (isOn service.prefs key) now =
      ⟨(panel, .stopped fault), events⟩) :
    service.handle now key =
      ⟨(service.informed key panel, some fault),
        changeNote key (isOn service.prefs key) :: events⟩ := by
  rw [handle, changed]
  change (⟨_, _ :: (events ++ [])⟩ : Traced _) = _
  rw [List.append_nil]
  rfl

theorem handle_of_vetoed (service : Service P W S) (now : Instant) (key : String)
    (panel : Panel S) (events : List Event)
    (changed : service.panel.change key (isOn service.prefs key) now =
      ⟨(panel, .vetoed), events⟩) :
    service.handle now key =
      let restored := (service.informed key panel).restore key (!isOn service.prefs key)
      ⟨(restored.value, none),
        changeNote key (isOn service.prefs key) :: (events ++ restored.events)⟩ := by
  rw [handle, changed]
  change (⟨_, _ :: (events ++ (Traced.events _ ++ []))⟩ : Traced _) = _
  rw [List.append_nil]
  rfl

/-- What becomes of a switch that read as `seen` before: it is handled if it changed. -/
inductive Follows (seen : P) (switch : HostSwitch) (service : Service P W S) :
    Service P W S → List Event → Prop
  | unchanged (same : switch.reads service.prefs = switch.reads seen) :
      Follows seen switch service service []
  | accepted (value : Bool) (found : switch.reads service.prefs = value)
      (before : switch.reads seen = !value) (host : S)
      (taken : HostSettings.put service.panel.host switch.setting (Setting.ofBool value) =
        (host, none)) :
      Follows seen switch service
        { service with panel := switch.adopt service.panel host value }
        [changeNote switch.key value, .write switch.setting (Setting.ofBool value) none]
  | restored (value : Bool) (found : switch.reads service.prefs = value)
      (before : switch.reads seen = !value) (host : S) (failure : Failure)
      (refused : HostSettings.put service.panel.host switch.setting (Setting.ofBool value) =
        (host, some failure))
      (after : P) (stored : PreferenceStore.put service.prefs switch.key (!value) = .ok after) :
      Follows seen switch service
        { service with
          prefs := after
          panel := { service.panel with host }
          snapshot := service.snapshot.record switch.key (!value) }
        [changeNote switch.key value,
          .write switch.setting (Setting.ofBool value) (some failure),
          switch.vetoNote value failure, .store switch.key (!value) none]
  | stuck (value : Bool) (found : switch.reads service.prefs = value)
      (before : switch.reads seen = !value) (host : S) (failure : Failure)
      (refused : HostSettings.put service.panel.host switch.setting (Setting.ofBool value) =
        (host, some failure))
      (refusal : Failure)
      (kept : PreferenceStore.put service.prefs switch.key (!value) = .error refusal) :
      Follows seen switch service { service with panel := { service.panel with host } }
        [changeNote switch.key value,
          .write switch.setting (Setting.ofBool value) (some failure),
          switch.vetoNote value failure, .store switch.key (!value) (some refusal),
          restoreNote switch.key refusal]

theorem Follows.setting_of_write {seen : P} {switch : HostSwitch} {service after : Service P W S}
    {events : List Event} (follows : Follows seen switch service after events) (setting : Setting)
    (value : Int32) (refusal : Option Failure) (written : .write setting value refusal ∈ events) :
    setting = switch.setting := by
  cases follows with
  | unchanged => cases written
  | accepted | restored | stuck =>
    simp only [changeNote, restoreNote, HostSwitch.vetoNote, List.mem_cons, List.not_mem_nil,
      reduceCtorEq, Event.write.injEq, false_or, or_false] at written
    exact written.1

theorem Follows.not_written_of_ne {seen : P} {switch other : HostSwitch}
    {service after : Service P W S} {events : List Event}
    (follows : Follows seen switch service after events) (different : other ≠ switch)
    (value : Int32) (refusal : Option Failure) : .write other.setting value refusal ∉ events := by
  intro written
  have same := follows.setting_of_write other.setting value refusal written
  exact different (HostSwitch.setting_injective other switch same)

/-- A changed switch is handled without a fault. -/
theorem exists_follows_of_changed (seen : P) (switch : HostSwitch) (service : Service P W S)
    (now : Instant) (changed : switch.reads service.prefs ≠ switch.reads seen) :
    ∃ (after : Service P W S) (events : List Event),
      service.handle now switch.key = ⟨(after, none), events⟩ ∧
        Follows seen switch service after events := by
  obtain ⟨value, found⟩ : ∃ value, switch.reads service.prefs = value := ⟨_, rfl⟩
  have before : switch.reads seen = !value := by
    rw [found] at changed
    exact Bool.eq_not.mpr changed.symm
  have reading : isOn service.prefs switch.key = value := found
  have unnoticed (panel : Panel S) :
      service.informed switch.key panel = { service with panel } := by
    rw [informed, Keeper.announce_other _ _ _ switch.ofKey?_key]
  rcases asked : HostSettings.put service.panel.host switch.setting (Setting.ofBool value) with
    ⟨host, _ | failure⟩
  · have accepted := Panel.change_accepted service.panel switch value now host asked
    rw [← reading] at accepted
    refine ⟨_, _, ?_, .accepted value found before host asked⟩
    rw [handle_of_accepted service now switch.key _ _ accepted, unnoticed, reading]
  · have vetoed := Panel.change_vetoed service.panel switch value now host failure asked
    rw [← reading] at vetoed
    have handled := handle_of_vetoed service now switch.key _ _ vetoed
    rw [unnoticed, reading] at handled
    cases written : PreferenceStore.put service.prefs switch.key (!value) with
    | ok after =>
      refine ⟨_, _, handled.trans ?_, .restored value found before host failure asked after written⟩
      rw [restore, store_of_ok service.prefs after _ _ written]
      rfl
    | error refusal =>
      refine ⟨_, _, handled.trans ?_, .stuck value found before host failure asked refusal written⟩
      rw [restore, store_of_error service.prefs refusal _ _ written]
      rfl

end Service

/-! ## Bringing the switches in line with the host -/

theorem HostSettings.events_readFlag {S : Type} [HostSettings S] (host : S) (setting : Setting) :
    (readFlag host setting).events =
      (get host setting).remarks.map (fun text => .note ⟨.debug, text⟩) ++
        [.read setting (get host setting).result] :=
  List.append_nil _

theorem HostSettings.quiet_readFlag {S : Type} [HostSettings S] (host : S) (setting : Setting) :
    ∀ event ∈ (readFlag host setting).events, event.isQuiet = true := by
  intro event member
  rw [events_readFlag] at member
  rcases List.mem_append.mp member with remark | read
  · obtain ⟨text, -, rfl⟩ := List.mem_map.mp remark
    rfl
  · rw [List.mem_singleton.mp read]
    rfl

namespace Panel

variable {P S : Type} [PreferenceStore P] [HostSettings S]

def resumeNote (doze haptic : Bool) : Event :=
  .note ⟨.debug, s!"[Panel] resumed: doze={doze}, haptic={haptic}"⟩

theorem dealings_resumeNote (done : Bool) (doze haptic : Bool) :
    Event.dealings (if done then [resumeNote doze haptic] else []) = [] := by
  cases done <;> rfl

/-- What becomes of a switch that is to take the value of its setting, and the failure
that prevents it. -/
inductive Mirrors (switch : HostSwitch) (panel : Panel S) (prefs : P) :
    Panel S → P → Option Failure → List Event → Prop
  | unread (failure : Failure)
      (failed : (HostSettings.get panel.host switch.setting).result = .error failure) :
      Mirrors switch panel prefs
        { panel with host := (HostSettings.get panel.host switch.setting).host } prefs
        (some failure) (HostSettings.readFlag panel.host switch.setting).events
  | refused (value : Option Int32)
      (read : (HostSettings.get panel.host switch.setting).result = .ok value) (failure : Failure)
      (kept : PreferenceStore.put prefs switch.key (Setting.isOnValue value) = .error failure) :
      Mirrors switch panel prefs
        { panel with host := (HostSettings.get panel.host switch.setting).host } prefs
        (some failure)
        ((HostSettings.readFlag panel.host switch.setting).events ++
          [.store switch.key (Setting.isOnValue value) (some failure)])
  | mirrored (value : Option Int32)
      (read : (HostSettings.get panel.host switch.setting).result = .ok value) (after : P)
      (stored : PreferenceStore.put prefs switch.key (Setting.isOnValue value) = .ok after) :
      Mirrors switch panel prefs
        (switch.adopt panel (HostSettings.get panel.host switch.setting).host
          (Setting.isOnValue value)) after none
        ((HostSettings.readFlag panel.host switch.setting).events ++
          [.store switch.key (Setting.isOnValue value) none])

/-- What a panel does when it resumes: first the ambient switch, then the haptic one. -/
inductive Resumes (panel : Panel S) (prefs : P) :
    Panel S → P → Option Failure → List Event → Prop
  | stopped (middle : Panel S) (stored : P) (failure : Failure) (events : List Event)
      (first : Mirrors .ambient panel prefs middle stored (some failure) events) :
      Resumes panel prefs middle stored (some failure) events
  | finished (middle after : Panel S) (stored last : P) (failure : Option Failure)
      (events later : List Event) (doze haptic : Bool)
      (first : Mirrors .ambient panel prefs middle stored none events)
      (second : Mirrors .haptic middle stored after last failure later) :
      Resumes panel prefs after last failure
        (events ++ (later ++ if failure.isNone then [resumeNote doze haptic] else []))

theorem readFlag_eq (host : S) (setting : Setting) :
    HostSettings.readFlag host setting =
      ⟨((HostSettings.get host setting).host,
          (HostSettings.get host setting).result.map Setting.isOnValue),
        (HostSettings.readFlag host setting).events⟩ :=
  rfl

theorem resumeHaptic_mirrors (panel : Panel S) (prefs : P) (doze : Bool) :
    ∃ (after : Panel S) (last : P) (failure : Option Failure) (events : List Event)
        (haptic : Bool),
      Mirrors .haptic panel prefs after last failure events ∧
        panel.resumeHaptic prefs doze =
          ⟨((after, last), failure),
            events ++ if failure.isNone then [resumeNote doze haptic] else []⟩ := by
  rw [resumeHaptic, readFlag_eq]
  cases read : (HostSettings.get panel.host .haptic).result with
  | error failure =>
    exact ⟨_, _, _, _, false, .unread failure read, rfl⟩
  | ok value =>
    cases written : PreferenceStore.put prefs Key.haptic (Setting.isOnValue value) with
    | ok after =>
      refine ⟨_, _, _, _, Setting.isOnValue value, .mirrored value read after written, ?_⟩
      rw [Traced.mk_bind]
      dsimp only [Except.map]
      rw [store_of_ok prefs after _ _ written, List.append_assoc]
      rfl
    | error failure =>
      refine ⟨_, _, _, _, false, .refused value read failure written, ?_⟩
      rw [Traced.mk_bind]
      dsimp only [Except.map]
      rw [store_of_error prefs failure _ _ written, List.append_assoc]
      rfl

theorem exists_resumes (panel : Panel S) (prefs : P) :
    ∃ (after : Panel S) (last : P) (failure : Option Failure) (events : List Event),
      panel.resume prefs = ⟨((after, last), failure), events⟩ ∧
        Resumes panel prefs after last failure events := by
  rw [resume, readFlag_eq]
  cases read : (HostSettings.get panel.host .doze).result with
  | error failure =>
    refine ⟨_, _, _, _, ?_, .stopped _ _ failure _ (.unread failure read)⟩
    rw [Traced.mk_bind]
    exact congrArg (Traced.mk _) (List.append_nil _)
  | ok value =>
    rw [Traced.mk_bind]
    dsimp only [Except.map]
    cases written : PreferenceStore.put prefs Key.ambient (Setting.isOnValue value) with
    | ok stored =>
      obtain ⟨after, last, failure, later, haptic, second, finished⟩ :=
        resumeHaptic_mirrors
          (HostSwitch.ambient.adopt panel (HostSettings.get panel.host .doze).host
            (Setting.isOnValue value)) stored (Setting.isOnValue value)
      refine ⟨_, _, _, _, ?_, .finished _ after stored last failure _ later
        (Setting.isOnValue value) haptic (.mirrored value read stored written) second⟩
      rw [HostSwitch.adopt] at finished
      rw [store_of_ok prefs stored _ _ written, Traced.mk_bind, finished, List.append_assoc]
      rfl
    | error failure =>
      refine ⟨_, _, _, _, ?_, .stopped _ _ failure _ (.refused value read failure written)⟩
      rw [store_of_error prefs failure _ _ written]
      rfl

end Panel

end GestureMode
