import GestureMode.Proofs.Delivery
import GestureMode.Proofs.PropertyEntries

/-!
# What the service leaves in the properties

Of all properties the service changes the two that hold the ambient and the haptic
switch, and it leaves them with the text of a truth value.  It does so at the start, when
the switches follow the host, and later only to take back a change that the host has
refused.  Every other property is what was put there from outside.
-/

set_option autoImplicit false

namespace GestureMode

open PreferenceStore

def Event.StoresSwitches (events : List Event) : Prop :=
  ∀ attempt ∈ stores events, ∃ switch : HostSwitch, attempt.1 = switch.key

namespace PropertyPreferences

/-- Between two stores at most the switches that stand for settings have changed, and
what they changed to is the text of a truth value. -/
structure Footprint (before after : PropertyPreferences) : Prop where
  stem : after.stem = before.stem
  readOnly : after.properties.readOnly? = before.properties.readOnly?
  others : ∀ name : String, (∀ switch : HostSwitch, name ≠ before.stem ++ switch.key) →
    after.properties.entry? name = before.properties.entry? name
  switches : ∀ switch : HostSwitch,
    after.properties.entry? (before.stem ++ switch.key) =
        before.properties.entry? (before.stem ++ switch.key) ∨
      after.properties.entry? (before.stem ++ switch.key) = some (Text.Utf8.encode "true") ∨
      after.properties.entry? (before.stem ++ switch.key) = some (Text.Utf8.encode "false")

theorem Footprint.refl (prefs : PropertyPreferences) : prefs.Footprint prefs :=
  ⟨rfl, rfl, fun _ _ => rfl, fun _ => .inl rfl⟩

theorem Footprint.trans {first second third : PropertyPreferences}
    (left : first.Footprint second) (right : second.Footprint third) : first.Footprint third where
  stem := right.stem.trans left.stem
  readOnly := right.readOnly.trans left.readOnly
  others name other := by
    rw [right.others name (by rwa [left.stem]), left.others name other]
  switches switch := by
    rcases right.switches switch with kept | changed
    · rw [left.stem] at kept
      rw [kept]
      exact left.switches switch
    · rw [left.stem] at changed
      exact .inr changed

theorem footprint_put (prefs after : PropertyPreferences) (switch : HostSwitch) (value : Bool)
    (stored : prefs.put switch.key value = .ok after) : prefs.Footprint after := by
  obtain ⟨properties, accepted, rfl⟩ := (prefs.put_eq_ok_iff after switch.key value).mp stored
  refine ⟨rfl, Properties.readOnly?_put _ _ _ _ accepted, ?_, ?_⟩
  · intro name other
    exact Properties.entry?_put_of_ne _ _ _ name _ accepted (other switch)
  · intro other
    by_cases same : other = switch
    · have held := Properties.entry?_put_self _ _ _ _ accepted
      rw [same]
      cases value with
      | true => exact .inr (.inl held)
      | false => exact .inr (.inr held)
    · have different : prefs.propertyName other.key ≠ prefs.propertyName switch.key := by
        intro equal
        exact same (HostSwitch.key_injective other switch
          (prefs.propertyName_injective other.key switch.key equal))
      exact .inl (Properties.entry?_put_of_ne _ _ _ _ _ accepted different)

theorem Footprint.entry?_of_key {before after : PropertyPreferences}
    (footprint : before.Footprint after) (key : String)
    (other : ∀ switch : HostSwitch, key ≠ switch.key) :
    after.properties.entry? (before.stem ++ key) =
      before.properties.entry? (before.stem ++ key) := by
  apply footprint.others
  intro switch same
  exact other switch (before.propertyName_injective key switch.key same)

theorem footprint_advance (prefs : PropertyPreferences) (event : Event)
    (stores : Event.StoresSwitches [event]) : prefs.Footprint (advance prefs event) := by
  cases event with
  | note | line | read | write => exact .refl prefs
  | store key value refusal =>
    obtain ⟨switch, rfl⟩ : ∃ switch : HostSwitch, key = switch.key :=
      stores (key, value, refusal.isSome) List.mem_cons_self
    cases refusal with
    | some failure => exact .refl prefs
    | none =>
      rw [advance]
      cases stored : PreferenceStore.put prefs switch.key value with
      | ok after => exact prefs.footprint_put after switch value stored
      | error failure => exact .refl prefs

theorem footprint_replay (prefs : PropertyPreferences) (events : List Event)
    (stores : Event.StoresSwitches events) : prefs.Footprint (replay prefs events) := by
  induction events generalizing prefs with
  | nil => exact .refl prefs
  | cons event rest ih =>
    have split : Event.stores (event :: rest) = Event.stores [event] ++ Event.stores rest :=
      Event.stores_append [event] rest
    rw [Event.StoresSwitches, split, List.forall_mem_append] at stores
    exact (prefs.footprint_advance event stores.1).trans (ih _ stores.2)

end PropertyPreferences

/-! ## What is stored -/

namespace Panel

variable {P S : Type} [PreferenceStore P] [HostSettings S]

theorem Mirrors.stores {switch : HostSwitch} {panel after : Panel S} {prefs last : P}
    {failure : Option Failure} {events : List Event}
    (mirrors : Mirrors switch panel prefs after last failure events) :
    ∀ attempt ∈ Event.stores events, attempt.1 = switch.key := by
  have quiet := Event.stores_of_quiet _ (HostSettings.quiet_readFlag panel.host switch.setting)
  cases mirrors with
  | unread =>
    rw [quiet]
    intro attempt impossible
    cases impossible
  | refused | mirrored =>
    rw [Event.stores_append, quiet]
    intro attempt member
    rw [List.mem_singleton.mp member]

theorem Resumes.storesSwitches {panel after : Panel S} {prefs last : P} {failure : Option Failure}
    {events : List Event} (resumes : Resumes panel prefs after last failure events) :
    ∀ attempt ∈ Event.stores events, ∃ switch : HostSwitch, attempt.1 = switch.key := by
  cases resumes with
  | stopped middle stored failure events first =>
    intro attempt member
    exact ⟨.ambient, first.stores attempt member⟩
  | finished middle after stored last failure events later doze haptic first second =>
    have noted : Event.stores (if failure.isNone then [resumeNote doze haptic] else []) = [] :=
      Event.stores_of_dealings _ [] (dealings_resumeNote failure.isNone doze haptic)
    intro attempt member
    rw [Event.stores_append, Event.stores_append, noted, List.append_nil] at member
    rcases List.mem_append.mp member with inFirst | inSecond
    · exact ⟨.ambient, first.stores attempt inFirst⟩
    · exact ⟨.haptic, second.stores attempt inSecond⟩

end Panel

namespace Service

/-- A switch reads differently than it was seen, the host has refused the change, and it
is to have the value again that was seen. -/
structure TakesBack {P : Type} [PreferenceStore P] (switch : HostSwitch) (seen found : P)
    (events : List Event) (value : Bool) : Prop where
  changed : switch.reads found ≠ switch.reads seen
  vetoed : ∃ failure : Failure,
    .write switch.setting (Setting.ofBool (switch.reads found)) (some failure) ∈ events
  value : value = switch.reads seen

theorem TakesBack.mono {P : Type} [PreferenceStore P] {switch : HostSwitch} {seen found : P}
    {events more : List Event} {value : Bool} (back : TakesBack switch seen found events value)
    (subset : events ⊆ more) : TakesBack switch seen found more value :=
  ⟨back.changed, back.vetoed.imp fun _ refused => subset refused, back.value⟩

variable {P W S : Type} [LawfulPreferenceStore P] [HostSettings S]

/-- A switch is stored once at most, and only to take a vetoed change back. -/
theorem Follows.stores {seen : P} {switch : HostSwitch} {service after : Service P W S}
    {events : List Event} (follows : Follows seen switch service after events) :
    Event.stores events = [] ∨
      ∃ (value refused : Bool), Event.stores events = [(switch.key, value, refused)] ∧
        TakesBack switch seen service.prefs events value := by
  cases follows with
  | unchanged | accepted => exact .inl rfl
  | restored value found before host failure | stuck value found before host failure =>
    refine .inr ⟨!value, _, rfl, ?_, ⟨failure, ?_⟩, before.symm⟩
    · rw [found, before]
      simp
    · rw [found]
      simp

theorem Follows.takesBack {seen : P} {switch : HostSwitch} {service after : Service P W S}
    {events : List Event} (follows : Follows seen switch service after events)
    (attempt : String × Bool × Bool) (member : attempt ∈ Event.stores events) :
    attempt.1 = switch.key ∧ TakesBack switch seen service.prefs events attempt.2.1 := by
  rcases follows.stores with silent | ⟨value, refused, once, back⟩
  · rw [silent] at member
    cases member
  · rw [once] at member
    rw [List.mem_singleton.mp member]
    exact ⟨rfl, back⟩

theorem FollowsBoth.takesBack {seen : P} {service after : Service P W S} {events : List Event}
    (follows : FollowsBoth seen service after events) (attempt : String × Bool × Bool)
    (member : attempt ∈ Event.stores events) :
    ∃ switch : HostSwitch, attempt.1 = switch.key ∧
      TakesBack switch seen service.prefs events attempt.2.1 := by
  obtain ⟨middle, first, second, ambient, haptic, rfl⟩ := follows
  rw [Event.stores_append] at member
  rcases List.mem_append.mp member with inFirst | inSecond
  · obtain ⟨key, back⟩ := ambient.takesBack attempt inFirst
    exact ⟨.ambient, key, back.mono (List.subset_append_left first second)⟩
  · obtain ⟨key, changed, vetoed, value⟩ := haptic.takesBack attempt inSecond
    -- what became of the ambient switch is no concern of the haptic one
    rw [ambient.reads_of_ne HostSwitch.ambient_ne_haptic.symm] at changed vetoed
    have back : TakesBack HostSwitch.haptic seen service.prefs second attempt.2.1 :=
      ⟨changed, vetoed, value⟩
    exact ⟨.haptic, key, back.mono (List.subset_append_right first second)⟩

theorem FollowsBoth.nodup_stores {seen : P} {service after : Service P W S} {events : List Event}
    (follows : FollowsBoth seen service after events) :
    ((Event.stores events).map Prod.fst).Nodup := by
  obtain ⟨middle, first, second, ambient, haptic, rfl⟩ := follows
  have different : HostSwitch.ambient.key ≠ HostSwitch.haptic.key := by decide
  rw [Event.stores_append, List.map_append]
  rcases ambient.stores with silent | ⟨value, refused, once, -⟩ <;>
    rcases haptic.stores with silentToo | ⟨other, refusedToo, onceToo, -⟩
  · simp [silent, silentToo]
  · simp [silent, onceToo]
  · simp [once, silentToo]
  · simp [once, onceToo, different]

variable [LineSink W]

/-- A tick stores each switch once at most, and only to take a vetoed change back. -/
theorem stores_tick (service : Service P W S) (seen : P) (now : Instant)
    (agreed : service.snapshot = Snapshot.take Key.watched seen) :
    ((Event.stores (service.tick now).events).map Prod.fst).Nodup ∧
      ∀ attempt ∈ Event.stores (service.tick now).events, ∃ switch : HostSwitch,
        attempt.1 = switch.key ∧
          TakesBack switch seen service.prefs (service.tick now).events attempt.2.1 := by
  cases requested : service.panel.update.request now
      (decide (GesturesDiffer seen service.prefs)) with
  | ok asked =>
    obtain ⟨after, events, follows, ticked⟩ :=
      service.tick_of_requested seen now agreed asked requested
    have stores : Event.stores (service.tick now).events = Event.stores events := by
      rw [ticked]
      exact Event.stores_of_dealings _ _ (dealings_around seen service.prefs events after now)
    have part : events ⊆ (service.tick now).events := by
      rw [ticked]
      intro event member
      exact List.mem_append_left _ (List.mem_append_right _ member)
    rw [stores]
    refine ⟨follows.nodup_stores, ?_⟩
    intro attempt member
    obtain ⟨switch, key, back⟩ := follows.takesBack attempt member
    exact ⟨switch, key, back.mono part⟩
  | error fault =>
    have silent : Event.stores (service.tick now).events = [] :=
      Event.stores_of_quiet _ (service.quiet_of_overflow seen now agreed fault requested)
    rw [silent]
    refine ⟨List.nodup_nil, ?_⟩
    intro attempt impossible
    cases impossible

end Service

/-! ## Courses over properties -/

namespace Course

section Stores

variable {P W S : Type} [LawfulPreferenceStore P] [LineSink W] [HostSettings S]

theorem storesSwitches_events (course : Course P W S) (n : Nat) :
    Event.StoresSwitches (course.events n) := by
  cases n with
  | zero =>
    obtain ⟨panel, last, failure, events, answer, resumes⟩ :=
      (Panel.ofHost course.host course.debounce).exists_resumes course.prefs
    have stores := Event.stores_of_dealings _ _ (Service.dealings_start course.prefs last
      course.sink course.host course.debounce panel failure events answer)
    intro attempt member
    rw [Course.events, start, stores] at member
    exact resumes.storesSwitches attempt member
  | succ n =>
    intro attempt member
    obtain ⟨switch, key, -⟩ := ((course.opened n).stores_tick (course.after n).prefs
      (course.turn n).now (course.snapshot_after n)).2 attempt member
    exact ⟨switch, key⟩

end Stores

variable {W S : Type} [LineSink W] [HostSettings S]

def KeepsStem (course : Course PropertyPreferences W S) : Prop :=
  ∀ (n : Nat) (prefs : PropertyPreferences), ((course.turn n).editPrefs prefs).stem = prefs.stem

theorem footprint_prefix (course : Course PropertyPreferences W S) (n : Nat)
    (earlier later : List Event) (split : course.events n = earlier ++ later) :
    (course.begins n).Footprint (replay (course.begins n) earlier) := by
  apply PropertyPreferences.footprint_replay
  intro attempt member
  apply course.storesSwitches_events n attempt
  rw [split, Event.stores_append]
  exact List.mem_append_left _ member

theorem footprint_events (course : Course PropertyPreferences W S) (n : Nat) :
    (course.begins n).Footprint (course.after n).prefs := by
  have whole := course.footprint_prefix n (course.events n) [] (List.append_nil _).symm
  rw [course.replay_events n] at whole
  exact whole

theorem stem_begins (course : Course PropertyPreferences W S) (kept : course.KeepsStem) (n : Nat) :
    (course.begins n).stem = course.prefs.stem := by
  induction n with
  | zero => rfl
  | succ n ih =>
    have edited : (course.begins (n + 1)).stem = (course.after n).prefs.stem := kept n _
    rw [edited, (course.footprint_events n).stem, ih]

/-- At every moment of the start and of every tick, the properties are those it began
with, apart from the two that hold the ambient and the haptic switch, and these hold what
they did or the text `true` or `false`.  The other preferences and the properties that
configure the daemon are among those that stay.  A tick stores each of the two switches
once at most.  It does so when the switch reads differently than after the tick before and
the host has refused the change, and what it stores is what the switch read then. -/
theorem writes_only_host_switches (course : Course PropertyPreferences W S)
    (kept : course.KeepsStem) (n : Nat) :
    (∀ earlier later : List Event, course.events n = earlier ++ later →
      let stem := course.prefs.stem
      let before := (course.begins n).properties
      let during := (replay (course.begins n) earlier).properties
      (∀ name : String, name ≠ stem ++ Key.ambient → name ≠ stem ++ Key.haptic →
          during.entry? name = before.entry? name) ∧
        (∀ name : String, name = stem ++ Key.ambient ∨ name = stem ++ Key.haptic →
          during.entry? name = before.entry? name ∨
            during.entry? name = some (Text.Utf8.encode "true") ∨
            during.entry? name = some (Text.Utf8.encode "false")) ∧
        (∀ gesture : Gesture,
          during.entry? (stem ++ gesture.key) = before.entry? (stem ++ gesture.key)) ∧
        during.entry? (stem ++ Key.control) = before.entry? (stem ++ Key.control) ∧
        (stem = Config.defaultStem →
          ∀ name ∈ [Config.nodeProperty, Config.debounceProperty, Config.pollProperty,
            Config.debugProperty], during.entry? name = before.entry? name) ∧
        during.readOnly? = before.readOnly?) ∧
      replay (course.begins n) (course.events n) = (course.after n).prefs ∧
      ((Event.stores (course.events (n + 1))).map Prod.fst).Nodup ∧
      ∀ (key : String) (value : Bool) (refusal : Option Failure),
        .store key value refusal ∈ course.events (n + 1) →
          ∃ switch : HostSwitch, key = switch.key ∧
            switch.reads (course.begins (n + 1)) ≠ switch.reads (course.after n).prefs ∧
            (∃ failure : Failure,
              .write switch.setting (Setting.ofBool (switch.reads (course.begins (n + 1))))
                (some failure) ∈ course.events (n + 1)) ∧
            value = switch.reads (course.after n).prefs := by
  obtain ⟨once, takesBack⟩ := (course.opened n).stores_tick (course.after n).prefs
    (course.turn n).now (course.snapshot_after n)
  refine ⟨?_, course.replay_events n, once, ?_⟩
  · intro earlier later split stem before during
    have footprint := course.footprint_prefix n earlier later split
    have named : (course.begins n).stem = stem := course.stem_begins kept n
    have others (name : String) (notAmbient : name ≠ stem ++ Key.ambient)
        (notHaptic : name ≠ stem ++ Key.haptic) : during.entry? name = before.entry? name := by
      apply footprint.others
      rw [named]
      intro switch
      cases switch with
      | ambient => exact notAmbient
      | haptic => exact notHaptic
    refine ⟨others, ?_, ?_, ?_, ?_, footprint.readOnly⟩
    · rintro name (rfl | rfl)
      · rw [← named]
        exact footprint.switches .ambient
      · rw [← named]
        exact footprint.switches .haptic
    · intro gesture
      rw [← named]
      apply footprint.entry?_of_key
      intro switch
      exact Gesture.ne_of_ofKey?_eq_none gesture switch.key switch.ofKey?_key
    · rw [← named]
      apply footprint.entry?_of_key
      intro switch
      cases switch <;> decide
    · intro default name configures
      have apart : ∀ name ∈ [Config.nodeProperty, Config.debounceProperty, Config.pollProperty,
          Config.debugProperty], name ≠ Config.defaultStem ++ Key.ambient ∧
            name ≠ Config.defaultStem ++ Key.haptic := by decide
      obtain ⟨notAmbient, notHaptic⟩ := apart name configures
      rw [← default] at notAmbient notHaptic
      exact others name notAmbient notHaptic
  · intro key value refusal member
    have attempt : (key, value, refusal.isSome) ∈ Event.stores (course.events (n + 1)) :=
      List.mem_filterMap.mpr ⟨_, member, rfl⟩
    obtain ⟨switch, same, back⟩ := takesBack _ attempt
    exact ⟨switch, same, back.changed, back.vetoed, back.value⟩

/-- The ambient switch is turned off before the first tick, along with a change of the
debounce interval.  The host refuses every write. -/
def refusing : Course PropertyPreferences Recorder SettingsTable where
  prefs := ⟨Config.defaultStem, some ⟨[], .empty⟩⟩
  sink := ⟨false, []⟩
  host := ⟨[], .every, .empty⟩
  debounce := Debounce.defaultDelay
  turn n :=
    { editPrefs := fun prefs =>
        if n = 0 then
          { prefs with
            properties := (prefs.properties.edit (Config.defaultStem ++ Key.ambient)
              (some (Text.Utf8.encode "0"))).edit Config.debounceProperty
                (some (Text.Utf8.encode "250")) }
        else prefs
      editHost := id
      editSink := id
      now := ⟨Span.ofMillis (100 * n)⟩ }

theorem keepsStem_refusing : refusing.KeepsStem := by
  intro n prefs
  change (if n = 0 then _ else prefs : PropertyPreferences).stem = prefs.stem
  split <;> rfl

theorem writes_only_host_switches_refusing :
    refusing.KeepsStem ∧
      .store Key.ambient true none ∈ refusing.events 1 ∧
      HostSwitch.ambient.reads (refusing.begins 1) ≠
        HostSwitch.ambient.reads (refusing.after 0).prefs ∧
      (refusing.after 1).prefs.properties.entry? Config.debounceProperty =
        (refusing.begins 1).properties.entry? Config.debounceProperty := by
  have stored : .store Key.ambient true none ∈ refusing.events 1 := by decide +kernel
  obtain ⟨-, -, -, back⟩ := refusing.writes_only_host_switches keepsStem_refusing 0
  obtain ⟨moments, replayed, -⟩ := refusing.writes_only_host_switches keepsStem_refusing 1
  refine ⟨keepsStem_refusing, stored, ?_, ?_⟩
  · obtain ⟨switch, same, changed, -⟩ := back Key.ambient true none stored
    rw [← HostSwitch.key_injective .ambient switch same] at changed
    exact changed
  · obtain ⟨-, -, -, -, configuring, -⟩ := moments (refusing.events 1) [] (List.append_nil _).symm
    rw [replayed] at configuring
    exact configuring rfl Config.debounceProperty (by simp)

end Course

end GestureMode
