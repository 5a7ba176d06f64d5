import GestureMode.Proofs.Delivery

/-!
# Switches that agree with the host

Whether the device dozes is held three times: by the ambient switch, by the panel for
what depends on it, and by the host.  The haptic switch and its setting are held
twice.  Once the copies agree, every tick keeps them so: an accepted change moves them
together, and a vetoed one is taken back.  The exception is a store that refuses to
take it back.
-/

set_option autoImplicit false

namespace GestureMode

open PreferenceStore

namespace HostSwitch

theorem isOnValue_ofBool (value : Bool) :
    Setting.isOnValue (some (Setting.ofBool value)) = value := by
  cases value <;> rfl

theorem dependentsEnabled_adopt_of_ne {S : Type} (switch other : HostSwitch)
    (different : other ≠ switch) (panel : Panel S) (host : S) (value : Bool)
    (ambient : other = .ambient) :
    (switch.adopt panel host value).dependentsEnabled = panel.dependentsEnabled := by
  cases switch with
  | ambient => exact absurd ambient different
  | haptic => rfl

variable {S : Type} [LawfulHostSettings S]

structure Held (switch : HostSwitch) (panel : Panel S) (on : Bool) : Prop where
  host : Setting.isOnValue (LawfulHostSettings.value? panel.host switch.setting) = on
  dependents : switch = .ambient → panel.dependentsEnabled = on

theorem Held.congr {switch : HostSwitch} {panel other : Panel S} {on : Bool}
    (held : switch.Held panel on)
    (host : LawfulHostSettings.value? other.host switch.setting =
      LawfulHostSettings.value? panel.host switch.setting)
    (dependents : switch = .ambient → other.dependentsEnabled = panel.dependentsEnabled) :
    switch.Held other on where
  host := by rw [host, held.host]
  dependents := fun ambient => (dependents ambient).trans (held.dependents ambient)

theorem held_adopt (switch : HostSwitch) (panel : Panel S) (host : S) (on : Bool)
    (holds : Setting.isOnValue (LawfulHostSettings.value? host switch.setting) = on) :
    switch.Held (switch.adopt panel host on) on := by
  cases switch with
  | ambient => exact ⟨holds, fun _ => rfl⟩
  | haptic => exact ⟨holds, fun impossible => by cases impossible⟩

variable {P W : Type} [PreferenceStore P]

/-- The switch and all copies of its setting agree. -/
def Agrees (switch : HostSwitch) (service : Service P W S) : Prop :=
  switch.Held service.panel (switch.reads service.prefs)

end HostSwitch

namespace Service

variable {P W S : Type} [LawfulPreferenceStore P] [LawfulHostSettings S]

theorem Follows.agrees_of_accepted {seen : P} {switch : HostSwitch} {service after : Service P W S}
    {events : List Event} (follows : Follows seen switch service after events) (value : Int32)
    (accepted : .write switch.setting value none ∈ events) : switch.Agrees after := by
  cases follows with
  | unchanged => cases accepted
  | accepted value found before host taken =>
    have held := LawfulHostSettings.value?_put_self _ host _ _ taken
    change switch.Held (switch.adopt service.panel host value) (switch.reads service.prefs)
    rw [found]
    apply switch.held_adopt
    rw [held, HostSwitch.isOnValue_ofBool]
  | restored | stuck => simp [changeNote, restoreNote, HostSwitch.vetoNote] at accepted

/-- A switch that agreed with its copies does so when it is handled, if the old value of a
vetoed change is taken back. -/
theorem Follows.agrees {seen : P} {switch : HostSwitch} {service after : Service P W S}
    {events : List Event} (follows : Follows seen switch service after events)
    (held : switch.Held service.panel (switch.reads seen))
    (restored : ∀ (value : Bool) (failure : Failure),
      .store switch.key value (some failure) ∉ events) : switch.Agrees after := by
  cases follows with
  | unchanged same =>
    rw [← same] at held
    exact held
  | accepted value found before host taken =>
    apply agrees_of_accepted (.accepted value found before host taken) (Setting.ofBool value)
    simp
  | restored value found before host failure refused after stored =>
    have kept := LawfulHostSettings.put_refused _ host _ _ failure refused
    -- a vetoed value is the negation of the one seen, so its negation is what agreed
    have reads : switch.reads after = switch.reads seen := by
      rw [before]
      exact isOn_put_self service.prefs after switch.key (!value) stored
    change switch.Held { service.panel with host } (switch.reads after)
    rw [reads, kept]
    exact held
  | stuck value found before host failure refused refusal kept =>
    refine absurd ?_ (restored (!value) refusal)
    simp

theorem Follows.held_of_ne {seen : P} {switch other : HostSwitch} {service after : Service P W S}
    {events : List Event} (follows : Follows seen switch service after events)
    (different : other ≠ switch) (on : Bool) (held : other.Held service.panel on) :
    other.Held after.panel on := by
  have setting : other.setting ≠ switch.setting :=
    mt (HostSwitch.setting_injective other switch) different
  cases follows with
  | unchanged => exact held
  | accepted value found before host taken =>
    apply held.congr
    · rw [HostSwitch.host_adopt]
      exact LawfulHostSettings.value?_put_of_ne _ host _ _ _ taken setting
    · exact HostSwitch.dependentsEnabled_adopt_of_ne switch other different service.panel host value
  | restored _ _ _ host failure refused | stuck _ _ _ host failure refused =>
    have kept := LawfulHostSettings.put_refused _ host _ _ failure refused
    rw [kept]
    exact held

theorem Follows.agrees_of_ne {seen : P} {switch other : HostSwitch} {service after : Service P W S}
    {events : List Event} (follows : Follows seen switch service after events)
    (different : other ≠ switch) (agrees : other.Agrees service) : other.Agrees after := by
  rw [HostSwitch.Agrees, follows.reads_of_ne different]
  exact follows.held_of_ne different _ agrees

theorem FollowsBoth.agrees {seen : P} {service after : Service P W S} {events : List Event}
    (follows : FollowsBoth seen service after events) (switch : HostSwitch)
    (held : switch.Held service.panel (switch.reads seen))
    (restored : ∀ (value : Bool) (failure : Failure),
      .store switch.key value (some failure) ∉ events) : switch.Agrees after := by
  obtain ⟨middle, first, second, ambient, haptic, rfl⟩ := follows
  cases switch with
  | ambient =>
    refine haptic.agrees_of_ne HostSwitch.ambient_ne_haptic (ambient.agrees held ?_)
    intro value failure refused
    exact restored value failure (List.mem_append_left second refused)
  | haptic =>
    refine haptic.agrees (ambient.held_of_ne HostSwitch.ambient_ne_haptic.symm _ held) ?_
    intro value failure refused
    exact restored value failure (List.mem_append_right first refused)

theorem FollowsBoth.agrees_of_accepted {seen : P} {service after : Service P W S}
    {events : List Event} (follows : FollowsBoth seen service after events) (switch : HostSwitch)
    (value : Int32) (accepted : .write switch.setting value none ∈ events) :
    switch.Agrees after := by
  obtain ⟨middle, first, second, ambient, haptic, rfl⟩ := follows
  cases switch with
  | ambient =>
    have notSecond := haptic.not_written_of_ne HostSwitch.ambient_ne_haptic value none
    have inFirst := (List.mem_append.mp accepted).resolve_right notSecond
    have middleAgrees := ambient.agrees_of_accepted value inFirst
    exact haptic.agrees_of_ne HostSwitch.ambient_ne_haptic middleAgrees
  | haptic =>
    have notFirst := ambient.not_written_of_ne HostSwitch.ambient_ne_haptic.symm value none
    have inSecond := (List.mem_append.mp accepted).resolve_left notFirst
    exact haptic.agrees_of_accepted value inSecond

variable [LineSink W]

theorem agrees_settle (service : Service P W S) (now : Instant) (switch : HostSwitch)
    (agrees : switch.Agrees service) : switch.Agrees (service.settle now).value := by
  rw [HostSwitch.Agrees, prefs_settle, panel_settle]
  exact agrees.congr rfl fun _ => rfl

/-- A tick keeps the agreement with a host that had the values of the switches as they
were seen. -/
theorem agrees_tick (service : Service P W S) (seen : P) (now : Instant)
    (agreed : service.snapshot = Snapshot.take Key.watched seen)
    (completed : (service.tick now).value.2 = none) (switch : HostSwitch)
    (held : switch.Held service.panel (switch.reads seen))
    (restored : ∀ (value : Bool) (failure : Failure),
      .store switch.key value (some failure) ∉ (service.tick now).events) :
    switch.Agrees (service.tick now).value.1 := by
  obtain ⟨asked, requested⟩ := service.requested_of_completed seen now agreed completed
  obtain ⟨after, events, follows, ticked⟩ :=
    service.tick_of_requested seen now agreed asked requested
  rw [ticked] at restored ⊢
  apply agrees_settle
  refine follows.agrees switch (held.congr rfl fun _ => rfl) ?_
  intro value failure refused
  exact restored value failure
    (List.mem_append_left _ (List.mem_append_right _ refused))

/-- A tick that has a change accepted makes its switch agree with the host. -/
theorem agrees_tick_of_accepted (service : Service P W S) (seen : P) (now : Instant)
    (agreed : service.snapshot = Snapshot.take Key.watched seen)
    (completed : (service.tick now).value.2 = none) (switch : HostSwitch) (value : Int32)
    (accepted : .write switch.setting value none ∈ (service.tick now).events) :
    switch.Agrees (service.tick now).value.1 := by
  obtain ⟨asked, requested⟩ := service.requested_of_completed seen now agreed completed
  obtain ⟨after, events, follows, ticked⟩ :=
    service.tick_of_requested seen now agreed asked requested
  rw [ticked] at accepted ⊢
  apply agrees_settle
  apply follows.agrees_of_accepted switch value
  have dealt := (Event.mem_dealings _ _ rfl).mpr accepted
  rw [dealings_around] at dealt
  exact (Event.mem_dealings _ _ rfl).mp dealt

end Service

namespace Panel

variable {P S : Type} [LawfulPreferenceStore P] [LawfulHostSettings S]

theorem Mirrors.held {switch : HostSwitch} {panel after : Panel S} {prefs last : P}
    {events : List Event} (mirrors : Mirrors switch panel prefs after last none events) :
    switch.Held after (switch.reads last) := by
  cases mirrors with
  | mirrored value read last stored =>
    have reads : switch.reads last = Setting.isOnValue value :=
      isOn_put_self prefs last switch.key (Setting.isOnValue value) stored
    rw [reads]
    apply switch.held_adopt
    rw [LawfulHostSettings.value?_get, LawfulHostSettings.result_get _ _ value read]

theorem Mirrors.held_of_ne {switch other : HostSwitch} {panel after : Panel S} {prefs last : P}
    {failure : Option Failure} {events : List Event}
    (mirrors : Mirrors switch panel prefs after last failure events) (different : other ≠ switch)
    (held : other.Held panel (other.reads prefs)) : other.Held after (other.reads last) := by
  have key : other.key ≠ switch.key := mt (HostSwitch.key_injective other switch) different
  have same : other.reads last = other.reads prefs :=
    isOn_congr last prefs other.key (mirrors.get?_of_ne other.key key)
  have untouched := LawfulHostSettings.value?_get panel.host switch.setting
  rw [same]
  cases mirrors with
  | unread | refused => exact held.congr (by rw [untouched]) fun _ => rfl
  | mirrored =>
    apply held.congr
    · rw [HostSwitch.host_adopt, untouched]
    · exact HostSwitch.dependentsEnabled_adopt_of_ne switch other different panel _ _

theorem Mirrors.none_of_stored {switch : HostSwitch} {panel after : Panel S} {prefs last : P}
    {failure : Option Failure} {events : List Event}
    (mirrors : Mirrors switch panel prefs after last failure events) (key : String) (on : Bool)
    (stored : .store key on none ∈ events) : failure = none := by
  have quiet : .store key on none ∉ (HostSettings.readFlag panel.host switch.setting).events := by
    intro member
    cases HostSettings.quiet_readFlag panel.host switch.setting _ member
  cases mirrors with
  | unread => exact absurd stored quiet
  | refused => simp [quiet] at stored
  | mirrored => rfl

/-- Once the ambient switch has taken its value from the host, they agree, also when the
haptic switch then fails to. -/
theorem Resumes.held_ambient {panel after : Panel S} {prefs last : P} {failure : Option Failure}
    {events : List Event} (resumes : Resumes panel prefs after last failure events) (on : Bool)
    (stored : .store Key.ambient on none ∈ events) :
    HostSwitch.ambient.Held after (HostSwitch.ambient.reads last) := by
  cases resumes with
  | stopped middle middlePrefs failure events first =>
    cases first.none_of_stored Key.ambient on stored
  | finished middle after middlePrefs last failure events later doze haptic first second =>
    exact second.held_of_ne HostSwitch.ambient_ne_haptic first.held

theorem Resumes.held_haptic {panel after : Panel S} {prefs last : P} {events : List Event}
    (resumes : Resumes panel prefs after last none events) :
    HostSwitch.haptic.Held after (HostSwitch.haptic.reads last) := by
  cases resumes with
  | finished middle after middlePrefs last failure events later doze haptic first second =>
    exact second.held

end Panel

/-! ## Courses -/

namespace Course

variable {P W S : Type}

section Establishing

variable [PreferenceStore P] [LineSink W] [HostSettings S]

/-- What makes a switch agree with its setting: a start that reads the setting and stores
its value, for the haptic switch one without any failure, or a tick that has a change
accepted. -/
def Establishes (course : Course P W S) : HostSwitch → Nat → Prop
  | .ambient, 0 =>
    (∃ value : Option Int32, .read .doze (.ok value) ∈ course.events 0) ∧
      ∃ on : Bool, .store Key.ambient on none ∈ course.events 0
  | .haptic, 0 => ((Panel.ofHost course.host course.debounce).resume course.prefs).value.2 = none
  | switch, n + 1 => ∃ value : Int32, .write switch.setting value none ∈ course.events (n + 1)

end Establishing

variable [LawfulPreferenceStore P] [LineSink W] [LawfulHostSettings S]

theorem agrees_of_establishes_start (course : Course P W S) (switch : HostSwitch)
    (established : course.Establishes switch 0) : switch.Agrees (course.after 0) := by
  obtain ⟨panel, last, failure, events, answer, resumes⟩ :=
    (Panel.ofHost course.host course.debounce).exists_resumes course.prefs
  have started := Service.start_eq course.prefs last course.sink course.host course.debounce panel
    failure events answer
  rw [HostSwitch.Agrees, after, start, started]
  cases switch with
  | ambient =>
    obtain ⟨-, on, stored⟩ := established
    have dealt := (Event.mem_dealings _ _ rfl).mpr stored
    rw [Course.events, start, Service.dealings_start _ last _ _ _ panel failure events answer]
      at dealt
    exact resumes.held_ambient on ((Event.mem_dealings _ _ rfl).mp dealt)
  | haptic =>
    have finished : failure = none := by
      rw [Establishes, answer] at established
      exact established
    subst finished
    exact resumes.held_haptic

theorem agrees_of_establishes (course : Course P W S) (switch : HostSwitch) (n : Nat)
    (reached : course.Reaches n) (established : course.Establishes switch n) :
    switch.Agrees (course.after n) := by
  cases n with
  | zero => exact course.agrees_of_establishes_start switch established
  | succ n =>
    have completed : (course.tick n).value.2 = none := reached n (by omega)
    obtain ⟨value, accepted⟩ : ∃ value : Int32,
        .write switch.setting value none ∈ course.events (n + 1) := by
      cases switch <;> exact established
    exact (course.opened n).agrees_tick_of_accepted (course.after n).prefs (course.turn n).now
      (course.snapshot_after n) completed switch value accepted

/-- Once a switch agrees with its setting, it does so after every later tick, whatever
changes outside but the settings' values and whatever the host refuses, unless the store
refuses to take a vetoed change of the switch back. -/
theorem switches_agree_with_host (course : Course P W S) (switch : HostSwitch) (n m : Nat)
    (upto : n ≤ m) (reached : course.Reaches m)
    (untouched : ∀ (k : Nat) (host : S),
      LawfulHostSettings.value? ((course.turn k).editHost host) = LawfulHostSettings.value? host)
    (established : course.Establishes switch n ∨ switch.Agrees (course.after n))
    (restored : ∀ k, n ≤ k → k < m → ∀ (value : Bool) (failure : Failure),
      .store switch.key value (some failure) ∉ course.events (k + 1)) :
    switch.Agrees (course.after m) := by
  induction upto with
  | refl => exact established.elim (course.agrees_of_establishes switch n reached) id
  | @step m upto ih =>
    have completed : (course.tick m).value.2 = none := reached m (by omega)
    have before : switch.Agrees (course.after m) := by
      apply ih (reached.of_succ course m)
      intro k later earlier
      exact restored k later (by omega)
    -- the switch may have been changed outside, but the panel still holds what was seen
    refine (course.opened m).agrees_tick (course.after m).prefs (course.turn m).now
      (course.snapshot_after m) completed switch ?_ (restored m upto (by omega))
    exact before.congr (congrFun (untouched m _) _) fun _ => rfl

theorem establishes_burst : burst.Establishes .haptic 0 :=
  rfl

theorem switches_agree_with_host_burst :
    burst.Reaches 5 ∧ burst.Establishes .haptic 0 ∧ HostSwitch.haptic.Agrees (burst.after 5) := by
  have stored : ∀ k, k < 5 → ∀ event ∈ burst.events (k + 1), event.isRefusedStore = false := by
    decide +kernel
  refine ⟨reaches_burst, establishes_burst, ?_⟩
  refine burst.switches_agree_with_host .haptic 0 5 (by decide) reaches_burst (fun _ _ => rfl)
    (.inl establishes_burst) ?_
  intro k _ before value failure refused
  cases stored k before _ refused

end Course

end GestureMode
