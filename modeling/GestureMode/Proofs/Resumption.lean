import GestureMode.Proofs.Calls
import GestureMode.Proofs.CommandValues
import GestureMode.Proofs.Footprint

/-!
# A panel that resumes

Resuming brings the ambient switch and then the haptic one in line with the host, up to the
first read that fails or write that is refused.  Nothing is done by halves to one switch: the
flag of the dependents goes with the ambient switch, and a switch that was not stored is as
it was.  Resuming again, with the same answers, stores what is stored already.
-/

set_option autoImplicit false

namespace GestureMode

open PreferenceStore

theorem Setting.isOnValue_eq_false_iff (value : Option Int32) :
    isOnValue value = false ↔ value = some 0 := by
  cases value with
  | none => decide
  | some value => simp [isOnValue]

/-- A value that was written can be written again, also when another preference was written
in between, and the store stays what it is. -/
structure PreferenceStore.Settled (P : Type) [PreferenceStore P] : Prop where
  put_again : ∀ (prefs after : P) (key : String) (value : Bool),
    put prefs key value = .ok after → put after key value = .ok after
  put_again_of_ne : ∀ (prefs after : P) (key other : String) (value new : Bool),
    put prefs key value = .ok prefs → key ≠ other → put prefs other new = .ok after →
      put after key value = .ok after

theorem MemoryPreferences.put_eq_self_iff (prefs : MemoryPreferences) (key : String)
    (value : Bool) : put prefs key value = .ok prefs ↔ prefs.get? key = some value := by
  rw [get?, ← Entries.put_eq_self_iff]
  constructor
  · intro same
    injection same with same
    exact congrArg entries same
  · intro same
    exact congrArg (fun entries => Except.ok (MemoryPreferences.mk entries)) same

theorem MemoryPreferences.settled : Settled MemoryPreferences where
  put_again prefs after key value written :=
    (after.put_eq_self_iff key value).mpr
      (LawfulPreferenceStore.get?_put_self prefs after key value written)
  put_again_of_ne prefs after key other value new kept different written := by
    rw [put_eq_self_iff] at kept ⊢
    rw [← kept]
    exact LawfulPreferenceStore.get?_put_of_ne prefs after other key new written different

namespace PropertyPreferences

theorem exists_table_of_put_eq_ok (prefs after : PropertyPreferences) (key : String)
    (value : Bool) (written : prefs.put key value = .ok after) :
    ∃ table : PropertyTable, prefs.properties = some table ∧
      table.refuses (prefs.propertyName key) (boolText value) = false ∧
      after = { prefs with properties := some { table with
        entries := table.entries.put (prefs.propertyName key)
          (Text.Utf8.encode (boolText value)) } } := by
  obtain ⟨properties, put, rfl⟩ := (put_eq_ok_iff prefs after key value).mp written
  obtain ⟨table, later, found, taken, rfl⟩ := (Properties.put_eq_ok_iff _ _ _ _).mp put
  obtain ⟨allowed, rfl⟩ := (PropertyTable.put_eq_ok_iff _ _ _ _).mp taken
  exact ⟨table, found, allowed, rfl⟩

theorem put_eq_self_iff (prefs : PropertyPreferences) (key : String) (value : Bool) :
    prefs.put key value = .ok prefs ↔
      ∃ table : PropertyTable, prefs.properties = some table ∧
        table.refuses (prefs.propertyName key) (boolText value) = false ∧
        table.entries.get? (prefs.propertyName key) =
          some (Text.Utf8.encode (boolText value)) := by
  constructor
  · intro written
    obtain ⟨table, found, allowed, same⟩ := prefs.exists_table_of_put_eq_ok prefs key value written
    have tables := found.symm.trans (congrArg properties same)
    injection tables with tables
    exact ⟨table, found, allowed,
      (Entries.put_eq_self_iff _ _ _).mp (congrArg PropertyTable.entries tables).symm⟩
  · rintro ⟨table, found, allowed, entry⟩
    apply (put_eq_ok_iff _ _ _ _).mpr
    refine ⟨prefs.properties, (Properties.put_eq_ok_iff _ _ _ _).mpr ?_, rfl⟩
    refine ⟨table, table, found, (PropertyTable.put_eq_ok_iff _ _ _ _).mpr ⟨allowed, ?_⟩, found⟩
    rw [(Entries.put_eq_self_iff _ _ _).mpr entry]

theorem settled : Settled PropertyPreferences where
  put_again prefs after key value written := by
    obtain ⟨table, found, allowed, rfl⟩ := prefs.exists_table_of_put_eq_ok after key value written
    exact (put_eq_self_iff _ key value).mpr ⟨_, rfl, allowed, Entries.get?_put_self _ _ _⟩
  put_again_of_ne prefs after key other value new kept different written := by
    obtain ⟨table, found, allowed, entry⟩ := (prefs.put_eq_self_iff key value).mp kept
    obtain ⟨same, foundAgain, -, rfl⟩ := prefs.exists_table_of_put_eq_ok after other new written
    obtain rfl : table = same := Option.some.inj (found.symm.trans foundAgain)
    refine (put_eq_self_iff _ key value).mpr ⟨_, rfl, allowed, ?_⟩
    rw [← entry]
    exact Entries.get?_put_of_ne _ _ _ _ fun names =>
      different (prefs.propertyName_injective key other names)

end PropertyPreferences

/-! ## One switch -/

namespace HostSwitch

section Mirroring

variable {P : Type} [PreferenceStore P]

/-- An answer about the setting sets the switch: it tells a value, and the store, then
`stored`, takes whether that is on. -/
inductive Mirrored (switch : HostSwitch) (answer : Except Failure (Option Int32)) (prefs : P) :
    Bool → P → Prop
  | intro (value : Option Int32) (told : answer = .ok value) (stored : P)
      (taken : put prefs switch.key (Setting.isOnValue value) = .ok stored) :
      Mirrored switch answer prefs (Setting.isOnValue value) stored

/-- What keeps the switch from being set: the failure of the read or, after a read that did
not fail, of the write. -/
inductive Hindered (switch : HostSwitch) (answer : Except Failure (Option Int32)) (prefs : P)
    (reason : Failure) : Prop
  | unread (failed : answer = .error reason)
  | refused (value : Option Int32) (told : answer = .ok value)
      (kept : put prefs switch.key (Setting.isOnValue value) = .error reason)

def Untried (switch : HostSwitch) (events : List Event) : Prop :=
  (∀ result : Except Failure (Option Int32), .read switch.setting result ∉ events) ∧
    ∀ (on : Bool) (refusal : Option Failure), .store switch.key on refusal ∉ events

variable {switch : HostSwitch} {answer : Except Failure (Option Int32)} {prefs : P}

theorem Mirrored.taken {on : Bool} {stored : P}
    (mirrored : switch.Mirrored answer prefs on stored) :
    put prefs switch.key on = .ok stored := by
  obtain ⟨value, -, stored, taken⟩ := mirrored
  exact taken

theorem Mirrored.unique {on other : Bool} {stored later : P}
    (one : switch.Mirrored answer prefs on stored)
    (two : switch.Mirrored answer prefs other later) : on = other ∧ stored = later := by
  obtain ⟨value, told, stored, taken⟩ := one
  obtain ⟨same, toldAgain, later, takenAgain⟩ := two
  cases told.symm.trans toldAgain
  exact ⟨rfl, Except.ok.inj (taken.symm.trans takenAgain)⟩

theorem Hindered.unique {reason other : Failure} (one : switch.Hindered answer prefs reason)
    (two : switch.Hindered answer prefs other) : reason = other := by
  rcases one with failed | ⟨value, told, kept⟩ <;>
    rcases two with failedAgain | ⟨same, toldAgain, keptAgain⟩
  · exact Except.error.inj (failed.symm.trans failedAgain)
  · cases failed.symm.trans toldAgain
  · cases told.symm.trans failedAgain
  · cases told.symm.trans toldAgain
    exact Except.error.inj (kept.symm.trans keptAgain)

theorem Mirrored.not_hindered {on : Bool} {stored : P}
    (mirrored : switch.Mirrored answer prefs on stored) (reason : Failure) :
    ¬ switch.Hindered answer prefs reason := by
  obtain ⟨value, told, stored, taken⟩ := mirrored
  rintro (failed | ⟨same, toldAgain, kept⟩)
  · cases told.symm.trans failed
  · cases told.symm.trans toldAgain
    cases taken.symm.trans kept

theorem Mirrored.again {on : Bool} {stored later final : P}
    (mirrored : switch.Mirrored answer prefs on stored)
    (taken : put later switch.key on = .ok final) : switch.Mirrored answer later on final := by
  obtain ⟨value, told, stored, -⟩ := mirrored
  exact .intro value told final taken

end Mirroring

section Lawful

variable {P : Type} [LawfulPreferenceStore P] {switch : HostSwitch}
  {answer : Except Failure (Option Int32)} {prefs stored : P} {on : Bool}

theorem Mirrored.get?_self (mirrored : switch.Mirrored answer prefs on stored) :
    get? stored switch.key = some on :=
  LawfulPreferenceStore.get?_put_self prefs stored switch.key on mirrored.taken

theorem Mirrored.get?_of_ne (mirrored : switch.Mirrored answer prefs on stored) (key : String)
    (different : key ≠ switch.key) : get? stored key = get? prefs key :=
  LawfulPreferenceStore.get?_put_of_ne prefs stored switch.key key on mirrored.taken different

end Lawful

end HostSwitch

/-! ## Both switches -/

/-- Events without a certain one lie before each place where it happens. -/
theorem Event.isPrefix_of_split {first rest before later : List Event} {event : Event}
    (split : first ++ rest = before ++ event :: later) (absent : event ∉ first) :
    first <+: before := by
  have upTo : before ++ [event] <+: first ++ rest :=
    ⟨later, (List.append_cons before event later).symm.trans split.symm⟩
  have happened : event ∈ before ++ [event] := List.mem_append_right before List.mem_cons_self
  rcases List.prefix_or_prefix_of_prefix (List.prefix_append first rest) upTo with inside | beyond
  · rcases List.prefix_concat_iff.mp inside with same | inside
    · rw [← same] at happened
      exact absurd happened absent
    · exact inside
  · exact absurd (beyond.subset happened) absent

namespace Panel

section Events

variable {P S : Type} [PreferenceStore P] [HostSettings S]

theorem Mirrors.untried_of_ne {switch other : HostSwitch} {panel after : Panel S}
    {prefs last : P} {failure : Option Failure} {events : List Event}
    (mirrors : Mirrors switch panel prefs after last failure events) (different : other ≠ switch) :
    other.Untried events := by
  constructor
  · intro result member
    have call : .read other.setting result ∈ Event.calls events :=
      List.mem_filter.mpr ⟨member, rfl⟩
    rw [mirrors.calls, List.mem_singleton] at call
    injection call with same
    exact different (HostSwitch.setting_injective other switch same)
  · intro on refusal member
    have attempt : (other.key, on, refusal.isSome) ∈ Event.stores events :=
      List.mem_filterMap.mpr ⟨_, member, rfl⟩
    exact different (HostSwitch.key_injective other switch (mirrors.stores _ attempt))

theorem Resumes.ambient_before_haptic {panel after : Panel S} {prefs last : P}
    {failure : Option Failure} {events before later : List Event}
    (resumes : Resumes panel prefs after last failure events) (on : Bool)
    (refusal : Option Failure) (split : events = before ++ .store Key.haptic on refusal :: later) :
    ∃ dozing : Bool, .store Key.ambient dozing none ∈ before := by
  have different := HostSwitch.ambient_ne_haptic.symm
  cases resumes with
  | stopped middle stored failure events first =>
    refine absurd ?_ ((first.untried_of_ne different).2 on refusal)
    rw [split]
    exact List.mem_append_right before List.mem_cons_self
  | finished middle after stored last failure events rest doze haptic first second =>
    have begun : events <+: before :=
      Event.isPrefix_of_split split ((first.untried_of_ne different).2 on refusal)
    cases first with
    | mirrored value read stored taken =>
      refine ⟨Setting.isOnValue value, begun.subset ?_⟩
      exact List.mem_append_right _ List.mem_cons_self

theorem Resumes.not_write {panel after : Panel S} {prefs last : P} {failure : Option Failure}
    {events : List Event} (resumes : Resumes panel prefs after last failure events)
    (setting : Setting) (value : Int32) (refusal : Option Failure) :
    .write setting value refusal ∉ events := by
  intro member
  have call : .write setting value refusal ∈ Event.calls events :=
    List.mem_filter.mpr ⟨member, rfl⟩
  rcases resumes.calls with ⟨-, -, calls⟩ | ⟨-, -, calls⟩ <;> simp [calls] at call

end Events

section Outcomes

variable {P S : Type} [PreferenceStore P] [HostSettings S]

def dozeReading (panel : Panel S) : Reading S :=
  HostSettings.get panel.host .doze

def hapticReading (panel : Panel S) : Reading S :=
  HostSettings.get panel.dozeReading.host .haptic

inductive Outcome (panel : Panel S) (prefs : P) (events : List Event) :
    Panel S → P → Option Failure → Prop
  | untouched (reason : Failure)
      (ambient : HostSwitch.ambient.Hindered panel.dozeReading.result prefs reason)
      (untried : HostSwitch.haptic.Untried events) :
      Outcome panel prefs events { panel with host := panel.dozeReading.host } prefs (some reason)
  | ambientOnly (dozing : Bool) (stored : P) (reason : Failure)
      (ambient : HostSwitch.ambient.Mirrored panel.dozeReading.result prefs dozing stored)
      (haptic : HostSwitch.haptic.Hindered panel.hapticReading.result stored reason) :
      Outcome panel prefs events
        { panel with host := panel.hapticReading.host, dependentsEnabled := dozing } stored
        (some reason)
  | both (dozing on : Bool) (stored last : P)
      (ambient : HostSwitch.ambient.Mirrored panel.dozeReading.result prefs dozing stored)
      (haptic : HostSwitch.haptic.Mirrored panel.hapticReading.result stored on last) :
      Outcome panel prefs events
        { panel with host := panel.hapticReading.host, dependentsEnabled := dozing } last none

variable {panel after : Panel S} {prefs last : P} {events : List Event} {failure : Option Failure}

theorem resumes (panel : Panel S) (prefs : P) :
    Resumes panel prefs (panel.resume prefs).value.1.1 (panel.resume prefs).value.1.2
      (panel.resume prefs).value.2 (panel.resume prefs).events := by
  obtain ⟨after, last, failure, events, answer, resumes⟩ := panel.exists_resumes prefs
  rw [answer]
  exact resumes

theorem Resumes.outcome (resumes : Resumes panel prefs after last failure events) :
    Outcome panel prefs events after last failure := by
  cases resumes with
  | stopped middle stored failure events first =>
    have untried := first.untried_of_ne HostSwitch.ambient_ne_haptic.symm
    cases first with
    | unread failure failed => exact .untouched failure (.unread failed) untried
    | refused value read failure kept =>
      exact .untouched failure (.refused value read kept) untried
  | finished middle after stored last failure events later doze haptic first second =>
    cases first with
    | mirrored value read stored taken =>
      have ambient := HostSwitch.Mirrored.intro value read stored taken
      cases second with
      | unread failure failed => exact .ambientOnly _ _ failure ambient (.unread failed)
      | refused on told failure kept =>
        exact .ambientOnly _ _ failure ambient (.refused on told kept)
      | mirrored on told last done => exact .both _ _ _ last ambient (.intro on told last done)

theorem Outcome.eq_of_mirrored (outcome : Outcome panel prefs events after last failure)
    {dozing on : Bool} {stored final : P}
    (ambient : HostSwitch.ambient.Mirrored panel.dozeReading.result prefs dozing stored)
    (haptic : HostSwitch.haptic.Mirrored panel.hapticReading.result stored on final) :
    failure = none ∧ last = final ∧
      after = { panel with host := panel.hapticReading.host, dependentsEnabled := dozing } := by
  cases outcome with
  | untouched reason hindered => exact absurd hindered (ambient.not_hindered reason)
  | ambientOnly other middle reason taken hindered =>
    obtain ⟨-, rfl⟩ := ambient.unique taken
    exact absurd hindered (haptic.not_hindered reason)
  | both other again middle last taken takenToo =>
    obtain ⟨rfl, rfl⟩ := ambient.unique taken
    obtain ⟨-, rfl⟩ := haptic.unique takenToo
    exact ⟨rfl, rfl, rfl⟩

theorem Outcome.failure_eq_none_iff (outcome : Outcome panel prefs events after last failure) :
    failure = none ↔ ∃ (dozing on : Bool) (stored final : P),
      HostSwitch.ambient.Mirrored panel.dozeReading.result prefs dozing stored ∧
        HostSwitch.haptic.Mirrored panel.hapticReading.result stored on final := by
  constructor
  · rintro rfl
    cases outcome with
    | both dozing on stored last ambient haptic => exact ⟨dozing, on, stored, last, ambient, haptic⟩
  · rintro ⟨dozing, on, stored, final, ambient, haptic⟩
    exact (outcome.eq_of_mirrored ambient haptic).1

/-- A failure is the one of the first step that fails. -/
theorem Outcome.failure_eq_some_iff (outcome : Outcome panel prefs events after last failure)
    (reason : Failure) :
    failure = some reason ↔
      HostSwitch.ambient.Hindered panel.dozeReading.result prefs reason ∨
        ∃ (dozing : Bool) (stored : P),
          HostSwitch.ambient.Mirrored panel.dozeReading.result prefs dozing stored ∧
            HostSwitch.haptic.Hindered panel.hapticReading.result stored reason := by
  constructor
  · rintro rfl
    cases outcome with
    | untouched reason ambient => exact .inl ambient
    | ambientOnly dozing stored reason ambient haptic =>
      exact .inr ⟨dozing, _, ambient, haptic⟩
  · rintro (hindered | ⟨dozing, stored, mirrored, hindered⟩)
    · cases outcome with
      | untouched other ambient => rw [ambient.unique hindered]
      | ambientOnly _ _ _ ambient | both _ _ _ _ ambient =>
        exact absurd hindered (ambient.not_hindered reason)
    · cases outcome with
      | untouched other ambient => exact absurd ambient (mirrored.not_hindered other)
      | ambientOnly dozingToo storedToo other ambient haptic =>
        obtain ⟨-, rfl⟩ := ambient.unique mirrored
        rw [haptic.unique hindered]
      | both dozingToo on storedToo last ambient haptic =>
        obtain ⟨-, rfl⟩ := ambient.unique mirrored
        exact absurd hindered (haptic.not_hindered reason)

end Outcomes

section Switches

variable {P S : Type} [LawfulPreferenceStore P] [HostSettings S] {panel after : Panel S}
  {prefs last : P} {events : List Event} {failure : Option Failure}

/-- The ambient switch and the flag of its dependents are set to one value, or nothing is. -/
theorem Outcome.ambient (outcome : Outcome panel prefs events after last failure) :
    (∃ (dozing : Bool) (stored : P),
        HostSwitch.ambient.Mirrored panel.dozeReading.result prefs dozing stored ∧
          get? last Key.ambient = some dozing ∧ after.dependentsEnabled = dozing) ∨
      (¬ ∃ (dozing : Bool) (stored : P),
          HostSwitch.ambient.Mirrored panel.dozeReading.result prefs dozing stored) ∧
        after.dependentsEnabled = panel.dependentsEnabled ∧ last = prefs ∧
        HostSwitch.haptic.Untried events := by
  cases outcome with
  | untouched reason hindered untried =>
    refine .inr ⟨?_, rfl, rfl, untried⟩
    rintro ⟨dozing, stored, mirrored⟩
    exact mirrored.not_hindered reason hindered
  | ambientOnly dozing stored reason ambient =>
    exact .inl ⟨dozing, _, ambient, ambient.get?_self, rfl⟩
  | both dozing on stored last ambient haptic =>
    have kept := haptic.get?_of_ne Key.ambient (by decide)
    exact .inl ⟨dozing, stored, ambient, kept.trans ambient.get?_self, rfl⟩

theorem Outcome.haptic_of_failure (outcome : Outcome panel prefs events after last failure)
    (failed : failure ≠ none) : get? last Key.haptic = get? prefs Key.haptic := by
  cases outcome with
  | untouched => rfl
  | ambientOnly dozing stored reason ambient => exact ambient.get?_of_ne Key.haptic (by decide)
  | both => exact absurd rfl failed

theorem Outcome.get?_of_ne (outcome : Outcome panel prefs events after last failure)
    (key : String) (notAmbient : key ≠ Key.ambient) (notHaptic : key ≠ Key.haptic) :
    get? last key = get? prefs key := by
  cases outcome with
  | untouched => rfl
  | ambientOnly dozing stored reason ambient => exact ambient.get?_of_ne key notAmbient
  | both dozing on stored last ambient haptic =>
    rw [haptic.get?_of_ne key notHaptic, ambient.get?_of_ne key notAmbient]

/-- After a success the switches are set again to what they are, given the same answers and a
store that takes what it holds. -/
theorem Outcome.repeated (outcome : Outcome panel prefs events after last none)
    {afterAgain : Panel S} {lastAgain : P} {eventsAgain : List Event}
    {failureAgain : Option Failure}
    (again : Outcome after last eventsAgain afterAgain lastAgain failureAgain)
    (sameDoze : after.dozeReading.result = panel.dozeReading.result)
    (sameHaptic : after.hapticReading.result = panel.hapticReading.result) {middle final : P}
    (ambientAgain : put last Key.ambient (isOn last Key.ambient) = .ok middle)
    (hapticAgain : put middle Key.haptic (isOn last Key.haptic) = .ok final) :
    failureAgain = none ∧ lastAgain = final ∧
      afterAgain = { after with host := after.hapticReading.host } ∧
      (∀ key : String, get? final key = get? last key) ∧ (Settled P → final = last) := by
  cases outcome with
  | both dozing on stored last ambient haptic =>
    have dozes : get? last Key.ambient = some dozing :=
      (haptic.get?_of_ne Key.ambient (by decide)).trans ambient.get?_self
    rw [isOn_of_get? last Key.ambient dozing dozes] at ambientAgain
    rw [isOn_of_get? last Key.haptic on haptic.get?_self] at hapticAgain
    have first := ambient.again ambientAgain
    have second := haptic.again hapticAgain
    rw [← sameDoze] at first
    rw [← sameHaptic] at second
    obtain ⟨done, same, panels⟩ := again.eq_of_mirrored first second
    refine ⟨done, same, panels, ?_, ?_⟩
    · intro key
      by_cases isHaptic : key = Key.haptic
      · rw [isHaptic]
        exact second.get?_self.trans haptic.get?_self.symm
      rw [second.get?_of_ne key isHaptic]
      by_cases isAmbient : key = Key.ambient
      · rw [isAmbient]
        exact first.get?_self.trans dozes.symm
      · exact first.get?_of_ne key isAmbient
    · intro settled
      have ambientHeld : put last Key.ambient dozing = .ok last :=
        settled.put_again_of_ne stored last Key.ambient Key.haptic dozing on
          (settled.put_again prefs stored Key.ambient dozing ambient.taken) (by decide)
          haptic.taken
      have hapticHeld : put last Key.haptic on = .ok last :=
        settled.put_again stored last Key.haptic on haptic.taken
      cases ambientAgain.symm.trans ambientHeld
      exact Except.ok.inj (hapticAgain.symm.trans hapticHeld)

end Switches

/-- The ambient switch and the flag of its dependents both take the value of the doze setting,
or the flag and the whole store stay and the haptic switch is not tried.  The haptic switch
is stored only behind an accepted ambient one, and it changes only when both are set, to the
value of its own setting.  The failure is the one of the first step that fails, and there is
none exactly when all four succeed.  Nothing else is stored, no update is asked for and no
setting is written.  Only a zero is off: a setting that is absent, or that a command prints
as anything but an integer, is on.  After a success, a host that gives the same answers and a
store that takes what it holds already are left as they are by another resumption. -/
theorem resume_all_or_nothing {P S : Type} [LawfulPreferenceStore P] [HostSettings S]
    (panel : Panel S) (prefs : P) :
    let doze := HostSettings.get panel.host ⟨.secure, "doze_enabled"⟩
    let haptic := HostSettings.get doze.host ⟨.system, "touchscreen_gesture_haptic_feedback"⟩
    let setsAmbient := HostSwitch.ambient.Mirrored doze.result prefs
    let setsHaptic := HostSwitch.haptic.Mirrored haptic.result
    let resumed := panel.resume prefs
    let after := resumed.value.1.1
    let last := resumed.value.1.2
    let failure := resumed.value.2
    ((∃ (dozing : Bool) (stored : P), setsAmbient dozing stored ∧
          get? last Key.ambient = some dozing ∧ after.dependentsEnabled = dozing) ∨
        (¬ ∃ (dozing : Bool) (stored : P), setsAmbient dozing stored) ∧
          after.dependentsEnabled = panel.dependentsEnabled ∧ last = prefs ∧
          HostSwitch.haptic.Untried resumed.events) ∧
      (∀ (before later : List Event) (on : Bool) (refusal : Option Failure),
        resumed.events = before ++ .store Key.haptic on refusal :: later →
          ∃ dozing : Bool, .store Key.ambient dozing none ∈ before) ∧
      (failure ≠ none → get? last Key.haptic = get? prefs Key.haptic) ∧
      (∀ (dozing on : Bool) (stored final : P), setsAmbient dozing stored →
        setsHaptic stored on final → last = final ∧ get? last Key.haptic = some on) ∧
      (failure = none ↔ ∃ (dozing on : Bool) (stored final : P),
        setsAmbient dozing stored ∧ setsHaptic stored on final) ∧
      (∀ reason : Failure, failure = some reason ↔
        HostSwitch.ambient.Hindered doze.result prefs reason ∨
          ∃ (dozing : Bool) (stored : P), setsAmbient dozing stored ∧
            HostSwitch.haptic.Hindered haptic.result stored reason) ∧
      (∀ key : String, key ≠ Key.ambient → key ≠ Key.haptic →
        get? last key = get? prefs key) ∧
      after.update = panel.update ∧
      (after.host = doze.host ∨ after.host = haptic.host) ∧
      (∀ (setting : Setting) (value : Int32) (refusal : Option Failure),
        .write setting value refusal ∉ resumed.events) ∧
      (∀ value : Option Int32, Setting.isOnValue value = false ↔ value = some 0) ∧
      (∀ (command : SettingsCommand) (setting : Setting) (text : String),
        (command.run "get" [setting.scope.name, setting.key]).2 = .ok text →
          (HostSettings.get command setting).result =
            .ok (Text.Numeral.int32? (Text.trim text))) ∧
      ∀ middle final : P,
        let dozeAgain := HostSettings.get after.host ⟨.secure, "doze_enabled"⟩
        let hapticAgain :=
          HostSettings.get dozeAgain.host ⟨.system, "touchscreen_gesture_haptic_feedback"⟩
        failure = none → dozeAgain.result = doze.result → hapticAgain.result = haptic.result →
          put last Key.ambient (isOn last Key.ambient) = .ok middle →
          put middle Key.haptic (isOn last Key.haptic) = .ok final →
          (after.resume last).value = (({ after with host := hapticAgain.host }, final), none) ∧
            (∀ key : String, get? final key = get? last key) ∧ (Settled P → final = last) := by
  intro doze haptic setsAmbient setsHaptic resumed after last failure
  have resumes := panel.resumes prefs
  have outcome := resumes.outcome
  refine ⟨outcome.ambient, fun before later on refusal split =>
      resumes.ambient_before_haptic on refusal split, outcome.haptic_of_failure, ?_,
    outcome.failure_eq_none_iff, outcome.failure_eq_some_iff, outcome.get?_of_ne,
    resumes.resumed.update, ?_, resumes.not_write, Setting.isOnValue_eq_false_iff,
    SettingsCommand.result_get_of_ran, ?_⟩
  · intro dozing on stored final ambient haptic
    obtain ⟨-, same, -⟩ := outcome.eq_of_mirrored ambient haptic
    refine ⟨same, ?_⟩
    rw [show last = final from same]
    exact haptic.get?_self
  · rcases resumes.calls with ⟨-, host, -⟩ | ⟨-, host, -⟩
    · exact .inr host
    · exact .inl host
  · intro middle final dozeAgain hapticAgain succeeded sameDoze sameHaptic ambientTaken hapticTaken
    rw [show resumed.value.2 = none from succeeded] at outcome
    obtain ⟨done, same, panels, kept, settled⟩ := outcome.repeated (after.resumes last).outcome
      sameDoze sameHaptic ambientTaken hapticTaken
    exact ⟨Prod.ext (Prod.ext panels same) done, kept, settled⟩

/-- A host that does not doze, and has its haptic setting at five. -/
def wakeful : Panel SettingsTable :=
  ⟨⟨[(.doze, 0), (.haptic, 5)], .empty, .empty⟩, Debounce.idle (Span.ofMillis 500), true⟩

def bare (readOnly : KeySet) : PropertyPreferences :=
  ⟨"persist.", some ⟨[], readOnly⟩⟩

def hapticName : String := "persist.touchscreen_gesture_haptic_feedback"

/-- Everything is taken, once and again, and then again where the haptic switch is read-only. -/
theorem resume_all_or_nothing_wakeful :
    let free := wakeful.resume (bare .empty)
    let locked := wakeful.resume (bare (.these [hapticName]))
    (free.value.2 = none ∧ free.value.1.1.dependentsEnabled = false ∧
        get? free.value.1.2 Key.haptic = some true ∧
        (free.value.1.1.resume free.value.1.2).value.1.2 = free.value.1.2) ∧
      locked.value.2 = some (.property hapticName) ∧
        locked.value.1.1.dependentsEnabled = false ∧
        get? locked.value.1.2 Key.ambient = some false ∧
        get? locked.value.1.2 Key.haptic = none := by
  intro free locked
  have off (readOnly : KeySet) (stored : PropertyPreferences)
      (taken : put (bare readOnly) Key.ambient false = .ok stored) :
      HostSwitch.ambient.Mirrored (.ok (some 0)) (bare readOnly) false stored :=
    .intro (some 0) rfl stored taken
  have ambient (readOnly : KeySet) (stored : PropertyPreferences)
      (taken : put (bare readOnly) Key.ambient false = .ok stored) :
      (wakeful.resume (bare readOnly)).value.1.1.dependentsEnabled = false ∧
        get? (wakeful.resume (bare readOnly)).value.1.2 Key.ambient = some false := by
    rcases (resume_all_or_nothing wakeful (bare readOnly)).1 with
      ⟨dozing, other, mirrored, reads, flag⟩ | ⟨unable, -⟩
    · obtain ⟨rfl, -⟩ := mirrored.unique (off readOnly stored taken)
      exact ⟨flag, reads⟩
    · exact absurd ⟨false, stored, off readOnly stored taken⟩ unable
  constructor
  · obtain ⟨-, -, -, haptic, succeeded, -, -, -, -, -, -, -, again⟩ :=
      resume_all_or_nothing wakeful (bare .empty)
    obtain ⟨stored, taken⟩ : ∃ stored, put (bare .empty) Key.ambient false = .ok stored :=
      ⟨_, rfl⟩
    obtain ⟨final, takenToo⟩ : ∃ final, put stored Key.haptic true = .ok final := by
      cases taken
      exact ⟨_, rfl⟩
    have first := off .empty stored taken
    have second : HostSwitch.haptic.Mirrored (.ok (some 5)) stored true final :=
      .intro (some 5) rfl final takenToo
    have done := succeeded.mpr ⟨false, true, stored, final, first, second⟩
    obtain ⟨last, reads⟩ := haptic false true stored final first second
    obtain ⟨middle, rest, ambientAgain, hapticAgain⟩ : ∃ middle rest,
        put free.value.1.2 Key.ambient false = .ok middle ∧
          put middle Key.haptic true = .ok rest := by
      rw [show free.value.1.2 = final from last]
      cases taken
      cases takenToo
      exact ⟨_, _, rfl, rfl⟩
    obtain ⟨same, -, settled⟩ := again middle rest done rfl rfl ambientAgain hapticAgain
    refine ⟨done, (ambient .empty stored taken).1, reads, ?_⟩
    rw [show (free.value.1.1.resume free.value.1.2).value = _ from same]
    exact settled PropertyPreferences.settled
  · obtain ⟨-, -, kept, -, -, failed, -⟩ :=
      resume_all_or_nothing wakeful (bare (.these [hapticName]))
    obtain ⟨stored, taken⟩ :
        ∃ stored, put (bare (.these [hapticName])) Key.ambient false = .ok stored := ⟨_, rfl⟩
    have refused : HostSwitch.haptic.Hindered (.ok (some 5)) stored (.property hapticName) := by
      cases taken
      exact .refused (some 5) rfl rfl
    have stopped := (failed (.property hapticName)).mpr
      (.inr ⟨false, stored, off _ stored taken, refused⟩)
    have unchanged := kept (by rw [stopped]; exact Option.some_ne_none _)
    exact ⟨stopped, (ambient _ stored taken).1, (ambient _ stored taken).2, unchanged.trans rfl⟩

end Panel

end GestureMode
