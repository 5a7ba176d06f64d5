import GestureMode.Proofs.Footprint
import GestureMode.Proofs.Likeness
import GestureMode.Proofs.Polling
import Mathlib.Data.List.Forall2

/-!
# The debug switch only shows more

One property decides whether the logger shows debug entries, and nothing else depends on it.
It configures no other field, and no preference goes by its name.  So two runs whose
properties differ in it alone sleep, write, call and end alike, tick by tick; the properties
go on differing in it alone; and whatever is more urgent than debug is logged in both.
-/

set_option autoImplicit false

namespace GestureMode

open PreferenceStore

namespace Properties

/-- The same properties, unless for the entry of one name. -/
structure SameApart (name : String) (one other : Properties) : Prop where
  readOnly : other.readOnly? = one.readOnly?
  entries : ∀ key : String, key ≠ name → other.entry? key = one.entry? key

variable {name : String} {one other : Properties}

theorem SameApart.tables (same : one.SameApart name other) :
    (one = none ∧ other = none) ∨
      ∃ table otherTable : PropertyTable, one = some table ∧ other = some otherTable ∧
        otherTable.readOnly = table.readOnly := by
  obtain ⟨readOnly, -⟩ := same
  rcases one with _ | table <;> rcases other with _ | otherTable
  · exact .inl ⟨rfl, rfl⟩
  · cases readOnly
  · cases readOnly
  · injection readOnly with readOnly
    exact .inr ⟨table, otherTable, rfl, rfl, readOnly⟩

theorem SameApart.get?_eq (same : one.SameApart name other) (key : String)
    (different : key ≠ name) : other.get? key = one.get? key := by
  rw [get?_eq_textOf?, get?_eq_textOf?, same.entries key different]

theorem SameApart.stored (same : one.SameApart name other) (key value : String)
    (after later : Properties) (accepted : one.put key value = .ok after)
    (otherAccepted : other.put key value = .ok later) : after.SameApart name later where
  readOnly := by
    rw [readOnly?_put other later key value otherAccepted, same.readOnly,
      readOnly?_put one after key value accepted]
  entries otherKey different := by
    by_cases equal : otherKey = key
    · rw [equal, entry?_put_self other later key value otherAccepted,
        entry?_put_self one after key value accepted]
    · rw [entry?_put_of_ne other later key otherKey value otherAccepted equal,
        same.entries otherKey different,
        entry?_put_of_ne one after key otherKey value accepted equal]

theorem SameApart.put (same : one.SameApart name other) (key value : String) :
    (∃ failure : Failure,
        one.put key value = .error failure ∧ other.put key value = .error failure) ∨
      ∃ after later : Properties, one.put key value = .ok after ∧ other.put key value = .ok later ∧
        after.SameApart name later := by
  rcases same.tables with ⟨rfl, rfl⟩ | ⟨table, otherTable, rfl, rfl, readOnly⟩
  · exact .inl ⟨.property key, rfl, rfl⟩
  · have refuses : otherTable.refuses key value = table.refuses key value := by
      rw [PropertyTable.refuses, PropertyTable.refuses, readOnly]
    cases refused : table.refuses key value with
    | true =>
      exact .inl ⟨.property key, put_of_refuses table key value refused,
        put_of_refuses otherTable key value (refuses.trans refused)⟩
    | false =>
      have accepted := put_of_not_refuses table key value refused
      have otherAccepted := put_of_not_refuses otherTable key value (refuses.trans refused)
      exact .inr ⟨_, _, accepted, otherAccepted, same.stored key value _ _ accepted otherAccepted⟩

/-- The same change from outside, be it to the name itself. -/
theorem SameApart.apply (same : one.SameApart name other) (change : PropertyEdit) :
    (change.apply one).SameApart name (change.apply other) := by
  rcases same.tables with ⟨rfl, rfl⟩ | ⟨table, otherTable, rfl, rfl, readOnly⟩
  · cases change <;> exact ⟨rfl, fun _ _ => rfl⟩
  · cases change with
    | restrict readOnly => exact ⟨rfl, same.entries⟩
    | entry edited value =>
      refine ⟨congrArg some readOnly, ?_⟩
      intro key different
      change Properties.entry? (Properties.edit (some otherTable) edited value) key =
        Properties.entry? (Properties.edit (some table) edited value) key
      rw [entry?_edit, entry?_edit, same.entries key different]
      rfl

end Properties

/-- No field but the debug switch is configured by its property. -/
theorem Config.ofProperties_eq_of_sameApart (one other : Properties)
    (same : one.SameApart debugProperty other) :
    ofProperties other = { ofProperties one with debug := (ofProperties other).debug } := by
  have node := same.get?_eq nodeProperty (by decide)
  have debounce := same.get?_eq debounceProperty (by decide)
  have poll := same.get?_eq pollProperty (by decide)
  rw [ofProperties, ofProperties, ofLookup, ofLookup, node, debounce, poll]

/-- The name of the debug switch starts like that of a preference, of none that is watched. -/
theorem Config.stem_append_ne_debugProperty :
    ∀ key ∈ Key.watched, defaultStem ++ key ≠ debugProperty := by
  decide

structure PropertyPreferences.SameApartFromDebug (one other : PropertyPreferences) : Prop where
  stem : one.stem = Config.defaultStem
  otherStem : other.stem = Config.defaultStem
  properties : one.properties.SameApart Config.debugProperty other.properties

theorem PropertyPreferences.SameApartFromDebug.store {one other : PropertyPreferences}
    (same : one.SameApartFromDebug other) (key : String) (value : Bool) :
    ∃ later : PropertyPreferences,
      (PreferenceStore.store one key value).value.1.SameApartFromDebug later ∧
        PreferenceStore.store other key value =
          ⟨(later, (PreferenceStore.store one key value).value.2),
            (PreferenceStore.store one key value).events⟩ := by
  have name : other.propertyName key = one.propertyName key := by
    rw [propertyName, propertyName, same.otherStem, same.stem]
  rcases same.properties.put (one.propertyName key) (boolText value) with
    ⟨failure, refused, otherRefused⟩ | ⟨after, later, accepted, otherAccepted, kept⟩
  · have denied : PreferenceStore.put one key value = .error failure := by
      change PropertyPreferences.put one key value = _
      rw [put, refused]
      rfl
    have otherDenied : PreferenceStore.put other key value = .error failure := by
      change PropertyPreferences.put other key value = _
      rw [put, name, otherRefused]
      rfl
    rw [store_of_error one failure key value denied,
      store_of_error other failure key value otherDenied]
    exact ⟨other, same, rfl⟩
  · have taken : PreferenceStore.put one key value = .ok { one with properties := after } :=
      (one.put_eq_ok_iff _ key value).mpr ⟨after, accepted, rfl⟩
    have otherTaken :
        PreferenceStore.put other key value = .ok { other with properties := later } :=
      (other.put_eq_ok_iff _ key value).mpr ⟨later, by rw [name, otherAccepted], rfl⟩
    rw [store_of_ok one _ key value taken, store_of_ok other _ key value otherTaken]
    exact ⟨{ other with properties := later }, ⟨same.stem, same.otherStem, kept⟩, rfl⟩

def debugLikeness : StoreLikeness PropertyPreferences PropertyPreferences where
  alike := PropertyPreferences.SameApartFromDebug
  permits _ := True
  get?_eq one other same key watched := by
    have name := Config.stem_append_ne_debugProperty key watched
    change (other.properties.get? (other.stem ++ key)).bind parseBool? =
      (one.properties.get? (one.stem ++ key)).bind parseBool?
    rw [same.otherStem, same.stem, same.properties.get?_eq _ name]
  store_eq _ _ same key _ value _ := same.store key value

/-! ## Daemons side by side -/

namespace Daemon

/-- The same daemon, unless for the debug property; it watches the switches. -/
structure SameApartFromDebug (one other : Daemon) : Prop where
  prefs : one.service.prefs.SameApartFromDebug other.service.prefs
  service : other.service = one.service.withStore other.service.prefs
  clock : other.clock = one.clock
  poll : other.poll = one.poll
  watched : one.service.snapshot.map Prod.fst = Key.watched

variable {one other : Daemon}

theorem SameApartFromDebug.tick (same : one.SameApartFromDebug other) :
    one.tick.value.1.SameApartFromDebug other.tick.value.1 ∧
      other.tick.value.2 = one.tick.value.2 ∧ other.tick.events = one.tick.events := by
  obtain ⟨later, kept, ticked⟩ := debugLikeness.tick_eq one.service other.service.prefs same.prefs
    same.watched one.clock fun _ _ => trivial
  rw [← same.service, ← same.clock] at ticked
  have watched : (one.service.tick one.clock).value.1.snapshot.map Prod.fst = Key.watched := by
    rw [Service.snapshot_tick one.service one.clock same.watched, Snapshot.map_fst_take]
  rw [value_tick, value_tick, events_tick, events_tick, ticked, same.clock]
  exact ⟨⟨kept, rfl, rfl, same.poll, watched⟩, rfl, rfl⟩

theorem SameApartFromDebug.edit (same : one.SameApartFromDebug other) (change : OutsideChange) :
    (one.edit change).SameApartFromDebug (other.edit change) := by
  have service : (other.edit change).service =
      (one.edit change).service.withStore (other.edit change).service.prefs := by
    rw [Daemon.edit, Daemon.edit, same.service]
    rfl
  refine ⟨?_, service, same.clock, same.poll, same.watched⟩
  cases change with
  | property edited =>
    exact ⟨same.prefs.stem, same.prefs.otherStem, same.prefs.properties.apply edited⟩
  | files edited | script edited => exact same.prefs

theorem SameApartFromDebug.sleep (same : one.SameApartFromDebug other)
    (changes : List OutsideChange) :
    (one.sleep changes).SameApartFromDebug (other.sleep changes) := by
  have edited : (changes.foldl Daemon.edit one).SameApartFromDebug
      (changes.foldl Daemon.edit other) := by
    induction changes generalizing one other with
    | nil => exact same
    | cons change rest ih => exact ih (same.edit change)
  refine ⟨edited.prefs, edited.service, ?_, edited.poll, edited.watched⟩
  rw [Daemon.sleep, Daemon.sleep, same.clock, same.poll]

theorem SameApartFromDebug.opening (same : one.SameApartFromDebug other)
    (sleeps : List (List OutsideChange)) (n : Nat) :
    (opening one sleeps n).SameApartFromDebug (opening other sleeps n) := by
  induction n with
  | zero => exact same
  | succ n ih => exact ih.tick.1.sleep _

/-- What a daemon does outside the log is the same in the two. -/
structure SameOutside (one other : Daemon) : Prop where
  slept : other.poll = one.poll
  clock : other.clock = one.clock
  tree : other.tree = one.tree
  command : other.command = one.command
  properties : one.properties.SameApart Config.debugProperty other.properties

theorem SameApartFromDebug.outside (same : one.SameApartFromDebug other) :
    one.SameOutside other where
  slept := same.poll
  clock := same.clock
  tree := by
    rw [Daemon.tree, same.service]
    rfl
  command := by
    rw [Daemon.command, same.service]
    rfl
  properties := same.prefs.properties

theorem SameApartFromDebug.bind_tick {before later : Traced Daemon}
    (same : before.value.SameApartFromDebug later.value) (events : later.events = before.events) :
    (before >>= Daemon.tick).value.1.SameApartFromDebug (later >>= Daemon.tick).value.1 ∧
      (later >>= Daemon.tick).value.2 = (before >>= Daemon.tick).value.2 ∧
      (later >>= Daemon.tick).events = (before >>= Daemon.tick).events := by
  obtain ⟨kept, fault, ticked⟩ := same.tick
  refine ⟨kept, fault, ?_⟩
  rw [Traced.events_bind, Traced.events_bind, events, ticked]

/-- Side by side, they go through the same ticks and end alike. -/
theorem SameApartFromDebug.run (sleeps : List (List OutsideChange)) (before later : Traced Daemon)
    (same : before.value.SameApartFromDebug later.value) (events : later.events = before.events) :
    List.Forall₂ (fun ticked otherTicked : Traced Daemon =>
        ticked.value.SameApartFromDebug otherTicked.value ∧ otherTicked.events = ticked.events)
        (Daemon.run sleeps before).ticks (Daemon.run sleeps later).ticks ∧
      (Daemon.run sleeps later).fault = (Daemon.run sleeps before).fault ∧
      (Daemon.run sleeps before).last.SameApartFromDebug (Daemon.run sleeps later).last := by
  induction sleeps generalizing before later with
  | nil =>
    obtain ⟨kept, fault, ticked⟩ := bind_tick same events
    cases outcome : (before >>= Daemon.tick).value.2 with
    | some stop =>
      rw [run_of_fault [] before stop outcome, run_of_fault [] later stop (fault.trans outcome)]
      exact ⟨.nil, rfl, kept⟩
    | none =>
      simp only [Daemon.run, outcome, fault.trans outcome]
      exact ⟨.cons ⟨kept, ticked⟩ .nil, trivial, kept⟩
  | cons changes rest ih =>
    obtain ⟨kept, fault, ticked⟩ := bind_tick same events
    cases outcome : (before >>= Daemon.tick).value.2 with
    | some stop =>
      rw [run_of_fault _ before stop outcome, run_of_fault _ later stop (fault.trans outcome)]
      exact ⟨.nil, rfl, kept⟩
    | none =>
      simp only [Daemon.run, outcome, fault.trans outcome]
      obtain ⟨ticks, faults, last⟩ := ih
        (pure ((before >>= Daemon.tick).value.1.sleep changes))
        (pure ((later >>= Daemon.tick).value.1.sleep changes)) (kept.sleep changes) rfl
      exact ⟨.cons ⟨kept, ticked⟩ ticks, faults, last⟩

theorem sameApartFromDebug_launchAt (clock : Instant) (config : Config) (outside : Surroundings)
    (properties : Properties) (stem : config.stem = Config.defaultStem)
    (same : outside.properties.SameApart Config.debugProperty properties) :
    let launched := launchAt clock config outside
    let otherLaunched := launchAt clock config { outside with properties }
    launched.value.SameApartFromDebug otherLaunched.value ∧
      otherLaunched.events = launched.events := by
  intro launched otherLaunched
  let prefs : PropertyPreferences := ⟨config.stem, outside.properties⟩
  let node : DeviceNode := ⟨config.node, outside.tree⟩
  have alike : prefs.SameApartFromDebug ⟨config.stem, properties⟩ := ⟨stem, stem, same⟩
  obtain ⟨later, kept, started⟩ := debugLikeness.start_eq prefs ⟨config.stem, properties⟩ alike
    node outside.command config.debounce fun _ _ => trivial
  have watched : launched.value.service.snapshot.map Prod.fst = Key.watched := by
    have taken := (Service.started prefs node outside.command config.debounce).inStep.snapshot
    change (Service.start prefs node outside.command config.debounce).value.snapshot.map
      Prod.fst = _
    rw [taken, Snapshot.map_fst_take]
  have service : otherLaunched.value.service = launched.value.service.withStore later :=
    congrArg Traced.value started
  have prefsEq : otherLaunched.value.service.prefs = later := congrArg Service.prefs service
  refine ⟨⟨?_, ?_, rfl, rfl, watched⟩, ?_⟩
  · rw [prefsEq]
    exact kept
  · rw [prefsEq]
    exact service
  · have startEvents := congrArg Traced.events started
    simp only [launched, otherLaunched, launchAt, Traced.events_bind]
    rw [startEvents]
    rfl

end Daemon

/-! ## The program -/

namespace Event

/-- What a logger shows that is more urgent than a debug entry, from the priority of
information on. -/
def urgentRecords (threshold : Threshold) (events : List Event) : List Record :=
  (records threshold events).filter fun record => 4 ≤ record.priority

theorem urgentRecords_ofDebug (debug : Bool) (events : List Event) :
    urgentRecords (Threshold.ofDebug debug) events =
      urgentRecords (Threshold.ofDebug false) events := by
  cases debug with
  | false => rfl
  | true =>
    rw [urgentRecords, urgentRecords, records, records]
    induction entries events with
    | nil => rfl
    | cons entry rest ih =>
      obtain ⟨level, text⟩ := entry
      rw [List.filterMap_cons, List.filterMap_cons, Entry.record?, Entry.record?, Record.ofText?]
      cases Text.hasNul text <;> cases level <;>
        simpa [Threshold.ofDebug, Threshold.admits, Threshold.rank, Level.rank, Level.priority]
          using ih

end Event

/-- Two programs that start at the same time, with properties that differ at most in the debug
switch.  Whatever changes in the properties, in the files and in what the settings command
answers during the sleeps, as long as it is the same for both, they make the same ticks and end
alike: behind each tick they sleep as long, the tree, the settings command with its runs and all
properties but that one are the same, and so are the records from the priority of information
on, those of the launch and of a tick that stops among them. -/
theorem debug_switch_only_logs (clock : Instant) (outside : Surroundings)
    (properties : Properties)
    (same : outside.properties.SameApart "persist.sys.cmactions.debug" properties)
    (sleeps : List (List OutsideChange)) :
    let one := programAt clock outside
    let other := programAt clock { outside with properties }
    let run := Daemon.run sleeps one.2
    let otherRun := Daemon.run sleeps other.2
    List.Forall₂ (fun ticked otherTicked : Traced Daemon =>
        ticked.value.SameOutside otherTicked.value ∧
          Event.urgentRecords other.1 otherTicked.events =
            Event.urgentRecords one.1 ticked.events) run.ticks otherRun.ticks ∧
      otherRun.fault = run.fault ∧
      run.last.SameOutside otherRun.last ∧
      Event.urgentRecords other.1 other.2.events = Event.urgentRecords one.1 one.2.events ∧
      ∀ n : Nat,
        Event.urgentRecords other.1 (Daemon.opening other.2.value sleeps n).tick.events =
          Event.urgentRecords one.1 (Daemon.opening one.2.value sleeps n).tick.events := by
  intro one other run otherRun
  let config := Config.ofProperties outside.properties
  have launched : other.2 = Daemon.launchAt clock config { outside with properties } := by
    change Daemon.launchAt clock (Config.ofProperties properties) _ = _
    rw [Config.ofProperties_eq_of_sameApart outside.properties properties same]
    rfl
  have begun := Daemon.sameApartFromDebug_launchAt clock config outside properties rfl same
  have alike : one.2.value.SameApartFromDebug other.2.value := by
    rw [launched]
    exact begun.1
  have events : other.2.events = one.2.events := by
    rw [launched]
    exact begun.2
  have shown (a b : List Event) (equal : b = a) :
      Event.urgentRecords other.1 b = Event.urgentRecords one.1 a := by
    rw [equal]
    exact (Event.urgentRecords_ofDebug _ a).trans (Event.urgentRecords_ofDebug _ a).symm
  obtain ⟨ticks, fault, last⟩ := Daemon.SameApartFromDebug.run sleeps one.2 other.2 alike events
  refine ⟨ticks.imp ?_, fault, last.outside, shown _ _ events, ?_⟩
  · rintro ticked otherTicked ⟨kept, equal⟩
    exact ⟨kept.outside, shown _ _ equal⟩
  · intro n
    exact shown _ _ (alike.opening sleeps n).tick.2.2

/-! Gesture C is on, and turned off while the program sleeps; once with debug entries. -/

def debugged : Surroundings :=
  ⟨some ⟨[("persist.sys.cmactions.debug", [0x74, 0x72, 0x75, 0x65]),
      ("persist.sys.cmactions.touchscreen_gesture_c", [0x31])], .empty⟩,
    ⟨[], [], none⟩, ⟨none, []⟩⟩

def undebuggedProperties : Properties :=
  some ⟨[("persist.sys.cmactions.touchscreen_gesture_c", [0x31])], .empty⟩

theorem sameApart_debugged :
    debugged.properties.SameApart "persist.sys.cmactions.debug" undebuggedProperties where
  readOnly := rfl
  entries key different := by
    change _ = if "persist.sys.cmactions.debug" = key then _ else _
    rw [if_neg different.symm]
    rfl

theorem debug_switch_only_logs_debugged :
    let sleeps : List (List OutsideChange) :=
      [[.property (.entry "persist.sys.cmactions.touchscreen_gesture_c" none),
        .files fun _ => .ofFiles [] [] (some 0), .script fun _ => some []], []]
    let one := programAt .start debugged
    let other := programAt .start { debugged with properties := undebuggedProperties }
    debugged.properties.SameApart "persist.sys.cmactions.debug" undebuggedProperties ∧
      other.1 ≠ one.1 ∧
      (Daemon.run sleeps other.2).ticks.length = (Daemon.run sleeps one.2).ticks.length ∧
      (Daemon.run sleeps other.2).last.tree = (Daemon.run sleeps one.2).last.tree := by
  intro sleeps one other
  obtain ⟨ticks, -, last, -⟩ :=
    debug_switch_only_logs .start debugged undebuggedProperties sameApart_debugged sleeps
  exact ⟨sameApart_debugged, by decide, ticks.length_eq.symm, last.tree⟩

end GestureMode
