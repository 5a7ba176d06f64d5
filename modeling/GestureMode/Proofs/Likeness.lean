import GestureMode.Proofs.Course

/-!
# Stores that a service cannot tell apart

A service reads nine entries of its store only, those of the switches it watches, and puts no
others.  So it does the same over two stores that agree in these entries and go on agreeing,
with the same answers, whenever one of them is put.  A likeness of two kinds of stores says
which stores agree in this sense, and what the first of them may do without ending it.
-/

set_option autoImplicit false

namespace GestureMode

open PreferenceStore

structure StoreLikeness (P Q : Type) [PreferenceStore P] [PreferenceStore Q] where
  alike : P → Q → Prop
  /-- What may happen over the first store. -/
  permits : Event → Prop
  get?_eq : ∀ (prefs : P) (other : Q), alike prefs other →
    ∀ key ∈ Key.watched, get? other key = get? prefs key
  store_eq : ∀ (prefs : P) (other : Q), alike prefs other →
    ∀ key ∈ Key.watched, ∀ value : Bool,
      (∀ event ∈ (store prefs key value).events, permits event) →
        ∃ later : Q, alike (store prefs key value).value.1 later ∧
          store other key value =
            ⟨(later, (store prefs key value).value.2), (store prefs key value).events⟩

namespace StoreLikeness

variable {P Q : Type} [PreferenceStore P] [PreferenceStore Q] (likeness : StoreLikeness P Q)
  {prefs : P} {other : Q}

theorem isOn_eq (alike : likeness.alike prefs other) (key : String)
    (watched : key ∈ Key.watched) : isOn other key = isOn prefs key :=
  isOn_congr other prefs key (likeness.get?_eq prefs other alike key watched)

theorem load_eq (alike : likeness.alike prefs other) :
    Switches.load other = Switches.load prefs := by
  apply (load_eq_iff_reading other prefs).mpr
  apply reading_congr
  intro gesture
  exact likeness.get?_eq prefs other alike gesture.key (Key.gesture_mem_watched gesture)

theorem take_eq (alike : likeness.alike prefs other) :
    Snapshot.take Key.watched other = Snapshot.take Key.watched prefs := by
  apply List.map_congr_left
  intro key watched
  rw [likeness.isOn_eq alike key watched]

theorem poll_eq (alike : likeness.alike prefs other) (snapshot : Snapshot)
    (keys : snapshot.map Prod.fst = Key.watched) : snapshot.poll other = snapshot.poll prefs := by
  have changed : snapshot.changed other = snapshot.changed prefs := by
    rw [Snapshot.changed, Snapshot.changed]
    congr 1
    apply List.filter_congr
    intro entry member
    have watched : entry.1 ∈ Key.watched := by
      rw [← keys]
      exact List.mem_map_of_mem member
    rw [likeness.isOn_eq alike entry.1 watched]
  rw [Snapshot.poll, Snapshot.poll, changed, Snapshot.refresh, Snapshot.refresh, keys,
    likeness.take_eq alike]

theorem announce_eq {W : Type} (alike : likeness.alike prefs other) (keeper : Keeper W)
    (key : String) : keeper.announce other key = keeper.announce prefs key := by
  have same : keeper.switches.announce? other key = keeper.switches.announce? prefs key := by
    rw [Switches.announce?, Switches.announce?]
    cases Gesture.ofKey? key with
    | none => rfl
    | some gesture =>
      rw [Option.map_some, Option.map_some, Switches.refresh, Switches.refresh,
        likeness.isOn_eq alike gesture.key (Key.gesture_mem_watched gesture)]
  rw [Keeper.announce, Keeper.announce, same]

section Resuming

variable {S : Type} [HostSettings S]

theorem resumeHaptic_eq (alike : likeness.alike prefs other) (panel : Panel S) (doze : Bool)
    (permitted : ∀ event ∈ (panel.resumeHaptic prefs doze).events, likeness.permits event) :
    ∃ later : Q, likeness.alike (panel.resumeHaptic prefs doze).value.1.2 later ∧
      panel.resumeHaptic other doze =
        ⟨(((panel.resumeHaptic prefs doze).value.1.1, later),
            (panel.resumeHaptic prefs doze).value.2), (panel.resumeHaptic prefs doze).events⟩ := by
  rw [Panel.resumeHaptic] at permitted ⊢
  rw [Panel.resumeHaptic]
  rcases read : HostSettings.readFlag panel.host .haptic with ⟨⟨host, failure | haptic⟩, reads⟩
  · exact ⟨other, alike, rfl⟩
  · rw [read] at permitted
    obtain ⟨later, kept, stored⟩ := likeness.store_eq prefs other alike Key.haptic
      (HostSwitch.key_mem_watched .haptic) haptic fun event member =>
        permitted event (List.mem_append_right reads (List.mem_append_left _ member))
    simp only [Traced.mk_bind, stored]
    rcases written : store prefs Key.haptic haptic with ⟨⟨after, _ | failure⟩, stores⟩
    all_goals
      rw [written] at kept
      exact ⟨later, kept, rfl⟩

theorem resume_eq (alike : likeness.alike prefs other) (panel : Panel S)
    (permitted : ∀ event ∈ (panel.resume prefs).events, likeness.permits event) :
    ∃ later : Q, likeness.alike (panel.resume prefs).value.1.2 later ∧
      panel.resume other =
        ⟨(((panel.resume prefs).value.1.1, later), (panel.resume prefs).value.2),
          (panel.resume prefs).events⟩ := by
  rw [Panel.resume] at permitted ⊢
  rw [Panel.resume]
  rcases read : HostSettings.readFlag panel.host .doze with ⟨⟨host, failure | doze⟩, reads⟩
  · exact ⟨other, alike, rfl⟩
  · rw [read] at permitted
    obtain ⟨middle, kept, stored⟩ := likeness.store_eq prefs other alike Key.ambient
      (HostSwitch.key_mem_watched .ambient) doze fun event member =>
        permitted event (List.mem_append_right reads (List.mem_append_left _ member))
    simp only [Traced.mk_bind, stored] at permitted ⊢
    rcases first : store prefs Key.ambient doze with ⟨⟨after, _ | failure⟩, stores⟩
    · rw [first] at permitted kept
      obtain ⟨later, keptLater, haptic⟩ := likeness.resumeHaptic_eq kept
        { panel with host, dependentsEnabled := doze } doze fun event member =>
          permitted event (List.mem_append_right reads (List.mem_append_right stores member))
      refine ⟨later, keptLater, ?_⟩
      simp only [Traced.mk_bind, haptic]
    · rw [first] at kept
      exact ⟨middle, kept, rfl⟩

end Resuming

end StoreLikeness

namespace Service

def withStore {P Q W S : Type} (service : Service P W S) (other : Q) : Service Q W S :=
  ⟨other, service.keeper, service.panel, service.snapshot⟩

end Service

namespace StoreLikeness

variable {P Q W S : Type} [PreferenceStore P] [PreferenceStore Q] (likeness : StoreLikeness P Q)

theorem restore_eq (service : Service P W S) (other : Q)
    (alike : likeness.alike service.prefs other) (key : String) (watched : key ∈ Key.watched)
    (value : Bool) (permitted : ∀ event ∈ (service.restore key value).events,
      likeness.permits event) :
    ∃ later : Q, likeness.alike (service.restore key value).value.prefs later ∧
      (service.withStore other).restore key value =
        ⟨(service.restore key value).value.withStore later,
          (service.restore key value).events⟩ := by
  obtain ⟨later, kept, stored⟩ := likeness.store_eq service.prefs other alike key watched value
    fun event member => permitted event (List.mem_append_left _ member)
  rw [Service.restore, Service.restore]
  rcases written : store service.prefs key value with ⟨⟨after, _ | failure⟩, events⟩
  all_goals
    rw [written] at kept stored
    refine ⟨later, kept, ?_⟩
    change (store other key value >>= _) = _
    rw [stored]
    rfl

variable [HostSettings S]

theorem handle_eq (service after : Service P W S) (other : Q)
    (alike : likeness.alike service.prefs other) (now : Instant) (key : String)
    (watched : key ∈ Key.watched) (fault : Option Fault) (events : List Event)
    (handled : service.handle now key = ⟨(after, fault), events⟩)
    (permitted : ∀ event ∈ events, likeness.permits event) :
    ∃ later : Q, likeness.alike after.prefs later ∧
      (service.withStore other).handle now key = ⟨(after.withStore later, fault), events⟩ := by
  have reads : isOn (service.withStore other).prefs key = isOn service.prefs key :=
    likeness.isOn_eq alike key watched
  have informed (panel : Panel S) : (service.withStore other).informed key panel =
      (service.informed key panel).withStore other := by
    rw [Service.informed, Service.withStore, likeness.announce_eq alike service.keeper key]
    rfl
  rcases changed : service.panel.change key (isOn service.prefs key) now with
    ⟨⟨panel, verdict⟩, changes⟩
  have otherwise : (service.withStore other).panel.change key
      (isOn (service.withStore other).prefs key) now = ⟨(panel, verdict), changes⟩ := by
    rw [reads]
    exact changed
  cases verdict with
  | accepted =>
    rw [Service.handle_of_accepted service now key panel changes changed] at handled
    cases handled
    refine ⟨other, alike, ?_⟩
    rw [Service.handle_of_accepted _ now key panel changes otherwise, informed, reads]
  | vetoed =>
    rw [Service.handle_of_vetoed service now key panel changes changed] at handled
    cases handled
    obtain ⟨later, kept, restored⟩ := likeness.restore_eq (service.informed key panel) other alike
      key watched (!isOn service.prefs key) fun event member =>
        permitted event (List.mem_cons_of_mem _ (List.mem_append_right changes member))
    refine ⟨later, kept, ?_⟩
    rw [Service.handle_of_vetoed _ now key panel changes otherwise, informed, reads, restored]
  | stopped stop =>
    rw [Service.handle_of_stopped service now key panel stop changes changed] at handled
    cases handled
    refine ⟨other, alike, ?_⟩
    rw [Service.handle_of_stopped _ now key panel stop changes otherwise, informed, reads]

theorem handleAll_eq (now : Instant) (keys : List String) (service after : Service P W S)
    (other : Q) (alike : likeness.alike service.prefs other)
    (watched : ∀ key ∈ keys, key ∈ Key.watched) (fault : Option Fault) (events : List Event)
    (handled : Service.handleAll now keys service = ⟨(after, fault), events⟩)
    (permitted : ∀ event ∈ events, likeness.permits event) :
    ∃ later : Q, likeness.alike after.prefs later ∧
      Service.handleAll now keys (service.withStore other) =
        ⟨(after.withStore later, fault), events⟩ := by
  induction keys generalizing service other events with
  | nil =>
    cases handled
    exact ⟨other, alike, rfl⟩
  | cons key rest ih =>
    rcases head : service.handle now key with ⟨⟨middle, _ | stop⟩, first⟩
    · rcases tail : Service.handleAll now rest middle with ⟨⟨last, ended⟩, second⟩
      rw [Service.handleAll_cons_completed now key rest service middle first head, tail] at handled
      cases handled
      obtain ⟨between, kept, otherwise⟩ := likeness.handle_eq service middle other alike now key
        (watched key List.mem_cons_self) none first head fun event member =>
          permitted event (List.mem_append_left _ member)
      obtain ⟨later, keptLater, others⟩ := ih middle between kept
        (fun next member => watched next (List.mem_cons_of_mem key member)) second tail
        fun event member => permitted event (List.mem_append_right first member)
      refine ⟨later, keptLater, ?_⟩
      rw [Service.handleAll_cons_completed now key rest _ _ first otherwise, others]
    · rw [Service.handleAll_cons_stopped now key rest service middle stop first head] at handled
      cases handled
      obtain ⟨later, kept, otherwise⟩ := likeness.handle_eq service after other alike now key
        (watched key List.mem_cons_self) (some stop) events head permitted
      exact ⟨later, kept, Service.handleAll_cons_stopped now key rest _ _ stop events otherwise⟩

variable [LineSink W]

theorem tick_eq (service : Service P W S) (other : Q)
    (alike : likeness.alike service.prefs other)
    (keys : service.snapshot.map Prod.fst = Key.watched) (now : Instant)
    (permitted : ∀ event ∈ (service.tick now).events, likeness.permits event) :
    ∃ later : Q, likeness.alike (service.tick now).value.1.prefs later ∧
      (service.withStore other).tick now =
        ⟨((service.tick now).value.1.withStore later, (service.tick now).value.2),
          (service.tick now).events⟩ := by
  rcases polled : service.snapshot.poll service.prefs with ⟨snapshot, changed⟩
  have polledOtherwise : (service.withStore other).snapshot.poll (service.withStore other).prefs =
      (snapshot, changed) := (likeness.poll_eq alike service.snapshot keys).trans polled
  have watched : ∀ key ∈ changed, key ∈ Key.watched := by
    intro key member
    have reported : key ∈ service.snapshot.changed service.prefs := by
      rw [show service.snapshot.changed service.prefs = changed from congrArg Prod.snd polled]
      exact member
    obtain ⟨entry, listed, rfl⟩ := List.mem_map.mp reported
    rw [← keys]
    exact List.mem_map_of_mem (List.mem_filter.mp listed).1
  rcases handled : Service.handleAll now changed { service with snapshot } with
    ⟨⟨after, _ | fault⟩, events⟩
  · rw [Service.tick_of_completed service after now snapshot changed events polled handled]
      at permitted ⊢
    obtain ⟨later, kept, otherwise⟩ := likeness.handleAll_eq now changed { service with snapshot }
      after other alike watched none events handled fun event member =>
        permitted event (List.mem_append_left _ member)
    refine ⟨later, ?_, ?_⟩
    · rw [Service.prefs_settle]
      exact kept
    · rw [Service.tick_of_completed _ _ now snapshot changed events polledOtherwise otherwise,
        Service.settle_eq, Service.settle_eq]
      rfl
  · rw [Service.tick_of_stopped service after now snapshot changed fault events polled handled]
      at permitted ⊢
    obtain ⟨later, kept, otherwise⟩ := likeness.handleAll_eq now changed { service with snapshot }
      after other alike watched (some fault) events handled permitted
    exact ⟨later, kept, Service.tick_of_stopped _ _ now snapshot changed fault events
      polledOtherwise otherwise⟩

theorem start_eq (prefs : P) (other : Q) (alike : likeness.alike prefs other) (sink : W)
    (host : S) (debounce : Span)
    (permitted : ∀ event ∈ (Service.start prefs sink host debounce).events,
      likeness.permits event) :
    ∃ later : Q, likeness.alike (Service.start prefs sink host debounce).value.prefs later ∧
      Service.start other sink host debounce =
        ⟨(Service.start prefs sink host debounce).value.withStore later,
          (Service.start prefs sink host debounce).events⟩ := by
  rcases answer : (Panel.ofHost host debounce).resume prefs with ⟨⟨⟨panel, last⟩, failure⟩, events⟩
  have started := Service.start_eq prefs last sink host debounce panel failure events answer
  dsimp only at started
  rw [started] at permitted ⊢
  obtain ⟨later, kept, otherwise⟩ := likeness.resume_eq alike (Panel.ofHost host debounce)
    fun event member => permitted event (List.mem_append_left _ (by rwa [answer] at member))
  rw [answer] at kept otherwise
  have startedOtherwise := Service.start_eq other later sink host debounce panel failure events
    otherwise
  dsimp only at startedOtherwise
  rw [startedOtherwise, likeness.load_eq kept, likeness.take_eq kept]
  exact ⟨later, kept, rfl⟩

end StoreLikeness

end GestureMode
