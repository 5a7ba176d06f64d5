import GestureMode.Proofs.Delivery
import GestureMode.Proofs.Likeness

/-!
# A store as held in memory

The service knows its store by nine entries only, those of the switches it watches.
As long as the store refuses it nothing, the service cannot tell it from a memory
that holds the same nine entries: start and ticks do the same over both, and the
entries stay the same.  Properties are one such store; the entry of a switch is the
truth value that its property spells, if it spells one.
-/

set_option autoImplicit false

namespace GestureMode

open PreferenceStore

section Holding

variable {P : Type} [PreferenceStore P]

/-- The memory has the entry that the store has, for every switch that is watched. -/
def Holds (memory : MemoryPreferences) (prefs : P) : Prop :=
  ∀ key ∈ Key.watched, memory.get? key = get? prefs key

end Holding

section Storing

variable {P : Type} [LawfulPreferenceStore P]

theorem Holds.put {memory : MemoryPreferences} {prefs after : P} (holds : Holds memory prefs)
    (key : String) (value : Bool) (stored : PreferenceStore.put prefs key value = .ok after) :
    Holds (memory.insert key value) after := by
  have inserted : PreferenceStore.put memory key value = .ok (memory.insert key value) := rfl
  intro other watched
  by_cases same : other = key
  · subst same
    exact (LawfulPreferenceStore.get?_put_self memory _ other value inserted).trans
      (LawfulPreferenceStore.get?_put_self prefs after other value stored).symm
  · have kept := LawfulPreferenceStore.get?_put_of_ne memory _ key other value inserted same
    rw [LawfulPreferenceStore.get?_put_of_ne prefs after key other value stored same]
    exact kept.trans (holds other watched)

theorem Holds.store {memory : MemoryPreferences} {prefs : P} (holds : Holds memory prefs)
    (key : String) (value : Bool)
    (taken : ∀ event ∈ (PreferenceStore.store prefs key value).events,
      event.isRefusedStore = false) :
    ∃ after : P, Holds (memory.insert key value) after ∧
      PreferenceStore.store prefs key value = ⟨(after, none), [.store key value none]⟩ ∧
      PreferenceStore.store memory key value =
        ⟨(memory.insert key value, none), [.store key value none]⟩ := by
  cases written : PreferenceStore.put prefs key value with
  | ok after =>
    exact ⟨after, holds.put key value written, store_of_ok prefs after key value written, rfl⟩
  | error failure =>
    have refused := store_of_error prefs failure key value written
    have impossible := taken (.store key value (some failure)) (by rw [refused]; simp)
    cases impossible

end Storing

def memoryLikeness (P : Type) [LawfulPreferenceStore P] : StoreLikeness P MemoryPreferences where
  alike prefs memory := Holds memory prefs
  permits event := event.isRefusedStore = false
  get?_eq _ _ holds := holds
  store_eq prefs memory holds key _ value taken := by
    obtain ⟨after, held, stored, inserted⟩ := holds.store key value taken
    rw [stored]
    exact ⟨memory.insert key value, held, inserted⟩

namespace Service

def inMemory {P W S : Type} (service : Service P W S) (memory : MemoryPreferences) :
    Service MemoryPreferences W S :=
  ⟨memory, service.keeper, service.panel, service.snapshot⟩

end Service

namespace Course

section Mirroring

variable {P W S : Type} [LawfulPreferenceStore P] [LineSink W] [HostSettings S]

/-- A course over a memory that starts out with the entries of the store and takes over
what changes outside.  In all else the two courses are the same. -/
structure MirroredBy (course : Course P W S) (mirror : Course MemoryPreferences W S) : Prop where
  prefs : Holds mirror.prefs course.prefs
  sink : mirror.sink = course.sink
  host : mirror.host = course.host
  debounce : mirror.debounce = course.debounce
  edits : ∀ n, Holds (mirror.after n).prefs (course.after n).prefs →
    Holds (mirror.opened n).prefs (course.opened n).prefs
  hostEdits : ∀ n, (mirror.turn n).editHost = (course.turn n).editHost
  sinkEdits : ∀ n, (mirror.turn n).editSink = (course.turn n).editSink
  times : ∀ n, (mirror.turn n).now = (course.turn n).now

theorem MirroredBy.start {course : Course P W S} {mirror : Course MemoryPreferences W S}
    (mirrored : course.MirroredBy mirror)
    (taken : ∀ event ∈ course.start.events, event.isRefusedStore = false) :
    Holds mirror.start.value.prefs course.start.value.prefs ∧
      mirror.start =
        ⟨course.start.value.inMemory mirror.start.value.prefs, course.start.events⟩ := by
  obtain ⟨later, held, inside⟩ := (memoryLikeness P).start_eq course.prefs mirror.prefs
    mirrored.prefs course.sink course.host course.debounce taken
  have started : mirror.start = ⟨course.start.value.inMemory later, course.start.events⟩ := by
    rw [Course.start, mirrored.sink, mirrored.host, mirrored.debounce]
    exact inside
  rw [started]
  exact ⟨held, rfl⟩

theorem MirroredBy.opened {course : Course P W S} {mirror : Course MemoryPreferences W S}
    (mirrored : course.MirroredBy mirror) (n : Nat)
    (same : mirror.after n = (course.after n).inMemory (mirror.after n).prefs) :
    mirror.opened n = (course.opened n).inMemory (mirror.opened n).prefs := by
  have hostEdit := mirrored.hostEdits n
  have sinkEdit := mirrored.sinkEdits n
  rw [Course.opened, same, Course.opened, Turn.change, Turn.change]
  simp only [Service.withPrefs, Service.withHost, Service.withSink, Service.inMemory, hostEdit,
    sinkEdit]

theorem MirroredBy.tick {course : Course P W S} {mirror : Course MemoryPreferences W S}
    (mirrored : course.MirroredBy mirror) (n : Nat)
    (holds : Holds (mirror.after n).prefs (course.after n).prefs)
    (same : mirror.after n = (course.after n).inMemory (mirror.after n).prefs)
    (taken : ∀ event ∈ (course.tick n).events, event.isRefusedStore = false) :
    Holds (mirror.after (n + 1)).prefs (course.after (n + 1)).prefs ∧
      mirror.tick n =
        ⟨((course.after (n + 1)).inMemory (mirror.after (n + 1)).prefs, (course.tick n).value.2),
          (course.tick n).events⟩ := by
  have keys : (course.opened n).snapshot.map Prod.fst = Key.watched := by
    have agreed : (course.opened n).snapshot = _ := course.snapshot_after n
    rw [agreed, Snapshot.take, List.map_map]
    exact List.map_id Key.watched
  obtain ⟨later, held, inside⟩ := (memoryLikeness P).tick_eq (course.opened n)
    (mirror.opened n).prefs (mirrored.edits n holds) keys (course.turn n).now taken
  have ticked : mirror.tick n =
      ⟨((course.tick n).value.1.inMemory later, (course.tick n).value.2),
        (course.tick n).events⟩ := by
    rw [Course.tick, mirrored.opened n same, mirrored.times n]
    exact inside
  have after : mirror.after (n + 1) = (course.after (n + 1)).inMemory later :=
    congrArg (fun answer => answer.value.1) ticked
  rw [after]
  exact ⟨held, ticked⟩

/-- As long as the store refuses nothing, it and the memory lead to the same state. -/
theorem MirroredBy.after {course : Course P W S} {mirror : Course MemoryPreferences W S}
    (mirrored : course.MirroredBy mirror) (n : Nat)
    (taken : ∀ m, m ≤ n → ∀ event ∈ course.events m, event.isRefusedStore = false) :
    Holds (mirror.after n).prefs (course.after n).prefs ∧
      mirror.after n = (course.after n).inMemory (mirror.after n).prefs := by
  induction n with
  | zero =>
    obtain ⟨holds, started⟩ := mirrored.start (taken 0 (Nat.le_refl 0))
    exact ⟨holds, congrArg Traced.value started⟩
  | succ n ih =>
    obtain ⟨holds, same⟩ := ih fun m upto => taken m (by omega)
    obtain ⟨holdsAfter, ticked⟩ :=
      mirrored.tick n holds same (taken (n + 1) (Nat.le_refl (n + 1)))
    exact ⟨holdsAfter, congrArg (fun answer => answer.value.1) ticked⟩

theorem MirroredBy.trace {course : Course P W S} {mirror : Course MemoryPreferences W S}
    (mirrored : course.MirroredBy mirror) (n : Nat)
    (taken : ∀ m, m ≤ n → ∀ event ∈ course.events m, event.isRefusedStore = false) :
    mirror.trace n = course.trace n ∧
      ∀ m, m < n → (mirror.tick m).value.2 = (course.tick m).value.2 := by
  induction n with
  | zero =>
    obtain ⟨-, started⟩ := mirrored.start (taken 0 (Nat.le_refl 0))
    refine ⟨congrArg Traced.events started, ?_⟩
    intro m impossible
    cases impossible
  | succ n ih =>
    have earlier : ∀ m, m ≤ n → ∀ event ∈ course.events m, event.isRefusedStore = false :=
      fun m upto => taken m (by omega)
    obtain ⟨trace, stops⟩ := ih earlier
    obtain ⟨holds, same⟩ := mirrored.after n earlier
    obtain ⟨-, ticked⟩ := mirrored.tick n holds same (taken (n + 1) (Nat.le_refl (n + 1)))
    refine ⟨?_, ?_⟩
    · rw [Course.trace, Course.trace, trace]
      exact congrArg _ (congrArg Traced.events ticked)
    · intro m before
      by_cases last : m = n
      · rw [last, ticked]
      · exact stops m (by omega)

end Mirroring

/-- Over properties that are never refused a course does what it does over a memory that
holds, for each watched switch, the truth value that its property spells. -/
theorem properties_refine_memory {W S : Type} [LineSink W] [HostSettings S]
    (course : Course PropertyPreferences W S) (mirror : Course MemoryPreferences W S)
    (mirrored : course.MirroredBy mirror) (n : Nat)
    (taken : ∀ m, m ≤ n → ∀ event ∈ course.events m, event.isRefusedStore = false) :
    mirror.trace n = course.trace n ∧
      (mirror.after n).keeper = (course.after n).keeper ∧
      (mirror.after n).panel = (course.after n).panel ∧
      (mirror.after n).snapshot = (course.after n).snapshot ∧
      (∀ m, m < n → (mirror.tick m).value.2 = (course.tick m).value.2) ∧
      ∀ key ∈ Key.watched, (mirror.after n).prefs.get? key =
        ((course.after n).prefs.properties.get? ((course.after n).prefs.stem ++ key)).bind
          parseBool? := by
  obtain ⟨holds, same⟩ := mirrored.after n taken
  obtain ⟨trace, stops⟩ := mirrored.trace n taken
  exact ⟨trace, congrArg Service.keeper same, congrArg Service.panel same,
    congrArg Service.snapshot same, stops, holds⟩

/-! A course over properties, among them one that spells no truth value, and its mirror.
The host refuses every write, so that the haptic switch is restored after each tick. -/

def spelled : Course PropertyPreferences Recorder SettingsTable where
  prefs := ⟨"p.", some ⟨[("p.touchscreen_gesture_e", [0x79])], .empty⟩⟩
  sink := ⟨false, []⟩
  host := ⟨[], .every, .empty⟩
  debounce := Span.ofMillis 500
  turn n :=
    { editPrefs := fun _ =>
        ⟨"p.", some ⟨[("p.touchscreen_gesture_c", if n == 0 then [0x31, 0x0A] else [0x30]),
          ("p.touchscreen_gesture_haptic_feedback", [0x30])], .empty⟩⟩
      editHost := id
      editSink := id
      now := ⟨Span.ofMillis (300 * n)⟩ }

def mirrorOfSpelled : Course MemoryPreferences Recorder SettingsTable where
  prefs := ⟨[]⟩
  sink := ⟨false, []⟩
  host := ⟨[], .every, .empty⟩
  debounce := Span.ofMillis 500
  turn n :=
    { editPrefs := fun _ => ⟨[(Gesture.c.key, n == 0), (Key.haptic, false)]⟩
      editHost := id
      editSink := id
      now := ⟨Span.ofMillis (300 * n)⟩ }

theorem mirroredBy_spelled : spelled.MirroredBy mirrorOfSpelled where
  prefs := by
    rw [Holds]
    decide +kernel
  sink := rfl
  host := rfl
  debounce := rfl
  edits n _ := by
    change Holds ⟨[(Gesture.c.key, n == 0), (Key.haptic, false)]⟩
      (⟨"p.", some ⟨[("p.touchscreen_gesture_c", if n == 0 then [0x31, 0x0A] else [0x30]),
          ("p.touchscreen_gesture_haptic_feedback", [0x30])], .empty⟩⟩ : PropertyPreferences)
    rw [Holds]
    cases n == 0 <;> decide +kernel
  hostEdits _ := rfl
  sinkEdits _ := rfl
  times _ := rfl

theorem properties_refine_memory_spelled :
    spelled.MirroredBy mirrorOfSpelled ∧ mirrorOfSpelled.trace 1 = spelled.trace 1 :=
  ⟨mirroredBy_spelled,
    (properties_refine_memory spelled mirrorOfSpelled mirroredBy_spelled 1 (by decide +kernel)).1⟩

end Course

end GestureMode
