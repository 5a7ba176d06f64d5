import GestureMode.Daemon
import GestureMode.Proofs.Overflow

/-!
# Which ticks of the daemon write

The daemon ticks once per poll interval, so the debounce interval is a number of
ticks: the least one whose sleeps cover it.  A tick of a run writes to the node
exactly when the gestures' switches changed for the last time so many ticks before,
whatever else changes outside during the sleeps.
-/

set_option autoImplicit false

namespace GestureMode

open PreferenceStore

namespace Daemon

/-- The daemon when a tick begins: the launched one at first, and then the one that
slept after the tick before. -/
def opening (launched : Daemon) (sleeps : List (List OutsideChange)) : Nat → Daemon
  | 0 => launched
  | n + 1 => (opening launched sleeps n).tick.value.1.sleep (sleeps[n]?.getD [])

def seen (launched : Daemon) (sleeps : List (List OutsideChange)) : Nat → PropertyPreferences
  | 0 => launched.service.prefs
  | n + 1 => (opening launched sleeps n).service.prefs

def Changing (launched : Daemon) (sleeps : List (List OutsideChange)) (n : Nat) : Prop :=
  GesturesDiffer (seen launched sleeps n) (opening launched sleeps n).service.prefs

theorem value_tick (daemon : Daemon) :
    daemon.tick.value =
      ({ daemon with service := (daemon.service.tick daemon.clock).value.1 },
        (daemon.service.tick daemon.clock).value.2) :=
  rfl

theorem events_tick (daemon : Daemon) :
    daemon.tick.events = (daemon.service.tick daemon.clock).events :=
  List.append_nil _

theorem opening_cons (launched : Daemon) (changes : List OutsideChange)
    (rest : List (List OutsideChange)) (n : Nat) :
    opening launched (changes :: rest) (n + 1) =
      opening (launched.tick.value.1.sleep changes) rest n := by
  induction n with
  | zero => rfl
  | succ n ih =>
    rw [opening, ih]
    rfl

theorem ticks_run (sleeps : List (List OutsideChange)) (before : Traced Daemon)
    (completed : (before >>= tick).value.2 = none) :
    (run sleeps before).ticks =
      ⟨(before >>= tick).value.1, (before >>= tick).events⟩ ::
        match sleeps with
        | [] => []
        | changes :: rest => (run rest (pure ((before >>= tick).value.1.sleep changes))).ticks := by
  cases sleeps with
  | nil => simp only [run, completed]
  | cons changes rest => simp only [run, completed]

/-- A tick of a run is the one that its opening makes, and all ticks up to it complete. -/
theorem tick_of_mem_run (sleeps : List (List OutsideChange)) (before : Traced Daemon) (n : Nat)
    (ticked : Traced Daemon) (reached : (run sleeps before).ticks[n]? = some ticked) :
    ticked.value = (opening before.value sleeps n).tick.value.1 ∧
      ticked.events =
        (if n = 0 then before.events else []) ++ (opening before.value sleeps n).tick.events ∧
      ∀ m, m ≤ n → (opening before.value sleeps m).tick.value.2 = none := by
  induction n generalizing sleeps before with
  | zero =>
    cases outcome : (before >>= tick).value.2 with
    | some fault =>
      rw [run_of_fault sleeps before fault outcome] at reached
      cases reached
    | none =>
      rw [ticks_run sleeps before outcome] at reached
      injection reached with same
      subst same
      refine ⟨rfl, rfl, ?_⟩
      intro m first
      rw [Nat.le_zero.mp first]
      exact outcome
  | succ n ih =>
    cases outcome : (before >>= tick).value.2 with
    | some fault =>
      rw [run_of_fault sleeps before fault outcome] at reached
      cases reached
    | none =>
      rw [ticks_run sleeps before outcome, List.getElem?_cons_succ] at reached
      cases sleeps with
      | nil => cases reached
      | cons changes rest =>
        obtain ⟨value, events, completed⟩ := ih rest _ reached
        refine ⟨?_, ?_, ?_⟩
        · rw [value, opening_cons]
          rfl
        · -- what precedes a later tick is its sleep, which has no events
          rw [events, opening_cons]
          cases n with
          | zero => rfl
          | succ n => rfl
        · intro m upto
          cases m with
          | zero => exact outcome
          | succ m =>
            rw [opening_cons]
            exact completed m (by omega)

theorem exists_tick_run (sleeps : List (List OutsideChange)) (before : Traced Daemon) (n : Nat)
    (le : n ≤ sleeps.length)
    (completed : ∀ m, m ≤ n → (opening before.value sleeps m).tick.value.2 = none) :
    ∃ ticked : Traced Daemon, (run sleeps before).ticks[n]? = some ticked := by
  induction n generalizing sleeps before with
  | zero =>
    rw [ticks_run sleeps before (completed 0 (Nat.le_refl 0))]
    exact ⟨_, rfl⟩
  | succ n ih =>
    rw [ticks_run sleeps before (completed 0 (Nat.zero_le (n + 1))), List.getElem?_cons_succ]
    cases sleeps with
    | nil => cases le
    | cons changes rest =>
      rw [List.length_cons] at le
      apply ih rest _ (by omega)
      intro m upto
      have next := completed (m + 1) (by omega)
      rw [opening_cons] at next
      exact next

theorem length_ticks_le (sleeps : List (List OutsideChange)) (before : Traced Daemon) :
    (run sleeps before).ticks.length ≤ sleeps.length + 1 := by
  induction sleeps generalizing before with
  | nil =>
    cases outcome : (before >>= tick).value.2 with
    | some fault =>
      rw [run_of_fault [] before fault outcome]
      exact Nat.zero_le _
    | none =>
      rw [ticks_run [] before outcome]
      exact Nat.le_refl 1
  | cons changes rest ih =>
    cases outcome : (before >>= tick).value.2 with
    | some fault =>
      rw [run_of_fault (changes :: rest) before fault outcome]
      exact Nat.zero_le _
    | none =>
      rw [ticks_run (changes :: rest) before outcome, List.length_cons, List.length_cons]
      exact Nat.succ_le_succ (ih _)

theorem exists_tick_run_iff (sleeps : List (List OutsideChange)) (before : Traced Daemon)
    (n : Nat) :
    (∃ ticked : Traced Daemon, (run sleeps before).ticks[n]? = some ticked) ↔
      n ≤ sleeps.length ∧ ∀ m, m ≤ n → (opening before.value sleeps m).tick.value.2 = none := by
  constructor
  · rintro ⟨ticked, reached⟩
    have within := (List.getElem?_eq_some_iff.mp reached).1
    have bounded := length_ticks_le sleeps before
    exact ⟨by omega, (tick_of_mem_run sleeps before n ticked reached).2.2⟩
  · rintro ⟨le, completed⟩
    exact exists_tick_run sleeps before n le completed

/-! ## The daemon's course -/

theorem foldl_edit (changes : List OutsideChange) (daemon : Daemon) :
    changes.foldl edit daemon =
      { daemon with
        service := ((daemon.service.withPrefs fun prefs =>
          changes.foldl (fun prefs change => change.onPrefs prefs) prefs).withHost fun command =>
          changes.foldl (fun command change => change.onCommand command) command).withSink
            fun node => changes.foldl (fun node change => change.onNode node) node } := by
  induction changes generalizing daemon with
  | nil => rfl
  | cons change rest ih =>
    rw [List.foldl_cons, ih]
    rfl

def course (clock : Instant) (config : Config) (outside : Surroundings)
    (sleeps : List (List OutsideChange)) :
    Course PropertyPreferences DeviceNode SettingsCommand where
  prefs := ⟨config.stem, outside.properties⟩
  sink := ⟨config.node, outside.tree⟩
  host := outside.command
  debounce := config.debounce
  turn n :=
    let changes := match n with
      | 0 => []
      | n + 1 => sleeps[n]?.getD []
    { editPrefs := fun prefs => changes.foldl (fun prefs change => change.onPrefs prefs) prefs
      editHost := fun command =>
        changes.foldl (fun command change => change.onCommand command) command
      editSink := fun node => changes.foldl (fun node change => change.onNode node) node
      now := (opening (launchAt clock config outside).value sleeps n).clock }

section Launched

variable (clock : Instant) (config : Config) (outside : Surroundings)
  (sleeps : List (List OutsideChange))

theorem opened_course (n : Nat) :
    (course clock config outside sleeps).opened n =
      (opening (launchAt clock config outside).value sleeps n).service := by
  induction n with
  | zero => rfl
  | succ n ih =>
    have ticked : (course clock config outside sleeps).after (n + 1) =
        (opening (launchAt clock config outside).value sleeps n).tick.value.1.service := by
      rw [value_tick, ← ih]
      rfl
    rw [Course.opened, ticked, opening, sleep, foldl_edit]
    rfl

theorem changing_course (n : Nat) :
    (course clock config outside sleeps).Changing n ↔
      Changing (launchAt clock config outside).value sleeps n := by
  have reads : (course clock config outside sleeps).seen n =
      seen (launchAt clock config outside).value sleeps n := by
    cases n with
    | zero => rfl
    | succ n => exact congrArg Service.prefs (opened_course clock config outside sleeps n)
  rw [Course.Changing, reads, opened_course]
  rfl

theorem tick_course (n : Nat) :
    (course clock config outside sleeps).tick n =
      (opening (launchAt clock config outside).value sleeps n).service.tick
        (opening (launchAt clock config outside).value sleeps n).clock := by
  rw [Course.tick, opened_course]
  rfl

end Launched

theorem clock_opening (launched : Daemon) (sleeps : List (List OutsideChange)) (n : Nat) :
    (opening launched sleeps n).poll = launched.poll ∧
      (opening launched sleeps n).clock.total =
        launched.clock.total + (n * launched.poll.total : Nat) := by
  induction n with
  | zero => exact ⟨rfl, by rw [opening, Nat.zero_mul, Int.natCast_zero, Int.add_zero]⟩
  | succ n ih =>
    obtain ⟨poll, clock⟩ := ih
    rw [opening, sleep, foldl_edit, value_tick]
    refine ⟨poll, ?_⟩
    change Instant.total (Instant.advance _ _) = _
    rw [Instant.total_advance, poll, clock, Nat.succ_mul]
    omega

section Launched

variable (clock : Instant) (config : Config) (outside : Surroundings)
  (sleeps : List (List OutsideChange))

theorem now_course (n : Nat) :
    ((course clock config outside sleeps).turn n).now.total =
      clock.total + (n * config.poll.total : Nat) :=
  (clock_opening (launchAt clock config outside).value sleeps n).2

theorem lines_launchAt :
    Event.lines (launchAt clock config outside).events =
      [(Switches.load (launchAt clock config outside).value.service.prefs).encode.line] := by
  have started := (course clock config outside []).started.line
  rw [launchAt, Traced.events_bind, Traced.events_bind, Traced.events_bind, Event.lines_append,
    Event.lines_append, Event.lines_append]
  exact (List.append_nil _).trans started

theorem sink_launchAt :
    (launchAt clock config outside).value.service.keeper.sink =
      (LineSink.deliver (⟨config.node, outside.tree⟩ : DeviceNode)
        (Switches.load (launchAt clock config outside).value.service.prefs).encode.line).1 :=
  Service.sink_start (⟨config.stem, outside.properties⟩ : PropertyPreferences)
    (⟨config.node, outside.tree⟩ : DeviceNode) outside.command config.debounce

/-- A run reaches every tick up to the number of its sleeps, as long as no changing tick asks
for a deadline that no clock can show. -/
theorem exists_tick_launchAt_iff (n : Nat) :
    (∃ ticked : Traced Daemon, (run sleeps (launchAt clock config outside)).ticks[n]? =
        some ticked) ↔
      n ≤ sleeps.length ∧ ∀ m, m ≤ n → Changing (launchAt clock config outside).value sleeps m →
        clock.total + (m * config.poll.total : Nat) + config.debounce.total <
          (Instant.lastSecond + 1) * 1000000000 := by
  have reaches := (course clock config outside sleeps).reaches_iff (n + 1)
  simp only [Course.Reaches, tick_course, changing_course, now_course, Nat.lt_succ_iff] at reaches
  rw [exists_tick_run_iff]
  exact and_congr_right fun _ => reaches

theorem reaches_course (n : Nat)
    (completed : ∀ m, m ≤ n →
      (opening (launchAt clock config outside).value sleeps m).tick.value.2 = none) :
    (course clock config outside sleeps).Reaches (n + 1) := by
  intro m before
  rw [tick_course]
  exact completed m (by omega)

theorem fired_course_iff (n lag : Nat)
    (reached : (course clock config outside sleeps).Reaches (n + 1))
    (covers : ∀ m, config.debounce.total ≤ m * config.poll.total ↔ lag ≤ m) :
    (course clock config outside sleeps).rounds.fired n = true ↔
      lag ≤ n ∧ Changing (launchAt clock config outside).value sleeps (n - lag) ∧
        ∀ m, n - lag < m → m ≤ n → ¬ Changing (launchAt clock config outside).value sleeps m := by
  let daemons := course clock config outside sleeps
  rw [(daemons.played n reached).fired_iff_of_interval _ config.debounce clock.total
    config.poll.total lag n covers (now_course clock config outside sleeps)]
  simp only [Course.rounds, decide_eq_true_eq, decide_eq_false_iff_not, daemons, changing_course]

end Launched

/-- Ticks that are not changing read the switches as the tick before them did. -/
theorem load_opening (launched : Daemon) (sleeps : List (List OutsideChange)) (j n : Nat)
    (le : j ≤ n) (unchanged : ∀ m, j < m → m ≤ n → ¬ Changing launched sleeps m) :
    Switches.load (opening launched sleeps n).service.prefs =
      Switches.load (opening launched sleeps j).service.prefs := by
  induction n with
  | zero => rw [Nat.le_zero.mp le]
  | succ n ih =>
    by_cases last : j = n + 1
    · rw [last]
    · have same : ¬ Changing launched sleeps (n + 1) :=
        unchanged (n + 1) (by omega) (Nat.le_refl (n + 1))
      rw [load_eq_of_not_gesturesDiffer _ _ same]
      exact ih (by omega) fun m after upto => unchanged m after (by omega)

/-- The run reaches a tick if it sleeps often enough, unless a deadline overflows.  Behind the
line of the start, a tick hands over a line exactly when the tick `lag` ticks before was the
last changing one; `lag` is the least number of poll intervals that covers the debounce
interval.  The node receives that line, and nothing else. -/
theorem writes_iff_changed_lag_ticks_ago (clock : Instant) (config : Config)
    (outside : Surroundings) (sleeps : List (List OutsideChange)) (n : Nat)
    (positive : 0 < config.poll.total) :
    let before := launchAt clock config outside
    let launched := before.value
    let switches := fun m => Switches.load (opening launched sleeps m).service.prefs
    let node := fun m => (opening launched sleeps m).service.keeper.sink
    let lag := (config.debounce.total + config.poll.total - 1) / config.poll.total
    let due := lag ≤ n ∧ Changing launched sleeps (n - lag) ∧
      ∀ m, n - lag < m → m ≤ n → ¬ Changing launched sleeps m
    let first := if n = 0 then [(switches 0).encode.line] else []
    node 0 = (DeviceNode.deliver ⟨config.node, outside.tree⟩ (switches 0).encode.line).1 ∧
      ((∃ ticked : Traced Daemon, (run sleeps before).ticks[n]? = some ticked) ↔
        n ≤ sleeps.length ∧ ∀ m, m ≤ n → Changing launched sleeps m →
          clock.total + (m * config.poll.total : Nat) + config.debounce.total <
            (9223372036854775807 + 1) * 1000000000) ∧
      ∀ ticked : Traced Daemon, (run sleeps before).ticks[n]? = some ticked →
        (due → switches n = switches (n - lag) ∧
          Event.lines ticked.events = first ++ [(switches (n - lag)).encode.line] ∧
          ticked.value.service.keeper.sink =
            ((node n).deliver (switches (n - lag)).encode.line).1) ∧
        (¬ due → Event.lines ticked.events = first ∧
          ticked.value.service.keeper.sink = node n) := by
  intro before launched switches node lag due first
  let daemons := course clock config outside sleeps
  refine ⟨sink_launchAt clock config outside,
    exists_tick_launchAt_iff clock config outside sleeps n, ?_⟩
  intro ticked reached
  obtain ⟨value, events, completed⟩ := tick_of_mem_run sleeps before n ticked reached
  have courseReached : daemons.Reaches (n + 1) :=
    reaches_course clock config outside sleeps n completed
  have fired : daemons.rounds.fired n = true ↔ due := by
    apply fired_course_iff clock config outside sleeps n lag courseReached
    intro m
    exact Rounds.le_mul_iff_ceil_le config.debounce.total config.poll.total m positive
  have lines : Event.lines ticked.events = first ++ daemons.lines n := by
    rw [events, Event.lines_append, events_tick, Course.lines, tick_course]
    congr 1
    cases n with
    | zero => exact lines_launchAt clock config outside
    | succ n => rfl
  have received : ticked.value.service.keeper.sink =
      if daemons.rounds.fired n then ((node n).deliver (switches n).encode.line).1
      else node n := by
    have made : ticked.value.service = daemons.after (n + 1) := by
      rw [value, value_tick]
      exact congrArg (fun answer => answer.value.1) (tick_course clock config outside sleeps n).symm
    rw [made, daemons.sink_tick n courseReached, opened_course]
    rfl
  rw [lines, received, daemons.lines_tick n courseReached, opened_course]
  constructor
  · intro isDue
    have same : switches n = switches (n - lag) :=
      load_opening launched sleeps (n - lag) n (Nat.sub_le n lag) isDue.2.2
    rw [if_pos (fired.mpr isDue), if_pos (fired.mpr isDue), ← same]
    exact ⟨rfl, rfl, rfl⟩
  · intro early
    rw [if_neg (mt fired.mp early), if_neg (mt fired.mp early), List.append_nil]
    exact ⟨rfl, rfl⟩

/-! One run: gesture C is switched on and the node appears during the first sleep, and the
debounce interval is one sleep long. -/

def promptConfig : Config :=
  { Config.defaults with node := "/mode", stem := "", debounce := Config.defaultPoll }

def lockedOutside : Surroundings :=
  ⟨some ⟨[], .every⟩, ⟨[], [], none⟩, ⟨none, []⟩⟩

def switchingOn : List (List OutsideChange) :=
  [[.property (.entry Gesture.c.key (some [0x31])),
    .files fun _ => .ofFiles [] [("/mode", .regular [])] none], []]

def earlier : Instant :=
  ⟨⟨.negSucc 0, 250000000, by decide⟩⟩

theorem changing_switchingOn :
    Changing (launchAt earlier promptConfig lockedOutside).value switchingOn 1 :=
  ⟨.c, by decide +kernel⟩

theorem not_changing_switchingOn :
    ¬ Changing (launchAt earlier promptConfig lockedOutside).value switchingOn 2 := by
  have kept :
      (opening (launchAt earlier promptConfig lockedOutside).value switchingOn 2).service.prefs =
        (opening (launchAt earlier promptConfig lockedOutside).value switchingOn 1).service.prefs :=
    by decide +kernel
  rintro ⟨gesture, different⟩
  exact different (congrFun (congrArg reading kept) gesture)

theorem writes_at_last_tick_of_switchingOn :
    ∃ ticked : Traced Daemon,
      (run switchingOn (launchAt earlier promptConfig lockedOutside)).ticks[2]? = some ticked ∧
        (Event.lines ticked.events).length = 1 ∧
        ticked.value.tree.content? "/mode" = some (Text.Utf8.encode "1000100\n") := by
  obtain ⟨-, reaches, ticks⟩ := writes_iff_changed_lag_ticks_ago earlier promptConfig
    lockedOutside switchingOn 2 (by decide)
  have early : ∀ m ≤ 2, earlier.total + (m * promptConfig.poll.total : Nat) +
      promptConfig.debounce.total < (9223372036854775807 + 1) * 1000000000 := by decide
  obtain ⟨ticked, reached⟩ := reaches.mpr ⟨by decide, fun m upto _ => early m upto⟩
  obtain ⟨-, lines, sink⟩ := (ticks ticked reached).1 ⟨by decide, changing_switchingOn, by
    intro m after upto
    have last : m = 2 := Nat.le_antisymm upto after
    rw [last]
    exact not_changing_switchingOn⟩
  refine ⟨ticked, reached, ?_, ?_⟩
  · rw [lines]
    rfl
  · rw [tree, sink]
    decide +kernel

end Daemon

end GestureMode
