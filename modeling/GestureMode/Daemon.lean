import GestureMode.Config
import GestureMode.Host.Command
import GestureMode.Service

/-!
# The daemon

The service over properties, the device node and the settings command, with a
clock that moves on by the poll interval while the daemon sleeps.  The daemon has
no end of its own: a run is given by what changes outside during each sleep, and
ends after the tick that follows the last of them, or with a fault.  Properties, files
and the script of the command may change.
-/

set_option autoImplicit false

namespace GestureMode

structure Surroundings where
  properties : Properties
  tree : FileTree
  command : SettingsCommand
  deriving DecidableEq, Repr

inductive PropertyEdit where
  | entry (name : String) (value : Option (List UInt8))
  | restrict (readOnly : KeySet)
  deriving DecidableEq, Repr

def PropertyEdit.apply (properties : Properties) : PropertyEdit → Properties
  | entry name value => properties.edit name value
  | restrict readOnly => properties.restrict readOnly

/-- A change from outside: of the properties, of the files, or of what the settings
command answers from now on. -/
inductive OutsideChange where
  | property (edit : PropertyEdit)
  | files (edit : FileTree → FileTree)
  | script (edit : Option (List CommandRun) → Option (List CommandRun))

namespace OutsideChange

def onPrefs : OutsideChange → PropertyPreferences → PropertyPreferences
  | property edit, prefs => { prefs with properties := edit.apply prefs.properties }
  | files _, prefs | script _, prefs => prefs

def onNode : OutsideChange → DeviceNode → DeviceNode
  | files edit, node => { node with tree := edit node.tree }
  | property _, node | script _, node => node

/-- The runs that took place stay on record. -/
def onCommand : OutsideChange → SettingsCommand → SettingsCommand
  | script edit, command => { command with script := edit command.script }
  | property _, command | files _, command => command

end OutsideChange

/-- Sleeps during which nothing but properties changes. -/
instance : Coe (List (List PropertyEdit)) (List (List OutsideChange)) where
  coe sleeps := sleeps.map fun edits => edits.map .property

abbrev DeviceService := Service PropertyPreferences DeviceNode SettingsCommand

structure Daemon where
  service : DeviceService
  clock : Instant
  poll : Span

namespace Daemon

def launchAt (clock : Instant) (config : Config) (outside : Surroundings) : Traced Daemon := do
  let node := config.node
  let stem := config.stem
  let debounce := config.debounce.text
  let poll := config.poll.text
  Traced.note .info s!"[GestureSync] Starting, node: {node}"
  Traced.note .debug s!"[GestureSync] prefix: {stem}, debounce: {debounce}, poll: {poll}"
  let service ← Service.start (⟨stem, outside.properties⟩ : PropertyPreferences)
    (⟨node, outside.tree⟩ : DeviceNode) outside.command config.debounce
  pure ⟨service, clock, config.poll⟩

def launch (config : Config) (outside : Surroundings) : Traced Daemon :=
  launchAt .start config outside

def tick (daemon : Daemon) : Traced (Daemon × Option Fault) := do
  let (service, fault) ← daemon.service.tick daemon.clock
  pure ({ daemon with service }, fault)

def edit (daemon : Daemon) (change : OutsideChange) : Daemon :=
  { daemon with
    service := ((daemon.service.withPrefs change.onPrefs).withHost change.onCommand).withSink
      change.onNode }

def sleep (daemon : Daemon) (changes : List OutsideChange) : Daemon :=
  { changes.foldl edit daemon with clock := daemon.clock.advance daemon.poll }

def properties (daemon : Daemon) : Properties :=
  daemon.service.prefs.properties

def tree (daemon : Daemon) : FileTree :=
  daemon.service.keeper.sink.tree

def command (daemon : Daemon) : SettingsCommand :=
  daemon.service.panel.host

/-- A run: the daemon after each completed tick with the events since the tick
before, and how the run ended. -/
structure Run where
  ticks : List (Traced Daemon)
  last : Daemon
  fault : Option Fault

/-- Runs the daemon through sleeps with the given changes; `before` is the daemon with
the events that precede its first tick. -/
def run (sleeps : List (List OutsideChange)) (before : Traced Daemon) : Run :=
  let after := before >>= tick
  match after.value.2, sleeps with
  | some fault, _ => ⟨[], after.value.1, some fault⟩
  | none, [] => ⟨[⟨after.value.1, after.events⟩], after.value.1, none⟩
  | none, changes :: rest =>
    let later := run rest (pure (after.value.1.sleep changes))
    { later with ticks := ⟨after.value.1, after.events⟩ :: later.ticks }

theorem run_of_fault (sleeps : List (List OutsideChange)) (before : Traced Daemon) (fault : Fault)
    (h : (before >>= tick).value.2 = some fault) :
    run sleeps before = ⟨[], (before >>= tick).value.1, some fault⟩ := by
  rw [run.eq_1 before sleeps fault h]

/-- A run that meets no fault has one tick more than sleeps. -/
theorem length_ticks_run (sleeps : List (List OutsideChange)) (before : Traced Daemon)
    (h : (run sleeps before).fault = none) :
    (run sleeps before).ticks.length = sleeps.length + 1 := by
  induction sleeps generalizing before with
  | nil =>
    cases outcome : (before >>= tick).value.2 with
    | none => simp only [run, outcome, List.length_cons, List.length_nil]
    | some fault => simp [run_of_fault [] before fault outcome] at h
  | cons changes rest ih =>
    cases outcome : (before >>= tick).value.2 with
    | none =>
      simp only [run, outcome] at h ⊢
      simp only [List.length_cons]
      rw [ih _ h]
    | some fault => simp [run_of_fault (changes :: rest) before fault outcome] at h

end Daemon

def programAt (clock : Instant) (outside : Surroundings) : Threshold × Traced Daemon :=
  let config := Config.ofProperties outside.properties
  (config.threshold, Daemon.launchAt clock config outside)

def program (outside : Surroundings) : Threshold × Traced Daemon :=
  programAt .start outside

end GestureMode
