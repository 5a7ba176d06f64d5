import GestureMode.Keeper
import GestureMode.Panel
import GestureMode.Preference.Snapshot

/-!
# The service

The service watches nine switches in a store.  A tick handles the switches that
changed since the last one, in watch order, and then delivers the mode of the
gestures when an update is due.  A vetoed switch gets its old value back; if the
store refuses that as well, the new value stays and is not reported again.
-/

set_option autoImplicit false

namespace GestureMode

structure Service (P W S : Type) where
  prefs : P
  keeper : Keeper W
  panel : Panel S
  snapshot : Snapshot

namespace Service

variable {P W S : Type} [PreferenceStore P] [LineSink W] [HostSettings S]

/-- Brings the switches in line with the host, delivers a first mode and takes the
first snapshot. -/
def start (prefs : P) (sink : W) (host : S) (debounce : Span) : Traced (Service P W S) := do
  let ((panel, prefs), failure) ← (Panel.ofHost host debounce).resume prefs
  match failure with
  | none => pure ()
  | some failure =>
    let reason := failure.message
    Traced.note .warn s!"[Service] Could not mirror host settings: {reason}"
  let keeper ← Keeper.start prefs sink
  pure ⟨prefs, keeper, panel, Snapshot.take Key.watched prefs⟩

def restore (service : Service P W S) (key : String) (value : Bool) :
    Traced (Service P W S) := do
  let (prefs, refusal) ← PreferenceStore.store service.prefs key value
  match refusal with
  | none => pure { service with prefs, snapshot := service.snapshot.record key value }
  | some failure =>
    let reason := failure.message
    Traced.note .error s!"[Service] Could not restore {key}: {reason}"
    pure { service with prefs }

def handle (service : Service P W S) (now : Instant) (key : String) :
    Traced (Service P W S × Option Fault) := do
  let value := PreferenceStore.isOn service.prefs key
  Traced.note .debug s!"[Service] {key} changed to {value}"
  let (keeper, _) := service.keeper.announce service.prefs key
  let (panel, verdict) ← service.panel.change key value now
  let service := { service with keeper, panel }
  match verdict with
  | .accepted => pure (service, none)
  | .vetoed =>
    let service ← service.restore key (!value)
    pure (service, none)
  | .stopped fault => pure (service, some fault)

def handleAll (now : Instant) : List String → Service P W S →
    Traced (Service P W S × Option Fault)
  | [], service => pure (service, none)
  | key :: keys, service => do
    let (service, fault) ← service.handle now key
    match fault with
    | some fault => pure (service, some fault)
    | none => handleAll now keys service

/-- Delivers the mode when an update is due. -/
def settle (service : Service P W S) (now : Instant) : Traced (Service P W S) :=
  match service.panel.takeUpdate now with
  | (panel, true) => do
    let (keeper, _) ← service.keeper.deliver
    pure { service with panel, keeper }
  | (panel, false) => pure { service with panel }

/-- One pass at a time.  After a fault the tick ends, and what it did so far stays. -/
def tick (service : Service P W S) (now : Instant) : Traced (Service P W S × Option Fault) := do
  let (snapshot, keys) := service.snapshot.poll service.prefs
  let (service, fault) ← handleAll now keys { service with snapshot }
  match fault with
  | some fault => pure (service, some fault)
  | none =>
    let service ← service.settle now
    pure (service, none)

def withPrefs (service : Service P W S) (edit : P → P) : Service P W S :=
  { service with prefs := edit service.prefs }

def withHost (service : Service P W S) (edit : S → S) : Service P W S :=
  { service with panel := { service.panel with host := edit service.panel.host } }

def withSink (service : Service P W S) (edit : W → W) : Service P W S :=
  { service with keeper := { service.keeper with sink := edit service.keeper.sink } }

end Service

end GestureMode
