import GestureMode.Gesture.Basic
import GestureMode.Host.Switch
import GestureMode.Preference.Key
import GestureMode.Time.Debounce

/-!
# The settings panel

What each switch does besides being on or off: the ambient display sets the
host's doze setting, haptic feedback sets its own, and a gesture schedules an
update of the mode.  A switch whose setting the host refuses is vetoed.
-/

set_option autoImplicit false

namespace GestureMode

structure Panel (S : Type) where
  host : S
  update : Debounce
  /-- Whether hand wave, pick up and pocket apply, which they do while the device dozes. -/
  dependentsEnabled : Bool

inductive Verdict where
  | accepted
  | vetoed
  | stopped (fault : Fault)
  deriving DecidableEq, Repr

namespace Panel

variable {S : Type}

def ofHost (host : S) (debounce : Span) : Panel S :=
  ⟨host, Debounce.idle debounce, true⟩

def takeUpdate (panel : Panel S) (now : Instant) : Panel S × Bool :=
  let (update, due) := panel.update.fire now
  ({ panel with update }, due)

def updatePending (panel : Panel S) : Bool :=
  panel.update.isPending

section Resume

variable {P : Type} [PreferenceStore P] [HostSettings S]

def resumeHaptic (panel : Panel S) (prefs : P) (doze : Bool) :
    Traced ((Panel S × P) × Option Failure) := do
  let (host, reading) ← HostSettings.readFlag panel.host .haptic
  let panel := { panel with host }
  match reading with
  | .error failure => pure ((panel, prefs), some failure)
  | .ok haptic =>
    let (prefs, refusal) ← PreferenceStore.store prefs Key.haptic haptic
    if refusal.isNone then
      Traced.note .debug s!"[Panel] resumed: doze={doze}, haptic={haptic}"
    pure ((panel, prefs), refusal)

/-- Sets the ambient and the haptic switch to the host's values, up to the first
step that fails. -/
def resume (panel : Panel S) (prefs : P) : Traced ((Panel S × P) × Option Failure) := do
  let (host, reading) ← HostSettings.readFlag panel.host .doze
  let panel := { panel with host }
  match reading with
  | .error failure => pure ((panel, prefs), some failure)
  | .ok doze =>
    let (prefs, refusal) ← PreferenceStore.store prefs Key.ambient doze
    match refusal with
    | some failure => pure ((panel, prefs), some failure)
    | none => resumeHaptic { panel with dependentsEnabled := doze } prefs doze

end Resume

section Change

variable [HostSettings S]

def changeAmbient (panel : Panel S) (value : Bool) : Traced (Panel S × Verdict) := do
  let (host, refusal) ← HostSettings.writeFlag panel.host .doze value
  match refusal with
  | none => pure ({ panel with host, dependentsEnabled := value }, .accepted)
  | some failure =>
    let reason := failure.message
    Traced.note .error s!"[Panel] Could not set doze to {value}: {reason}"
    pure ({ panel with host }, .vetoed)

def changeHaptic (panel : Panel S) (value : Bool) : Traced (Panel S × Verdict) := do
  let (host, refusal) ← HostSettings.writeFlag panel.host .haptic value
  match refusal with
  | none => pure ({ panel with host }, .accepted)
  | some failure =>
    let reason := failure.message
    Traced.note .error s!"[Panel] Could not set haptic feedback to {value}: {reason}"
    pure ({ panel with host }, .vetoed)

def changeOther (panel : Panel S) (key : String) (now : Instant) : Panel S × Verdict :=
  if (Gesture.ofKey? key).isSome then
    match panel.update.schedule now with
    | .ok update => ({ panel with update }, .accepted)
    | .error fault => (panel, .stopped fault)
  else (panel, .accepted)

def change (panel : Panel S) (key : String) (value : Bool) (now : Instant) :
    Traced (Panel S × Verdict) :=
  if key = Key.ambient then panel.changeAmbient value
  else if key = Key.haptic then panel.changeHaptic value
  else pure (panel.changeOther key now)

end Change

end Panel

end GestureMode
