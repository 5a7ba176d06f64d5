import GestureMode.Gesture.Mask
import GestureMode.Preference.Store

/-!
# Switches and their mode

The six gesture switches as last read from the store, and the mask that stands
for them: the bit of each gesture that is on, and the control bit when at least
one is.
-/

set_option autoImplicit false

namespace GestureMode

@[ext]
structure Switches where
  c : Bool
  e : Bool
  s : Bool
  v : Bool
  w : Bool
  z : Bool
  deriving DecidableEq, Repr

namespace Switches

def off : Switches := ⟨false, false, false, false, false, false⟩

instance : Inhabited Switches := ⟨off⟩

def isOn (switches : Switches) : Gesture → Bool
  | .c => switches.c
  | .e => switches.e
  | .s => switches.s
  | .v => switches.v
  | .w => switches.w
  | .z => switches.z

def set (switches : Switches) (gesture : Gesture) (on : Bool) : Switches :=
  match gesture with
  | .c => { switches with c := on }
  | .e => { switches with e := on }
  | .s => { switches with s := on }
  | .v => { switches with v := on }
  | .w => { switches with w := on }
  | .z => { switches with z := on }

def enabled (switches : Switches) : List Gesture :=
  Gesture.all.filter switches.isOn

theorem isOn_set (switches : Switches) (gesture other : Gesture) (on : Bool) :
    (switches.set gesture on).isOn other = if other = gesture then on else switches.isOn other := by
  cases gesture <;> cases other <;> rfl

theorem eq_of_isOn (a b : Switches) (h : ∀ gesture : Gesture, a.isOn gesture = b.isOn gesture) :
    a = b := by
  ext1
  · exact h .c
  · exact h .e
  · exact h .s
  · exact h .v
  · exact h .w
  · exact h .z

section Store

variable {P : Type} [PreferenceStore P]

def refresh (switches : Switches) (prefs : P) (gesture : Gesture) : Switches :=
  switches.set gesture (PreferenceStore.isOn prefs gesture.key)

def load (prefs : P) : Switches :=
  Gesture.all.foldl (fun switches gesture => switches.refresh prefs gesture) off

/-- Takes note that a preference changed: reads its switch again, when the
preference is that of a gesture, and answers the new switches. -/
def announce? (switches : Switches) (prefs : P) (key : String) : Option Switches :=
  (Gesture.ofKey? key).map (switches.refresh prefs)

theorem isOn_load (prefs : P) (gesture : Gesture) :
    (load prefs).isOn gesture = PreferenceStore.isOn prefs gesture.key := by
  cases gesture <;> rfl

end Store

/-! ## The mode of the switches -/

/-- Flips the bit of a gesture where the mask and the switch differ. -/
def correct (switches : Switches) (mask : Mask) (gesture : Gesture) : Mask :=
  if mask.intersects (Mask.ofGesture gesture) = switches.isOn gesture then mask
  else mask.toggle (Mask.ofGesture gesture)

def encode (switches : Switches) : Mask :=
  let mask := Gesture.all.foldl switches.correct Mask.empty
  if mask.isEmpty then mask else mask.toggle Mask.control

theorem getLsbD_encode (switches : Switches) (gesture : Gesture) :
    switches.encode.bits.getLsbD gesture.place = switches.isOn gesture := by
  obtain ⟨c, e, s, v, w, z⟩ := switches
  cases gesture <;> revert c e s v w z <;> decide

theorem getLsbD_encode_control (switches : Switches) :
    switches.encode.bits.getLsbD 6 = Gesture.all.any switches.isOn := by
  obtain ⟨c, e, s, v, w, z⟩ := switches
  revert c e s v w z
  decide

theorem getLsbD_encode_top (switches : Switches) : switches.encode.bits.getLsbD 7 = false := by
  obtain ⟨c, e, s, v, w, z⟩ := switches
  revert c e s v w z
  decide

end Switches

end GestureMode
