import GestureMode.Gesture.Basic

/-!
# Preference names

The preferences besides those of the gestures, and the nine that are watched.
-/

set_option autoImplicit false

namespace GestureMode.Key

/-- The umbrella switch; watched, and read by nothing. -/
def control : String := "touchscreen_gesture_control"

def ambient : String := "ambient_display_enable"

def haptic : String := "touchscreen_gesture_haptic_feedback"

def handWave : String := "gesture_hand_wave"

def pickUp : String := "gesture_pick_up"

def pocket : String := "gesture_pocket"

def watched : List String :=
  Gesture.all.map Gesture.key ++ [control, ambient, haptic]

theorem watched_nodup : watched.Nodup := by
  decide

theorem gesture_mem_watched (gesture : Gesture) : gesture.key ∈ watched := by
  cases gesture <;> decide

theorem ofKey?_ambient : Gesture.ofKey? ambient = none := by
  decide

theorem ofKey?_haptic : Gesture.ofKey? haptic = none := by
  decide

theorem ofKey?_control : Gesture.ofKey? control = none := by
  decide

end GestureMode.Key
