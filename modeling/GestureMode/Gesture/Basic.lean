/-!
# Gestures

Six letters that can be drawn on the touchscreen.  Each has a preference that
switches it and a bit of its own in the mode of the touch controller.
-/

set_option autoImplicit false

namespace GestureMode

inductive Gesture where
  | c
  | e
  | s
  | v
  | w
  | z
  deriving DecidableEq, Repr

namespace Gesture

def all : List Gesture := [c, e, s, v, w, z]

def letter : Gesture → String
  | c => "C"
  | e => "E"
  | s => "S"
  | v => "V"
  | w => "W"
  | z => "Z"

def key : Gesture → String
  | c => "touchscreen_gesture_c"
  | e => "touchscreen_gesture_e"
  | s => "touchscreen_gesture_s"
  | v => "touchscreen_gesture_v"
  | w => "touchscreen_gesture_w"
  | z => "touchscreen_gesture_z"

def ofKey? (name : String) : Option Gesture :=
  all.find? fun gesture => gesture.key = name

def index : Gesture → Nat
  | c => 0
  | e => 1
  | s => 2
  | v => 3
  | w => 4
  | z => 5

/-- The place of a gesture's bit in a mask, from the least significant. -/
def place : Gesture → Nat
  | v => 0
  | z => 1
  | c => 2
  | e => 3
  | s => 4
  | w => 5

theorem mem_all (gesture : Gesture) : gesture ∈ all := by
  cases gesture <;> decide

theorem key_injective (a b : Gesture) (h : a.key = b.key) : a = b := by
  revert h
  cases a <;> cases b <;> decide

theorem ofKey?_key (gesture : Gesture) : ofKey? gesture.key = some gesture := by
  cases gesture <;> decide

theorem ofKey?_eq_some_iff (name : String) (gesture : Gesture) :
    ofKey? name = some gesture ↔ name = gesture.key := by
  constructor
  · intro h
    have found := List.find?_some h
    simp only [decide_eq_true_eq] at found
    exact found.symm
  · rintro rfl
    exact ofKey?_key gesture

end Gesture

end GestureMode
