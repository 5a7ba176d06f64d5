import GestureMode.Gesture.Switches

/-!
# What a line shows

A line shows a reading of the six switches when it has seven characters: the
control character in front, which says whether any switch is on, and for each
gesture a character in the place of its bit, counted from the right.  The line of
the encoded switches shows exactly these switches.
-/

set_option autoImplicit false

namespace GestureMode

def Mask.character (on : Bool) : Char :=
  if on then '1' else '0'

theorem Mask.character_injective (a b : Bool) (same : character a = character b) : a = b := by
  revert same
  cases a <;> cases b <;> decide

structure Shows (line : String) (reading : Gesture → Bool) : Prop where
  length : line.toList.length = 7
  control : line.toList[0]? = some (Mask.character (Gesture.all.any reading))
  gesture : ∀ gesture : Gesture,
    line.toList[6 - gesture.place]? = some (Mask.character (reading gesture))

theorem Shows.reading_unique {line : String} {first second : Gesture → Bool}
    (one : Shows line first) (other : Shows line second) (gesture : Gesture) :
    first gesture = second gesture := by
  have same := (one.gesture gesture).symm.trans (other.gesture gesture)
  exact Mask.character_injective _ _ (Option.some.inj same)

theorem Shows.head?_eq_iff {line : String} {reading : Gesture → Bool} (shown : Shows line reading) :
    line.toList.head? = some '1' ↔ ∃ gesture : Gesture, reading gesture = true := by
  have front : Mask.character (Gesture.all.any reading) = '1' ↔ Gesture.all.any reading = true := by
    constructor
    · exact Mask.character_injective _ true
    · exact congrArg Mask.character
  rw [List.head?_eq_getElem?, shown.control, Option.some_inj, front, List.any_eq_true]
  constructor
  · rintro ⟨gesture, -, on⟩
    exact ⟨gesture, on⟩
  · rintro ⟨gesture, on⟩
    exact ⟨gesture, gesture.mem_all, on⟩

namespace Mask

theorem place_lt (gesture : Gesture) : gesture.place < 6 := by
  cases gesture <;> decide

/-- Without the unknown top bit a line has the digits of the places six to zero. -/
theorem toList_line (mask : Mask) (known : mask.bits.getLsbD width = false) :
    mask.line.toList =
      [mask.digit 6, mask.digit 5, mask.digit 4, mask.digit 3, mask.digit 2, mask.digit 1,
        mask.digit 0] := by
  rw [line, String.toList_ofList, lineChars, known]
  rfl

/-- Counted from the right, the character at a place is the digit of that place. -/
theorem getElem?_line (mask : Mask) (known : mask.bits.getLsbD width = false) (place : Nat)
    (small : place < 7) : mask.line.toList[6 - place]? = some (mask.digit place) := by
  rw [toList_line mask known]
  match place, small with
  | 0, _ | 1, _ | 2, _ | 3, _ | 4, _ | 5, _ | 6, _ => rfl

end Mask

theorem Switches.shows_line (switches : Switches) :
    Shows switches.encode.line switches.isOn := by
  have known : switches.encode.bits.getLsbD Mask.width = false := getLsbD_encode_top switches
  constructor
  · rw [Mask.toList_line switches.encode known]
    rfl
  · have control := Mask.getElem?_line switches.encode known 6 (by omega)
    rw [Mask.digit, getLsbD_encode_control switches] at control
    exact control
  · intro gesture
    have small := Mask.place_lt gesture
    have character := Mask.getElem?_line switches.encode known gesture.place (by omega)
    rw [Mask.digit, getLsbD_encode switches gesture] at character
    exact character

/-- A mask stands for a reading of the switches: each gesture has its bit, the control bit
says whether any is on, and the line shows them. -/
structure Mask.StandsFor (mask : Mask) (reading : Gesture → Bool) : Prop where
  gesture : ∀ gesture : Gesture, mask.bits.getLsbD gesture.place = reading gesture
  control : mask.bits.getLsbD 6 = Gesture.all.any reading
  top : mask.bits.getLsbD 7 = false
  line : Shows mask.line reading

theorem Switches.standsFor_encode (switches : Switches) :
    switches.encode.StandsFor switches.isOn :=
  ⟨switches.getLsbD_encode, switches.getLsbD_encode_control, switches.getLsbD_encode_top,
    switches.shows_line⟩

end GestureMode
