import GestureMode.Proofs.Line
import GestureMode.Proofs.Numerals

/-!
# Updates and their line

Switches that start off and are set one after the other end with the latest update of each
gesture.  The line of their mode is the mask in binary digits, and stands for these latest
updates and for nothing else: two histories of updates have the same line exactly when they
end alike, whatever the order in which different gestures were set.
-/

set_option autoImplicit false

namespace GestureMode

open Text.Numeral

namespace Mask

theorem digit_eq_digitChar (mask : Mask) (place : Nat) :
    mask.digit place = (mask.bits.toNat >>> place % 2).digitChar := by
  have bit : mask.bits.getLsbD place = decide (mask.bits.toNat >>> place % 2 = 1) := by
    rw [← BitVec.testBit_toNat, Nat.testBit_eq_decide_div_mod_eq, Nat.shiftRight_eq_div_pow]
  rw [digit, bit]
  rcases Nat.mod_two_eq_zero_or_one (mask.bits.toNat >>> place) with zero | one
  · rw [zero]
    rfl
  · rw [one]
    rfl

/-- The digits from a place up denote the mask without the places below, when no bit is set
above them. -/
theorem digits_from (mask : Mask) (low count : Nat)
    (above : mask.bits.toNat >>> (low + count + 1) = 0) :
    Digits 2 ((List.range' low (count + 1)).reverse.map mask.digit)
      (mask.bits.toNat >>> low) := by
  have halves := Nat.shiftRight_succ mask.bits.toNat low
  induction count generalizing low with
  | zero =>
    rw [Nat.add_zero] at above
    have single : mask.bits.toNat >>> low % 2 = mask.bits.toNat >>> low := by omega
    have digits : Digits 2 _ _ := .single (mask.bits.toNat >>> low % 2) (by omega)
    rw [← mask.digit_eq_digitChar low, single] at digits
    exact digits
  | succ count ih =>
    rw [show low + (count + 1) + 1 = low + 1 + count + 1 by omega] at above
    have higher := ih (low + 1) above (Nat.shiftRight_succ mask.bits.toNat (low + 1))
    have digits := higher.snoc _ _ (mask.bits.toNat >>> low % 2) (by omega)
    have value : 2 * mask.bits.toNat >>> (low + 1) + mask.bits.toNat >>> low % 2 =
        mask.bits.toNat >>> low := by omega
    rw [← mask.digit_eq_digitChar low, value] at digits
    rw [List.range'_succ, List.reverse_cons, List.map_append]
    exact digits

theorem digits_line (mask : Mask) (known : mask.bits.getLsbD width = false) :
    Digits 2 mask.line.toList mask.bits.toNat := by
  have above : mask.bits.toNat >>> (0 + 6 + 1) = 0 := by
    have bound := mask.bits.isLt
    rw [← BitVec.testBit_toNat, Nat.testBit_eq_decide_div_mod_eq,
      decide_eq_false_iff_not] at known
    rw [Nat.shiftRight_eq_div_pow]
    rw [width] at known
    omega
  have digits := mask.digits_from 0 6 above
  rw [line, String.toList_ofList, lineChars, known, List.range_eq_range']
  exact digits

end Mask

/-! ## The latest updates -/

namespace Switches

def ofUpdates (updates : List (Gesture × Bool)) : Switches :=
  updates.foldl (fun switches update => switches.set update.1 update.2) off

/-- What the latest update of a gesture says; off when there is none. -/
def latest (updates : List (Gesture × Bool)) (gesture : Gesture) : Bool :=
  (Entries.get? updates.reverse gesture).getD false

theorem get?_reverse_eq_none_iff (updates : List (Gesture × Bool)) (gesture : Gesture) :
    Entries.get? updates.reverse gesture = none ↔ ∀ update ∈ updates, update.1 ≠ gesture := by
  rw [Entries.get?_eq_none_iff]
  exact forall_congr' fun update => imp_congr_left List.mem_reverse

theorem latest_append (before after : List (Gesture × Bool)) (gesture : Gesture) :
    latest (before ++ after) gesture =
      (Entries.get? after.reverse gesture).getD (latest before gesture) := by
  rw [latest, List.reverse_append, Entries.get?_append]
  cases Entries.get? after.reverse gesture <;> rfl

theorem latest_concat (updates : List (Gesture × Bool)) (update : Gesture × Bool)
    (gesture : Gesture) :
    latest (updates ++ [update]) gesture =
      if gesture = update.1 then update.2 else latest updates gesture := by
  obtain ⟨updated, on⟩ := update
  rw [latest_append, List.reverse_singleton, Entries.get?]
  by_cases same : gesture = updated
  · rw [if_pos same.symm, if_pos same, Option.getD_some]
  · rw [if_neg (Ne.symm same), if_neg same, Entries.get?_nil, Option.getD_none]

/-- Switches that are set one after the other read as the latest updates say. -/
theorem isOn_ofUpdates (updates : List (Gesture × Bool)) :
    (ofUpdates updates).isOn = latest updates := by
  funext gesture
  induction updates using List.reverseRecOn with
  | nil => cases gesture <;> rfl
  | append_singleton before update ih =>
    rw [latest_concat, ← ih, ofUpdates, List.foldl_append]
    exact isOn_set (ofUpdates before) update.1 gesture update.2

theorem latest_of_split (before after : List (Gesture × Bool)) (gesture : Gesture) (on : Bool)
    (last : ∀ update ∈ after, update.1 ≠ gesture) :
    latest (before ++ (gesture, on) :: after) gesture = on := by
  rw [List.append_cons, latest_append, (get?_reverse_eq_none_iff after gesture).mpr last,
    Option.getD_none, latest_concat, if_pos rfl]

theorem latest_of_never (updates : List (Gesture × Bool)) (gesture : Gesture)
    (never : ∀ update ∈ updates, update.1 ≠ gesture) : latest updates gesture = false := by
  rw [latest, (get?_reverse_eq_none_iff updates gesture).mpr never, Option.getD_none]

theorem latest_filter (updates : List (Gesture × Bool)) (gesture : Gesture) :
    latest (updates.filter fun update => update.1 = gesture) gesture = latest updates gesture := by
  rw [latest, ← List.filter_reverse, Entries.get?_filter, latest]

/-- An update that is followed by another one of its gesture does not matter. -/
theorem latest_overwritten (before after : List (Gesture × Bool)) (update : Gesture × Bool)
    (overwritten : ∃ later ∈ after, later.1 = update.1) (gesture : Gesture) :
    latest (before ++ update :: after) gesture = latest (before ++ after) gesture := by
  rw [List.append_cons, latest_append _ after, latest_append before after, latest_concat]
  by_cases same : gesture = update.1
  · cases behind : Entries.get? after.reverse gesture with
    | some on => rfl
    | none =>
      obtain ⟨later, member, repeated⟩ := overwritten
      have never := (get?_reverse_eq_none_iff after gesture).mp behind later member
      exact absurd (repeated.trans same.symm) never
  · rw [if_neg same]

theorem standsFor_ofUpdates (updates : List (Gesture × Bool)) :
    (ofUpdates updates).encode.StandsFor (latest updates) := by
  have stands := (ofUpdates updates).standsFor_encode
  rw [isOn_ofUpdates] at stands
  exact stands

/-- Two histories of updates have the same line exactly when they end alike. -/
theorem line_eq_iff (updates other : List (Gesture × Bool)) :
    (ofUpdates updates).encode.line = (ofUpdates other).encode.line ↔
      ∀ gesture : Gesture, latest updates gesture = latest other gesture := by
  have shown := (standsFor_ofUpdates updates).line
  constructor
  · intro same
    rw [same] at shown
    exact shown.reading_unique (standsFor_ofUpdates other).line
  · intro alike
    have same : ofUpdates updates = ofUpdates other := by
      apply eq_of_isOn
      rw [isOn_ofUpdates, isOn_ofUpdates]
      exact alike
    rw [same]

/-- The switches that some updates leave, their mask and its line are faithful to the latest
update of each gesture.  As a binary number the line is the mask and no other number; it has
seven characters, each a zero or a one.  The bits say what the latest updates said, and the
control character whether any gesture is on; the gestures that are on by the bits are listed
in their order.  Other updates have this line exactly when they end alike: so it does not
change when the updates of different gestures are mixed otherwise, or when an update is put
in front of a later one of its gesture. -/
theorem line_determined_by_latest_updates (updates : List (Gesture × Bool)) :
    let switches := ofUpdates updates
    let mask := switches.encode
    (∀ (before after : List (Gesture × Bool)) (gesture : Gesture) (on : Bool),
      updates = before ++ (gesture, on) :: after → (∀ update ∈ after, update.1 ≠ gesture) →
        latest updates gesture = on) ∧
    (∀ gesture : Gesture, (∀ update ∈ updates, update.1 ≠ gesture) →
      latest updates gesture = false) ∧
    (∀ n : Nat, Digits 2 mask.line.toList n ↔ n = mask.bits.toNat) ∧
    mask.line.toList.length = 7 ∧
    (∀ character ∈ mask.line.toList, character = '0' ∨ character = '1') ∧
    mask.StandsFor (latest updates) ∧
    (mask.line.toList.head? = some '1' ↔ ∃ gesture : Gesture, latest updates gesture = true) ∧
    switches.enabled = Gesture.all.filter (fun gesture => mask.bits.getLsbD gesture.place) ∧
    (∀ other : List (Gesture × Bool), (ofUpdates other).encode.line = mask.line ↔
      ∀ gesture : Gesture, latest other gesture = latest updates gesture) ∧
    (∀ other : List (Gesture × Bool),
      (∀ gesture : Gesture, (other.filter fun update => update.1 = gesture) =
        updates.filter fun update => update.1 = gesture) →
          (ofUpdates other).encode.line = mask.line) ∧
    ∀ (before after : List (Gesture × Bool)) (update : Gesture × Bool),
      updates = before ++ after → (∃ later ∈ after, later.1 = update.1) →
        (ofUpdates (before ++ update :: after)).encode.line = mask.line := by
  intro switches mask
  have stands : mask.StandsFor (latest updates) := standsFor_ofUpdates updates
  have digits : Digits 2 mask.line.toList mask.bits.toNat := mask.digits_line stands.top
  refine ⟨?_, latest_of_never updates, ?_, stands.line.length, digits.zero_or_one, stands,
    stands.line.head?_eq_iff, ?_, ?_, ?_, ?_⟩
  · rintro before after gesture on rfl last
    exact latest_of_split before after gesture on last
  · intro n
    constructor
    · intro read
      exact read.unique (by decide) digits
    · rintro rfl
      exact digits
  · exact List.filter_congr fun gesture _ => (switches.getLsbD_encode gesture).symm
  · intro other
    exact line_eq_iff other updates
  · intro other mixed
    apply (line_eq_iff other updates).mpr
    intro gesture
    rw [← latest_filter other, mixed gesture, latest_filter]
  · rintro before after update rfl overwritten
    exact (line_eq_iff _ _).mpr (latest_overwritten before after update overwritten)

/-- The letter E is switched on and off again; the line would show if it were left on. -/
theorem line_determined_by_latest_updates_overwriting :
    let updates : List (Gesture × Bool) := [(.e, true), (.z, true), (.e, false), (.c, true)]
    let line := (ofUpdates updates).encode.line
    latest updates .e = false ∧ latest updates .w = false ∧
    line = "1000110" ∧
    (∀ n : Nat, Digits 2 line.toList n ↔ n = 70) ∧
    (ofUpdates updates).enabled = [.c, .z] ∧
    (ofUpdates [(.c, true), (.e, true), (.e, false), (.z, true)]).encode.line = line ∧
    (ofUpdates [(.z, false), (.e, true), (.z, true), (.e, false), (.c, true)]).encode.line = line ∧
    (ofUpdates [(.z, true), (.e, true), (.c, true)]).encode.line ≠ line := by
  intro updates line
  obtain ⟨last, never, number, -, -, -, -, -, alike, mixed, overwritten⟩ :=
    line_determined_by_latest_updates updates
  have value : (ofUpdates updates).encode.bits.toNat = 70 := by decide
  rw [value] at number
  refine ⟨?_, ?_, by decide, ?_, by decide, ?_, ?_, ?_⟩
  · exact last [(.e, true), (.z, true)] [(.c, true)] .e false rfl (by decide)
  · exact never .w (by decide)
  · exact number
  · apply mixed
    intro gesture
    cases gesture <;> decide
  · exact overwritten [] updates (.z, false) rfl (by decide)
  · intro same
    have both := (alike _).mp same .e
    revert both
    decide

end Switches

end GestureMode
