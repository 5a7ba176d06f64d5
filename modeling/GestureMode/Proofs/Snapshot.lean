import GestureMode.Preference.Key
import GestureMode.Preference.Snapshot

/-!
# Snapshots and their stores

A snapshot that was taken of one store and polled on another reports the keys that
read differently in the two.  A value that a lawful store accepted and that is
recorded as well leaves the snapshot the one of the new store.
-/

set_option autoImplicit false

namespace GestureMode

namespace PreferenceStore

theorem isOn_of_get? {P : Type} [PreferenceStore P] (prefs : P) (key : String) (value : Bool)
    (found : get? prefs key = some value) : isOn prefs key = value := by
  rw [isOn, getD, found]
  rfl

variable {P : Type} [LawfulPreferenceStore P]

theorem isOn_put_self (prefs after : P) (key : String) (value : Bool)
    (accepted : put prefs key value = .ok after) : isOn after key = value :=
  isOn_of_get? after key value
    (LawfulPreferenceStore.get?_put_self prefs after key value accepted)

theorem isOn_put_of_ne (prefs after : P) (key other : String) (value : Bool)
    (accepted : put prefs key value = .ok after) (different : other ≠ key) :
    isOn after other = isOn prefs other :=
  isOn_congr after prefs other
    (LawfulPreferenceStore.get?_put_of_ne prefs after key other value accepted different)

end PreferenceStore

namespace Snapshot

section Taking

variable {P : Type} [PreferenceStore P]

theorem map_fst_take (keys : List String) (prefs : P) :
    (take keys prefs).map Prod.fst = keys := by
  simp [take, Function.comp_def]

theorem refresh_take (keys : List String) (old new : P) :
    (take keys old).refresh new = take keys new := by
  rw [refresh, map_fst_take]

theorem get?_take (keys : List String) (prefs : P) (key : String) (taken : key ∈ keys) :
    Entries.get? (take keys prefs) key = some (PreferenceStore.isOn prefs key) := by
  induction keys with
  | nil => cases taken
  | cons head rest ih =>
    simp only [take, List.map_cons, Entries.get?] at ih ⊢
    by_cases same : head = key
    · rw [if_pos same, same]
    · rw [if_neg same]
      exact ih ((List.mem_cons.mp taken).resolve_left (Ne.symm same))

theorem changed_take (keys : List String) (old new : P) :
    (take keys old).changed new =
      keys.filter fun key => PreferenceStore.isOn new key != PreferenceStore.isOn old key := by
  rw [changed, take, List.filter_map, List.map_map]
  simp [Function.comp_def]

end Taking

section Recording

variable {P : Type} [LawfulPreferenceStore P]

theorem take_put_of_notMem (keys : List String) (prefs after : P) (key : String) (value : Bool)
    (accepted : PreferenceStore.put prefs key value = .ok after) (absent : key ∉ keys) :
    take keys after = take keys prefs := by
  apply List.map_congr_left
  intro other member
  have different : other ≠ key := by
    rintro rfl
    exact absent member
  rw [PreferenceStore.isOn_put_of_ne prefs after key other value accepted different]

theorem record_take (keys : List String) (nodup : keys.Nodup) (prefs after : P) (key : String)
    (value : Bool) (accepted : PreferenceStore.put prefs key value = .ok after) :
    (take keys prefs).record key value = take keys after := by
  induction keys with
  | nil => rfl
  | cons head rest ih =>
    obtain ⟨absent, restNodup⟩ := List.nodup_cons.mp nodup
    simp only [take, List.map_cons, record] at ih ⊢
    by_cases same : head = key
    · subst same
      rw [if_pos rfl, PreferenceStore.isOn_put_self prefs after head value accepted]
      have tail := take_put_of_notMem rest prefs after head value accepted absent
      simp only [take] at tail
      rw [tail]
    · rw [if_neg same, ih restNodup,
        PreferenceStore.isOn_put_of_ne prefs after key head value accepted same]

end Recording

end Snapshot

end GestureMode
