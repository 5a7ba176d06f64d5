import GestureMode.Preference.Store

/-!
# Snapshots

A snapshot remembers how a list of switches last read.  Comparing it with the
store gives the switches that changed since, and brings the snapshot up to date;
a value that is recorded is not reported later.
-/

set_option autoImplicit false

namespace GestureMode

/-- The watched keys with their last readings, in watch order; a key may repeat. -/
abbrev Snapshot := List (String × Bool)

namespace Snapshot

section Store

variable {P : Type} [PreferenceStore P]

def take (keys : List String) (prefs : P) : Snapshot :=
  keys.map fun key => (key, PreferenceStore.isOn prefs key)

def changed (snapshot : Snapshot) (prefs : P) : List String :=
  (snapshot.filter fun entry => PreferenceStore.isOn prefs entry.1 != entry.2).map Prod.fst

def refresh (snapshot : Snapshot) (prefs : P) : Snapshot :=
  take (snapshot.map Prod.fst) prefs

/-- The changed keys, and the snapshot that no longer reports them. -/
def poll (snapshot : Snapshot) (prefs : P) : Snapshot × List String :=
  (snapshot.refresh prefs, snapshot.changed prefs)

end Store

/-- Records a reading at the first place of a key. -/
def record : Snapshot → String → Bool → Snapshot
  | [], _, _ => []
  | (k, last) :: rest, key, value =>
    if k = key then (k, value) :: rest else (k, last) :: record rest key value

theorem changed_eq_nil_iff {P : Type} [PreferenceStore P] (snapshot : Snapshot) (prefs : P) :
    snapshot.changed prefs = [] ↔
      ∀ entry ∈ snapshot, PreferenceStore.isOn prefs entry.1 = entry.2 := by
  simp [changed, List.filter_eq_nil_iff]

theorem changed_refresh {P : Type} [PreferenceStore P] (snapshot : Snapshot) (prefs : P) :
    (snapshot.refresh prefs).changed prefs = [] := by
  rw [changed_eq_nil_iff]
  intro entry member
  simp only [refresh, take, List.mem_map] at member
  obtain ⟨key, _, rfl⟩ := member
  rfl

end Snapshot

end GestureMode
