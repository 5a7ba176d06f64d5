import GestureMode.Entries
import GestureMode.Failure
import GestureMode.Property.Table

/-!
# Preference stores

A preference is a switch with a name.  A store knows the value of some of them
and may refuse a new value; a refused write leaves the store as it was.  There
are two stores: one holds its values itself, the other keeps them as properties
whose names start with a common stem.
-/

set_option autoImplicit false

namespace GestureMode

class PreferenceStore (P : Type) where
  /-- The value of a preference that the store has a readable value for. -/
  get? : P → String → Option Bool
  put : P → String → Bool → Except Failure P

namespace PreferenceStore

variable {P : Type} [PreferenceStore P]

def getD (prefs : P) (key : String) (default : Bool) : Bool :=
  (get? prefs key).getD default

/-- Whether a switch is on; a switch without a value is off. -/
def isOn (prefs : P) (key : String) : Bool :=
  getD prefs key false

theorem isOn_congr {Q : Type} [PreferenceStore Q] (a : P) (b : Q) (key : String)
    (same : get? a key = get? b key) : isOn a key = isOn b key := by
  rw [isOn, isOn, getD, getD, same]

end PreferenceStore

/-- A store is lawful when an accepted write is read back and touches no other
preference. -/
class LawfulPreferenceStore (P : Type) extends PreferenceStore P where
  get?_put_self : ∀ (prefs after : P) (key : String) (value : Bool),
    put prefs key value = .ok after → get? after key = some value
  get?_put_of_ne : ∀ (prefs after : P) (key other : String) (value : Bool),
    put prefs key value = .ok after → other ≠ key → get? after other = get? prefs other

/-- A store is steady when what it accepts has no bearing on what it refuses. -/
class SteadyPreferenceStore (P : Type) extends LawfulPreferenceStore P where
  isOk_put : ∀ (prefs after : P) (key other : String) (value new : Bool),
    put prefs key value = .ok after → (put after other new).isOk = (put prefs other new).isOk

/-! ## Preferences held in memory -/

structure MemoryPreferences where
  entries : Entries String Bool
  deriving DecidableEq, Repr

namespace MemoryPreferences

def get? (prefs : MemoryPreferences) (key : String) : Option Bool :=
  prefs.entries.get? key

def insert (prefs : MemoryPreferences) (key : String) (value : Bool) : MemoryPreferences :=
  ⟨prefs.entries.put key value⟩

def erase (prefs : MemoryPreferences) (key : String) : MemoryPreferences :=
  ⟨prefs.entries.erase key⟩

instance : PreferenceStore MemoryPreferences where
  get? := get?
  put := fun prefs key value => .ok (prefs.insert key value)

instance : LawfulPreferenceStore MemoryPreferences where
  get?_put_self := by
    intro prefs after key value h
    injection h with h
    subst h
    exact Entries.get?_put_self prefs.entries key value
  get?_put_of_ne := by
    intro prefs after key other value h different
    injection h with h
    subst h
    exact Entries.get?_put_of_ne prefs.entries key other value different

instance : SteadyPreferenceStore MemoryPreferences where
  isOk_put _ _ _ _ _ _ _ := rfl

end MemoryPreferences

/-! ## Preferences kept as properties -/

structure PropertyPreferences where
  stem : String
  properties : Properties
  deriving DecidableEq, Repr

namespace PropertyPreferences

def propertyName (prefs : PropertyPreferences) (key : String) : String :=
  prefs.stem ++ key

def get? (prefs : PropertyPreferences) (key : String) : Option Bool :=
  (prefs.properties.get? (prefs.propertyName key)).bind parseBool?

def put (prefs : PropertyPreferences) (key : String) (value : Bool) :
    Except Failure PropertyPreferences :=
  (prefs.properties.put (prefs.propertyName key) (boolText value)).map fun properties =>
    { prefs with properties }

instance : PreferenceStore PropertyPreferences where
  get? := get?
  put := put

theorem propertyName_injective (prefs : PropertyPreferences) (a b : String)
    (h : prefs.propertyName a = prefs.propertyName b) : a = b := by
  have lists := congrArg String.toList h
  simp only [propertyName, String.toList_append, List.append_cancel_left_eq] at lists
  exact String.toList_inj.mp lists

theorem put_eq_ok_iff (prefs after : PropertyPreferences) (key : String) (value : Bool) :
    prefs.put key value = .ok after ↔
      ∃ properties : Properties,
        prefs.properties.put (prefs.propertyName key) (boolText value) = .ok properties ∧
          after = { prefs with properties } := by
  unfold put
  cases prefs.properties.put (prefs.propertyName key) (boolText value) with
  | error e => simp [Except.map]
  | ok properties => simp [Except.map, eq_comm]

instance : LawfulPreferenceStore PropertyPreferences where
  get?_put_self := by
    intro prefs after key value h
    obtain ⟨properties, accepted, rfl⟩ := (put_eq_ok_iff prefs after key value).mp h
    show (properties.get? (prefs.propertyName key)).bind parseBool? = some value
    rw [Properties.get?_put_self prefs.properties properties _ _ accepted]
    exact parseBool?_textOf?_boolText value
  get?_put_of_ne := by
    intro prefs after key other value h different
    obtain ⟨properties, accepted, rfl⟩ := (put_eq_ok_iff prefs after key value).mp h
    show (properties.get? (prefs.propertyName other)).bind parseBool? = prefs.get? other
    rw [Properties.get?_put_of_ne prefs.properties properties _ _ _ accepted
      fun same => different (propertyName_injective prefs other key same)]
    rfl

instance : SteadyPreferenceStore PropertyPreferences where
  isOk_put := by
    intro prefs after key other value new h
    obtain ⟨properties, accepted, rfl⟩ := (put_eq_ok_iff prefs after key value).mp h
    have kept := Properties.isOk_put_put prefs.properties properties _ (prefs.propertyName other)
      _ (boolText new) accepted
    change ((properties.put (prefs.propertyName other) (boolText new)).map _).isOk =
      ((prefs.properties.put (prefs.propertyName other) (boolText new)).map _).isOk
    rw [Except.isOk_map, Except.isOk_map, kept]

end PropertyPreferences

end GestureMode
