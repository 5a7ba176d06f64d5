import GestureMode.Daemon

/-!
# Entries of properties

Below the texts that are read stand the bytes that a property holds.  A write puts the bytes
of a text there or is refused, and leaves all other entries alone; a change from outside puts
any bytes there, or takes them away.
-/

set_option autoImplicit false

namespace GestureMode

namespace Properties

/-- The bytes that a property holds, readable or not. -/
def entry? (properties : Properties) (name : String) : Option (List UInt8) :=
  properties.bind fun table => table.entries.get? name

def readOnly? (properties : Properties) : Option KeySet :=
  properties.map PropertyTable.readOnly

theorem get?_eq_textOf? (properties : Properties) (key : String) :
    properties.get? key =
      if Text.hasNul key then none else (properties.entry? key).bind PropertyTable.textOf? := by
  cases properties with
  | none => simp [get?, entry?]
  | some table => rfl

theorem put_of_refuses (table : PropertyTable) (name value : String)
    (refused : table.refuses name value = true) :
    put (some table) name value = .error (.property name) := by
  rw [put, PropertyTable.put, if_pos refused]
  rfl

theorem put_of_not_refuses (table : PropertyTable) (name value : String)
    (allowed : table.refuses name value = false) :
    put (some table) name value =
      .ok (some { table with entries := table.entries.put name (Text.Utf8.encode value) }) := by
  rw [put, PropertyTable.put, allowed, if_neg Bool.false_ne_true]
  rfl

theorem exists_entries_put (properties after : Properties) (name value : String)
    (stored : properties.put name value = .ok after) :
    ∃ table : PropertyTable, properties = some table ∧
      after = some { table with entries := table.entries.put name (Text.Utf8.encode value) } := by
  obtain ⟨table, table', rfl, accepted, rfl⟩ := (put_eq_ok_iff properties after name value).mp stored
  obtain ⟨-, rfl⟩ := (PropertyTable.put_eq_ok_iff table table' name value).mp accepted
  exact ⟨table, rfl, rfl⟩

theorem entry?_put_self (properties after : Properties) (name value : String)
    (stored : properties.put name value = .ok after) :
    after.entry? name = some (Text.Utf8.encode value) := by
  obtain ⟨table, rfl, rfl⟩ := exists_entries_put properties after name value stored
  exact Entries.get?_put_self table.entries name _

theorem entry?_put_of_ne (properties after : Properties) (name other value : String)
    (stored : properties.put name value = .ok after) (different : other ≠ name) :
    after.entry? other = properties.entry? other := by
  obtain ⟨table, rfl, rfl⟩ := exists_entries_put properties after name value stored
  exact Entries.get?_put_of_ne table.entries name other _ different

theorem readOnly?_put (properties after : Properties) (name value : String)
    (stored : properties.put name value = .ok after) :
    after.readOnly? = properties.readOnly? := by
  obtain ⟨table, rfl, rfl⟩ := exists_entries_put properties after name value stored
  rfl

theorem entry?_edit (properties : Properties) (name other : String) (value : Option (List UInt8)) :
    entry? (properties.edit name value) other =
      if other = name then properties.bind fun _ => value else properties.entry? other := by
  cases properties with
  | none => exact (ite_self none).symm
  | some table => exact Entries.get?_set table.entries name other value

theorem entry?_restrict (properties : Properties) (readOnly : KeySet) (name : String) :
    entry? (properties.restrict readOnly) name = properties.entry? name := by
  cases properties <;> rfl

end Properties

end GestureMode
