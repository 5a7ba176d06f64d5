import GestureMode.Entries
import GestureMode.Failure
import GestureMode.KeySet
import GestureMode.Text.Blank
import GestureMode.Text.ZeroByte
import GestureMode.Text.Utf8

/-!
# System properties

A property has a name and a value of bytes.  A read gives the text of at most the
first 91 bytes, up to a NUL if they hold one; an absent or empty value reads as
absent.  A write replaces one entry or is refused: names and values hold no NUL,
a value has at most 91 bytes, and some names are read-only.  A system without a
property service reads every name as absent and refuses every write.
-/

set_option autoImplicit false

namespace GestureMode

theorem Except.isOk_map {ε α β : Type} (f : α → β) (result : Except ε α) :
    (result.map f).isOk = result.isOk := by
  cases result <;> rfl

structure PropertyTable where
  entries : Entries String (List UInt8)
  readOnly : KeySet
  deriving DecidableEq, Repr

namespace PropertyTable

/-- The size of a value's buffer; the last byte ends the value. -/
def bufferSize : Nat := 92

def valueLimit : Nat := bufferSize - 1

/-- What a read delivers of the bytes of a value. -/
def textOf? (value : List UInt8) : Option String :=
  match value.take valueLimit with
  | [] => none
  | bytes => some (Text.Utf8.decode (bytes.takeWhile (· != 0)))

def get? (table : PropertyTable) (name : String) : Option String :=
  if Text.hasNul name then none else (table.entries.get? name).bind textOf?

def refuses (table : PropertyTable) (name value : String) : Bool :=
  Text.hasNul name || Text.hasNul value || valueLimit < (Text.Utf8.encode value).length ||
    table.readOnly.covers name

def put (table : PropertyTable) (name value : String) : Except Failure PropertyTable :=
  if table.refuses name value then .error (.property name)
  else .ok { table with entries := table.entries.put name (Text.Utf8.encode value) }

/-- A change from outside, which the rules for writing do not bind. -/
def edit (table : PropertyTable) (name : String) (value : Option (List UInt8)) : PropertyTable :=
  { table with entries := table.entries.set name value }

theorem put_eq_ok_iff (table after : PropertyTable) (name value : String) :
    table.put name value = .ok after ↔
      table.refuses name value = false ∧
        after = { table with entries := table.entries.put name (Text.Utf8.encode value) } := by
  unfold put
  cases refused : table.refuses name value with
  | true => simp
  | false =>
    simp only [Bool.false_eq_true, if_false, Except.ok.injEq, true_and]
    exact eq_comm

theorem isOk_put (table : PropertyTable) (name value : String) :
    (table.put name value).isOk = !table.refuses name value := by
  unfold put
  cases table.refuses name value <;> rfl

theorem get?_put_self (table after : PropertyTable) (name value : String)
    (h : table.put name value = .ok after) :
    after.get? name = textOf? (Text.Utf8.encode value) := by
  obtain ⟨accepted, rfl⟩ := (put_eq_ok_iff table after name value).mp h
  have named : Text.hasNul name = false := by
    simp only [refuses, Bool.or_eq_false_iff] at accepted
    exact accepted.1.1.1
  simp [get?, named]

theorem get?_put_of_ne (table after : PropertyTable) (name other value : String)
    (h : table.put name value = .ok after) (different : other ≠ name) :
    after.get? other = table.get? other := by
  obtain ⟨_, rfl⟩ := (put_eq_ok_iff table after name value).mp h
  simp [get?, Entries.get?_put_of_ne, different]

end PropertyTable

/-- The property service of a system, which may have none. -/
abbrev Properties := Option PropertyTable

namespace Properties

def get? (properties : Properties) (name : String) : Option String :=
  properties.bind (·.get? name)

def put (properties : Properties) (name value : String) : Except Failure Properties :=
  match properties with
  | none => .error (.property name)
  | some table => (table.put name value).map some

def edit (properties : Properties) (name : String) (value : Option (List UInt8)) : Properties :=
  properties.map (·.edit name value)

def restrict (properties : Properties) (readOnly : KeySet) : Properties :=
  properties.map fun table => { table with readOnly }

theorem put_eq_ok_iff (properties after : Properties) (name value : String) :
    properties.put name value = .ok after ↔
      ∃ table table' : PropertyTable,
        properties = some table ∧ table.put name value = .ok table' ∧ after = some table' := by
  cases properties with
  | none => simp [put]
  | some table =>
    cases result : table.put name value with
    | error e => simp [put, result, Except.map]
    | ok table' => simp [put, result, Except.map, eq_comm]

theorem get?_put_self (properties after : Properties) (name value : String)
    (h : properties.put name value = .ok after) :
    after.get? name = PropertyTable.textOf? (Text.Utf8.encode value) := by
  obtain ⟨table, table', rfl, accepted, rfl⟩ := (put_eq_ok_iff properties after name value).mp h
  exact PropertyTable.get?_put_self table table' name value accepted

theorem get?_put_of_ne (properties after : Properties) (name other value : String)
    (h : properties.put name value = .ok after) (different : other ≠ name) :
    after.get? other = properties.get? other := by
  obtain ⟨table, table', rfl, accepted, rfl⟩ := (put_eq_ok_iff properties after name value).mp h
  exact PropertyTable.get?_put_of_ne table table' name other value accepted different

theorem isOk_put_put (properties after : Properties) (name other value text : String)
    (h : properties.put name value = .ok after) :
    (after.put other text).isOk = (properties.put other text).isOk := by
  obtain ⟨table, table', rfl, accepted, rfl⟩ := (put_eq_ok_iff properties after name value).mp h
  obtain ⟨-, rfl⟩ := (PropertyTable.put_eq_ok_iff table table' name value).mp accepted
  rw [put, put, Except.isOk_map, Except.isOk_map, PropertyTable.isOk_put, PropertyTable.isOk_put]
  rfl

end Properties

/-- The truth value that a property's text spells, surrounded by blanks or not. -/
def parseBool? (raw : String) : Option Bool :=
  let text := Text.trim raw
  if text = "true" ∨ text = "1" then some true
  else if text = "false" ∨ text = "0" then some false
  else none

def boolText (value : Bool) : String :=
  if value then "true" else "false"

theorem parseBool?_textOf?_boolText (value : Bool) :
    (PropertyTable.textOf? (Text.Utf8.encode (boolText value))).bind parseBool? = some value := by
  cases value <;> decide

end GestureMode
