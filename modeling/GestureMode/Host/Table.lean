import GestureMode.Entries
import GestureMode.Host.Setting
import GestureMode.KeySet

/-!
# Settings kept in a table

A provider that holds its settings itself.  Some keys can be refused to writers
and some to readers; a refused write changes nothing.
-/

set_option autoImplicit false

namespace GestureMode

structure SettingsTable where
  values : Entries Setting Int32
  readOnly : KeySet
  unavailable : KeySet
  deriving DecidableEq, Repr

namespace SettingsTable

def get (table : SettingsTable) (setting : Setting) : Reading SettingsTable where
  host := table
  result :=
    if table.unavailable.covers setting.key then
      .error (.setting "get" setting.key "unavailable")
    else .ok (table.values.get? setting)
  remarks := []

def put (table : SettingsTable) (setting : Setting) (value : Int32) :
    SettingsTable × Option Failure :=
  if table.readOnly.covers setting.key then
    (table, some (.setting "put" setting.key "denied"))
  else ({ table with values := table.values.put setting value }, none)

def edit (table : SettingsTable) (setting : Setting) (value : Option Int32) : SettingsTable :=
  { table with values := table.values.set setting value }

instance : HostSettings SettingsTable where
  get := get
  put := put

theorem put_eq_accepted_iff (table after : SettingsTable) (setting : Setting) (value : Int32) :
    table.put setting value = (after, none) ↔
      table.readOnly.covers setting.key = false ∧
        after = { table with values := table.values.put setting value } := by
  unfold put
  cases table.readOnly.covers setting.key with
  | true => simp
  | false => simp [eq_comm]

instance : LawfulHostSettings SettingsTable where
  value? table setting := table.values.get? setting
  result_get := by
    intro table setting value read
    change (if table.unavailable.covers setting.key then
      (.error (.setting "get" setting.key "unavailable") : Except Failure (Option Int32))
      else .ok (table.values.get? setting)) = .ok value at read
    split at read
    · cases read
    · injection read
  value?_get _ _ := rfl
  value?_put_self := by
    intro table after setting value taken
    obtain ⟨-, rfl⟩ := (put_eq_accepted_iff table after setting value).mp taken
    exact Entries.get?_put_self table.values setting value
  value?_put_of_ne := by
    intro table after setting other value taken different
    obtain ⟨-, rfl⟩ := (put_eq_accepted_iff table after setting value).mp taken
    exact Entries.get?_put_of_ne table.values setting other value different
  put_refused := by
    intro table after setting value failure refused
    change (if table.readOnly.covers setting.key then
      (table, some (.setting "put" setting.key "denied"))
      else ({ table with values := table.values.put setting value }, none)) =
        (after, some failure) at refused
    split at refused
    · exact (congrArg Prod.fst refused).symm
    · cases refused

end SettingsTable

end GestureMode
